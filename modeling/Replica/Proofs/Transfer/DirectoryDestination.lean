import Mathlib.Data.List.Basic
import Replica.Proofs.Disk.Directories
import Replica.Proofs.Disk.Placed
import Replica.Proofs.Transfer.Promotion

/-!
# Destinations that turn into directories

Whether a destination is a directory is looked up before the directories are made that it lacks. A
path such as `new/..` leads to a directory only after that.

* `Prepared.destination`: what is known of a local destination before a request;
* **`directory_requested_iff`**: the destinations for which a request is made although they are
  directories by then;
* `directory_requested`: there are some.
-/

namespace Replica

theorem Storage.replaceFile_file_eq_isDirectory_iff {src path : String} {d : Disk} :
    ((Storage.file path).replaceFile src d).2 = .error (.file (.isDirectory path)) ↔
      d.isDir path = true := by
  have h : ((Storage.file path).replaceFile src d).2 =
      (d.replaceFile src path).2.mapError .file := rfl
  rw [h, mapError_eq_error, ← Disk.replaceFile_eq_isDirectory_iff d src path]
  simp

namespace Downloader

variable {dl : Downloader} {b : Blob} {d d₁ d₂ : Disk} {primary : Primary} {temp : TempFile}
  {path : String}

/-! ## Before a request -/

/-- **A local destination before a request**: it was no directory, and the directories that it
lacked have been made. -/
theorem Prepared.destination (h : dl.Prepared b d d₁ d₂ primary temp)
    (hb : b.storage.absolutePath? = some path) :
    d.isDir path = false ∧ (d.ensureParentDir path).2 = .ok () ∧
      d₁ = (d.ensureParentDir path).1 := by
  have hpre := h.preconditions
  rw [checkPreconditions] at hpre
  split at hpre
  · split at hpre
    · cases hpre
    · simp only [hb, checkDestination] at hpre
      split at hpre
      · cases hpre
      · rename_i hdir
        obtain ⟨rfl, hok⟩ := Prod.mk.inj hpre
        refine ⟨by simpa using hdir, ?_, rfl⟩
        cases hr : (d.ensureParentDir path).2 with
        | ok u => rfl
        | error e =>
          rw [hr] at hok
          cases hok
  · cases hpre

theorem Prepared.isDir_eq (h : dl.Prepared b d d₁ d₂ primary temp) (hd : d.WellFormed)
    (hb : b.storage.absolutePath? = some path) :
    d₂.isDir path = (d.ensureParentDir path).1.isDir path ∧
      ∀ bs, (d₂.setContent temp.id bs).isDir path = (d.ensureParentDir path).1.isDir path := by
  obtain ⟨-, -, rfl⟩ := h.destination hb
  obtain ⟨-, dir, name, hs⟩ := Blob.staged_of_stage h.staged
  have hd' := (hd.ensureParentDir path).1
  exact ⟨hs.isDir_eq hd' path, fun bs => (hs.setContent bs).isDir_eq hd' path⟩

/-! ## At a request -/

/-- **Which directories are requested.** At a request the destination is a directory if and only if
making the directories it lacks has made it one; then, and only then, the file system refuses the
content that has been received for it. Such a path has a part `..`, and its directory was
missing. -/
theorem directory_requested_iff (dl : Downloader) (hb : b.storage = .file path)
    (hd : d.WellFormed) :
    (∀ r ∈ (dl.execute b d).requests, r.2.isDir path = (d.ensureParentDir path).1.isDir path) ∧
    (Client.Quiet dl.client → ∀ p ∈ (dl.execute b d).promotions,
      ((b.storage.replaceFile p.path p.disk).2 = .error (.file (.isDirectory path)) ↔
        (d.ensureParentDir path).1.isDir path = true)) ∧
    ((dl.execute b d).requests ≠ [] → (d.ensureParentDir path).1.isDir path = true →
      d.isDir path = false ∧ ".." ∈ Path.parts path ∧
        ∃ par, Path.parent? path = some par ∧ par ≠ "" ∧ d.isDir par = false) := by
  have hpath : b.storage.absolutePath? = some path := by rw [hb]; rfl
  rcases execute_cases dl b d with ⟨e, h, -⟩ | ⟨d₁, d₂, primary, temp, h⟩
  · rw [h]
    exact ⟨fun r hr => absurd hr List.not_mem_nil, fun _ p hp => absurd hp List.not_mem_nil,
      fun hne => absurd rfl hne⟩
  · have hrequests : (dl.execute b d).requests = [(dl.request primary b, d₂)] := by
      rw [h.execute_eq]
      rfl
    refine ⟨fun r hr => ?_, fun hq p hp => ?_, fun _ hdir => ?_⟩
    · rw [hrequests] at hr
      obtain rfl := List.mem_singleton.1 hr
      exact (h.isDir_eq hd hpath).1
    · rcases h.fetch_cases (Prod.ext (hq _ _) rfl) (.refl temp d₂) with
        ⟨response, -, -, hprom, -⟩ | ⟨-, hprom, -⟩
      · rw [hprom] at hp
        obtain rfl := List.mem_singleton.1 hp
        rw [hb, Storage.replaceFile_file_eq_isDirectory_iff, (h.isDir_eq hd hpath).2]
      · rw [hprom] at hp
        exact absurd hp List.not_mem_nil
    · obtain ⟨hbefore, hok, -⟩ := h.destination hpath
      refine ⟨hbefore, ?_, ?_⟩
      · by_contra hup
        rw [Disk.isDir_ensureParentDir hd hup hok, hbefore] at hdir
        cases hdir
      · rcases Disk.ensureParentDir_cases d path with ⟨hsame, -⟩ | ⟨par, hpar, hne, hnot, -⟩
        · rw [hsame, hbefore] at hdir
          cases hdir
        · exact ⟨par, hpar, hne, hnot⟩

/-- A blob that is kept where a directory is, once the directory above that one has been made. -/
def aboveNew : Blob := ⟨⟨"upload", 1⟩, none, .file "/new/.."⟩

/-- **There are such directories**, and the file system refuses the content. -/
theorem directory_requested :
    (∃ r ∈ (twoPieces.execute aboveNew Disk.empty).requests, r.2.isDir "/new/.." = true) ∧
      (twoPieces.execute aboveNew Disk.empty).result.reason? =
        some "Error replacing destination file" := by
  decide +kernel

/-- The destination before any request for it, and at the request. -/
theorem directory_requested_iff_aboveNew :
    aboveNew.storage = .file "/new/.." ∧ Disk.empty.WellFormed ∧
      Disk.empty.isDir "/new/.." = false ∧
      ∀ r ∈ (twoPieces.execute aboveNew Disk.empty).requests, r.2.isDir "/new/.." = true := by
  have hdir : (Disk.empty.ensureParentDir "/new/..").1.isDir "/new/.." = true := by decide +kernel
  have hiff := directory_requested_iff twoPieces (b := aboveNew) rfl Disk.wellFormed_empty
  exact ⟨rfl, Disk.wellFormed_empty, by decide +kernel, fun r hr => (hiff.1 r hr).trans hdir⟩

end Downloader

end Replica
