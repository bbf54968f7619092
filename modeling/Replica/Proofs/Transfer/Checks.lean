import Mathlib.Data.List.Basic
import Replica.Proofs.Disk.Directories
import Replica.Proofs.Transfer.Cutting
import Replica.Proofs.Transfer.Outcome

/-!
# The checks before a request

Five checks decide whether a primary is asked for a blob. Each of them can be asked of any node,
storage and tree, whatever comes of the others; the first that fails is what the result tells.

* `Check`, `Check.reason`: the checks in their order, and what is said of each;
* `Downloader.readied`: the tree with the directories for a local destination;
* **`Downloader.passes`**, `Downloader.firstFailing?`: what a check asks, and the first that fails;
* `prepared_of_passes`, `execute_of_firstFailing?`: an attempt on which all checks hold, and one on
  which one fails;
* **`checks_decide`**: there is one request, or there is none and the result tells the check.
-/

namespace Replica

/-- **A check before a request.** -/
inductive Check where
  /-- The node is a secondary. -/
  | role
  /-- The node knows its primary. -/
  | primary
  /-- A local destination is no directory. -/
  | directory
  /-- A local destination has a directory to be in, or one can be made. -/
  | parent
  /-- There can be a temporary file. -/
  | staging
  deriving DecidableEq

namespace Check

/-- The checks in the order in which they count. -/
def all : List Check := [role, primary, directory, parent, staging]

/-- The checks that count before a check. -/
def earlier (c : Check) : List Check := all.takeWhile (· ≠ c)

/-- What a result tells where the check fails. -/
def reason : Check → String
  | role => "Skipping transfer as this is not a Secondary node"
  | primary => "Skipping transfer as there is no primary node to download from"
  | directory => "Skipping transfer as destination exists and is a directory"
  | parent => "Skipping transfer as we cannot create the destination directory"
  | staging => "Error creating temporary file"

/-- Where the check fails, nothing has been made on the disk. -/
def makesNothing : Check → Bool
  | role | primary | directory => true
  | parent | staging => false

end Check

namespace Downloader

/-- The tree with the directories that a local destination lacks, as far as they can be made. -/
def readied (b : Blob) (d : Disk) : Disk :=
  match b.storage.absolutePath? with
  | some path => (d.ensureParentDir path).1
  | none => d

/-- **What a check asks**, whatever comes of the others. -/
def passes (dl : Downloader) (b : Blob) (d : Disk) : Check → Bool
  | .role => dl.node.role == .secondary
  | .primary => dl.node.primary?.isSome
  | .directory => b.storage.absolutePath?.all fun path => !d.isDir path
  | .parent =>
    b.storage.absolutePath?.all fun path =>
      (Path.parent? path).all fun par => par == "" || (readied b d).isDir par
  | .staging => (b.stage (readied b d)).isOk

/-- The first check that fails. -/
def firstFailing? (dl : Downloader) (b : Blob) (d : Disk) : Option Check :=
  Check.all.find? fun c => !dl.passes b d c

variable {dl : Downloader} {b : Blob} {d : Disk} {path : String} {c : Check}

/-! ## Single checks -/

theorem passes_of_firstFailing? (h : dl.firstFailing? b d = none) (c : Check) :
    dl.passes b d c = true := by
  have hc : c ∈ Check.all := by cases c <;> decide
  simpa using List.find?_eq_none.1 h c hc

theorem passes_earlier (h : dl.firstFailing? b d = some c) :
    dl.passes b d c = false ∧ ∀ c' ∈ c.earlier, dl.passes b d c' = true := by
  obtain ⟨hc, before, after, hall, hbefore⟩ := List.find?_eq_some_iff_append.1 h
  have hnodup : (before ++ c :: after).Nodup := by
    rw [← hall]
    decide
  have hne : ∀ c' ∈ before, decide (c' ≠ c) = true := fun c' hc' =>
    decide_eq_true fun he => List.disjoint_of_nodup_append hnodup hc' (he ▸ List.mem_cons_self)
  have hearlier : c.earlier = before := by
    rw [Check.earlier, hall, List.takeWhile_append_of_pos hne, List.takeWhile_cons]
    simp
  exact ⟨by simpa using hc, fun c' hc' => by simpa using hbefore c' (hearlier ▸ hc')⟩

theorem readied_eq (h : b.storage.absolutePath? = some path) :
    readied b d = (d.ensureParentDir path).1 := by
  rw [readied, h]

theorem passes_directory_iff :
    dl.passes b d .directory = true ↔
      ∀ path, b.storage.absolutePath? = some path → d.isDir path = false := by
  simp [passes, Option.all_eq_true]

theorem passes_parent_iff (hd : d.WellFormed) :
    dl.passes b d .parent = true ↔
      ∀ path, b.storage.absolutePath? = some path → (d.ensureParentDir path).2 = .ok () := by
  simp only [passes, Option.all_eq_true, Bool.or_eq_true, beq_iff_eq,
    Disk.ensureParentDir_eq_ok_iff hd]
  refine forall₂_congr fun path hpath => forall₂_congr fun par hpar => ?_
  rw [readied_eq hpath, or_iff_not_imp_left]

theorem passes_staging_iff :
    dl.passes b d .staging = true ↔ ∃ r, b.stage (readied b d) = .ok r := by
  rw [passes]
  cases b.stage (readied b d) with
  | ok r => simp [Except.isOk, Except.toBool]
  | error e => simp [Except.isOk, Except.toBool]

/-! ## Attempts -/

theorem checkPreconditions_eq (hrole : dl.passes b d .role = true)
    (hprimary : dl.passes b d .primary = true) :
    ∃ primary, dl.node.primary? = some primary ∧ checkPreconditions dl.node b.storage d =
      match b.storage.absolutePath? with
      | none => (d, .ok primary)
      | some path =>
        ((checkDestination path d).1, (checkDestination path d).2.map fun _ => primary) := by
  have hsecondary : dl.node.isSecondary = true := hrole
  obtain ⟨primary, hknown⟩ := Option.isSome_iff_exists.1 hprimary
  refine ⟨primary, hknown, ?_⟩
  cases hpath : b.storage.absolutePath? with
  | none => simp only [checkPreconditions, hsecondary, if_true, hknown, hpath]
  | some path => simp only [checkPreconditions, hsecondary, if_true, hknown, hpath]

theorem checkPreconditions_of_passes (hd : d.WellFormed)
    (h : ∀ c ∈ Check.staging.earlier, dl.passes b d c = true) :
    ∃ primary, dl.node.primary? = some primary ∧
      checkPreconditions dl.node b.storage d = (readied b d, .ok primary) := by
  obtain ⟨primary, hknown, hpre⟩ :=
    checkPreconditions_eq (h .role (by decide)) (h .primary (by decide))
  refine ⟨primary, hknown, ?_⟩
  rw [hpre]
  cases hpath : b.storage.absolutePath? with
  | none => simp only [readied, hpath]
  | some path =>
    have hdir := passes_directory_iff.1 (h .directory (by decide)) path hpath
    have hparent := (passes_parent_iff hd).1 (h .parent (by decide)) path hpath
    simp only [checkDestination, hdir, hparent, readied_eq hpath, Bool.false_eq_true, if_false]
    rfl

/-- **All checks hold** and there is a request. -/
theorem prepared_of_passes (hd : d.WellFormed) (h : ∀ c, dl.passes b d c = true) :
    ∃ d₂ primary temp, dl.node.primary? = some primary ∧
      dl.Prepared b d (readied b d) d₂ primary temp := by
  obtain ⟨⟨d₂, temp⟩, hstage⟩ := passes_staging_iff.1 (h .staging)
  obtain ⟨primary, hknown, hpre⟩ := checkPreconditions_of_passes hd fun c _ => h c
  exact ⟨d₂, primary, temp, hknown, hpre, hstage⟩

/-- **A check fails** and the attempt is abandoned, whatever the client. Nothing is made before the
directories for a destination. -/
theorem execute_of_firstFailing? (hd : d.WellFormed) (h : dl.firstFailing? b d = some c) :
    ∃ e, e.message = c.reason ∧ e.bytesDownloaded = 0 ∧ ∀ client,
      ({ dl with client } : Downloader).execute b d =
        abandon (if c.makesNothing then d else readied b d) e := by
  obtain ⟨hfails, hearlier⟩ := passes_earlier h
  cases c with
  | role =>
    have hrole : dl.node.isSecondary = false := hfails
    refine ⟨.notSecondary, rfl, rfl, fun client => ?_⟩
    simp [execute, checkPreconditions, hrole, Check.makesNothing]
  | primary =>
    have hrole : dl.node.isSecondary = true := hearlier .role (by decide)
    have hprimary : dl.node.primary? = none := by simpa [passes] using hfails
    refine ⟨.noPrimary, rfl, rfl, fun client => ?_⟩
    simp [execute, checkPreconditions, hrole, hprimary, Check.makesNothing]
  | directory =>
    obtain ⟨primary, -, hpre⟩ :=
      checkPreconditions_eq (hearlier .role (by decide)) (hearlier .primary (by decide))
    obtain ⟨path, hpath, hdir⟩ : ∃ path, b.storage.absolutePath? = some path ∧
        d.isDir path = true := by
      rw [← Bool.not_eq_true, passes_directory_iff] at hfails
      simpa using hfails
    have hpre' : checkPreconditions dl.node b.storage d =
        (d, .error (.destinationIsDirectory path)) := by
      simp only [hpre, hpath, checkDestination, hdir, if_true]
      rfl
    refine ⟨.destinationIsDirectory path, rfl, rfl, fun client => ?_⟩
    simp only [execute, hpre', Check.makesNothing, if_true]
  | parent =>
    obtain ⟨primary, -, hpre⟩ :=
      checkPreconditions_eq (hearlier .role (by decide)) (hearlier .primary (by decide))
    have hdirs := passes_directory_iff.1 (hearlier .directory (by decide))
    obtain ⟨path, hpath, hparent⟩ : ∃ path, b.storage.absolutePath? = some path ∧
        (d.ensureParentDir path).2 ≠ .ok () := by
      rw [← Bool.not_eq_true, passes_parent_iff hd] at hfails
      simpa using hfails
    obtain ⟨source, hsource⟩ : ∃ source, (d.ensureParentDir path).2 = .error source := by
      cases hr : (d.ensureParentDir path).2 with
      | ok u => exact absurd hr hparent
      | error source => exact ⟨source, rfl⟩
    have hpre' : checkPreconditions dl.node b.storage d =
        (readied b d, .error (.createDestinationDir path source)) := by
      simp only [hpre, hpath, checkDestination, hdirs path hpath, hsource, readied_eq hpath,
        Bool.false_eq_true, if_false]
      rfl
    refine ⟨.createDestinationDir path source, rfl, rfl, fun client => ?_⟩
    simp only [execute, hpre', Check.makesNothing, Bool.false_eq_true, if_false]
  | staging =>
    obtain ⟨primary, -, hpre⟩ := checkPreconditions_of_passes hd hearlier
    obtain ⟨e, hstage⟩ : ∃ e, b.stage (readied b d) = .error e := by
      cases hr : b.stage (readied b d) with
      | ok r =>
        rw [passes_staging_iff.2 ⟨r, hr⟩] at hfails
        cases hfails
      | error e => exact ⟨e, rfl⟩
    obtain ⟨source, -, rfl⟩ := mapError_eq_error.1 hstage
    refine ⟨.tempFile b.storage.absolutePath? source, rfl, rfl, fun client => ?_⟩
    simp only [execute, hpre, hstage, Check.makesNothing, Bool.false_eq_true, if_false]

/-- **The checks decide.** If all of them hold there is one request, to the address of the blob and
with the headers for it, and what comes of the attempt depends on the answer to that request alone.
If one fails there is none, whatever the client: nothing was received, no storage is called, and the
reason is that of the first check that fails. Nothing is made on the disk for the checks of the
node, nor for a destination that is a directory. -/
theorem checks_decide (dl : Downloader) (b : Blob) (hd : d.WellFormed) :
    (dl.firstFailing? b d = none →
      ∃ url d', dl.resourceUrl? b = some url ∧
        (dl.execute b d).requests = [(⟨url, dl.headers b.resource⟩, d')] ∧
        ∀ client : Client, client ⟨url, dl.headers b.resource⟩ d' =
            dl.client ⟨url, dl.headers b.resource⟩ d' →
          ({ dl with client } : Downloader).execute b d = dl.execute b d) ∧
    ∀ c, dl.firstFailing? b d = some c →
      (dl.execute b d).requests = [] ∧ (dl.execute b d).promotions = [] ∧
        (dl.execute b d).result.bytesDownloaded = 0 ∧
        (dl.execute b d).result.reason? = some c.reason ∧
        (dl.execute b d).disk = (if c.makesNothing then d else readied b d) ∧
        ∀ client, ({ dl with client } : Downloader).execute b d = dl.execute b d := by
  refine ⟨fun h => ?_, fun c h => ?_⟩
  · obtain ⟨d₂, primary, temp, hknown, hp⟩ := prepared_of_passes hd (passes_of_firstFailing? h)
    refine ⟨primary.urlOf b.resource, d₂, ?_, hp.states_eq.1, fun client hc => ?_⟩
    · rw [resourceUrl?, Node.urlOf?, hknown]
      rfl
    · have hp' : ({ dl with client } : Downloader).Prepared b d (readied b d) d₂ primary temp :=
        ⟨hp.preconditions, hp.staged⟩
      have hanswer : client (({ dl with client } : Downloader).request primary b) d₂ =
          dl.client (dl.request primary b) d₂ := hc
      rw [hp.execute_eq, hp'.execute_eq]
      simp only [fetch, hanswer]
      rfl
  · obtain ⟨e, hmessage, hbytes, he⟩ := execute_of_firstFailing? hd h
    have he' : dl.execute b d = abandon (if c.makesNothing then d else readied b d) e :=
      he dl.client
    rw [he']
    exact ⟨rfl, rfl, by rw [← hbytes]; exact e.bytesDownloaded_result,
      by rw [← hmessage]; exact e.reason?_result, rfl, he⟩

/-- A primary, which has no primary to ask. -/
def onPrimary : Downloader := { twoPieces with node := ⟨.primary, none⟩ }

/-- A blob that is kept where the root is. -/
def atRoot : Blob := ⟨⟨"upload", 1⟩, none, .file "/"⟩

/-- The checks for a blob that can be requested, and for one where the first check fails and others
would. -/
theorem checks_decide_three_octets :
    Disk.empty.WellFormed ∧ twoPieces.firstFailing? threeOctets Disk.empty = none ∧
      (∃ d', (twoPieces.execute threeOctets Disk.empty).requests =
        [(⟨"http://primary/api/v4/geo/retrieve/upload/1", []⟩, d')]) ∧
      onPrimary.firstFailing? atRoot Disk.empty = some .role ∧
      onPrimary.passes atRoot Disk.empty .primary = false ∧
      onPrimary.passes atRoot Disk.empty .directory = false ∧
      (onPrimary.execute atRoot Disk.empty).requests = [] ∧
      (onPrimary.execute atRoot Disk.empty).result.reason? = some Check.role.reason := by
  have hall : twoPieces.firstFailing? threeOctets Disk.empty = none := by decide +kernel
  have hrole : onPrimary.firstFailing? atRoot Disk.empty = some .role := by decide +kernel
  have hurl : twoPieces.resourceUrl? threeOctets =
      some "http://primary/api/v4/geo/retrieve/upload/1" := by decide +kernel
  obtain ⟨url, d', hknown, hrequests, -⟩ :=
    (checks_decide twoPieces threeOctets Disk.wellFormed_empty).1 hall
  obtain ⟨hnone, -, -, hreason, -⟩ :=
    (checks_decide onPrimary atRoot Disk.wellFormed_empty).2 .role hrole
  rw [hurl] at hknown
  obtain rfl := Option.some.inj hknown
  exact ⟨Disk.wellFormed_empty, hall, ⟨d', hrequests⟩, hrole, by decide +kernel,
    by decide +kernel, hnone, hreason⟩

end Downloader

end Replica
