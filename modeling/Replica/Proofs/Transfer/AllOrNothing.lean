import Mathlib.Data.List.Basic
import Replica.Proofs.Disk.Kept
import Replica.Proofs.Transfer.DirectoryDestination

/-!
# All or nothing

A transfer that fails leaves the tree as it was, but for directories that were made for it. One that
succeeds changes, besides, the entry that its destination names, which is then a file with all of
the body.

* `Call`: a transfer to a file of the local disk, with what the primary answers;
* `Transfer`, `runAll`: the same with the suffixes that it draws, and one after the other;
* **`Call.attempt_cases`**, `Transfer.run_cases`: one transfer;
* `latest?`: what was last put at a place by a sequence of transfers;
* **`runAll_place`**, **`runAll_destination`**: what a place, and the entry of one destination,
  holds after them;
* **`all_or_nothing`**: any sequence of them;
* `destination_made_directory`: a transfer that makes a directory of its destination.
-/

namespace Replica

/-! ## Transfers -/

/-- **A transfer to a file** of the local disk: the node and its flags, the blob and its checksum,
the path of the file, and what the primary answers. -/
structure Call where
  node : Node
  flags : Flags
  headers : Resource → List (String × String)
  resource : Resource
  checksum? : Option String
  path : String
  answer : Except String Response

namespace Call

/-- Nobody else works on the disk meanwhile. -/
def downloader (c : Call) : Downloader := ⟨fun _ d => (d, c.answer), c.headers, c.node, c.flags⟩

/-- The blob that is asked for, with a local destination. -/
def blob (c : Call) : Blob := ⟨c.resource, c.checksum?, .file c.path⟩

/-- The transfer on a disk. -/
def attempt (c : Call) (d : Disk) : Attempt := c.downloader.execute c.blob d

/-- What is received. -/
def content (c : Call) : Bytes :=
  match c.answer with
  | .ok response => received response.body
  | .error _ => []

/-- The response is complete. -/
def IsComplete (c : Call) : Prop :=
  ∃ response, c.answer = .ok response ∧ 200 ≤ response.status ∧ response.status ≤ 299 ∧
    streamError? response.body = none

end Call

/-- **A transfer with the suffixes** that are drawn for its temporary file. -/
structure Transfer extends Call where
  draw : Nat → String

namespace Transfer

/-- The transfer on a disk. -/
def run (t : Transfer) (d : Disk) : Attempt := t.attempt (d.drawing t.draw)

/-- **The suffixes** have letters and digits alone, and none makes the name of the destination. -/
structure WellDrawn (t : Transfer) : Prop where
  alphabet : ∀ n, ∀ c ∈ (t.draw n).toList, c ∈ suffixAlphabet
  never : ∀ n, tempPrefix ++ t.draw n ≠ Path.name t.path

end Transfer

/-- The disk after a sequence of transfers. -/
def runAll (ts : List Transfer) (d : Disk) : Disk := ts.foldl (fun d t => (t.run d).disk) d

variable {c : Call} {t : Transfer} {d d' d₁ d₂ : Disk} {primary : Primary} {temp : TempFile}
  {p : Place}

/-! ## One transfer -/

theorem checkPreconditions_file (node : Node) (path : String) (d : Disk) :
    (checkPreconditions node (.file path) d).1 = d ∨
      (checkPreconditions node (.file path) d).1 = (d.ensureParentDir path).1 := by
  rw [checkPreconditions]
  split
  · split
    · exact .inl rfl
    · simp only [Storage.file, checkDestination]
      split
      · exact .inl rfl
      · exact .inr rfl
  · exact .inl rfl

namespace Call

theorem stage_beside (hd : d₁.WellFormed) (h : c.blob.stage d₁ = .ok (d₂, temp)) :
    d₁.Rooted c.path ∧ ∃ k dir, d₁.Staged d₂ temp dir (tempPrefix ++ d₁.draw k) {} ∧
      ∀ dir' name slash, d₁.locate c.path = .ok (.entry dir' name slash) → dir' = dir := by
  have hplace : c.blob.stagingPlace = ((Path.parent? c.path).getD ".", {}) := rfl
  rw [Blob.stage, hplace, mapError_eq_ok] at h
  exact Disk.createTemp_beside hd h

/-- **One transfer** fails and changes nothing once the directories for it were made, or puts all of
a complete body in the place of the entry that its destination names, and changes nothing else. -/
theorem attempt_cases (c : Call) (hd : d.WellFormed) (hn : d.NeverDraws (Path.name c.path)) :
    (c.attempt d).disk.WellFormed ∧ d.SameBase (c.attempt d).disk ∧
      ((∃ e, (c.attempt d).result = TransferError.result e) ∧
          ((c.attempt d).disk = d ∨
            ∀ q, (d.ensureParentDir c.path).1.SameAt (c.attempt d).disk q) ∨
        (c.attempt d).result = .success c.content.length ∧ c.IsComplete ∧
          ∃ p, d.destination? c.path = some p ∧
            (c.attempt d).disk.item? p = some (.file c.content) ∧
            ∀ q, q ≠ p → (d.ensureParentDir c.path).1.SameAt (c.attempt d).disk q) := by
  obtain ⟨hd₁, hg⟩ := hd.ensureParentDir c.path
  rcases Downloader.execute_cases c.downloader c.blob d with ⟨e, h, -⟩ | ⟨d₁, d₂, primary, temp, h⟩
  · have hdisk : (c.attempt d).disk = (checkPreconditions c.node (.file c.path) d).1 := by
      rw [attempt, h]
      rfl
    have hfailed : ∃ e, (c.attempt d).result = TransferError.result e := by
      rw [attempt, h]
      exact ⟨e, rfl⟩
    rcases checkPreconditions_file c.node c.path d with hsame | hmade
    · rw [hsame] at hdisk
      rw [hdisk]
      exact ⟨hd, .refl d, .inl ⟨hfailed, .inl rfl⟩⟩
    · rw [hmade] at hdisk
      rw [hdisk]
      exact ⟨hd₁, hg.base, .inl ⟨hfailed, .inr fun q => .refl _ q⟩⟩
  · have hpath : c.blob.storage.absolutePath? = some c.path := rfl
    obtain ⟨-, hok, rfl⟩ := h.destination hpath
    obtain ⟨hr, k, dir, hs, hdir⟩ := stage_beside hd₁ h.staged
    -- the name of the staged file was drawn, so it is not that of the destination
    have hsame : ∀ dir' last slash, (d.ensureParentDir c.path).1.locate c.path =
        .ok (.entry dir' last slash) → dir' = dir ∧
          last ≠ tempPrefix ++ (d.ensureParentDir c.path).1.draw k := by
      intro dir' last slash hloc
      refine ⟨hdir dir' last slash hloc, fun he => hn.of_sameBase hg.base k ?_⟩
      rw [Disk.name_of_locate hloc, he]
    have hclient : c.downloader.client (c.downloader.request primary c.blob) d₂ = (d₂, c.answer) :=
      rfl
    have hclosed := fun bs => (hs.setContent bs).closeTemp_sameAt hd₁
    rcases h.fetch_cases hclient (.refl _ _) with
      ⟨response, hanswer, hp, -, hdisk, hres⟩ | ⟨-, -, bs, e, hdisk, hres⟩
    · have hcontent : c.content = received response.body := by rw [content, hanswer]
      obtain ⟨hlo, hhi, hcomplete, -⟩ := Downloader.passes_gate_iff.1 hp
      rw [← hcontent] at hdisk hres
      rw [attempt, hdisk, hres]
      simp only [blob, Storage.file]
      rcases (hs.setContent c.content).replaceFile hd₁ hr hsame with
        ⟨e, hrep⟩ | ⟨last, slash, hloc, hne, hnot, hrep⟩
      · obtain ⟨hd', hb, hall⟩ := hclosed c.content
        rw [hrep]
        exact ⟨hd', hg.base.trans hb, .inl ⟨⟨_, rfl⟩, .inr hall⟩⟩
      · obtain ⟨hd', hb, hitem, hothers⟩ :=
          (hs.setContent c.content).graft_sameAt hd₁ hloc hnot hne
        rw [hrep, (hs.setContent c.content).closeTemp_graft hd₁ hnot hne]
        exact ⟨hd', hg.base.trans hb, .inr ⟨rfl, ⟨response, hanswer, hlo, hhi, hcomplete⟩, _,
          Disk.destination?_eq_some_iff.2 ⟨hok, dir, last, slash, hloc, rfl⟩, hitem, hothers⟩⟩
    · obtain ⟨hd', hb, hall⟩ := hclosed bs
      rw [attempt, hdisk, hres]
      exact ⟨hd', hg.base.trans hb, .inl ⟨⟨e, rfl⟩, .inr hall⟩⟩

end Call

namespace Transfer

/-- **The same with the suffixes** that a transfer draws. -/
theorem run_cases (t : Transfer) (hd : d.WellFormed) (ht : t.WellDrawn) :
    (t.run d).disk.WellFormed ∧ (d.drawing t.draw).SameBase (t.run d).disk ∧
      ((∃ e, (t.run d).result = TransferError.result e) ∧
          ((t.run d).disk = d.drawing t.draw ∨
            ∀ q, (d.ensureParentDir t.path).1.SameAt (t.run d).disk q) ∨
        (t.run d).result = .success t.content.length ∧ t.IsComplete ∧
          ∃ p, d.destination? t.path = some p ∧
            (t.run d).disk.item? p = some (.file t.content) ∧
            ∀ q, q ≠ p → (d.ensureParentDir t.path).1.SameAt (t.run d).disk q) := by
  have hmade : ∀ {q}, ((d.drawing t.draw).ensureParentDir t.path).1.SameAt (t.run d).disk q →
      (d.ensureParentDir t.path).1.SameAt (t.run d).disk q := by
    intro q h
    rw [Disk.ensureParentDir_drawing] at h
    exact ⟨h.entry, h.body⟩
  obtain ⟨hd', hb, hcases⟩ := t.attempt_cases (hd.drawing ht.alphabet) ht.never
  refine ⟨hd', hb, hcases.imp ?_ ?_⟩
  · exact fun ⟨hfailed, hleft⟩ => ⟨hfailed, hleft.imp_right fun h q => hmade (h q)⟩
  · rintro ⟨hs, hcomplete, p, hdest, hitem, hothers⟩
    exact ⟨hs, hcomplete, p, Disk.destination?_drawing.symm.trans hdest, hitem,
      fun q hq => hmade (hothers q hq)⟩

theorem run_keptFor (hd : d.WellFormed)
    (h : (t.run d).disk = d.drawing t.draw ∨
      ∀ q, (d.ensureParentDir t.path).1.SameAt (t.run d).disk q) (p : Place) :
    d.KeptFor (t.run d).disk t.path p := by
  rcases h with h | h
  · rw [h]
    exact ⟨.same ⟨rfl, fun _ _ => rfl⟩, fun hn hp => absurd hn hp⟩
  · exact (h p).keptFor hd

end Transfer

/-! ## Sequences of transfers -/

/-- **What was last put at a place** by a sequence of transfers, if anything was. -/
def latest? (p : Place) : List Transfer → Disk → Option Bytes
  | [], _ => none
  | t :: rest, d =>
    match latest? p rest (t.run d).disk with
    | some content => some content
    | none =>
      if (t.run d).result.isSuccess ∧ d.destination? t.path = some p then some t.content else none

theorem runAll_cons (t : Transfer) (rest : List Transfer) (d : Disk) :
    runAll (t :: rest) d = runAll rest (t.run d).disk := rfl

theorem wellFormed_runAll (hd : d.WellFormed) {ts : List Transfer} (hts : ∀ t ∈ ts, t.WellDrawn) :
    (runAll ts d).WellFormed := by
  induction ts generalizing d with
  | nil => exact hd
  | cons t rest ih =>
    obtain ⟨hd', -⟩ := t.run_cases hd (hts t List.mem_cons_self)
    exact ih hd' fun t' ht' => hts t' (List.mem_cons_of_mem _ ht')

/-- **Every place** holds what was last put there, or what it held before all, or is a new
directory. -/
theorem runAll_place (hd : d.WellFormed) {ts : List Transfer} (hts : ∀ t ∈ ts, t.WellDrawn)
    (p : Place) :
    (∀ content, latest? p ts d = some content →
        (runAll ts d).item? p = some (.file content)) ∧
      (latest? p ts d = none → d.KeptAt (runAll ts d) p) := by
  -- on the sequence, for every disk: what is put later counts, or else what the first one did
  induction ts generalizing d with
  | nil => exact ⟨fun _ => nofun, fun _ => .refl d p⟩
  | cons t rest ih =>
    obtain ⟨hd', -, hcases⟩ := t.run_cases hd (hts t List.mem_cons_self)
    obtain ⟨hsome, hnone⟩ := ih hd' fun t' ht' => hts t' (List.mem_cons_of_mem _ ht')
    rw [latest?, runAll_cons]
    cases hl : latest? p rest (t.run d).disk with
    | some content =>
      refine ⟨fun _ h => ?_, nofun⟩
      obtain rfl := Option.some.inj h
      exact hsome content hl
    | none =>
      rcases hcases with ⟨⟨e, he⟩, hleft⟩ | ⟨hs, -, p', hdest, hitem, hothers⟩
      · simp only [he, e.isSuccess_result, Bool.false_eq_true, false_and, if_false]
        exact ⟨fun _ => nofun, fun _ => (t.run_keptFor hd hleft p).keptAt.trans (hnone hl)⟩
      · by_cases hp : p' = p
        · subst hp
          simp only [hs, hdest, TransferResult.success, TransferResult.isSuccess,
            Option.isNone_none, and_self, if_true]
          refine ⟨fun _ h => ?_, nofun⟩
          obtain rfl := Option.some.inj h
          exact (hnone hl).item?_file hitem
        · simp only [hdest, Option.some.injEq, hp, and_false, if_false]
          exact ⟨fun _ => nofun, fun _ =>
            ((hothers p (Ne.symm hp)).keptFor hd).keptAt.trans (hnone hl)⟩

/-- **The entry of one destination**, if the directories made for it are elsewhere, holds what was
last put there, or else what it held before all. -/
theorem runAll_destination {path : String} (hd : d.WellFormed) {ts : List Transfer}
    (hts : ∀ t ∈ ts, t.WellDrawn) (hpath : ∀ t ∈ ts, t.path = path)
    (hdest : d.destination? path = some p)
    (helse : (d.ensureParentDir path).1.get? p = d.get? p) (hl : latest? p ts d = none) :
    (runAll ts d).item? p = d.item? p := by
  -- no transfer succeeds, and after the first that has made directories no more are made
  induction ts generalizing d with
  | nil => rfl
  | cons t rest ih =>
    have ht := hts t List.mem_cons_self
    obtain ⟨hd', hb, hcases⟩ := t.run_cases hd ht
    obtain rfl : t.path = path := hpath t List.mem_cons_self
    have hts' : ∀ t' ∈ rest, t'.WellDrawn := fun t' ht' => hts t' (List.mem_cons_of_mem _ ht')
    have hpath' : ∀ t' ∈ rest, t'.path = t.path :=
      fun t' ht' => hpath t' (List.mem_cons_of_mem _ ht')
    obtain ⟨hl', hfailed⟩ : latest? p rest (t.run d).disk = none ∧
        (t.run d).result.isSuccess = false := by
      rw [latest?] at hl
      split at hl
      · cases hl
      · rename_i hnone
        refine ⟨hnone, ?_⟩
        by_contra hs
        rw [if_pos ⟨by simpa using hs, hdest⟩] at hl
        cases hl
    have hdrawn := hd.drawing ht.alphabet
    have hdest₁ : (d.drawing t.draw).destination? t.path = some p :=
      Disk.destination?_drawing.trans hdest
    rw [runAll_cons]
    rcases hcases with ⟨-, hsame | hleft⟩ | ⟨hs, -⟩
    · rw [hsame] at hl' ⊢
      refine ih hdrawn hts' hpath' hdest₁ ?_ hl'
      rw [Disk.ensureParentDir_drawing]
      exact helse
    · have hg := (hdrawn.ensureParentDir t.path).2
      have hget : ∀ q, (t.run d).disk.get? q =
          ((d.drawing t.draw).ensureParentDir t.path).1.get? q := by
        rw [Disk.ensureParentDir_drawing]
        exact fun q => (hleft q).entry
      obtain ⟨hdest', helse'⟩ :=
        Disk.destination?_of_get? hdrawn hd' (hg.base.symm.trans hb) hget hdest₁
      rw [ih hd' hts' hpath' hdest' helse' hl', (hleft p).item?_eq]
      have hfiles := (hd.ensureParentDir t.path).2.files
      exact Disk.SameAt.item?_eq ⟨helse, fun id _ => by rw [Disk.body, Disk.body, hfiles]⟩
    · rw [hs] at hfailed
      cases hfailed

/-- **All or nothing.** Take any sequence of transfers and one more, each with suffixes of its own.
If that one fails, everything is kept. If it succeeds, it got a complete body, and the entry that its
destination names is a file with all of this body; everything else is kept. After it, every place
holds what was last put there, or what it held before all, or is a new directory; so no temporary
file is left. If all were to one destination, its entry holds what was last put there or what it held
before, unless nothing was there and it is one of the directories that were made for the path, which
then has a part `..`. -/
theorem all_or_nothing (hd : d.WellFormed) (ts : List Transfer) (t : Transfer)
    (hts : ∀ t' ∈ ts ++ [t], t'.WellDrawn) :
    ((t.run (runAll ts d)).result.isSuccess = false →
      ∀ p, (runAll ts d).KeptFor (t.run (runAll ts d)).disk t.path p) ∧
    (∀ n, (t.run (runAll ts d)).result = .success n →
      n = t.content.length ∧ t.IsComplete ∧
        ∃ p, (runAll ts d).destination? t.path = some p ∧
          (t.run (runAll ts d)).disk.item? p = some (.file t.content) ∧
          ∀ q, q ≠ p → (runAll ts d).KeptFor (t.run (runAll ts d)).disk t.path q) ∧
    (∀ p content, latest? p (ts ++ [t]) d = some content →
      (t.run (runAll ts d)).disk.item? p = some (.file content)) ∧
    (∀ p, latest? p (ts ++ [t]) d = none → d.KeptAt (t.run (runAll ts d)).disk p) ∧
    ((∀ t' ∈ ts, t'.path = t.path) → ∀ p, d.destination? t.path = some p →
      latest? p (ts ++ [t]) d = none →
      (t.run (runAll ts d)).disk.item? p = d.item? p ∨
        d.item? p = none ∧ (t.run (runAll ts d)).disk.item? p = some .directory ∧
          (d.ensureParentDir t.path).1.IsAbove t.path p ∧ ".." ∈ Path.parts t.path) := by
  have hd' := wellFormed_runAll hd fun t' ht' => hts t' (List.mem_append_left _ ht')
  have ht : t.WellDrawn := hts t (List.mem_append_right _ List.mem_cons_self)
  have hlast : runAll (ts ++ [t]) d = (t.run (runAll ts d)).disk := by
    simp [runAll]
  rw [← hlast]
  refine ⟨fun hs p => ?_, fun n hs => ?_, fun p => (runAll_place hd hts p).1,
    fun p => (runAll_place hd hts p).2, fun hpath p hdest hl => ?_⟩
  · rcases (t.run_cases hd' ht).2.2 with ⟨-, hleft⟩ | ⟨hs', -⟩
    · rw [hlast]
      exact t.run_keptFor hd' hleft p
    · rw [hs'] at hs
      cases hs
  · rcases (t.run_cases hd' ht).2.2 with
      ⟨⟨e, he⟩, -⟩ | ⟨hs', hcomplete, p, hdest, hitem, hothers⟩
    · exact absurd (he.symm.trans hs) (e.result_ne_success n)
    · rw [hlast]
      exact ⟨congrArg TransferResult.bytesDownloaded (hs.symm.trans hs'), hcomplete, p, hdest,
        hitem, fun q hq => (hothers q hq).keptFor hd'⟩
  · have hpath' : ∀ t' ∈ ts ++ [t], t'.path = t.path := by
      intro t' ht'
      rcases List.mem_append.1 ht' with ht' | ht'
      · exact hpath t' ht'
      · rw [List.mem_singleton.1 ht']
    refine ((runAll_place hd hts p).2 hl).item?_cases.imp_right fun ⟨hnone, hdir⟩ => ?_
    -- had the directories been made elsewhere, nothing would have changed
    have hmade : (d.ensureParentDir t.path).1.get? p ≠ d.get? p := by
      intro helse
      rw [runAll_destination hd hts hpath' hdest helse hl, hnone] at hdir
      cases hdir
    have habsent : d.get? p = none := by simpa [Disk.item?] using hnone
    refine ⟨hnone, hdir, Disk.isAbove_of_ensureParentDir hd habsent (habsent ▸ hmade), ?_⟩
    by_contra hup
    exact hmade (Disk.get?_destination hd hup hdest)

/-- Three octets for a file. -/
def threeOctetsAt (path : String) : Call where
  node := .secondary ⟨"http://primary"⟩
  flags := Dict.empty
  headers _ := []
  resource := ⟨"upload", 1⟩
  checksum? := none
  path
  answer := .ok ⟨200, "OK", none, [.octets [1, 2], .octets [3]]⟩

/-- The same, staged under names with these suffixes. -/
def threeOctetsTo (path : String) (draw : Nat → String := suffix) : Transfer :=
  ⟨threeOctetsAt path, draw⟩

/-- Two transfers to one file, which draw different suffixes. -/
theorem all_or_nothing_twice :
    (∀ t ∈ [threeOctetsTo "/blob"] ++ [threeOctetsTo "/blob" fun n => suffix (7 + n)],
        t.WellDrawn) ∧
      ((threeOctetsTo "/blob" fun n => suffix (7 + n)).run
        (runAll [threeOctetsTo "/blob"] Disk.empty)).disk.item? ["blob"] =
          some (.file [1, 2, 3]) := by
  have hdrawn : ∀ draw, (∀ n, ∀ c ∈ (draw n).toList, c ∈ suffixAlphabet) →
      (threeOctetsTo "/blob" draw).WellDrawn := by
    intro draw hdraw
    have hnever : (Disk.empty.drawing draw).NeverDraws (Path.name "/blob") :=
      Disk.neverDraws_of_not_prefix (by decide +kernel)
    exact ⟨hdraw, hnever⟩
  have hts : ∀ t ∈ [threeOctetsTo "/blob"] ++ [threeOctetsTo "/blob" fun n => suffix (7 + n)],
      t.WellDrawn := by
    rw [List.singleton_append, List.forall_mem_cons, List.forall_mem_singleton]
    exact ⟨hdrawn _ Disk.wellFormed_empty.suffixes,
      hdrawn _ fun n => Disk.wellFormed_empty.suffixes (7 + n)⟩
  have hl : latest? ["blob"]
      ([threeOctetsTo "/blob"] ++ [threeOctetsTo "/blob" fun n => suffix (7 + n)]) Disk.empty =
        some [1, 2, 3] := by decide +kernel
  exact ⟨hts, (all_or_nothing Disk.wellFormed_empty [threeOctetsTo "/blob"]
    (threeOctetsTo "/blob" fun n => suffix (7 + n)) hts).2.2.1 _ _ hl⟩

/-- **A destination that is one of the directories above it.** Nothing was there, no transfer has
succeeded, and yet there is something now. -/
theorem destination_made_directory :
    Disk.empty.destination? "/new/../new" = some ["new"] ∧ Disk.empty.item? ["new"] = none ∧
      ((threeOctetsTo "/new/../new").run Disk.empty).result.isSuccess = false ∧
      ((threeOctetsTo "/new/../new").run Disk.empty).disk.item? ["new"] =
        some .directory := by
  decide +kernel

/-- The name of a destination must not be drawn: the content would be moved onto itself and then
removed as a temporary file. -/
theorem drawn_destination_lost :
    ((threeOctetsTo "/tmp_000000").run Disk.empty).result.isSuccess = true ∧
      ((threeOctetsTo "/tmp_000000").run Disk.empty).disk.item? ["tmp_000000"] = none := by
  decide +kernel

end Replica
