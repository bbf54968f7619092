import Mathlib.Data.List.Basic
import Replica.Proofs.Disk.Directories
import Replica.Proofs.Transfer.ObjectStaging

/-!
# The directory of a staged file

A blob that is not kept on the local disk is staged in the directory that its storage names, under a
name that begins with that of its kind. The kind stands there as it is: with a slash in it, what is
in front of the slash is taken for directories.

* **`Disk.InDirectory`**: directly in the directory at a path;
* `absolutePath_join`, **`WellFormed.inDirectory_of_locate`**: an entry that an absolute path names;
* **`createTemp_inDirectory`**, **`createTemp_below`**: where a temporary file is, if the beginning
  of its name has no slash, and if it has one;
* **`Downloader.staged_inside_iff`**.
-/

namespace Replica

namespace Disk

variable {d d' : Disk} {p : Place} {dir there path name last beginning init : String}
  {slash : Bool} {temp : TempFile} {options : TempOptions}

/-- **Directly in the directory at a path**, under a name with this beginning. The empty path stands
for the working directory. -/
def InDirectory (d : Disk) (dir beginning : String) (q : Place) : Prop :=
  ∃ p rest, d.resolve (if dir = "" then "." else dir) = .ok (.place p) ∧ q = p ++ [beginning ++ rest]

theorem InDirectory.slash_notMem (h : d.InDirectory dir beginning (p ++ [name]))
    (hname : IsEntryName name) : '/' ∉ beginning.toList := by
  obtain ⟨p', rest, -, hq⟩ := h
  obtain ⟨-, hrest⟩ := List.append_inj' hq rfl
  obtain rfl := (List.cons.inj hrest).1
  exact fun hmem => hname.no_slash (by simp [String.toList_append, hmem])

theorem absolutePath_join (hthere : d.absolutePath dir = .ok there)
    (h : Path.isAbsolute path = false) :
    d.absolutePath (Path.join dir path) = .ok (Path.join there path) := by
  rw [absolutePath, Path.isAbsolute_join_of_relative dir h]
  rw [absolutePath] at hthere
  split at hthere
  · rename_i habs
    rw [if_pos habs, Except.ok.inj hthere]
  · rename_i habs
    rw [if_neg habs]
    split at hthere
    · rename_i hlost
      rw [if_pos hlost, ← Except.ok.inj hthere,
        Path.join_join _ (Bool.eq_false_iff.2 habs) h]
    · cases hthere

theorem check_of_absolutePath (hthere : d.absolutePath dir = .ok there)
    (hcheck : check there = .ok ()) (hne : dir ≠ "") : check dir = .ok () := by
  obtain ⟨-, -, rfl⟩ := absolutePath_eq_ok hthere
  cases hrel : Path.isAbsolute dir with
  | true => rwa [hrel, if_pos rfl] at hcheck
  | false =>
    rw [hrel, if_neg Bool.false_ne_true, Path.join_of_relative _ hrel] at hcheck
    exact (check_of_append hcheck).2 hne

/-- **An entry below a directory**, by the absolute path to that directory and one more part. -/
theorem WellFormed.inDirectory_of_locate (hd : d.WellFormed)
    (hthere : d.absolutePath dir = .ok there) (hbelow : ∃ rest, path = there ++ rest)
    (hparts : Path.parts path = Path.parts there ++ [beginning ++ last])
    (h : d.locate path = .ok (.entry p name slash)) : d.InDirectory dir beginning (p ++ [name]) := by
  obtain ⟨rest, rfl⟩ := hbelow
  obtain ⟨-, habs, -⟩ := absolutePath_eq_ok hthere
  have hne : there ≠ "" := fun h => by
    rw [h] at habs
    exact absurd habs (by decide)
  obtain ⟨rfl, left, hl⟩ :=
    hd.leads_of_locate hthere ((Path.isAbsolute_append hne rest).trans habs) hparts h
  refine ⟨p, last, ?_, rfl⟩
  split
  · rename_i hempty
    subst hempty
    have hdots : Path.Dots ["."] := fun s hs => List.mem_singleton.1 hs
    have hdot : d.Leads "." ([] ++ ["."]) left (.place p) :=
      (leads_append_dots_iff hdots).2 ((leads_congr rfl).2 hl)
    exact Leads.resolve_eq hdot rfl
  · rename_i hdir
    have hcheck := (check_of_append (locate_eq_entry_iff.1 h).1).1 hne
    exact hl.resolve_eq (check_of_absolutePath hthere hcheck hdir)

/-- **A temporary file is in its directory** if its name begins without a slash. -/
theorem createTemp_inDirectory (hd : d.WellFormed) (h : d.createTemp dir options = .ok (d', temp))
    (hslash : '/' ∉ options.beginning.toList) (hne : options.beginning ≠ "")
    (hloc : d.locate temp.path = .ok (.entry p name false)) :
    d.InDirectory dir options.beginning (p ++ [name]) := by
  obtain ⟨there, k, -, -, hthere, rfl, -⟩ := createTemp_eq_ok h
  have hname := hd.slash_notMem_append_draw hslash k
  have hrel : Path.isAbsolute (options.beginning ++ d.draw k) = false := Path.head?_of_notMem hname
  have hbelow : ∃ rest, d.tempPath there options.beginning k = there ++ rest := by
    obtain ⟨rest, hrest⟩ := Path.slashed_eq_append there
    exact ⟨_, by rw [tempPath, Path.join_of_relative there hrel, hrest, String.append_assoc]⟩
  have hparts : Path.parts (d.tempPath there options.beginning k) =
      Path.parts there ++ [options.beginning ++ d.draw k] := by
    rw [tempPath, Path.parts_join_name there hname fun h => hne (String.append_eq_empty_iff.1 h).1]
  exact hd.inDirectory_of_locate hthere hbelow hparts hloc

/-- **It is in a directory below that one** if its name begins with a path. -/
theorem createTemp_below (hd : d.WellFormed) (h : d.createTemp dir options = .ok (d', temp))
    (hbeginning : options.beginning = init ++ "/" ++ last) (hinit : init ≠ "")
    (hrel : Path.isAbsolute init = false) (hslash : '/' ∉ last.toList) (hne : last ≠ "")
    (hloc : d.locate temp.path = .ok (.entry p name false)) :
    d.InDirectory (Path.join dir init) last (p ++ [name]) := by
  obtain ⟨there, k, -, -, hthere, rfl, -⟩ := createTemp_eq_ok h
  have hname := hd.slash_notMem_append_draw hslash k
  have hpath : d.tempPath there options.beginning k =
      Path.join there init ++ ("/" ++ (last ++ d.draw k)) := by
    have hlong : Path.isAbsolute (init ++ ("/" ++ (last ++ d.draw k))) = false :=
      (Path.isAbsolute_append hinit _).trans hrel
    rw [tempPath, hbeginning, Path.join_of_relative there hrel, String.append_assoc,
      String.append_assoc, Path.join_of_relative there hlong, String.append_assoc]
  have hparts : Path.parts (d.tempPath there options.beginning k) =
      Path.parts (Path.join there init) ++ [last ++ d.draw k] := by
    rw [hpath, Path.parts_append_slash, Path.parts_name hname fun h =>
      hne (String.append_eq_empty_iff.1 h).1]
  exact hd.inDirectory_of_locate (absolutePath_join hthere hrel) ⟨_, hpath⟩ hparts hloc

end Disk

/-! ## Kinds with a slash -/

namespace Blob

variable {r : Resource} {init last : String}

theorem slash_mem_record (kind : String) (n : Nat) :
    '/' ∈ (kind ++ "-" ++ natText n).toList ↔ '/' ∈ kind.toList := by
  have hrecord : '/' ∉ (natText n).toList := fun h =>
    absurd (isDigit_of_mem_natText h) (by decide)
  simp [String.toList_append, hrecord]

theorem slash_mem_stagingPrefix : '/' ∈ (stagingPrefix r).toList ↔ '/' ∈ r.kind.toList := by
  have hprefix : '/' ∉ tempPrefix.toList := by decide
  rw [stagingPrefix, slash_mem_record, String.toList_append, List.mem_append,
    or_iff_right hprefix]

theorem stagingPrefix_ne_empty (r : Resource) : stagingPrefix r ≠ "" := by
  rw [stagingPrefix, String.append_assoc, String.append_assoc]
  exact Disk.tempName_ne_empty _

theorem stagingPrefix_eq (h : r.kind = init ++ "/" ++ last) :
    stagingPrefix r = tempPrefix ++ init ++ "/" ++ (last ++ "-" ++ natText r.record) := by
  simp only [stagingPrefix, h, String.append_assoc]

end Blob

namespace Downloader

variable {b : Blob} {d : Disk} {primary : Primary} {dir : String}

/-- **Which files are staged in their directory.** Take a secondary that knows its primary, and a
blob that is to be staged in the directory of its storage. Either there can be no temporary file:
then nothing is requested, the result tells that, and the tree is as it was. Or there is one request,
and at that moment one more file than before, which is new and empty. It is directly in the directory
and has the kind and the number of the record in its name if and only if the kind has no slash. If it
has one, what stands in front of the last one leads from the directory to another that was there
before, and the file is directly in that one, with what stands behind the slash in its name. -/
theorem staged_inside_iff (dl : Downloader) (hd : d.WellFormed)
    (hrole : dl.node.isSecondary = true) (hknown : dl.node.primary? = some primary)
    (hpath : b.storage.absolutePath? = none) (hdir : b.storage.stagingDir? = some dir) :
    ((dl.execute b d).requests = [] ∧
      (dl.execute b d).result.failureKind? = some .tempFile ∧ (dl.execute b d).disk = d) ∨
    ∃ d' temp p name, (dl.execute b d).requests = [(dl.request primary b, d')] ∧
      d.Staged d' temp p name {} ∧
      (d.InDirectory dir (Blob.stagingPrefix b.resource) (p ++ [name]) ↔
        '/' ∉ b.resource.kind.toList) ∧
      ∀ init last, b.resource.kind = init ++ "/" ++ last → '/' ∉ last.toList →
        d.InDirectory (Path.join dir (tempPrefix ++ init))
          (last ++ "-" ++ natText b.resource.record) (p ++ [name]) := by
  have hpre : checkPreconditions dl.node b.storage d = (d, .ok primary) := by
    simp only [checkPreconditions, hrole, hknown, hpath, if_true]
  have hplace : b.stagingPlace = (dir, { beginning := Blob.stagingPrefix b.resource }) := by
    rw [Blob.stagingPlace, hpath, hdir]
    rfl
  cases hstage : b.stage d with
  | error e =>
    left
    obtain ⟨cause, -, rfl⟩ := mapError_eq_error.1 hstage
    have habandon : dl.execute b d = abandon d (.tempFile b.storage.absolutePath? cause) := by
      simp only [execute, hpre, hstage]
    rw [habandon]
    exact ⟨rfl, TransferError.failureKind?_result _, rfl⟩
  | ok r =>
    right
    obtain ⟨d', temp⟩ := r
    have hp : dl.Prepared b d d d' primary temp := ⟨hpre, hstage⟩
    have hcreate := mapError_eq_ok.1 hstage
    rw [hplace] at hcreate
    obtain ⟨-, p, name, hstaged⟩ := Blob.staged_of_stage hstage
    refine ⟨d', temp, p, name, hp.states_eq.1, hstaged, ⟨fun hin => ?_, fun hslash => ?_⟩,
      fun init last hkind hlast => ?_⟩
    · have hname := (hd.of_locate hstaged.located).2
      exact mt Blob.slash_mem_stagingPrefix.2 (hin.slash_notMem hname)
    · exact Disk.createTemp_inDirectory hd hcreate (mt Blob.slash_mem_stagingPrefix.1 hslash)
        (Blob.stagingPrefix_ne_empty _) hstaged.located
    · refine Disk.createTemp_below hd hcreate (Blob.stagingPrefix_eq hkind)
        (Disk.tempName_ne_empty init) ?_ (mt (Blob.slash_mem_record last _).1 hlast) ?_
        hstaged.located
      · exact Path.isAbsolute_append (by decide) init
      · rw [String.append_assoc]
        exact fun h => absurd (String.append_eq_empty_iff.1 (String.append_eq_empty_iff.1 h).2).1
          (by decide)

/-- A storage that is not on the local disk, and stages in this directory. -/
def elsewhere (dir : String) : Storage where
  absolutePath? := none
  stagingDir? := some dir
  replaceFile _ d := (d, .ok none)

/-- A directory for staging, and in it one with the name of a temporary file. -/
def stageTree : Disk := (Disk.empty.put ["stage"] .directory).put ["stage", "tmp_x"] .directory

theorem wellFormed_stageTree : stageTree.WellFormed := by
  have hstage : (Disk.empty.put ["stage"] .directory).WellFormed :=
    Disk.wellFormed_empty.put_root (by decide) (by decide) nofun
  have hinside : ((Disk.empty.put ["stage"] .directory).put (["stage"] ++ ["tmp_x"])
      .directory).WellFormed := hstage.put rfl (by decide) (by decide) nofun
  exact hinside

/-- A blob of a kind that leads from that directory to the one above both. -/
def climbing : Blob := ⟨⟨"x/../../tmp_y", 1⟩, none, elsewhere "/stage"⟩

/-- **A file is staged elsewhere**, where nothing was, and is not in the directory under any name. -/
theorem staged_outside :
    climbing.storage.stagingDir? = some "/stage" ∧
      ∃ q name, (twoPieces.execute climbing stageTree).requests = [q] ∧
        stageTree.get? [name] = none ∧ q.2.get? [name] = some (.file 0) ∧
        ¬stageTree.InDirectory "/stage" "" [name] := by
  have hone : (twoPieces.execute climbing stageTree).requests.map
      (fun q => q.2.get? ["tmp_y-1" ++ suffix 0]) = [some (.file 0)] := by decide +kernel
  obtain ⟨q, hq, hfile⟩ := List.map_eq_singleton_iff.1 hone
  have hstage : stageTree.resolve "/stage" = .ok (.place ["stage"]) := by decide +kernel
  refine ⟨rfl, q, _, hq, by decide +kernel, hfile, ?_⟩
  rintro ⟨p, rest, hp, hplace⟩
  obtain rfl := Spot.place.inj (Except.ok.inj (hstage.symm.trans hp))
  exact absurd (congrArg List.length hplace) (by simp)

/-- A file that is staged in its directory, and one that is staged where its kind leads. -/
theorem staged_inside_iff_both :
    stageTree.WellFormed ∧ twoPieces.node.isSecondary = true ∧
      twoPieces.node.primary? = some ⟨"http://primary"⟩ ∧
      (∃ q ∈ (twoPieces.execute movedAway stageTree).requests, ∃ p, q.2.get? p = some (.file 0) ∧
        stageTree.InDirectory "/" "tmp_upload-1" p) ∧
      ∃ q ∈ (twoPieces.execute climbing stageTree).requests, ∃ p, q.2.get? p = some (.file 0) ∧
        stageTree.InDirectory "/stage/tmp_x/../.." "tmp_y-1" p := by
  have hmoved : (twoPieces.execute movedAway stageTree).requests ≠ [] := by decide +kernel
  have hclimbing : (twoPieces.execute climbing stageTree).requests ≠ [] := by decide +kernel
  refine ⟨wellFormed_stageTree, rfl, rfl, ?_, ?_⟩
  · obtain ⟨hnone, -⟩ | ⟨d', temp, p, name, hone, hstaged, hiff, -⟩ :=
      staged_inside_iff (b := movedAway) twoPieces wellFormed_stageTree rfl rfl rfl rfl
    · exact absurd hnone hmoved
    · refine ⟨_, hone ▸ List.mem_singleton_self _, p ++ [name], ?_, hiff.2 (by decide)⟩
      rw [hstaged.get?_self, hstaged.id_eq]
      rfl
  · obtain ⟨hnone, -⟩ | ⟨d', temp, p, name, hone, hstaged, -, hbelow⟩ :=
      staged_inside_iff (b := climbing) twoPieces wellFormed_stageTree rfl rfl rfl rfl
    · exact absurd hnone hclimbing
    · refine ⟨_, hone ▸ List.mem_singleton_self _, p ++ [name], ?_,
        hbelow "x/../.." "tmp_y" (by decide) (by decide)⟩
      rw [hstaged.get?_self, hstaged.id_eq]
      rfl

end Downloader

end Replica
