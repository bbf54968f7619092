import Mathlib.Data.List.Basic
import Replica.Disk.Tree

/-!
# The parts of a path

Paths are texts, but where one leads depends on its parts alone, on whether it is absolute, and on
a slash at its end.

* `Path.partsOf`: the parts of a list of characters; **`Path.partsOf_append_slash`**: those on the
  two sides of a slash;
* `Path.mem_parts`: no part is empty or has a slash in it;
* **`Path.parts_join`**, `Path.parts_join_name`, **`Path.parts_placeText`**: the paths that are put
  together here;
* `Path.slashed`, **`Path.join_join`**: a path below a path below another one;
* **`Path.parts_of_parent?`**: a path is its parent with one more part, apart from dots;
* `Path.prefix_of_parent?`: its text begins with that of its parent;
* `Path.append_slash_inj`: what is behind the last slash of a text, and what is before it.
-/

namespace Replica.Path

/-! ## Splitting -/

theorem split_append_slash (as bs : List Char) :
    split (as ++ '/' :: bs) = split as ++ split bs := by
  induction as with
  | nil => simp [split]
  | cons c as ih =>
    rw [List.cons_append, split, split, ih]
    split
    · rfl
    · cases h : split as with
      | nil => exact absurd h (split_ne_nil as)
      | cons p ps => rfl

theorem split_of_notMem {cs : List Char} (h : '/' ∉ cs) : split cs = [cs] := by
  induction cs with
  | nil => rfl
  | cons c cs ih =>
    rw [List.mem_cons, not_or] at h
    rw [split, if_neg (Ne.symm h.1), ih h.2]

theorem head?_of_notMem {cs : List Char} (h : '/' ∉ cs) : (cs.head? == some '/') = false := by
  cases cs with
  | nil => rfl
  | cons c cs =>
    rw [List.mem_cons, not_or] at h
    simp [Ne.symm h.1]

theorem slash_notMem_of_mem_split {cs p : List Char} (h : p ∈ split cs) : '/' ∉ p := by
  induction cs generalizing p with
  | nil => simp_all [split]
  | cons c cs ih =>
    rw [split] at h
    split at h
    · rcases List.mem_cons.1 h with rfl | h
      · exact List.not_mem_nil
      · exact ih h
    · rename_i hc
      cases hs : split cs with
      | nil => exact absurd hs (split_ne_nil cs)
      | cons q qs =>
        rw [hs] at h ih
        rcases List.mem_cons.1 h with rfl | h
        · exact fun e => (List.mem_cons.1 e).elim (fun e => hc e.symm) (ih List.mem_cons_self)
        · exact ih (List.mem_cons_of_mem _ h)

/-! ## Parts -/

/-- The pieces that are not empty, as texts. -/
def counted (pieces : List (List Char)) : List String :=
  (pieces.filter fun p => !p.isEmpty).map String.ofList

/-- The parts of a list of characters. -/
def partsOf (cs : List Char) : List String := counted (split cs)

theorem parts_eq (path : String) : parts path = partsOf path.toList := rfl

theorem counted_append (ps qs : List (List Char)) :
    counted (ps ++ qs) = counted ps ++ counted qs := by
  rw [counted, List.filter_append, List.map_append]
  rfl

theorem counted_cons (p : List Char) (ps : List (List Char)) :
    counted (p :: ps) = counted [p] ++ counted ps :=
  counted_append [p] ps

/-- **The parts on the two sides of a slash.** -/
theorem partsOf_append_slash (as bs : List Char) :
    partsOf (as ++ '/' :: bs) = partsOf as ++ partsOf bs := by
  rw [partsOf, split_append_slash, counted_append]
  rfl

theorem partsOf_of_notMem {cs : List Char} (h : '/' ∉ cs) : partsOf cs = counted [cs] := by
  rw [partsOf, split_of_notMem h]

theorem parts_append_slash (above below : String) :
    parts (above ++ ("/" ++ below)) = parts above ++ parts below := by
  rw [parts_eq, String.toList_append, String.toList_append]
  exact partsOf_append_slash above.toList below.toList

theorem mem_parts {path part : String} (h : part ∈ parts path) : part ≠ "" ∧ '/' ∉ part.toList := by
  obtain ⟨p, hp, rfl⟩ := List.mem_map.1 h
  obtain ⟨hs, hne⟩ := List.mem_filter.1 hp
  refine ⟨fun e => ?_, by simpa using slash_notMem_of_mem_split hs⟩
  rw [String.ofList_eq_empty_iff] at e
  simp [e] at hne

theorem steps_eq_parts {path : String} (h : endsInSlash path = false) :
    steps path = parts path := by
  rw [steps, h, if_neg Bool.false_ne_true]

theorem parts_name {name : String} (h : '/' ∉ name.toList) (hne : name ≠ "") :
    parts name = [name] := by
  rw [parts_eq, partsOf_of_notMem h, counted]
  simp [hne]

theorem partsOf_unsplit {pieces : List (List Char)} (h : ∀ p ∈ pieces, '/' ∉ p) :
    partsOf (unsplit pieces) = counted pieces := by
  induction pieces with
  | nil => rfl
  | cons p ps ih =>
    have hp := h p List.mem_cons_self
    cases ps with
    | nil => simpa [unsplit] using partsOf_of_notMem hp
    | cons q qs =>
      have hu : unsplit (p :: q :: qs) = p ++ '/' :: unsplit (q :: qs) := by
        simp [unsplit, List.intercalate, List.intersperse]
      rw [hu, partsOf_append_slash, partsOf_of_notMem hp, counted_cons p (q :: qs),
        ih fun r hr => h r (List.mem_cons_of_mem _ hr)]

/-! ## Paths put together -/

/-- **A relative path below another path.** -/
theorem parts_join {dir path : String} (h : isAbsolute path = false) :
    parts (join dir path) = parts dir ++ parts path := by
  rw [join, h, if_neg (by simp)]
  split
  · rename_i hd
    rw [Bool.or_eq_true, String.isEmpty_iff, beq_iff_eq] at hd
    rcases hd with rfl | hd
    · simp [parts_eq, partsOf, split, counted]
    · obtain ⟨cs, hcs⟩ := List.getLast?_eq_some_iff.1 hd
      rw [parts_eq, parts_eq dir, String.toList_append, hcs, List.append_assoc,
        List.singleton_append, partsOf_append_slash, partsOf_append_slash]
      simp [parts_eq, partsOf, split, counted]
  · rw [String.append_assoc, parts_append_slash]

theorem parts_join_name (dir : String) {name : String} (h : '/' ∉ name.toList) (hne : name ≠ "") :
    parts (join dir name) = parts dir ++ [name] := by
  rw [parts_join (head?_of_notMem h), parts_name h hne]

theorem isAbsolute_append {dir : String} (h : dir ≠ "") (path : String) :
    isAbsolute (dir ++ path) = isAbsolute dir := by
  rw [isAbsolute, isAbsolute, String.toList_append]
  cases hd : dir.toList with
  | nil => exact absurd (String.toList_eq_nil_iff.1 hd) h
  | cons c cs => rfl

/-- The path with a slash behind it, if it is not empty and has none. -/
def slashed (path : String) : String :=
  if path.isEmpty || path.toList.getLast? == some '/' then path else path ++ "/"

theorem slashed_eq_append (path : String) : ∃ rest, slashed path = path ++ rest := by
  rw [slashed]
  split
  · exact ⟨"", String.append_empty.symm⟩
  · exact ⟨"/", rfl⟩

theorem slashed_append (a b : String) : slashed (slashed a ++ b) = slashed a ++ slashed b := by
  by_cases hb : b = ""
  · have hlast : (slashed a).isEmpty || (slashed a).toList.getLast? == some '/' := by
      rw [slashed]
      split
      · assumption
      · simp [String.toList_append]
    rw [hb, String.append_empty, slashed, if_pos hlast]
    exact String.append_empty.symm
  · -- what `b` ends in decides
    have hlast : (slashed a ++ b).toList.getLast? = b.toList.getLast? := by
      rw [String.toList_append, List.getLast?_append_of_ne_nil _ (mt String.toList_eq_nil_iff.1 hb)]
    have hempty : (slashed a ++ b).isEmpty = b.isEmpty := by
      rw [Bool.eq_iff_iff, String.isEmpty_iff, String.isEmpty_iff, String.append_eq_empty_iff]
      exact ⟨fun h => h.2, fun h => absurd h hb⟩
    rw [slashed.eq_1 (slashed a ++ b), hlast, hempty, slashed.eq_1 b]
    split
    · rfl
    · rw [String.append_assoc]

theorem join_of_relative (dir : String) {path : String} (h : isAbsolute path = false) :
    join dir path = slashed dir ++ path := by
  rw [join, h, if_neg Bool.false_ne_true, slashed]
  split <;> rfl

theorem isAbsolute_join_of_relative (dir : String) {path : String} (h : isAbsolute path = false) :
    isAbsolute (join dir path) = isAbsolute dir := by
  rw [join_of_relative dir h]
  by_cases hdir : dir = ""
  · rw [hdir]
    exact h
  · obtain ⟨rest, hrest⟩ := slashed_eq_append dir
    rw [hrest, String.append_assoc, isAbsolute_append hdir]

theorem isAbsolute_join {dir path : String} (h : isAbsolute dir = true) :
    isAbsolute (join dir path) = true := by
  cases hp : isAbsolute path with
  | true => rw [join, if_pos hp, hp]
  | false => rw [isAbsolute_join_of_relative dir hp, h]

/-- **A path below a path** that is below a directory. -/
theorem join_join (dir : String) {a b : String} (ha : isAbsolute a = false)
    (hb : isAbsolute b = false) : join (join dir a) b = join dir (join a b) := by
  have hab : isAbsolute (join a b) = false := (isAbsolute_join_of_relative a hb).trans ha
  calc join (join dir a) b = slashed (slashed dir ++ a) ++ b := by
        rw [join_of_relative dir ha, join_of_relative _ hb]
    _ = slashed dir ++ (slashed a ++ b) := by rw [slashed_append, String.append_assoc]
    _ = join dir (join a b) := by rw [join_of_relative dir hab, join_of_relative a hb]

theorem isAbsolute_placeText (p : Place) : isAbsolute (Disk.placeText p) = true := by
  simp [isAbsolute, Disk.placeText, String.toList_append]

theorem counted_map_toList {names : List String} (h : ∀ name ∈ names, name ≠ "") :
    counted (names.map String.toList) = names := by
  induction names with
  | nil => rfl
  | cons name names ih =>
    rw [List.map_cons, counted_cons, ih fun n hn => h n (List.mem_cons_of_mem _ hn)]
    simp [counted, h name List.mem_cons_self]

/-- **The path to a place** whose names can be parts of a path. -/
theorem parts_placeText {p : Place} (h : ∀ name ∈ p, name ≠ "" ∧ '/' ∉ name.toList) :
    parts (Disk.placeText p) = p := by
  have ht : (Disk.placeText p).toList = [] ++ '/' :: unsplit (p.map String.toList) := by
    simp [Disk.placeText, String.toList_append, String.toList_intercalate, unsplit]
  rw [parts_eq, ht, partsOf_append_slash, partsOf_unsplit,
    counted_map_toList fun n hn => (h n hn).1]
  · rfl
  · intro cs hcs
    obtain ⟨name, hn, rfl⟩ := List.mem_map.1 hcs
    exact (h name hn).2

/-! ## Parents -/

/-- Parts that are all dots. They lead from where they begin to the same place. -/
def Dots (steps : List String) : Prop := ∀ step ∈ steps, step = "."

theorem dots_nil : Dots [] := fun _ h => absurd h List.not_mem_nil

theorem dots_counted {pieces : List (List Char)} (h : ∀ p ∈ pieces, isIdle p = true) :
    Dots (counted pieces) := by
  intro step hs
  obtain ⟨p, hp, rfl⟩ := List.mem_map.1 hs
  obtain ⟨hm, hne⟩ := List.mem_filter.1 hp
  have hi := h p hm
  simp only [isIdle, Bool.or_eq_true, beq_iff_eq] at hi
  rcases hi with hi | rfl
  · simp [hi] at hne
  · rfl

theorem dropIdle_append (pieces : List (List Char)) :
    ∃ idle, pieces = dropIdle pieces ++ idle ∧ ∀ p ∈ idle, isIdle p = true := by
  refine ⟨(pieces.reverse.takeWhile isIdle).reverse, ?_, fun p hp => ?_⟩
  · rw [dropIdle, ← List.reverse_append, List.takeWhile_append_dropWhile, List.reverse_reverse]
  · exact List.all_eq_true.1 List.all_takeWhile p (List.mem_reverse.1 hp)

theorem isIdle_of_dropIdle {pieces init : List (List Char)} {last : List Char}
    (h : dropIdle pieces = init ++ [last]) : isIdle last = false := by
  have hr : pieces.reverse.dropWhile isIdle = last :: init.reverse := by
    rw [dropIdle] at h
    simpa using congrArg List.reverse h
  have := List.head?_dropWhile_not isIdle pieces.reverse
  rwa [hr] at this

theorem counted_of_not_isIdle {piece : List Char} (h : isIdle piece = false) :
    counted [piece] = [String.ofList piece] := by
  simp only [isIdle, Bool.or_eq_false_iff] at h
  simp [counted, h.1]

theorem partsOf_nil : partsOf [] = [] := rfl

theorem partsOf_first {first : List Char} (h : '/' ∉ first) :
    partsOf (if first.isEmpty then ['/'] else first) = counted [first] := by
  by_cases hf : first = []
  · subst hf
    rfl
  · rw [if_neg (by simpa using hf), partsOf_of_notMem h]

/-- **A path is its parent with one more part**, apart from dots before and after that. That part
is a dot only if it is the first one. -/
theorem parts_of_parent? {path par : String} (h : parent? path = some par) :
    ∃ dots last rest, parts path = parts par ++ dots ++ last :: rest ∧ Dots dots ∧ Dots rest ∧
      (last = "." → par = "") := by
  have hslash : ∀ p ∈ split path.toList, '/' ∉ p := fun p hp => slash_notMem_of_mem_split hp
  have hparts : parts path = counted (split path.toList) := rfl
  rw [parent?] at h
  cases hsplit : split path.toList with
  | nil => exact absurd hsplit (split_ne_nil _)
  | cons first others =>
    rw [hsplit] at h hslash hparts
    obtain ⟨text, htext, rfl⟩ := Option.map_eq_some_iff.1 h
    obtain ⟨idle, hothers, hidle⟩ := dropIdle_append others
    rw [hparts, parts_eq, String.toList_ofList]
    rw [parentOf] at htext
    split at htext
    · -- only the first piece counts
      rename_i hc
      split at htext
      · cases htext
      · rename_i hf
        obtain rfl := Option.some.inj htext
        rw [hc, List.nil_append] at hothers
        refine ⟨[], String.ofList first, counted others, ?_, dots_nil, ?_, fun _ => rfl⟩
        · rw [counted_cons, partsOf_nil]
          simp [counted, hf]
        · exact dots_counted (hothers ▸ hidle)
    · -- the last piece that counts is among the others
      rename_i pieces hne
      obtain ⟨init, last, hc⟩ : ∃ init last, dropIdle others = init ++ [last] :=
        (List.eq_nil_or_concat' _).resolve_left hne
      obtain ⟨idle', hinit, hidle'⟩ := dropIdle_append init
      have habove : partsOf text = counted (first :: dropIdle init) := by
        rw [hc, List.dropLast_concat] at htext
        split at htext
        · rename_i he
          rw [← Option.some.inj htext, he]
          exact partsOf_first (hslash first List.mem_cons_self)
        · rw [← Option.some.inj htext]
          refine partsOf_unsplit fun p hp => hslash p ?_
          rw [hothers, hc, hinit]
          rcases List.mem_cons.1 hp with rfl | hp
          · exact List.mem_cons_self
          · simp [hp]
      have hlast : String.ofList last ≠ "." := by
        intro h
        have := isIdle_of_dropIdle hc
        rw [← String.toList_ofList (l := last), h] at this
        exact absurd this (by decide)
      refine ⟨counted idle', String.ofList last, counted idle, ?_, dots_counted hidle',
        dots_counted hidle, fun h => absurd h hlast⟩
      have hl : counted [last] = [String.ofList last] :=
        counted_of_not_isIdle (isIdle_of_dropIdle hc)
      calc counted (first :: others)
          = counted ((first :: dropIdle init) ++ idle' ++ [last] ++ idle) := by
            rw [List.cons_append, List.cons_append, List.cons_append, ← hinit, ← hc, ← hothers]
        _ = partsOf text ++ counted idle' ++ String.ofList last :: counted idle := by
            rw [counted_append, counted_append, counted_append, hl, habove, List.append_assoc _ [_],
              List.singleton_append]

theorem init_eq {before rest init : List String} {last name : String}
    (h : before ++ last :: rest = init ++ [name]) (hrest : Dots rest) (hname : name ≠ ".") :
    init = before := by
  rcases List.eq_nil_or_concat' rest with rfl | ⟨mid, dot, rfl⟩
  · exact (List.append_inj' h rfl).1.symm
  · rw [← List.cons_append, ← List.append_assoc] at h
    obtain ⟨-, hdot⟩ := List.append_inj' h rfl
    exact absurd ((List.cons.inj hdot).1 ▸ hrest dot (by simp)) hname

theorem dots_of_parent? {path : String} (h : parent? path = none) : Dots (parts path) := by
  have hparts : parts path = counted (split path.toList) := rfl
  rw [parent?] at h
  cases hsplit : split path.toList with
  | nil => exact absurd hsplit (split_ne_nil _)
  | cons first others =>
    rw [hsplit] at h hparts
    have ho : parentOf first others = none := Option.map_eq_none_iff.1 h
    obtain ⟨idle, hothers, hidle⟩ := dropIdle_append others
    rw [parentOf] at ho
    split at ho
    · rename_i hc
      split at ho
      · rename_i hf
        rw [hparts, counted_cons, List.isEmpty_iff.1 hf]
        exact dots_counted (hothers.trans (by rw [hc, List.nil_append]) ▸ hidle)
      · cases ho
    · split at ho <;> cases ho

/-! ## Absolute paths -/

theorem isAbsolute_ofList (cs : List Char) :
    isAbsolute (String.ofList cs) = (cs.head? == some '/') := by
  rw [isAbsolute, String.toList_ofList]

theorem head?_of_split {cs first : List Char} {others : List (List Char)}
    (h : split cs = first :: others) :
    (cs.head? == some '/') = (first.isEmpty && !others.isEmpty) := by
  cases cs with
  | nil =>
    obtain ⟨rfl, rfl⟩ := List.cons.inj h
    rfl
  | cons c cs =>
    rw [split] at h
    split at h
    · rename_i hc
      obtain ⟨rfl, rfl⟩ := List.cons.inj h
      simp [hc, split_ne_nil]
    · rename_i hc
      cases hs : split cs with
      | nil => exact absurd hs (split_ne_nil cs)
      | cons p ps =>
        rw [hs] at h
        obtain ⟨rfl, -⟩ := List.cons.inj h
        simp [hc]

/-- **The parent of an absolute path is absolute**, and only of such a path. -/
theorem isAbsolute_of_parent? {path par : String} (h : parent? path = some par) :
    isAbsolute par = isAbsolute path := by
  have hslash : ∀ p ∈ split path.toList, '/' ∉ p := fun p hp => slash_notMem_of_mem_split hp
  rw [parent?] at h
  cases hsplit : split path.toList with
  | nil => exact absurd hsplit (split_ne_nil _)
  | cons first others =>
    rw [hsplit] at h hslash
    have hf : '/' ∉ first := hslash first List.mem_cons_self
    obtain ⟨text, htext, rfl⟩ := Option.map_eq_some_iff.1 h
    rw [isAbsolute_ofList, isAbsolute, head?_of_split hsplit]
    rw [parentOf] at htext
    split at htext
    · split at htext
      · cases htext
      · rename_i hne
        rw [← Option.some.inj htext]
        simp [hne]
    · rename_i hne
      have ho : others ≠ [] := fun e => hne (by rw [e]; rfl)
      split at htext
      · rw [← Option.some.inj htext]
        by_cases he : first = []
        · simp [he, ho]
        · simp [he, head?_of_notMem hf]
      · rename_i above habove
        rw [← Option.some.inj htext]
        cases hd : dropIdle (dropIdle others).dropLast with
        | nil => exact absurd hd habove
        | cons a above =>
          cases first with
          | nil => simp [unsplit, List.intercalate, List.intersperse, ho]
          | cons c first =>
            rw [List.mem_cons, not_or] at hf
            simp [unsplit, List.intercalate, List.intersperse, Ne.symm hf.1]

/-! ## The text of a parent -/

theorem unsplit_cons {p : List Char} {ps : List (List Char)} (h : ps ≠ []) :
    unsplit (p :: ps) = p ++ '/' :: unsplit ps := by
  cases ps with
  | nil => exact absurd rfl h
  | cons q qs => simp [unsplit, List.intercalate, List.intersperse]

theorem unsplit_split (cs : List Char) : unsplit (split cs) = cs := by
  induction cs with
  | nil => rfl
  | cons c cs ih =>
    rw [split]
    split
    · rename_i hc
      rw [unsplit_cons (split_ne_nil cs), ih, hc, List.nil_append]
    · split
      · rename_i hs
        exact absurd hs (split_ne_nil cs)
      · rename_i p ps hs
        rw [hs] at ih
        rw [← ih]
        cases ps with
        | nil => simp [unsplit]
        | cons q qs => simp [unsplit_cons]

/-- **The last slash** of a text. -/
theorem append_slash_inj {as bs as' bs' : List Char} (h : '/' ∉ bs) (h' : '/' ∉ bs') :
    as ++ '/' :: bs = as' ++ '/' :: bs' ↔ as = as' ∧ bs = bs' := by
  refine ⟨fun heq => ?_, fun ⟨ha, hb⟩ => ha ▸ hb ▸ rfl⟩
  have hsplit := congrArg split heq
  rw [split_append_slash, split_append_slash, split_of_notMem h, split_of_notMem h'] at hsplit
  obtain ⟨has, hbs⟩ := List.append_inj' hsplit rfl
  refine ⟨?_, (List.cons.inj hbs).1⟩
  rw [← unsplit_split as, has, unsplit_split]

theorem unsplit_prefix_append {ps : List (List Char)} (h : ps ≠ []) (qs : List (List Char)) :
    unsplit ps <+: unsplit (ps ++ qs) := by
  induction ps with
  | nil => exact absurd rfl h
  | cons p ps ih =>
    by_cases hps : ps = []
    · subst hps
      by_cases hqs : qs = []
      · exact ⟨[], by simp [hqs]⟩
      · rw [List.cons_append, List.nil_append, unsplit_cons hqs]
        simp [unsplit]
    · rw [List.cons_append, unsplit_cons hps, unsplit_cons (by simp [hps])]
      exact (List.prefix_append_right_inj _).2 (List.cons_prefix_cons.2 ⟨rfl, ih hps⟩)

/-- **A path begins with its parent.** -/
theorem prefix_of_parent? {path par : String} (h : parent? path = some par) :
    par.toList <+: path.toList := by
  have hpath : unsplit (split path.toList) = path.toList := unsplit_split _
  rw [parent?] at h
  cases hsplit : split path.toList with
  | nil => exact absurd hsplit (split_ne_nil _)
  | cons first others =>
    rw [hsplit] at h hpath
    obtain ⟨text, htext, rfl⟩ := Option.map_eq_some_iff.1 h
    obtain ⟨idle, hothers, -⟩ := dropIdle_append others
    rw [String.toList_ofList, ← hpath]
    rw [parentOf] at htext
    split at htext
    · split at htext
      · cases htext
      · obtain rfl := Option.some.inj htext
        exact List.nil_prefix
    · rename_i hne
      obtain ⟨idle', hinit, -⟩ := dropIdle_append (dropIdle others).dropLast
      have hfirst : unsplit [first] <+: unsplit (first :: others) :=
        unsplit_prefix_append (List.cons_ne_nil _ _) others
      split at htext
      · rw [← Option.some.inj htext]
        split
        · rename_i hf
          have ho : others ≠ [] := fun e => hne (by rw [e]; rfl)
          rw [List.isEmpty_iff.1 hf, unsplit_cons ho]
          exact List.cons_prefix_cons.2 ⟨rfl, List.nil_prefix⟩
        · simpa [unsplit] using hfirst
      · rename_i above habove
        rw [← Option.some.inj htext]
        obtain ⟨last, hlast⟩ : ∃ last, dropIdle others = (dropIdle others).dropLast ++ last :=
          ⟨_, (List.dropLast_append_getLast (by simpa using hne)).symm⟩
        have : others = dropIdle (dropIdle others).dropLast ++ (idle' ++ last ++ idle) := by
          conv_lhs => rw [hothers, hlast, hinit]
          simp
        conv_rhs => rw [this]
        exact unsplit_prefix_append (List.cons_ne_nil _ _) _

theorem ancestors_eq_cons (path : String) : ∃ above, ancestors path = path :: above := by
  rw [ancestors]
  cases (parts path).length with
  | zero => exact ⟨[], rfl⟩
  | succ limit =>
    rw [ancestorsUpTo]
    split
    · exact ⟨_, rfl⟩
    · exact ⟨[], rfl⟩

end Replica.Path
