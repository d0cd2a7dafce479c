import Mathlib.Data.List.TakeWhile
import PropertyStore.Files.Replacement

namespace PropertyStore.Files.Path

variable {path name segment other : String} {above after : List String}

private theorem not_mem_of_mem_splitOn {mark : Char} {text part : List Char}
    (member : part ∈ text.splitOn mark) : mark ∉ part := by
  induction text generalizing part with
  | nil =>
    obtain rfl : part = [] := by simpa using member
    exact List.not_mem_nil
  | cons c rest ih =>
    rw [List.splitOn_cons_eq_if_modifyHead] at member
    split at member
    · rcases List.mem_cons.mp member with rfl | later
      · exact List.not_mem_nil
      · exact ih later
    · rename_i other
      obtain ⟨first, parts, same⟩ := List.exists_cons_of_ne_nil (List.splitOn_ne_nil mark rest)
      rw [same, List.modifyHead_cons] at member
      rcases List.mem_cons.mp member with rfl | later
      · have absent := ih (same ▸ List.mem_cons_self)
        have differ : mark ≠ c := fun same => other (beq_iff_eq.mpr same.symm)
        exact List.not_mem_cons_of_ne_of_not_mem differ absent
      · exact ih (same ▸ List.mem_cons_of_mem _ later)

theorem not_mem_segment (member : segment ∈ segments path) : '/' ∉ segment.toList := by
  obtain ⟨part, present, rfl⟩ := List.mem_map.mp member
  rw [String.toList_ofList]
  exact not_mem_of_mem_splitOn present

theorem segments_intercalate (names : List String) (some : names ≠ [])
    (plain : ∀ name ∈ names, '/' ∉ name.toList) : segments ("/".intercalate names) = names := by
  have split : ("/".intercalate names).toList.splitOn '/' = names.map String.toList := by
    rw [String.toList_intercalate]
    apply List.splitOn_intercalate
    · simpa using plain
    · simpa using some
  rw [segments, split, List.map_map]
  simp [Function.comp_def]

theorem intercalate_segments (path : String) : "/".intercalate (segments path) = path := by
  apply String.toList_injective
  have joined : ['/'].intercalate (path.toList.splitOn '/') = path.toList :=
    List.intercalate_splitOn '/'
  rw [String.toList_intercalate, segments, List.map_map]
  simp [Function.comp_def, joined]

/-- A path to a name that stays where it is `count` times before it comes to the name. -/
def dotted (count : Nat) (name : String) : String :=
  "/".intercalate (List.replicate count "." ++ [name])

theorem segments_dotted (count : Nat) (plain : '/' ∉ name.toList) :
    segments (dotted count name) = List.replicate count "." ++ [name] := by
  apply segments_intercalate _ (by simp)
  intro segment member
  rcases List.mem_append.mp member with idle | last
  · rw [List.eq_of_mem_replicate idle]
    decide
  · rwa [List.mem_singleton.mp last]

private theorem dotted_succ (count : Nat) (name : String) :
    dotted (count + 1) name = "./" ++ dotted count name := by
  rw [dotted, List.replicate_succ, List.cons_append, String.intercalate_cons_of_ne_nil (by simp)]
  rfl

theorem utf8ByteSize_dotted (count : Nat) (name : String) :
    (dotted count name).utf8ByteSize = 2 * count + name.utf8ByteSize := by
  induction count with
  | zero => simp [dotted]
  | succ count ih =>
    rw [dotted_succ, String.utf8ByteSize_append, ih]
    have two : "./".utf8ByteSize = 2 := by decide
    omega

theorem not_mem_dotted {c : Char} (count : Nat) (plain : c ∉ name.toList) (dot : c ≠ '.')
    (slash : c ≠ '/') : c ∉ (dotted count name).toList := by
  induction count with
  | zero => simpa [dotted] using plain
  | succ count ih =>
    rw [dotted_succ, String.toList_append, List.mem_append, not_or]
    exact ⟨by simp [dot, slash], ih⟩

theorem isAbsolute_of_segments (parts : segments path = first :: rest)
    (more : first ≠ "" ∨ rest ≠ []) : isAbsolute path = decide (first = "") := by
  cases same : path.toList with
  | nil =>
    rw [segments, same] at parts
    rcases more with named | several
    · exact (named (List.cons.inj parts).1.symm).elim
    · exact (several (List.cons.inj parts).2.symm).elim
  | cons c others =>
    rw [segments, same, List.splitOn_cons_eq_if_modifyHead] at parts
    by_cases slash : c = '/'
    · subst slash
      rw [if_pos (by decide), List.map_cons] at parts
      have empty : first = "" := (List.cons.inj parts).1.symm
      simp [isAbsolute, same, empty]
    · have named : first ≠ "" := by
        obtain ⟨part, later, split⟩ :=
          List.exists_cons_of_ne_nil (List.splitOn_ne_nil '/' others)
        rw [if_neg (by simpa using slash), split, List.modifyHead_cons, List.map_cons] at parts
        intro empty
        have spelled := (List.cons.inj parts).1.trans empty
        exact absurd (congrArg String.toList spelled) (by simp)
      simp [isAbsolute, same, slash, named]

/-- A path that names something: after the last name that leads anywhere stand only idle
segments. -/
structure Names (path : String) (above : List String) (name : String) (after : List String) :
    Prop where
  whole : segments path = above ++ name :: after
  moves : isIdle name = false
  down : name ≠ ".."
  idle : ∀ segment ∈ after, isIdle segment

private theorem eq_append_idle (parts : List String) :
    ∃ idles, parts = (parts.reverse.dropWhile isIdle).reverse ++ idles ∧
      ∀ segment ∈ idles, isIdle segment := by
  refine ⟨(parts.reverse.takeWhile isIdle).reverse, ?_, ?_⟩
  · rw [← List.reverse_append, List.takeWhile_append_dropWhile, List.reverse_reverse]
  · intro segment member
    have idle := List.all_takeWhile (p := isIdle) (l := parts.reverse)
    exact List.all_eq_true.mp idle segment (List.mem_reverse.mp member)

private theorem names_of_fileName? (named : fileName? path = some name) :
    ∃ above after, Names path above name after := by
  obtain ⟨idles, whole, idle⟩ := eq_append_idle (segments path)
  cases same : climb path with
  | nil => simp [fileName?, same] at named
  | cons last before =>
    have moves : isIdle last = false := by
      have first := List.head?_dropWhile_not isIdle (segments path).reverse
      rw [← climb, same] at first
      simpa using first
    have down : last ≠ ".." := by
      rintro rfl
      simp [fileName?, same] at named
    have found : last = name := by
      rw [fileName?, same] at named
      split at named
      · cases named
      · cases named
      · rename_i found
        cases found
        exact Option.some.inj named
    rw [← climb, same, List.reverse_cons, List.append_assoc] at whole
    exact ⟨before.reverse, idles, whole.trans (by rw [found]; rfl), found ▸ moves, found ▸ down, idle⟩

theorem Names.climb (names : Names path above name after) :
    climb path = name :: above.reverse := by
  rw [Path.climb, names.whole, List.reverse_append, List.reverse_cons, List.append_assoc,
    List.dropWhile_append_of_pos]
  · simp [names.moves]
  · simpa using names.idle

private theorem temporaryName (name : String) :
    isIdle (name ++ temporarySuffix) = false ∧ name ++ temporarySuffix ≠ ".." := by
  have long : 4 ≤ (name ++ temporarySuffix).toList.length := by
    rw [String.toList_append, List.length_append]
    exact Nat.le_add_left 4 _
  constructor
  · rw [isIdle, Bool.or_eq_false_iff, decide_eq_false_iff_not, decide_eq_false_iff_not]
    constructor
    · intro empty
      rw [empty] at long
      contradiction
    · intro dot
      rw [dot] at long
      contradiction
  · intro dots
    rw [dots] at long
    contradiction

theorem name_ne_temporaryName (name : String) : name ++ temporarySuffix ≠ name := by
  intro same
  have longer := congrArg (fun text => text.toList.length) same
  simp only [String.toList_append, List.length_append] at longer
  exact absurd longer (Nat.ne_of_gt (Nat.lt_add_of_pos_right (by decide)))

private theorem not_mem_temporaryName (plain : '/' ∉ name.toList) :
    '/' ∉ (name ++ temporarySuffix).toList := by
  have suffix : '/' ∉ temporarySuffix.toList := by
    decide
  rw [String.toList_append, List.mem_append]
  exact fun either => either.elim plain suffix

private theorem join_intercalate (above : List String) (last name : String) (named : last ≠ "")
    (plain : '/' ∉ last.toList) :
    join ("/".intercalate (above ++ [last])) name = "/".intercalate (above ++ [last, name]) := by
  have whole : ∃ front, ("/".intercalate (above ++ [last])).toList = front ++ last.toList := by
    by_cases first : above = []
    · exact ⟨[], by simp [first]⟩
    · exact ⟨_, by rw [String.intercalate_append_of_ne_nil first (by simp), String.toList_append,
        String.intercalate_singleton]⟩
  obtain ⟨front, whole⟩ := whole
  have ending : last.toList ≠ [] := by simpa using named
  have full : "/".intercalate (above ++ [last]) ≠ "" := by
    intro empty
    rw [empty] at whole
    exact ending (List.append_eq_nil_iff.mp whole.symm).2
  have unslashed : ("/".intercalate (above ++ [last])).toList.getLast? ≠ some '/' := by
    rw [whole, List.getLast?_append, List.getLast?_eq_some_getLast ending, Option.some_or]
    intro slash
    exact plain (Option.some.inj slash ▸ List.getLast_mem ending)
  have closed : ¬ (decide ("/".intercalate (above ++ [last]) = "") ||
      decide (("/".intercalate (above ++ [last])).toList.getLast? = some '/')) = true := by
    rw [Bool.or_eq_true, decide_eq_true_iff, decide_eq_true_iff]
    exact fun either => either.elim full unslashed
  have apart := String.intercalate_append_of_ne_nil (l := above ++ [last]) (m := [name])
    (s := "/") (by simp) (by simp)
  rw [join, if_neg closed, ← String.intercalate_singleton (s := "/") (t := name), ← apart]
  simp

theorem Names.plain (names : Names path above name after) (member : segment ∈ above ∨ segment = name) :
    '/' ∉ segment.toList := by
  have among : segment ∈ segments path := by
    rw [names.whole]
    rcases member with member | rfl
    · exact List.mem_append_left _ member
    · exact List.mem_append_right _ List.mem_cons_self
  exact not_mem_segment among

theorem ne_of_isIdle (moves : isIdle segment = false) (idle : isIdle other = true) :
    segment ≠ other := by
  intro same
  rw [same, idle] at moves
  cases moves

theorem Names.ne_empty (names : Names path above name after) : name ≠ "" :=
  ne_of_isIdle names.moves rfl

theorem Names.ne_dot (names : Names path above name after) : name ≠ "." :=
  ne_of_isIdle names.moves rfl

theorem Names.idle_above (names : Names path above name after)
    (idle : ∀ segment ∈ above, isIdle segment) :
    (isAbsolute path = true ∧ ∃ more, above = "" :: more) ∨
      (isAbsolute path = false ∧ (segments path).head? = some "." ∧ ∃ more, above = "." :: more) ∨
      (isAbsolute path = false ∧ (segments path).head? ≠ some "." ∧ above = []) := by
  have whole := names.whole
  cases above with
  | nil =>
    have relative := isAbsolute_of_segments whole (.inl names.ne_empty)
    rw [decide_eq_false names.ne_empty] at relative
    refine .inr (.inr ⟨relative, ?_, rfl⟩)
    rw [whole]
    intro dot
    exact names.ne_dot (Option.some.inj dot)
  | cons first more =>
    have absolute := isAbsolute_of_segments whole (.inr (by simp))
    have either : first = "" ∨ first = "." := by
      simpa [isIdle] using idle first List.mem_cons_self
    rcases either with rfl | rfl
    · exact .inl ⟨absolute, more, rfl⟩
    · exact .inr (.inl ⟨absolute, by rw [whole]; rfl, more, rfl⟩)

private theorem join_slash (other : String) : join "/" other = "/".intercalate ["", other] := by
  simp [join]

private theorem join_dot (other : String) : join "." other = "/".intercalate [".", other] := by
  simp [join]

private theorem join_empty (other : String) : join "" other = "/".intercalate [other] := by
  simp [join]

/-- The way to a name from the parent of a path with one name only: that to the path's own
name, but for idle segments at its end. -/
theorem Names.join_parent_of_idle (names : Names path above name after)
    (idle : ∀ segment ∈ above, isIdle segment) (named : other ≠ "") (plain : '/' ∉ other.toList) :
    ∃ way idles, segments (join (parent path) other) = way ++ [other] ∧
      isAbsolute (join (parent path) other) = isAbsolute path ∧
      above = way ++ idles ∧ ∀ segment ∈ idles, isIdle segment := by
  have none : above.reverse.dropWhile isIdle = [] := by
    rw [List.dropWhile_eq_nil_iff]
    exact fun segment member => idle segment (List.mem_reverse.mp member)
  rw [parent, names.climb, List.tail_cons, none]
  rcases names.idle_above idle with ⟨absolute, more, rfl⟩ | ⟨relative, dot, more, rfl⟩ |
    ⟨relative, elsewhere, rfl⟩
  · have parts : segments (join "/" other) = ["", other] := by
      rw [join_slash, segments_intercalate _ (by simp)]
      simpa using plain
    simp only [absolute, if_true]
    exact ⟨[""], more, parts, isAbsolute_of_segments parts (.inr (by simp)), rfl,
      fun segment member => idle segment (List.mem_cons_of_mem _ member)⟩
  · have parts : segments (join "." other) = [".", other] := by
      rw [join_dot, segments_intercalate _ (by simp)]
      simpa using plain
    simp only [relative, dot, Bool.false_eq_true, if_false, if_true]
    exact ⟨["."], more, parts, isAbsolute_of_segments parts (.inr (by simp)), rfl,
      fun segment member => idle segment (List.mem_cons_of_mem _ member)⟩
  · have parts : segments (join "" other) = [other] := by
      rw [join_empty, segments_intercalate _ (by simp)]
      simpa using plain
    have same : isAbsolute (join "" other) = false := by
      rw [isAbsolute_of_segments parts (.inl named), decide_eq_false named]
    simp only [relative, elsewhere, Bool.false_eq_true, if_false]
    exact ⟨[], [], parts, same, rfl, by simp⟩

theorem Names.join_parent (names : Names path above name after) (other : String)
    (named : other ≠ "") (plain : '/' ∉ other.toList) :
    ∃ way idles, segments (join (parent path) other) = way ++ [other] ∧
      isAbsolute (join (parent path) other) = isAbsolute path ∧
      above = way ++ idles ∧ ∀ segment ∈ idles, isIdle segment := by
  obtain ⟨idles, whole, idle⟩ := eq_append_idle above
  cases kept : above.reverse.dropWhile isIdle with
  | nil =>
    rw [kept, List.reverse_nil, List.nil_append] at whole
    exact names.join_parent_of_idle (whole ▸ idle) named plain
  | cons last before =>
    rw [parent, names.climb, List.tail_cons, kept]
    rw [kept, List.reverse_cons] at whole
    have ended : last ≠ "" := by
      have moves := List.head?_dropWhile_not isIdle above.reverse
      rw [kept] at moves
      exact ne_of_isIdle (by simpa using moves) rfl
    have clean : ∀ segment ∈ before.reverse ++ [last], '/' ∉ segment.toList := by
      intro segment member
      apply names.plain (.inl _)
      rw [whole]
      exact List.mem_append_left _ member
    have parts : segments (join ("/".intercalate (last :: before).reverse) other) =
        (before.reverse ++ [last]) ++ [other] := by
      rw [List.reverse_cons, join_intercalate _ _ _ ended (clean last (by simp)),
        segments_intercalate _ (by simp)]
      · simp
      · intro segment member
        rw [List.append_cons, List.mem_append, List.mem_singleton] at member
        rcases member with earlier | rfl
        · exact clean segment earlier
        · exact plain
    refine ⟨before.reverse ++ [last], idles, parts, ?_, whole, idle⟩
    obtain ⟨first, more, same⟩ : ∃ first more, before.reverse ++ [last] = first :: more :=
      List.exists_cons_of_ne_nil (by simp)
    have all := names.whole
    rw [whole, same] at all
    rw [same] at parts
    exact (isAbsolute_of_segments parts (.inr (by simp))).trans
      (isAbsolute_of_segments all (.inr (by simp))).symm

/-- The temporary file beside a target stands in the directory of the target's last name. The
way there may lose idle segments at its end. -/
theorem Names.sibling (names : Names path above name after) :
    ∃ temporary way idles, sibling? path temporarySuffix = some temporary ∧
      Names temporary way (name ++ temporarySuffix) [] ∧
      isAbsolute temporary = isAbsolute path ∧
      above = way ++ idles ∧ ∀ segment ∈ idles, isIdle segment := by
  have named : fileName? path = some name := by
    rw [fileName?, names.climb]
    split
    · rename_i none
      cases none
    · rename_i up
      exact (names.down (List.cons.inj up).1).elim
    · rename_i found
      cases found
      rfl
  obtain ⟨moves, down⟩ := temporaryName name
  have full : name ++ temporarySuffix ≠ "" := ne_of_isIdle moves rfl
  obtain ⟨way, idles, parts, same, whole, idle⟩ := names.join_parent (name ++ temporarySuffix) full
    (not_mem_temporaryName (names.plain (.inr rfl)))
  refine ⟨_, way, idles, ?_, ⟨parts, moves, down, by simp⟩, same, whole, idle⟩
  rw [sibling?, named, Option.map_some]

theorem names_of_sibling? {temporary : String}
    (beside : sibling? path temporarySuffix = some temporary) :
    ∃ way name, Names temporary way name [] := by
  cases named : fileName? path with
  | none => simp [sibling?, named] at beside
  | some name =>
    obtain ⟨above, after, names⟩ := names_of_fileName? named
    obtain ⟨_, way, _, same, next, _⟩ := names.sibling
    cases same.symm.trans beside
    exact ⟨way, _, next⟩

end PropertyStore.Files.Path
