import Mathlib.Data.List.Sort
import PropertyStore.Proofs.Document.RoundTrip

namespace PropertyStore

namespace Properties

def entriesAt (properties : Properties) (key : String) : List Document.Entry :=
  properties[key]?.toList.map fun value => (key, value)

private theorem mem_entriesAt (properties : Properties) (key : String) (entry : Document.Entry) :
    entry ∈ properties.entriesAt key ↔ entry.1 = key ∧ entry ∈ properties.toList := by
  obtain ⟨name, value⟩ := entry
  rw [Std.ExtTreeMap.mem_toList_iff_getElem?_eq_some, entriesAt]
  by_cases same : name = key
  · simp [same]
  · simp [same, Ne.symm same]

private theorem pairwise_entriesAt (properties : Properties) (key : String)
    (order : Document.Entry → Document.Entry → Prop) :
    (properties.entriesAt key).Pairwise order := by
  unfold entriesAt
  cases properties[key]? <;> simp

private theorem entries_ext {first second : List Document.Entry}
    (one : first.Pairwise fun entry next => entry.1 < next.1)
    (two : second.Pairwise fun entry next => entry.1 < next.1)
    (same : ∀ entry, entry ∈ first ↔ entry ∈ second) : first = second := by
  have irreflexive : Std.Irrefl fun entry next : Document.Entry => entry.1 < next.1 :=
    ⟨fun entry => String.lt_irrefl entry.1⟩
  have antisymmetric : Std.Antisymm fun entry next : Document.Entry => entry.1 < next.1 :=
    ⟨fun _ _ less greater => absurd greater (String.lt_asymm less)⟩
  exact one.eq_of_mem_iff two same

private theorem pairwise_around (properties : Properties) (key : String) :
    (properties.toList.filter (fun entry => entry.1 < key) ++ properties.entriesAt key ++
      properties.toList.filter (fun entry => key < entry.1)).Pairwise
        fun entry next => entry.1 < next.1 := by
  have increasing := Document.keys_increasing properties
  refine List.pairwise_append.mpr ⟨List.pairwise_append.mpr
    ⟨increasing.filter _, properties.pairwise_entriesAt key _, ?_⟩, increasing.filter _, ?_⟩
  · intro entry less own member
    rw [((properties.mem_entriesAt key own).mp member).1]
    exact of_decide_eq_true (List.mem_filter.mp less).2
  · intro entry before next after
    have above : key < next.1 := of_decide_eq_true (List.mem_filter.mp after).2
    rcases List.mem_append.mp before with less | own
    · have below : entry.1 < key := of_decide_eq_true (List.mem_filter.mp less).2
      exact String.lt_trans below above
    · rwa [((properties.mem_entriesAt key entry).mp own).1]

/-- The properties are those of smaller keys, that of the key if it is there, and those of greater
keys. -/
theorem toList_eq (properties : Properties) (key : String) :
    properties.toList =
      properties.toList.filter (fun entry => entry.1 < key) ++ properties.entriesAt key ++
        properties.toList.filter (fun entry => key < entry.1) := by
  refine entries_ext (Document.keys_increasing properties) (properties.pairwise_around key) ?_
  intro entry
  simp only [List.mem_append, List.mem_filter, mem_entriesAt, decide_eq_true_eq]
  have either := Std.lt_trichotomy entry.1 key
  tauto

private theorem filter_toList_congr {first second : Properties} {key : String}
    (agree : ∀ name, name ≠ key → first[name]? = second[name]?) (keep : String → Bool)
    (without : keep key = false) :
    first.toList.filter (fun entry => keep entry.1) =
      second.toList.filter (fun entry => keep entry.1) := by
  refine entries_ext ((Document.keys_increasing first).filter _)
    ((Document.keys_increasing second).filter _) fun entry => ?_
  rw [List.mem_filter, List.mem_filter, Std.ExtTreeMap.mem_toList_iff_getElem?_eq_some,
    Std.ExtTreeMap.mem_toList_iff_getElem?_eq_some, and_congr_left_iff]
  intro kept
  rw [agree entry.1 fun same => by simp [same, without] at kept]

private theorem exists_toList_eq {first second : Properties} {key : String}
    (agree : ∀ name, name ≠ key → first[name]? = second[name]?) :
    ∃ before after, first.toList = before ++ first.entriesAt key ++ after ∧
      second.toList = before ++ second.entriesAt key ++ after := by
  have itself : decide (key < key) = false := decide_eq_false (String.lt_irrefl key)
  have before := filter_toList_congr agree (fun name => name < key) itself
  have after := filter_toList_congr agree (fun name => key < name) itself
  have same := second.toList_eq key
  rw [← before, ← after] at same
  exact ⟨_, _, first.toList_eq key, same⟩

end Properties

namespace Document

open Grammar

/-- A line that holds a property and shows all that it holds. -/
structure PropertyLine (line : List Char) : Prop where
  whole : Text.OneLine line
  something : ¬ HoldsNothing line
  closed : ¬ OpenEnd line
  visible : ∀ c ∈ line, isControl c = false

private theorem isControl_of_mem_hexDigits {unit : UInt16} (member : c ∈ Text.hexDigits unit) :
    isControl c = false := by
  have plain : ∀ value < 16, isControl (Text.upperHexDigit value) = false := by decide
  obtain ⟨shifted, _, rfl⟩ := List.mem_map.mp member
  exact plain _ (Nat.mod_lt _ (by decide))

private theorem isControl_of_mem_escapeChar (member : d ∈ escapeChar c) : isControl d = false := by
  unfold escapeChar at member
  split at member
  iterate 9
    simp only [List.mem_cons, List.not_mem_nil, or_false] at member
    rcases member with rfl | rfl <;> decide
  split at member
  · rcases List.mem_cons.mp member with rfl | member
    · decide
    rcases List.mem_cons.mp member with rfl | member
    · decide
    exact isControl_of_mem_hexDigits member
  · rename_i visible
    obtain rfl : d = c := by simpa using member
    simpa using visible

private theorem isControl_of_mem_escapeKey (member : d ∈ escapeKey key) : isControl d = false := by
  obtain ⟨c, _, written⟩ := List.mem_flatMap.mp member
  split at written
  · simp only [List.mem_cons, List.not_mem_nil, or_false] at written
    rcases written with rfl | rfl <;> decide
  · exact isControl_of_mem_escapeChar written

private theorem isControl_of_mem_flatMap {text : List Char} (member : d ∈ text.flatMap escapeChar) :
    isControl d = false := by
  obtain ⟨c, _, written⟩ := List.mem_flatMap.mp member
  exact isControl_of_mem_escapeChar written

private theorem isControl_of_mem_escapeValue (member : d ∈ escapeValue value) :
    isControl d = false := by
  unfold escapeValue at member
  split at member
  · rcases List.mem_cons.mp member with rfl | member
    · decide
    rcases List.mem_cons.mp member with rfl | member
    · decide
    exact isControl_of_mem_flatMap member
  · exact isControl_of_mem_flatMap member

private theorem propertyLine_entryText (entry : Entry) : PropertyLine (entryText entry) where
  whole := oneLine_entryText entry
  something := by
    rw [← isIgnored_iff, dropBlanks_entryText, isIgnored_entryText]
    decide
  closed := by
    rw [← isContinued_iff_openEnd, isContinued_entryText]
    decide
  visible c member := by
    rcases List.mem_append.mp member with key | rest
    · exact isControl_of_mem_escapeKey key
    rcases List.mem_cons.mp rest with rfl | value
    · decide
    · exact isControl_of_mem_escapeValue value

/-- Behind its head a printed file is one line for each property, in the order of the keys. Each is
a natural line that holds something, goes on in no other and shows no control character, and what
it says is settled by its key and value. So two files of properties that agree but at one key are
the same but for their stamps and the line of that key, where it is there. -/
theorem print_line_per_property (properties : Properties) (comment : Option String)
    (stamp : String) :
    (print properties comment stamp).toList =
        header comment stamp ++ properties.toList.flatMap entryLine ∧
      Text.Lines (properties.toList.flatMap entryLine) (properties.toList.map entryText ++ [[]]) ∧
      Text.Lines (print properties comment stamp).toList
        (headerLines comment stamp ++ (properties.toList.map entryText ++ [[]])) ∧
      (properties.toList.map Prod.fst).Pairwise (· < ·) ∧
      (∀ key value, (key, value) ∈ properties.toList ↔ properties[key]? = some value) ∧
      (∀ entry, entryLine entry = entryText entry ++ ['\n'] ∧ PropertyLine (entryText entry)) ∧
      ∀ (other : Properties) (key later : String),
        (∀ name, name ≠ key → properties[name]? = other[name]?) →
          ∃ (above : List Char) (before after : List Entry),
            (print properties comment stamp).toList = above ++ headerLine stamp.toList ++
              (before ++ properties.entriesAt key ++ after).flatMap entryLine ∧
            (print other comment later).toList = above ++ headerLine later.toList ++
              (before ++ other.entriesAt key ++ after).flatMap entryLine := by
  have text (properties : Properties) (stamp : String) :
      (print properties comment stamp).toList =
        header comment stamp ++ properties.toList.flatMap entryLine := by
    rw [print_eq, String.toList_ofList]
  obtain ⟨above, head⟩ : ∃ above, ∀ stamp, header comment stamp = above ++ headerLine stamp.toList :=
    ⟨_, fun _ => rfl⟩
  refine ⟨text properties stamp, ?_, ?_, ?_, fun key value => ?_, fun entry => ?_, ?_⟩
  · exact Text.lines_iff.mpr (naturalLines_entryLines properties.toList)
  · rw [text, Text.lines_iff, naturalLines_header, naturalLines_entryLines]
  · exact List.pairwise_map.mpr (keys_increasing properties)
  · exact Std.ExtTreeMap.mem_toList_iff_getElem?_eq_some
  · exact ⟨entryLine_eq entry, propertyLine_entryText entry⟩
  · intro other key later agree
    obtain ⟨before, after, one, two⟩ := Properties.exists_toList_eq agree
    exact ⟨above, before, after, by rw [text, head, one], by rw [text, head, two]⟩

/-- A property more, and another stamp. -/
theorem print_line_per_property_added :
    let first := Properties.ofEntries [("a", "1")]
    let second : Properties := first.insert "b" "\n"
    (∀ name, name ≠ "b" → first[name]? = second[name]?) ∧
      ∃ (above : List Char) (before after : List Entry),
        (print first none "now").toList = above ++ headerLine "now".toList ++
          (before ++ [] ++ after).flatMap entryLine ∧
        (print second none "then").toList = above ++ headerLine "then".toList ++
          (before ++ [("b", "\n")] ++ after).flatMap entryLine := by
  intro first second
  have agree : ∀ name, name ≠ "b" → first[name]? = second[name]? := by
    intro name other
    simp [second, Std.ExtTreeMap.getElem?_insert, Ne.symm other]
  have absent : first.entriesAt "b" = [] := by decide +kernel
  have present : second.entriesAt "b" = [("b", "\n")] := by
    simp [second, Properties.entriesAt]
  have differ := (print_line_per_property first none "now").2.2.2.2.2.2 second "b" "then" agree
  rw [absent, present] at differ
  exact ⟨agree, differ⟩

end Document

end PropertyStore
