import PropertyStore.Properties

namespace PropertyStore

namespace Document

def lastValue? (key : String) (entries : List Entry) : Option String :=
  entries.reverse.lookup key

private theorem lastValue?_cons (key : String) (entry : Entry) (rest : List Entry) :
    lastValue? key (entry :: rest) =
      (lastValue? key rest).or (if entry.1 = key then some entry.2 else none) := by
  obtain ⟨name, value⟩ := entry
  rw [lastValue?, lastValue?, List.reverse_cons, List.lookup_append, List.lookup_cons,
    List.lookup_nil]
  by_cases same : name = key
  · simp [same]
  · have apart : (key == name) = false := beq_false_of_ne (Ne.symm same)
    simp [apart, same]

theorem lastValue?_eq_none_iff (key : String) (entries : List Entry) :
    lastValue? key entries = none ↔ ∀ value, (key, value) ∉ entries := by
  induction entries with
  | nil => simp [lastValue?]
  | cons entry rest ih =>
    obtain ⟨name, first⟩ := entry
    rw [lastValue?_cons, Option.or_eq_none_iff, ih]
    grind

end Document

namespace Properties

variable (properties : Properties)

private theorem overlay_cons (entry : Document.Entry) (rest : List Document.Entry) :
    properties.overlay (entry :: rest) = overlay (properties.insert entry.1 entry.2) rest :=
  rfl

theorem getElem?_overlay (entries : List Document.Entry) (key : String) :
    (properties.overlay entries)[key]? =
      (Document.lastValue? key entries).or properties[key]? := by
  induction entries generalizing properties with
  | nil => rfl
  | cons entry rest ih =>
    rw [overlay_cons, ih, Document.lastValue?_cons, Std.ExtTreeMap.getElem?_insert, Option.or_assoc]
    by_cases same : entry.1 = key
    · simp [same]
    · simp [same]

theorem overlay_append (first second : List Document.Entry) :
    properties.overlay (first ++ second) = (properties.overlay first).overlay second :=
  List.foldl_append

/-- To lay the same entries over a set again changes nothing. -/
theorem overlay_overlay (entries : List Document.Entry) :
    (properties.overlay entries).overlay entries = properties.overlay entries := by
  apply Std.ExtTreeMap.ext_getElem?
  intro key
  rw [getElem?_overlay, getElem?_overlay, ← Option.or_assoc, Option.or_self]

variable {properties} {key : String}

theorem getElem?_overlay_of_absent (properties : Properties) (entries : List Document.Entry)
    (absent : ∀ value, (key, value) ∉ entries) :
    (properties.overlay entries)[key]? = properties[key]? := by
  rw [getElem?_overlay, (Document.lastValue?_eq_none_iff key entries).mpr absent, Option.none_or]

theorem getElem?_overlay_congr {first second : Properties} (entries : List Document.Entry)
    (same : first[key]? = second[key]?) :
    (first.overlay entries)[key]? = (second.overlay entries)[key]? := by
  rw [getElem?_overlay, getElem?_overlay, same]

theorem ofEntries_toList (properties : Properties) : ofEntries properties.toList = properties := by
  have list : ofEntries properties.toList = Std.ExtTreeMap.ofList properties.toList compare :=
    Std.ExtTreeMap.ofList_eq_foldl.symm
  rw [list]
  apply Std.ExtTreeMap.ext_getElem?
  intro key
  cases found : properties[key]? with
  | none =>
    apply Std.ExtTreeMap.getElem?_ofList_of_contains_eq_false
    rw [Std.ExtTreeMap.map_fst_toList_eq_keys]
    simpa using found
  | some value =>
    have member := Std.ExtTreeMap.mem_toList_iff_getElem?_eq_some.mpr found
    exact Std.ExtTreeMap.getElem?_ofList_of_mem Std.ReflCmp.compare_self
      properties.distinct_keys_toList member

end Properties

end PropertyStore
