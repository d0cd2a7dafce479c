namespace PropertyStore.Text

/-- What stands before and after the first `separator`, if there is one. -/
def cutAt? (separator : Char) : List Char → Option (List Char × List Char)
  | [] => none
  | c :: rest =>
    if c = separator then some ([], rest)
    else (cutAt? separator rest).map fun (before, after) => (c :: before, after)

theorem cutAt?_eq_some_iff (separator : Char) (text before after : List Char) :
    cutAt? separator text = some (before, after) ↔
      separator ∉ before ∧ text = before ++ separator :: after := by
  induction text generalizing before with
  | nil => simp [cutAt?]
  | cons c rest ih =>
    by_cases same : c = separator
    · cases before with
      | nil => simp [cutAt?, same]
      | cons first before => simp +contextual [cutAt?, same, eq_comm]
    · cases before with
      | nil => simp [cutAt?, same]
      | cons first before =>
        simp only [cutAt?, same, if_false, Option.map_eq_some_iff, Prod.mk.injEq, List.cons.injEq,
          Prod.exists, List.mem_cons, not_or, List.cons_append]
        constructor
        · rintro ⟨start, tail, found, ⟨rfl, rfl⟩, rfl⟩
          obtain ⟨absent, text⟩ := (ih start).mp found
          exact ⟨⟨Ne.symm same, absent⟩, rfl, text⟩
        · rintro ⟨⟨_, absent⟩, rfl, text⟩
          exact ⟨before, after, (ih before).mpr ⟨absent, text⟩, ⟨rfl, rfl⟩, rfl⟩

theorem isSome_cutAt? (separator : Char) (text : List Char) :
    (cutAt? separator text).isSome = text.contains separator := by
  induction text with
  | nil => rfl
  | cons c rest ih =>
    by_cases same : c = separator
    · simp [cutAt?, same]
    · simp [cutAt?, same, ih, Ne.symm same]

end PropertyStore.Text
