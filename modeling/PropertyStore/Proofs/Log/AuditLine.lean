import PropertyStore.Command.Run
import PropertyStore.Log.Record
import PropertyStore.Proofs.Moment

/-! Which audit entries are one line of a log. An object always is, for a line end inside it is
escaped. A sentence has its texts in it as they are, so it is one line if and only if they are; and
where they are not, one entry can be written as if it were two. -/

namespace PropertyStore

open Text (OneLine)

namespace Json

private theorem oneLine_escapeChar (c : Char) : OneLine (escapeChar c) := by
  have digit : ∀ value < 16, OneLine [Nat.digitChar value] := by decide
  unfold escapeChar
  split
  all_goals try decide
  rename_i feed back _
  split
  · rename_i control
    have first := digit (c.toNat / 16) (by omega)
    have second := digit (c.toNat % 16) (by omega)
    have start : OneLine ['\\', 'u', '0', '0'] := by decide
    exact start.append (first.append second)
  · intro other member
    rw [List.mem_singleton.mp member]
    exact ⟨feed, back⟩

private theorem oneLine_quote (text : String) : OneLine (quote text).toList := by
  have escaped : OneLine (text.toList.flatMap escapeChar) := by
    intro c member
    obtain ⟨source, _, written⟩ := List.mem_flatMap.mp member
    exact oneLine_escapeChar source c written
  have mark : OneLine ['"'] := by decide
  simp only [quote, String.toList_append, String.toList_ofList]
  exact (mark.append escaped).append mark

mutual

private theorem oneLine_compact : (value : Json) → OneLine value.compact.toList
  | .null => by
    rw [compact]
    decide
  | .number value => by
    rw [compact]
    change OneLine value.repr.toList
    rw [Nat.repr_eq_ofList_toDigits, String.toList_ofList]
    intro c member
    have digit := Nat.isDigit_of_mem_toDigits (by decide) (by decide) member
    constructor <;> rintro rfl <;> cases digit
  | .text value => by
    rw [compact]
    exact oneLine_quote value
  | .object fields => by
    have parts := oneLine_compactFields fields
    have comma : OneLine ",".toList := by decide
    simp only [compact, String.toList_append, String.toList_intercalate]
    refine OneLine.append (OneLine.append (by decide) ?_) (by decide)
    exact comma.intercalate (List.forall_mem_map.mpr parts)

theorem oneLine_compactFields : (fields : List (String × Json)) →
    ∀ text ∈ compactFields fields, OneLine text.toList
  | [] => by simp [compactFields]
  | (name, value) :: rest => by
    rw [compactFields, List.forall_mem_cons]
    refine ⟨?_, oneLine_compactFields rest⟩
    have colon : OneLine ":".toList := by decide
    rw [String.toList_append, String.toList_append]
    exact ((oneLine_quote name).append colon).append (oneLine_compact value)

end

end Json

/-- A character in plain print, which neither ends a line nor steers a terminal. -/
def isPrint (c : Char) : Bool := 0x20 ≤ c.toNat && c.toNat < 0x7f

private theorem isPrint_of_isDigit {c : Char} (digit : c.isDigit = true) : isPrint c = true := by
  rw [Char.isDigit_iff_toNat] at digit
  simp only [Char.reduceToNat] at digit
  simp only [isPrint, Bool.and_eq_true, decide_eq_true_eq]
  omega

namespace Calendar

private theorem isPrint_instant (time : Calendar) :
    ∀ c ∈ time.instant.toList, isPrint c = true := by
  have digits (width value : Nat) : (padded width value).toList.all isPrint = true := by
    rw [List.all_eq_true]
    intro c member
    exact isPrint_of_isDigit (isDigit_of_mem_padded member)
  rw [← List.all_eq_true]
  simp only [instant, clock, toString, String.toList_append, List.all_append, digits,
    Bool.and_true, Bool.true_and]
  decide

private theorem oneLine_instant (time : Calendar) : OneLine time.instant.toList := by
  intro c member
  have print := time.isPrint_instant c member
  constructor <;> rintro rfl <;> cases print

end Calendar

namespace Log

/-- Showing what would steer a terminal makes and hides no line end. -/
theorem oneLine_showSteering_iff (c : Char) :
    OneLine (showSteering c) ↔ c ≠ '\n' ∧ c ≠ '\r' := by
  have code : ∀ value < 0xA0, 0x80 ≤ value → OneLine (Nat.toDigits 16 value) := by decide +kernel
  unfold showSteering
  split
  all_goals try decide
  split
  · rename_i range
    simp only [Bool.and_eq_true, decide_eq_true_eq] at range
    have start : OneLine ['\\', 'u', '\x7b'] := by decide
    have whole := start.append (code _ range.2 range.1)
    refine iff_of_true (whole.append (by decide)) ?_
    constructor <;> rintro rfl <;> simp at range
  · simp [OneLine]

private theorem oneLine_shown_iff (text : List Char) :
    OneLine (text.flatMap showSteering) ↔ OneLine text := by
  induction text with
  | nil => rfl
  | cons c rest ih =>
    rw [List.flatMap_cons, Text.oneLine_append_iff, oneLine_showSteering_iff, ih,
      Text.oneLine_cons_iff]

private theorem showSteering_of_isPrint {c : Char} (print : isPrint c = true) :
    showSteering c = [c] := by
  unfold showSteering
  split
  all_goals try cases print
  refine if_neg ?_
  simp only [isPrint, Bool.and_eq_true, decide_eq_true_eq] at print ⊢
  omega

private theorem shown_of_isPrint {text : List Char} (print : ∀ c ∈ text, isPrint c = true) :
    text.flatMap showSteering = text := by
  induction text with
  | nil => rfl
  | cons c rest ih =>
    obtain ⟨first, others⟩ := List.forall_mem_cons.mp print
    rw [List.flatMap_cons, showSteering_of_isPrint first, ih others]
    rfl

def IsLine (text : String) : Prop := ∃ line, OneLine line ∧ text.toList = line ++ ['\n']

private theorem isLine_append_feed_iff (text : String) :
    IsLine (text ++ "\n") ↔ OneLine text.toList := by
  constructor
  · rintro ⟨line, whole, same⟩
    rw [String.toList_append] at same
    rwa [List.append_cancel_right same]
  · exact fun whole => ⟨_, whole, String.toList_append⟩

namespace Record

private theorem isLine_objectLine (record : Record) (clock : String) :
    IsLine (record.objectLine clock) :=
  (isLine_append_feed_iff _).mpr (Json.oneLine_compact _)

private theorem isLine_textLine_iff (record : Record) (clock : String) :
    IsLine (record.textLine clock) ↔
      OneLine clock.toList ∧ OneLine record.target.toList ∧ OneLine record.message.toList := by
  have name : OneLine record.severity.name.toList := by
    cases record.severity <;> decide
  have padding (count : Nat) : OneLine (List.replicate count ' ') := by
    intro c member
    rw [List.eq_of_mem_replicate member]
    decide
  rw [textLine]
  simp +decide only [toString, isLine_append_feed_iff, String.toList_append, String.toList_ofList,
    Text.oneLine_append_iff, oneLine_shown_iff, name, padding, and_true, and_assoc]

end Record

namespace AuditEntry

/-- None of an entry's texts has a line end. -/
structure OneLine (entry : AuditEntry) : Prop where
  operation : Text.OneLine entry.operation.toList
  target : Text.OneLine entry.target.toList
  result : Text.OneLine entry.result.toList
  details : Text.OneLine entry.details.toList

private theorem oneLine_object (entry : AuditEntry) (clock : String) :
    Text.OneLine (entry.object clock).toList :=
  Json.oneLine_compact _

private theorem oneLine_sentence_iff (entry : AuditEntry) :
    Text.OneLine entry.sentence.toList ↔ entry.OneLine := by
  unfold sentence
  simp +decide only [toString, String.toList_append, Text.oneLine_append_iff, true_and, and_true]
  constructor
  · rintro ⟨⟨⟨operation, target⟩, result⟩, details⟩
    exact ⟨operation, target, result, details⟩
  · rintro ⟨operation, target, result, details⟩
    exact ⟨⟨⟨operation, target⟩, result⟩, details⟩

def opening (entry : AuditEntry) : String :=
  s!"AUDIT: {entry.operation} on {entry.target} - {entry.result} ("

end AuditEntry

def shown (text : String) : String := String.ofList (text.toList.flatMap showSteering)

private theorem shown_append (first second : String) :
    shown (first ++ second) = shown first ++ shown second := by
  rw [shown, String.toList_append, List.flatMap_append, String.ofList_append]
  rfl

def auditHead (time : Calendar) : String := time.instant ++ "  INFO propstore::logging: "

private theorem shown_auditHead (time : Calendar) : shown (auditHead time) = auditHead time := by
  have rest : "  INFO propstore::logging: ".toList.all isPrint = true := by decide
  rw [shown, shown_of_isPrint, String.ofList_toList]
  rw [auditHead, String.toList_append]
  intro c member
  exact (List.mem_append.mp member).elim (time.isPrint_instant c)
    (List.all_eq_true.mp rest c)

private theorem textLine_sentence (entry : AuditEntry) (clock : String) (time : Calendar) :
    ((Event.audit entry false).record clock).textLine time.instant =
      auditHead time ++ shown (entry.opening ++ entry.details ++ ")") ++ "\n" := by
  have padding : String.ofList (List.replicate (5 - "INFO".length) ' ') = " " := by decide
  have sentence : Event.message clock (.audit entry false) = entry.opening ++ entry.details ++ ")" :=
    rfl
  have parts : "  INFO propstore::logging: " =
      " " ++ (" " ++ ("INFO" ++ (" " ++ ("propstore::logging" ++ ": ")))) := by decide
  simp only [Record.textLine, Event.record, Event.severity, Severity.name, Event.target, padding,
    sentence, toString, auditHead, parts, shown, String.append_assoc]

/-- Details can be such that an entry is written as two. -/
theorem textLine_forged (first second : AuditEntry) (clock : String) (time : Calendar) :
    let written (entry : AuditEntry) : String :=
      ((Event.audit entry false).record clock).textLine time.instant
    ∃ details, written { first with details } = written first ++ written second := by
  intro written
  have ending : shown ")\n" = ")" ++ "\n" := by decide
  have closing : shown ")" = ")" := by decide
  refine ⟨first.details ++ ")\n" ++ auditHead time ++ second.opening ++ second.details, ?_⟩
  simp only [written, textLine_sentence, shown_append, shown_auditHead, ending, closing, String.append_assoc]
  rfl

/-- The message of an audit entry is one line if and only if the entry is an object or none of its
texts has a line end, and so is what a log writes of it, unless the log writes all records as objects.
Where entries are sentences, any other entry can be forged: with the details for it, one entry is
written as that one would be after it. -/
theorem audit_oneLine_iff (entry : AuditEntry) (asObject : Bool) (clock : String) (time : Calendar) :
    let event := Event.audit entry asObject
    (OneLine (event.message clock).toList ↔ asObject = true ∨ entry.OneLine) ∧
      (∀ asObjects, IsLine ((event.record clock).line asObjects time.instant) ↔
        asObjects = true ∨ asObject = true ∨ entry.OneLine) ∧
      ∀ other : AuditEntry, ∃ details,
        let written (entry : AuditEntry) : String :=
          ((Event.audit entry false).record clock).line false time.instant
        written { entry with details } = written entry ++ written other := by
  intro event
  have message : OneLine (event.message clock).toList ↔ asObject = true ∨ entry.OneLine := by
    cases asObject with
    | true => exact iff_of_true (entry.oneLine_object clock) (.inl rfl)
    | false => exact entry.oneLine_sentence_iff.trans (by simp)
  refine ⟨message, ?_, fun other => textLine_forged entry other clock time⟩
  intro asObjects
  cases asObjects with
  | true => exact iff_of_true (Record.isLine_objectLine _ _) (.inl rfl)
  | false =>
    have target : OneLine (event.record clock).target.toList := by
      change OneLine "propstore::logging".toList
      decide
    have written := Record.isLine_textLine_iff (event.record clock) time.instant
    rw [and_iff_right time.oneLine_instant, and_iff_right target] at written
    exact (written.trans message).trans (by simp)

/-- Setting a property whose value has a line end leaves an audit entry that is not one line. -/
theorem set_audit_not_oneLine :
    let setting : Command.Setting := ⟨{}, "", false, false⟩
    let report := Command.perform setting { defaultPath := some "f" } (.set ["k=a\nb"])
    let event := Event.audit ⟨"set", "f", "ok", "k=a\nb"⟩ setting.auditAsObjects
    .event event ∈ report.notices ∧ ¬ OneLine (event.message "").toList := by
  intro setting report event
  constructor
  · decide +kernel
  · decide

end Log

end PropertyStore
