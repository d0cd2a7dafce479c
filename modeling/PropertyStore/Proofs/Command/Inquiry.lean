import PropertyStore.Command.Inquiry
import PropertyStore.Proofs.Store.Request

/-! Asking for a property while others change the store. A fault is always true: the property was not
there. A text is one that the property had, unless the property was removed between the two looks; then
it is the empty text, whether or not the property ever had that. -/

namespace PropertyStore

theorem Request.writes_none_iff {defaultPath : Option String} {key : String} {request : Request} :
    request.Writes defaultPath key none ↔
      request = .operate (.remove key) ∨ request = .operate .clear := by
  constructor
  · intro writes
    cases writes with
    | operate writes =>
      cases writes with
      | remove => exact .inl rfl
      | clear => exact .inr rfl
  · rintro (rfl | rfl)
    · exact .operate .remove
    · exact .operate .clear

namespace Inquiry

variable {key : String} {schedule : Nat → Turn} {start before : Inquiry} {turn : Turn}
  {first second ended : Nat} {answer : Except Fault String}

/-- What a step can come to. -/
inductive Step (key : String) (before : Inquiry) : Turn → Inquiry → Prop where
  | absent (begun : before.stage = .begun) (absent : before.store.get? key = none) :
      Step key before .own { before with stage := .answered (.error (.missing key)) }
  | present (begun : before.stage = .begun) (present : before.store.get? key ≠ none) :
      Step key before .own { before with stage := .assured }
  | told (assured : before.stage = .assured) :
      Step key before .own { before with stage := .answered (.ok (before.store.getD key "")) }
  | idle {turn : Turn} (rests : turn = .own → ∃ answer, before.stage = .answered answer) :
      Step key before turn before
  | served {caller : Nat} {request : Request} {rest : List Request}
      (next : before.programs caller = request :: rest) :
      Step key before (.other caller) { before with
        store := before.store.serve request
        programs := fun other => if other = caller then rest else before.programs other }

private theorem step_step (key : String) (before : Inquiry) (turn : Turn) :
    Step key before turn (before.step key turn) := by
  cases turn with
  | own =>
    cases stands : before.stage with
    | begun =>
      by_cases absent : before.store.get? key = none
      · simp only [step, look, stands, before.store.require_of_absent absent]
        exact .absent stands absent
      · simp only [step, look, stands, before.store.require_of_present absent]
        exact .present stands absent
    | assured =>
      simp only [step, look, stands]
      exact .told stands
    | answered answer =>
      simp only [step, look, stands]
      exact .idle fun _ => ⟨answer, stands⟩
  | other caller =>
    cases asks : before.programs caller with
    | nil =>
      simp only [step, asks]
      exact .idle (by rintro ⟨⟩)
    | cons request rest =>
      simp only [step, asks]
      exact .served asks

private theorem step_run (key : String) (schedule : Nat → Turn) (start : Inquiry) (moment : Nat) :
    Step key (run key schedule start moment) (schedule moment)
      (run key schedule start (moment + 1)) :=
  step_step key _ _

/-- It is somebody else's turn, who removes the property or all of them. -/
def Removes (key : String) (before : Inquiry) (turn : Turn) : Prop :=
  ∃ caller rest, turn = .other caller ∧
    (before.programs caller = .operate (.remove key) :: rest ∨
      before.programs caller = .operate .clear :: rest)

theorem Step.removes {after : Inquiry} (step : Step key before turn after)
    (present : before.store.get? key ≠ none) (absent : after.store.get? key = none) :
    Removes key before turn := by
  cases step with
  | @served caller request rest next =>
    refine ⟨caller, rest, rfl, ?_⟩
    by_cases writes : ∃ outcome, request.Writes before.store.defaultPath key outcome
    · obtain ⟨outcome, writes⟩ := writes
      obtain rfl : outcome = none := (before.store.get?_serve writes).symm.trans absent
      rcases Request.writes_none_iff.mp writes with rfl | rfl
      · exact .inl next
      · exact .inr next
    · have same := before.store.get?_serve_of_untouched (not_exists.mp writes)
      exact (present (same.symm.trans absent)).elim
  | _ => exact (present absent).elim

theorem exists_removes {earlier later : Nat} (order : earlier ≤ later)
    (present : (run key schedule start earlier).store.get? key ≠ none)
    (absent : (run key schedule start later).store.get? key = none) :
    ∃ between, earlier ≤ between ∧ between < later ∧
      Removes key (run key schedule start between) (schedule between) := by
  induction order with
  | refl => exact (present absent).elim
  | @step later order ih =>
    by_cases gone : (run key schedule start later).store.get? key = none
    · obtain ⟨between, behind, ahead, removes⟩ := ih gone
      exact ⟨between, behind, Nat.lt_succ_of_lt ahead, removes⟩
    · have removes := (step_run key schedule start later).removes gone absent
      exact ⟨later, order, Nat.lt_succ_self later, removes⟩

/-- The moment of the first look at the store. -/
structure Opens (schedule : Nat → Turn) (first : Nat) : Prop where
  own : schedule first = .own
  before : ∀ moment < first, schedule moment ≠ .own

/-- The moments of the first look and the second. -/
structure Looks (schedule : Nat → Turn) (first second : Nat) : Prop where
  opens : Opens schedule first
  order : first < second
  own : schedule second = .own
  between : ∀ moment, first < moment → moment < second → schedule moment ≠ .own

/-- The property is there at the first look and not at the second. -/
structure Lost (key : String) (schedule : Nat → Turn) (start : Inquiry) (first second : Nat) : Prop where
  looks : Looks schedule first second
  present : (run key schedule start first).store.get? key ≠ none
  absent : (run key schedule start second).store.get? key = none

theorem Opens.eq {other : Nat} (opens : Opens schedule first) (also : Opens schedule other) :
    first = other := by
  rcases Nat.lt_trichotomy first other with early | same | late
  · exact (also.before first early opens.own).elim
  · exact same
  · exact (opens.before other late also.own).elim

theorem Looks.eq {other : Nat} (looks : Looks schedule first second)
    (also : Looks schedule first other) : second = other := by
  rcases Nat.lt_trichotomy second other with early | same | late
  · exact (also.between second looks.order early looks.own).elim
  · exact same
  · exact (looks.between other also.order late also.own).elim

/-- How someone has come to a stage. -/
inductive Progress (key : String) (schedule : Nat → Turn) (start : Inquiry) (moment : Nat) :
    Stage → Prop where
  | begun (waits : ∀ earlier < moment, schedule earlier ≠ .own) :
      Progress key schedule start moment .begun
  | assured {first : Nat} (opens : Opens schedule first) (order : first < moment)
      (present : (run key schedule start first).store.get? key ≠ none)
      (waits : ∀ earlier, first < earlier → earlier < moment → schedule earlier ≠ .own) :
      Progress key schedule start moment .assured
  | missing {first : Nat} (opens : Opens schedule first) (order : first < moment)
      (absent : (run key schedule start first).store.get? key = none) :
      Progress key schedule start moment (.answered (.error (.missing key)))
  | told {first second : Nat} (looks : Looks schedule first second) (order : second < moment)
      (present : (run key schedule start first).store.get? key ≠ none) :
      Progress key schedule start moment
        (.answered (.ok ((run key schedule start second).store.getD key "")))

namespace Progress

variable {moment : Nat} {stage : Stage}

private theorem answered_succ (progress : Progress key schedule start moment (.answered answer)) :
    Progress key schedule start (moment + 1) (.answered answer) := by
  cases progress with
  | missing opens order absent => exact .missing opens (Nat.lt_succ_of_lt order) absent
  | told looks order present => exact .told looks (Nat.lt_succ_of_lt order) present

private theorem other_succ (progress : Progress key schedule start moment stage)
    (other : schedule moment ≠ .own) : Progress key schedule start (moment + 1) stage := by
  cases progress with
  | begun waits =>
    refine .begun fun earlier order => ?_
    rcases Nat.lt_succ_iff_lt_or_eq.mp order with early | rfl
    · exact waits earlier early
    · exact other
  | assured opens order present waits =>
    refine .assured opens (Nat.lt_succ_of_lt order) present fun earlier after order => ?_
    rcases Nat.lt_succ_iff_lt_or_eq.mp order with early | rfl
    · exact waits earlier after early
    · exact other
  | missing opens order absent => exact .missing opens (Nat.lt_succ_of_lt order) absent
  | told looks order present => exact .told looks (Nat.lt_succ_of_lt order) present

private theorem step {after : Inquiry}
    (progress : Progress key schedule start moment (run key schedule start moment).stage)
    (step : Step key (run key schedule start moment) (schedule moment) after) :
    Progress key schedule start (moment + 1) after.stage := by
  generalize turn : schedule moment = next at step
  cases step with
  | absent begun absent =>
    rw [begun] at progress
    cases progress with
    | begun waits => exact .missing ⟨turn, waits⟩ (Nat.lt_succ_self moment) absent
  | present begun present =>
    rw [begun] at progress
    cases progress with
    | begun waits =>
      refine .assured ⟨turn, waits⟩ (Nat.lt_succ_self moment) present ?_
      exact fun earlier after order => (Nat.not_lt_of_le (Nat.le_of_lt_succ order) after).elim
  | told assured =>
    rw [assured] at progress
    cases progress with
    | assured opens order present waits =>
      exact .told ⟨opens, order, turn, waits⟩ (Nat.lt_succ_self moment) present
  | idle rests =>
    by_cases own : next = .own
    · obtain ⟨answer, answered⟩ := rests own
      rw [answered] at progress ⊢
      exact progress.answered_succ
    · exact progress.other_succ (turn.trans_ne own)
  | served next => exact progress.other_succ (turn.trans_ne (by rintro ⟨⟩))

end Progress

private theorem progress_run (key : String) (schedule : Nat → Turn) (begun : start.stage = .begun)
    (moment : Nat) :
    Progress key schedule start moment (run key schedule start moment).stage := by
  induction moment with
  | zero =>
    rw [run, begun]
    exact .begun fun earlier early => (Nat.not_lt_zero earlier early).elim
  | succ moment ih => exact ih.step (step_run key schedule start moment)

private theorem exists_answered (begun : start.stage = .begun) (order : first < second)
    (opens : schedule first = .own) (closes : schedule second = .own) (late : second < ended) :
    ∃ answer, (run key schedule start ended).stage = .answered answer := by
  have progress := progress_run key schedule begun ended
  generalize (run key schedule start ended).stage = stage at progress
  cases progress with
  | begun waits => exact (waits first (order.trans late) opens).elim
  | @assured opening isFirst _ _ waits =>
    rcases Nat.lt_or_ge opening second with behind | ahead
    · exact (waits second behind late closes).elim
    · exact (isFirst.before first (order.trans_le ahead) opens).elim
  | missing => exact ⟨_, rfl⟩
  | told => exact ⟨_, rfl⟩

theorem Progress.eq_requiredText {moment : Nat}
    (progress : Progress key schedule start moment (.answered answer))
    (looks : Looks schedule first second) :
    answer = Command.requiredText key (run key schedule start first).store
      (run key schedule start second).store := by
  cases progress with
  | missing opens order absent =>
    obtain rfl := opens.eq looks.opens
    exact (Command.requiredText_of_absent absent _).symm
  | told before order present =>
    obtain rfl := before.opens.eq looks.opens
    obtain rfl := before.eq looks
    exact (Command.requiredText_of_present present _).symm

theorem Progress.eq_empty_of_lost {moment : Nat}
    (progress : Progress key schedule start moment (.answered answer))
    (lost : Lost key schedule start first second) : answer = .ok "" := by
  rw [progress.eq_requiredText lost.looks, Command.requiredText_of_present lost.present, Store.getD,
    lost.absent, Option.getD_none]

/-- The key has a value, or none, at some moment up to the end. -/
def Had (moments : Nat → Inquiry) (key : String) (ended : Nat) (held : Option String) : Prop :=
  ∃ moment ≤ ended, (moments moment).store.get? key = held

instance (moments : Nat → Inquiry) (key : String) (ended : Nat) (held : Option String) :
    Decidable (Had moments key ended held) :=
  inferInstanceAs (Decidable (∃ moment ≤ ended, (moments moment).store.get? key = held))

/-- The answer is what was true of the key at some moment up to the end. -/
inductive WasTrue (moments : Nat → Inquiry) (key : String) (ended : Nat) :
    Except Fault String → Prop where
  | value {value : String} (had : Had moments key ended (some value)) :
      WasTrue moments key ended (.ok value)
  | missing (absent : Had moments key ended none) :
      WasTrue moments key ended (.error (.missing key))

/-- Only the empty answer to who lost the property between the looks may be untrue. -/
theorem Progress.wasTrue_iff (progress : Progress key schedule start ended (.answered answer)) :
    WasTrue (run key schedule start) key ended answer ↔ ∀ first second,
      Lost key schedule start first second → Had (run key schedule start) key ended (some "") := by
  constructor
  · intro wasTrue first second lost
    obtain rfl := progress.eq_empty_of_lost lost
    cases wasTrue with
    | value had => exact had
  · intro unlost
    cases progress with
    | @missing first opens order absent => exact .missing ⟨first, order.le, absent⟩
    | @told first second looks order present =>
      cases found : (run key schedule start second).store.get? key with
      | some value =>
        rw [Store.getD, found]
        exact .value ⟨second, order.le, found⟩
      | none =>
        rw [Store.getD, found]
        exact .value (unlost first second ⟨looks, present, found⟩)

theorem Progress.missing_of_fault {fault : Fault}
    (progress : Progress key schedule start ended (.answered (.error fault))) :
    fault = .missing key ∧ Had (run key schedule start) key ended none := by
  cases progress with
  | @missing first opens order absent => exact ⟨rfl, first, order.le, absent⟩

theorem Lost.exists_removes (lost : Lost key schedule start first second) :
    ∃ between, first < between ∧ between < second ∧
      Removes key (run key schedule start between) (schedule between) := by
  obtain ⟨between, behind, ahead, removes⟩ :=
    Inquiry.exists_removes lost.looks.order.le lost.present lost.absent
  have notFirst : first ≠ between := by
    rintro rfl
    obtain ⟨caller, rest, turn, _⟩ := removes
    cases lost.looks.opens.own.symm.trans turn
  exact ⟨between, Nat.lt_of_le_of_ne behind notFirst, ahead, removes⟩

/-- Who asks for a property while others use the store is answered once they have had two turns. The
answer was true at some moment of the call, unless the property was there at the first look and not at
the second, and never had the empty text. If it was lost so, somebody else removed it in between, or
everything, and the answer is the empty text. That a property is missing is said only if it was. -/
theorem inquiry_true_iff (key : String) (schedule : Nat → Turn) (start : Inquiry)
    (begun : start.stage = .begun) :
    let moments := run key schedule start
    (∀ first second ended, first < second → second < ended → schedule first = .own →
      schedule second = .own → ∃ answer, (moments ended).stage = .answered answer) ∧
    ∀ ended answer, (moments ended).stage = .answered answer →
      (WasTrue moments key ended answer ↔
        ∀ first second, Lost key schedule start first second → Had moments key ended (some "")) ∧
      (∀ fault, answer = .error fault → fault = .missing key ∧ Had moments key ended none) ∧
      ∀ first second, Lost key schedule start first second →
        answer = .ok "" ∧ ∃ between, first < between ∧ between < second ∧
          Removes key (moments between) (schedule between) := by
  intro moments
  refine ⟨fun first second ended order late opens closes =>
    exists_answered begun order opens closes late, fun ended answer answered => ?_⟩
  have progress : Progress key schedule start ended (.answered answer) :=
    answered ▸ progress_run key schedule begun ended
  refine ⟨progress.wasTrue_iff, ?_, fun first second lost => ?_⟩
  · rintro fault rfl
    exact progress.missing_of_fault
  · exact ⟨progress.eq_empty_of_lost lost, lost.exists_removes⟩

/-- A store in which a property has a value, and somebody else who is about to remove it. -/
def contended : Inquiry where
  store := ({} : Store).set "k" "v"
  programs _ := [.operate (.remove "k")]

/-- One turn of somebody else, between the first two of the one who asks. -/
def interrupted : Nat → Turn
  | 1 => .other 0
  | _ => .own

private theorem looks_interrupted : Looks interrupted 0 2 where
  opens := ⟨rfl, by decide⟩
  order := by decide
  own := rfl
  between moment after early := by
    obtain rfl : moment = 1 := by omega
    decide

theorem inquiry_true_iff_interrupted :
    contended.stage = .begun ∧
      (run "k" interrupted contended 3).stage = .answered (.ok "") ∧
      Lost "k" interrupted contended 0 2 ∧
      ¬ WasTrue (run "k" interrupted contended) "k" 3 (.ok "") := by
  have answered : (run "k" interrupted contended 3).stage = .answered (.ok "") := rfl
  have lost : Lost "k" interrupted contended 0 2 :=
    ⟨looks_interrupted, by decide +kernel, by decide +kernel⟩
  refine ⟨rfl, answered, lost, fun wasTrue => ?_⟩
  obtain ⟨_, told⟩ := inquiry_true_iff "k" interrupted contended rfl
  have had : Had (run "k" interrupted contended) "k" 3 (some "") :=
    (told 3 (.ok "") answered).1.mp wasTrue 0 2 lost
  revert had
  decide +kernel

/-- Not every answer was true at some moment of the call. -/
theorem exists_answer_untrue :
    ¬ ∀ (key : String) (schedule : Nat → Turn) (start : Inquiry), start.stage = .begun →
      ∀ ended answer, (run key schedule start ended).stage = .answered answer →
        WasTrue (run key schedule start) key ended answer := by
  intro always
  have never : ¬ Had (run "k" interrupted contended) "k" 3 (some "") := by decide +kernel
  cases always "k" interrupted contended rfl 3 (.ok "") rfl with
  | value had => exact never had

end Inquiry

end PropertyStore
