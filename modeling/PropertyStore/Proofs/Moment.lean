import PropertyStore.Moment
import PropertyStore.Proofs.Document.OpenEnd
import PropertyStore.Proofs.Text.Line

namespace PropertyStore.Calendar

def inStamp (c : Char) : Bool := c.isAlphanum || c == ' ' || c == ':'

theorem isDigit_of_mem_padded {width value : Nat} (member : c ∈ (padded width value).toList) :
    c.isDigit = true := by
  rw [padded, String.toList_ofList, List.mem_append] at member
  rcases member with padding | digit
  · obtain rfl := List.eq_of_mem_replicate padding
    rfl
  · exact Nat.isDigit_of_mem_toDigits (by decide) (by decide) digit

private theorem inStamp_padded
    (width value : Nat) : (padded width value).toList.all inStamp = true := by
  rw [List.all_eq_true]
  intro c member
  simp [inStamp, Char.isAlphanum, isDigit_of_mem_padded member]

private theorem inStamp_getD (names : List String) (index : Nat) (default : String)
    (all : (default :: names).all (fun name => name.toList.all inStamp) = true) :
    (names.getD index default).toList.all inStamp = true := by
  rw [List.all_eq_true] at all
  refine all _ ?_
  rw [List.getD_eq_getElem?_getD]
  cases found : names[index]? with
  | none => simp
  | some name => exact List.mem_cons_of_mem _ (List.mem_of_getElem? found)

private theorem inStamp_stamp (time : Calendar) : time.stamp.toList.all inStamp = true := by
  have day : (dayName time.weekday).toList.all inStamp = true := inStamp_getD _ _ _ (by decide)
  have month : (monthName time.month).toList.all inStamp = true := inStamp_getD _ _ _ (by decide)
  simp only [stamp, clock, toString, String.toList_append, List.all_append, Bool.and_eq_true,
    day, month, inStamp_padded, and_true, true_and]
  decide

private theorem ne_of_mem_stamp (time : Calendar) (member : c ∈ time.stamp.toList)
    (foreign : inStamp other = false) : c ≠ other := by
  intro same
  have kept := List.all_eq_true.mp time.inStamp_stamp c member
  rw [same, foreign] at kept
  cases kept

theorem oneLine_stamp (time : Calendar) : Text.OneLine time.stamp.toList := by
  intro c member
  exact ⟨time.ne_of_mem_stamp member rfl, time.ne_of_mem_stamp member rfl⟩

theorem isContinued_stamp (time : Calendar) : Document.isContinued time.stamp.toList = false := by
  apply Document.isContinued_of_plain
  intro c member
  exact time.ne_of_mem_stamp member rfl

end PropertyStore.Calendar
