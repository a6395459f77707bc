/-
Names and settings that have to be given: a blank one is refused with the
name of what is missing.
-/
import Courier.Failure
import Courier.Text.Blank

namespace Courier

/-- Refuses a blank value of `what`. -/
def required (what value : String) : Except Failure Unit :=
  if Text.isBlank value then
    .error (.invalidConfiguration ("the " ++ what ++ " must be specified"))
  else .ok ()

/-- Refuses a value when the condition holds. -/
def refuseIf (condition : Bool) (reason : String) : Except Failure Unit :=
  if condition then .error (.invalidConfiguration reason) else .ok ()

/-- A value is accepted when it is not blank. -/
@[simp] theorem required_eq_ok_iff {what value : String} :
    required what value = .ok () ↔ Text.isBlank value = false := by
  unfold required
  split <;> simp_all

@[simp] theorem refuseIf_eq_ok_iff {condition : Bool} {reason : String} :
    refuseIf condition reason = .ok () ↔ condition = false := by
  unfold refuseIf
  split <;> simp_all

/-- Checks one after another are passed if each of them is. -/
theorem bind_eq_ok_iff {α β : Type} {x : Except Failure α} {f : α → Except Failure β} {b : β} :
    x >>= f = .ok b ↔ ∃ a, x = .ok a ∧ f a = .ok b := by
  cases x with
  | error e => exact ⟨nofun, fun ⟨_, passed, _⟩ => nomatch passed⟩
  | ok a => exact ⟨fun rest => ⟨a, rfl, rest⟩, fun ⟨_, passed, rest⟩ => by cases passed; exact rest⟩

/-- What comes behind a required value is reached if the value is not blank. -/
theorem required_bind_eq_ok_iff {α : Type} {what value : String} {rest : Except Failure α}
    {a : α} : (required what value >>= fun _ => rest) = .ok a
      ↔ Text.isBlank value = false ∧ rest = .ok a := by
  unfold required
  cases Text.isBlank value with
  | true => exact ⟨nofun, nofun⟩
  | false => exact (and_iff_right rfl).symm

/-- What comes behind a refusal is reached if the condition does not hold. -/
theorem refuseIf_bind_eq_ok_iff {α : Type} {condition : Bool} {reason : String}
    {rest : Except Failure α} {a : α} :
    (refuseIf condition reason >>= fun _ => rest) = .ok a ↔ condition = false ∧ rest = .ok a := by
  cases condition with
  | true => exact ⟨nofun, nofun⟩
  | false => exact (and_iff_right rfl).symm

end Courier
