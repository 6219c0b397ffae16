import Mathlib.Tactic.Common

/-! # Fallible computations

Guards for computations that stop at their first error, and what a success says about
each of the steps before it. -/

namespace Parsec.Foundation

universe u v w

variable {Error : Type u} {Value : Type v} {Result : Type w}

def ensure (condition : Prop) [Decidable condition] (error : Error) : Except Error Unit :=
  if condition then .ok () else .error error

def required (error : Error) : Option Value → Except Error Value
  | some value => .ok value
  | none => .error error

variable {Result : Type v} {result : Result}

theorem bind_eq_ok {Value : Type v} {first : Except Error Value}
    {next : Value → Except Error Result} :
    (first >>= next) = .ok result ↔ ∃ value, first = .ok value ∧ next value = .ok result := by
  cases first with
  | error error | ok value => simp [bind, Except.bind]

theorem check_then_eq_ok {first : Except Error PUnit} {next : PUnit → Except Error Result} :
    (first >>= next) = .ok result ↔ first = .ok ⟨⟩ ∧ next ⟨⟩ = .ok result := by
  cases first <;> simp [bind, Except.bind]

variable {error : Error}

@[simp] theorem ensure_eq_ok {condition : Prop} [Decidable condition] {success : Unit} :
    ensure condition error = .ok success ↔ condition := by
  unfold ensure
  split <;> simp_all

variable {value : Value}

@[simp] theorem required_eq_ok {option : Option Value} :
    required error option = .ok value ↔ option = some value := by
  cases option <;> simp [required]

@[simp] theorem mapError_eq_ok {Other : Type w} {change : Error → Other}
    {outcome : Except Error Value} : outcome.mapError change = .ok value ↔ outcome = .ok value := by
  cases outcome <;> simp [Except.mapError]

variable {Item : Type v}

theorem forM_eq_ok {check : Item → Except Error PUnit} {items : List Item} :
    items.forM check = .ok ⟨⟩ ↔ ∀ item ∈ items, check item = .ok ⟨⟩ := by
  induction items with
  | nil => simp [pure, Except.pure]
  | cons item items induction =>
    change (check item >>= fun _ => items.forM check) = .ok ⟨⟩ ↔ _
    rw [check_then_eq_ok, induction, List.forall_mem_cons]

end Parsec.Foundation
