import Mathlib

/-! # Executions of step functions

Finite executions of an arbitrary deterministic step function. An action that
is not enabled yields no successor, so nondeterminism (the interleaving of
several threads, the arrival of requests, the passing of time) is expressed by
the choice of the action list. -/

namespace Parsec.Foundation

universe u v

/-- The state after an action, or `none` when the action is not enabled. -/
abbrev Step (State : Type u) (Action : Type v) := State → Action → Option State

/-- An execution whose every step is taken from a state that permits it.
Executions without a restriction permit everything. -/
inductive Run {State : Type u} {Action : Type v} (step : Step State Action)
    (permitted : State → Action → Prop) : State → List Action → State → Prop
  | nil (state : State) : Run step permitted state [] state
  | cons {current middle final action actions} :
      permitted current action →
      step current action = some middle →
      Run step permitted middle actions final →
      Run step permitted current (action :: actions) final

def unrestricted {State : Type u} {Action : Type v} : State → Action → Prop :=
  fun _ _ => True

namespace Run

variable {State : Type u} {Action : Type v} {step : Step State Action}
  {permitted : State → Action → Prop}
  {initial final : State} {actions : List Action}
  (holds : State → Prop)

theorem invariant
    (preserved : ∀ current action next, holds current →
      permitted current action → step current action = some next → holds next)
    (run : Run step permitted initial actions final) (start : holds initial) : holds final := by
  induction run with
  | nil => exact start
  | cons allowed taken _ induction =>
    exact induction (preserved _ _ _ start allowed taken)

theorem append {middle : State} {first second : List Action}
    (before : Run step permitted initial first middle)
    (after : Run step permitted middle second final) :
    Run step permitted initial (first ++ second) final := by
  induction before with
  | nil => exact after
  | cons allowed taken _ induction => exact .cons allowed taken (induction after)

theorem weaken {weaker : State → Action → Prop} (run : Run step permitted initial actions final)
    (implied : ∀ state, ∀ action ∈ actions, permitted state action → weaker state action) :
    Run step weaker initial actions final := by
  induction run with
  | nil => exact .nil _
  | cons allowed taken _ induction =>
    refine .cons (implied _ _ List.mem_cons_self allowed) taken (induction ?_)
    exact fun state action member => implied state action (List.mem_cons_of_mem _ member)

theorem strengthen {stronger : State → Action → Prop}
    (preserved : ∀ current action next, holds current →
      permitted current action → step current action = some next → holds next)
    (implied : ∀ state action, holds state → permitted state action → stronger state action)
    (run : Run step permitted initial actions final) (start : holds initial) :
    Run step stronger initial actions final := by
  induction run with
  | nil => exact .nil _
  | cons allowed taken _ induction =>
    exact .cons (implied _ _ start allowed) taken (induction (preserved _ _ _ start allowed taken))

theorem both {other : State → Action → Prop} (run : Run step permitted initial actions final)
    (again : Run step other initial actions final) :
    Run step (fun state action => permitted state action ∧ other state action) initial actions
      final := by
  induction run with
  | nil => exact .nil _
  | cons allowed taken _ induction =>
    cases again with
    | cons too same rest =>
      rw [taken] at same
      cases same
      exact .cons ⟨allowed, too⟩ taken (induction rest)

/-- An execution seen through a part of its state that steps on its own: the part's execution
is as restricted as the whole one. -/
theorem project {Part Move : Type*} {partStep : Step Part Move} (view : State → Part)
    (move : State → Action → Move)
    (commutes : ∀ current action next, step current action = some next →
      partStep (view current) (move current action) = some (view next))
    (run : Run step permitted initial actions final) :
    ∃ moves, Run partStep unrestricted (view initial) moves (view final) ∧
      ∀ allowed : Part → Move → Prop,
        Run step (fun state action => allowed (view state) (move state action)) initial actions
            final ↔
          Run partStep allowed (view initial) moves (view final) := by
  induction run with
  | nil state => exact ⟨[], .nil _, fun _ => iff_of_true (.nil _) (.nil _)⟩
  | @cons current middle final action actions _ taken _ induction =>
    rcases induction with ⟨moves, part, same⟩
    have moved := commutes current action middle taken
    refine ⟨move current action :: moves, .cons trivial moved part, fun allowed => ⟨?_, ?_⟩⟩
    · intro whole
      cases whole with
      | cons permits again rest =>
        rw [taken] at again
        cases again
        exact .cons permits moved ((same allowed).mp rest)
    · intro seen
      cases seen with
      | cons permits again rest =>
        rw [moved] at again
        cases again
        exact .cons permits taken ((same allowed).mpr rest)

end Run

def execute {State : Type u} {Action : Type v} (step : Step State Action)
    (permitted : State → Action → Prop)
    [∀ state action, Decidable (permitted state action)] :
    State → List Action → Option State
  | state, [] => some state
  | state, action :: actions =>
    if permitted state action then
      (step state action).bind fun next => execute step permitted next actions
    else
      none

instance {State : Type u} {Action : Type v} (state : State) (action : Action) :
    Decidable (unrestricted state action) :=
  isTrue trivial

variable {State : Type u} {Action : Type v} {step : Step State Action}
  {permitted : State → Action → Prop} [∀ state action, Decidable (permitted state action)]

theorem Run.of_execute :
    ∀ {actions : List Action} {initial final : State},
      execute step permitted initial actions = some final →
      Run step permitted initial actions final
  | [], initial, final, executed => by
      simp only [execute, Option.some.injEq] at executed
      subst executed
      exact .nil _
  | action :: actions, initial, final, executed => by
      rw [execute] at executed
      split at executed
      · rename_i allowed
        rcases Option.bind_eq_some_iff.mp executed with ⟨next, taken, rest⟩
        exact .cons allowed taken (Run.of_execute rest)
      · cases executed

theorem Run.exists_of_execute {Result : Type w} {actions : List Action} {initial : State}
    (observe : State → Result) {result : Result}
    (executed : (execute step permitted initial actions).map observe = some result) :
    ∃ final, Run step permitted initial actions final ∧ observe final = result := by
  rcases Option.map_eq_some_iff.mp executed with ⟨final, reached, observed⟩
  exact ⟨final, .of_execute reached, observed⟩

theorem split_concat {Entry : Type u} {entries before after : List Entry} {last entry : Entry}
    (split : entries ++ [last] = before ++ entry :: after) :
    (before = entries ∧ entry = last ∧ after = []) ∨
      ∃ rest, after = rest ++ [last] ∧ entries = before ++ entry :: rest := by
  rcases after.eq_nil_or_concat with rfl | ⟨rest, final, rfl⟩
  · have equal := List.append_inj' split rfl
    cases equal.2
    exact .inl ⟨equal.1.symm, rfl, rfl⟩
  · right
    rw [List.concat_eq_append, ← List.cons_append, ← List.append_assoc] at split
    have equal := List.append_inj' split rfl
    cases equal.2
    exact ⟨rest, List.concat_eq_append, equal.1⟩

end Parsec.Foundation
