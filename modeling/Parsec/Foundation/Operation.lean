import Mathlib.Tactic.Common

/-! # Operations that may be refused

A computation on a state that returns a value or an error, and what it takes for one that
is built from others to be refused. -/

namespace Parsec.Foundation

abbrev Operation (Error State Value : Type) := ExceptT Error (StateM State) Value

namespace Operation

variable {Error Other State Value Result : Type}

def outcome (operation : Operation Error State Value) (state : State) :
    Except Error Value × State :=
  operation.run.run state

def ofExcept (result : Except Error Value) : Operation Error State Value :=
  fun state => (result, state)

def read (view : State → Value) : Operation Error State Value :=
  fun state => (.ok (view state), state)

def mapError (change : Error → Other) (operation : Operation Error State Value) :
    Operation Other State Value :=
  fun state => ((operation.outcome state).1.mapError change, (operation.outcome state).2)

def Returns (operation : Operation Error State Value) (state : State) (value : Value)
    (after : State) : Prop :=
  operation.outcome state = (.ok value, after)

def Refuses (operation : Operation Error State Value) (state : State) : Prop :=
  ∃ error after, operation.outcome state = (.error error, after)

@[simp] theorem refuses_pure (value : Value) (state : State) :
    ¬ Refuses (pure value : Operation Error State Value) state := by
  rintro ⟨error, after, failed⟩
  cases failed

variable {value : Value} {state after : State}

@[simp] theorem returns_pure {result : Value} :
    Returns (pure value : Operation Error State Value) state result after ↔
      result = value ∧ after = state := by
  change ((Except.ok value : Except Error Value), state) = (.ok result, after) ↔ _
  simp [eq_comm]

variable (error : Error)

@[simp] theorem returns_throw (value : Value) (state after : State) :
    ¬ Returns (throw error : Operation Error State Value) state value after := by
  intro returned
  cases returned

@[simp] theorem refuses_throw (state : State) :
    Refuses (throw error : Operation Error State Value) state :=
  ⟨error, state, rfl⟩

@[simp] theorem refuses_read (view : State → Value) (state : State) :
    ¬ Refuses (read view : Operation Error State Value) state := by
  rintro ⟨error, after, failed⟩
  cases failed

variable {result : Except Error Value}

@[simp] theorem refuses_ofExcept :
    Refuses (ofExcept result) state ↔ ∃ error, result = .error error := by
  simp [Refuses, outcome, ofExcept, ExceptT.run, StateT.run]

@[simp] theorem returns_ofExcept :
    Returns (ofExcept result) state value after ↔ result = .ok value ∧ after = state := by
  simp [Returns, outcome, ofExcept, ExceptT.run, StateT.run, eq_comm]

theorem outcome_bind (first : Operation Error State Value)
    (next : Value → Operation Error State Result) (state : State) :
    (first >>= next).outcome state =
      match first.outcome state with
      | (.ok value, after) => (next value).outcome after
      | (.error error, after) => (.error error, after) := by
  simp only [outcome, ExceptT.run_bind, StateT.run_bind]
  cases first.run.run state with
  | mk result after =>
    cases result with
    | ok value | error error => rfl

variable {next : Value → Operation Error State Result} {first : Operation Error State Value}

theorem refuses_bind :
    Refuses (first >>= next) state ↔
      first.Refuses state ∨ ∃ value after, first.Returns state value after ∧
        (next value).Refuses after := by
  simp only [Refuses, Returns, outcome_bind]
  cases first.outcome state with
  | mk result after =>
    cases result with
    | ok value | error error => simp

theorem returns_bind {final : State} {result : Result} :
    Returns (first >>= next) state result final ↔
      ∃ value after, first.Returns state value after ∧ (next value).Returns after result final := by
  simp only [Returns, outcome_bind]
  cases first.outcome state with
  | mk outcome after =>
    cases outcome with
    | ok value | error error => simp

variable {operation : Operation Error State Value}

@[simp] theorem refuses_map {change : Value → Result} :
    Refuses (change <$> operation) state ↔ operation.Refuses state := by
  rw [map_eq_pure_bind, refuses_bind]
  simp

theorem outcome_mapError (operation : Operation Error State Value) (change : Error → Other)
    (state : State) : (operation.mapError change).outcome state =
      ((operation.outcome state).1.mapError change, (operation.outcome state).2) := rfl

variable {change : Error → Other}

@[simp] theorem refuses_mapError :
    Refuses (operation.mapError change) state ↔ operation.Refuses state := by
  unfold Refuses
  rw [outcome_mapError]
  cases ran : operation.outcome state with
  | mk result after =>
    cases result with
    | ok value | error error => simp [Except.mapError]

@[simp] theorem returns_mapError :
    Returns (operation.mapError change) state value after ↔
      operation.Returns state value after := by
  unfold Returns
  rw [outcome_mapError]
  cases ran : operation.outcome state with
  | mk result final =>
    cases result with
    | ok value | error error => simp [Except.mapError]

end Operation

end Parsec.Foundation
