import Mathlib

/-! # Services that answer calls

A service answers each call from its state and moves on. Sequences of calls, and what holds
of the state and of all answers given so far. -/

namespace Parsec.Foundation

universe u v w

abbrev Service (State : Type u) (Call : Type v) (Answer : Type w) :=
  State → Call → Answer × State

namespace Service

variable {State : Type u} {Call : Type v} {Answer : Type w} (service : Service State Call Answer)

def after : State → List Call → State
  | state, [] => state
  | state, call :: calls => after (service state call).2 calls

def answers : State → List Call → List Answer
  | _, [] => []
  | state, call :: calls => (service state call).1 :: answers (service state call).2 calls

variable (state : State)

@[simp] theorem after_nil : service.after state [] = state := rfl

@[simp] theorem answers_nil : service.answers state [] = [] := rfl

variable (first second : List Call)

theorem after_append :
    service.after state (first ++ second) = service.after (service.after state first) second := by
  induction first generalizing state with
  | nil => rfl
  | cons call first induction => exact induction (service state call).2

theorem answers_append :
    service.answers state (first ++ second) =
      service.answers state first ++ service.answers (service.after state first) second := by
  induction first generalizing state with
  | nil => rfl
  | cons call first induction =>
    exact congrArg (List.cons _) (induction (service state call).2)

variable (calls : List Call) (call : Call)

theorem after_concat :
    service.after state (calls ++ [call]) = (service (service.after state calls) call).2 := by
  rw [after_append]
  rfl

theorem answers_concat :
    service.answers state (calls ++ [call]) =
      service.answers state calls ++ [(service (service.after state calls) call).1] := by
  rw [answers_append]
  rfl

def past : State → List Call → List (Call × Answer)
  | _, [] => []
  | state, call :: calls =>
    past (service state call).2 calls ++ [(call, (service state call).1)]

theorem past_concat :
    service.past state (calls ++ [call]) =
      (call, (service (service.after state calls) call).1) :: service.past state calls := by
  induction calls generalizing state with
  | nil => rfl
  | cons first calls induction =>
    exact congrArg (· ++ [(first, (service state first).1)]) (induction (service state first).2)

theorem map_past : (service.past state calls).map (·.1) = calls.reverse := by
  induction calls generalizing state with
  | nil => rfl
  | cons call calls induction => simp [past, induction]

variable {calls : List Call} {state : State}

theorem mem_of_mem_past {step : Call × Answer} (answered : step ∈ service.past state calls) :
    step.1 ∈ calls := by
  have mapped : step.1 ∈ (service.past state calls).map (·.1) := List.mem_map_of_mem answered
  rwa [map_past, List.mem_reverse] at mapped

theorem pairwise_past {relation : Call → Call → Prop} (ordered : calls.Pairwise relation)
    (state : State) :
    (service.past state calls).Pairwise fun later earlier => relation earlier.1 later.1 := by
  have reversed : ((service.past state calls).map (·.1)).Pairwise
      fun later earlier => relation earlier later := by
    rw [map_past, List.pairwise_reverse]
    exact ordered
  exact List.pairwise_map.mp reversed

def through {Form : Type*} (translate : Form → Call) : Service State Form Answer :=
  fun state form => service state (translate form)

theorem after_through {Form : Type*} (translate : Form → Call) (state : State)
    (forms : List Form) :
    (service.through translate).after state forms = service.after state (forms.map translate) := by
  induction forms generalizing state with
  | nil => rfl
  | cons form forms induction => exact induction (service state (translate form)).2

theorem after_invariant (permitted : Call → Prop) (holds : State → Prop)
    (kept : ∀ state call, holds state → permitted call → holds (service state call).2)
    (start : holds state) (allowed : ∀ call ∈ calls, permitted call) :
    holds (service.after state calls) := by
  induction calls generalizing state with
  | nil => exact start
  | cons call calls induction =>
    apply induction (kept state call start (allowed call List.mem_cons_self))
    intro later member
    exact allowed later (List.mem_cons_of_mem call member)

variable {permitted : Call → Prop}

theorem history_invariant (holds : State → List Call → List Answer → Prop) {initial : State}
    (start : holds initial [] [])
    (kept : ∀ state call past given, holds state past given → permitted call →
      holds (service state call).2 (past ++ [call]) (given ++ [(service state call).1]))
    (allowed : ∀ call ∈ calls, permitted call) :
    holds (service.after initial calls) calls (service.answers initial calls) := by
  induction calls using List.reverseRecOn with
  | nil => exact start
  | append_singleton calls call induction =>
    rw [after_concat, answers_concat]
    apply kept
    · apply induction
      intro earlier member
      exact allowed earlier (List.mem_append_left [call] member)
    · exact allowed call (by simp)

variable {Other : Type u} {mirror : Other}
  {OtherAnswer : Type w} (other : Service Other Call OtherAnswer)

theorem answers_related (related : State → Other → Prop) (alike : Answer → OtherAnswer → Prop)
    (step : ∀ state mirror call, related state mirror → permitted call →
      alike (service state call).1 (other mirror call).1 ∧
        related (service state call).2 (other mirror call).2) (start : related state mirror)
    (allowed : ∀ call ∈ calls, permitted call) :
    List.Forall₂ alike (service.answers state calls) (other.answers mirror calls) := by
  induction calls generalizing state mirror with
  | nil => exact .nil
  | cons call calls induction =>
    obtain ⟨first, rest⟩ := step state mirror call start (allowed call List.mem_cons_self)
    apply List.Forall₂.cons first
    apply induction rest
    intro later member
    exact allowed later (List.mem_cons_of_mem call member)

theorem answers_eq_iff {View : Type*} (view : Answer → View) (otherView : OtherAnswer → View)
    (aligned : List Call → Call → Prop)
    (step : ∀ before call after, calls = before ++ call :: after →
      (service.answers state before).map view = (other.answers mirror before).map otherView →
      (view (service (service.after state before) call).1 =
        otherView (other (other.after mirror before) call).1 ↔ aligned before call)) :
    (service.answers state calls).map view = (other.answers mirror calls).map otherView ↔
      ∀ before call after, calls = before ++ call :: after → aligned before call := by
  induction calls using List.reverseRecOn with
  | nil => simp
  | append_singleton calls last induction =>
    have earlier := induction fun before call after split =>
      step before call (after ++ [last]) (by simp [split])
    rw [answers_concat, answers_concat, List.map_append, List.map_append, List.map_singleton,
      List.map_singleton, List.append_singleton_inj]
    constructor
    · rintro ⟨same, sameLast⟩ before call after split
      rcases List.eq_nil_or_concat after with rfl | ⟨after, final, rfl⟩
      · obtain ⟨rfl, rfl⟩ := List.append_singleton_inj.mp split
        exact (step calls last [] rfl same).mp sameLast
      · have cut : calls ++ [last] = (before ++ call :: after) ++ [final] := by simp [split]
        have shorter := (List.append_singleton_inj.mp cut).1
        exact earlier.mp same before call after shorter
    · intro all
      have same := earlier.mpr fun before call after split =>
        all before call (after ++ [last]) (by simp [split])
      exact ⟨same, (step calls last [] rfl same).mpr (all calls last [] rfl)⟩

end Service

end Parsec.Foundation
