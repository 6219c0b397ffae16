import Mathlib.Data.List.Basic

/-! # Stores that may lose entries

A keyed store each of whose operations writes at most one key, and which may lose entries on the
way, as caches do. -/

namespace Parsec.Foundation

variable {State Key Value Operation : Type} [DecidableEq Key]

def written (write : Option (Key × Option Value)) (held : Key → Option Value) (key : Key) :
    Option Value :=
  match write with
  | none => held key
  | some (target, value) => if key = target then value else held key

structure LossyStore (State Key Value Operation : Type) [DecidableEq Key] where
  lookup : State → Key → Option Value
  writes : Operation → Option (Key × Option Value)
  step : State → Operation → State × (Key → Bool)
  sound : ∀ state operation key,
    lookup (step state operation).1 key = written (writes operation) (lookup state) key ∨
      lookup (step state operation).1 key = none ∧ (step state operation).2 key = true

structure Tracked (State Key : Type) where
  state : State
  lost : Key → Bool

namespace LossyStore

variable (store : LossyStore State Key Value Operation)

def writesKey (operation : Operation) (key : Key) : Bool :=
  match store.writes operation with
  | none => false
  | some (target, _) => key = target

def track (tracked : Tracked State Key) (operation : Operation) : Tracked State Key where
  state := (store.step tracked.state operation).1
  lost := fun key => (store.step tracked.state operation).2 key ||
    (tracked.lost key && !store.writesKey operation key)

def run (initial : State) (operations : List Operation) : Tracked State Key :=
  operations.foldl store.track { state := initial, lost := fun _ => false }

def held (operations : List Operation) : Key → Option Value :=
  operations.foldl (fun held operation => written (store.writes operation) held) fun _ => none

def Agrees (tracked : Tracked State Key) (held : Key → Option Value) : Prop :=
  ∀ key, store.lookup tracked.state key = held key ∨
    store.lookup tracked.state key = none ∧ tracked.lost key = true

variable {store}

theorem run_concat (initial : State) (operations : List Operation) (last : Operation) :
    store.run initial (operations ++ [last]) = store.track (store.run initial operations) last := by
  simp [run]

variable {key : Key} {operation : Operation}

theorem written_of_writesKey {left right : Key → Option Value}
    (wrote : store.writesKey operation key = true) :
    written (store.writes operation) left key = written (store.writes operation) right key := by
  unfold writesKey at wrote
  cases write : store.writes operation with
  | none => simp [write] at wrote
  | some pair =>
    simp only [write, decide_eq_true_eq] at wrote
    simp [written, wrote]

variable {held : Key → Option Value}

theorem written_of_not_writesKey (spared : store.writesKey operation key = false) :
    written (store.writes operation) held key = held key := by
  unfold writesKey at spared
  cases write : store.writes operation with
  | none => rfl
  | some pair =>
    simp only [write, decide_eq_false_iff_not] at spared
    simp [written, spared]

theorem Agrees.track {tracked : Tracked State Key} (agrees : store.Agrees tracked held)
    (operation : Operation) :
    store.Agrees (store.track tracked operation) (written (store.writes operation) held) := by
  intro key
  rcases store.sound tracked.state operation key with kept | ⟨gone, lost⟩
  · cases wrote : store.writesKey operation key with
    | true => exact .inl (kept.trans (written_of_writesKey wrote))
    | false =>
      rw [written_of_not_writesKey wrote] at kept ⊢
      rcases agrees key with same | ⟨missing, lost⟩
      · exact .inl (kept.trans same)
      · exact .inr ⟨kept.trans missing, by simp [LossyStore.track, lost, wrote]⟩
  · exact .inr ⟨gone, by simp [LossyStore.track, lost]⟩

variable {initial : State}

theorem run_agrees (empty : ∀ key, store.lookup initial key = none) (operations : List Operation) :
    store.Agrees (store.run initial operations) (store.held operations) := by
  have folded : ∀ {tracked : Tracked State Key} {held : Key → Option Value},
      store.Agrees tracked held → store.Agrees (operations.foldl store.track tracked)
        (operations.foldl (fun held operation => written (store.writes operation) held) held) := by
    induction operations with
    | nil => exact fun agrees => agrees
    | cons operation operations induction => exact fun agrees => induction (agrees.track operation)
  exact folded fun key => .inl (empty key)

variable {keep : Operation → Bool} {operations : List Operation}

theorem held_filter
    (spared : ∀ operation ∈ operations, keep operation = false →
      store.writesKey operation key = false) :
    store.held (operations.filter keep) key = store.held operations key := by
  have folded : ∀ {left right : Key → Option Value}, left key = right key →
      (operations.filter keep).foldl
          (fun held operation => written (store.writes operation) held) left key =
        operations.foldl (fun held operation => written (store.writes operation) held) right
          key := by
    induction operations with
    | nil => exact fun same => same
    | cons operation operations induction =>
      intro left right same
      have rest : ∀ other ∈ operations, keep other = false → store.writesKey other key = false :=
        fun other member => spared other (List.mem_cons_of_mem _ member)
      have both : written (store.writes operation) left key =
          written (store.writes operation) right key := by
        cases wrote : store.writesKey operation key with
        | true => exact written_of_writesKey wrote
        | false => rw [written_of_not_writesKey wrote, written_of_not_writesKey wrote, same]
      cases kept : keep operation with
      | true =>
        rw [List.filter_cons_of_pos kept, List.foldl_cons, List.foldl_cons]
        exact induction rest both
      | false =>
        rw [List.filter_cons_of_neg (by simp [kept]), List.foldl_cons]
        apply induction rest
        rw [written_of_not_writesKey (spared operation List.mem_cons_self kept)]
        exact same
  exact folded rfl

variable (empty : ∀ key, store.lookup initial key = none)
  (spared : ∀ operation ∈ operations, keep operation = false →
    store.writesKey operation key = false)
include empty spared

theorem lookup_filter :
    let full := store.run initial operations
    let own := store.run initial (operations.filter keep)
    store.lookup full.state key = store.lookup own.state key ∨
      store.lookup full.state key = none ∧ full.lost key = true ∨
      store.lookup own.state key = none ∧ own.lost key = true := by
  intro full own
  have same := held_filter spared
  rcases run_agrees empty operations key with fullHeld | fullLost
  · rcases run_agrees empty (operations.filter keep) key with ownHeld | ownLost
    · exact .inl (fullHeld.trans (same.symm.trans ownHeld.symm))
    · exact .inr (.inr ownLost)
  · exact .inr (.inl fullLost)

theorem lookup_filter_concat {last : Operation} (kept : keep last = true) :
    let full := store.track (store.run initial operations) last
    let own := store.track (store.run initial (operations.filter keep)) last
    store.lookup full.state key = store.lookup own.state key ∨
      store.lookup full.state key = none ∧ full.lost key = true ∨
      store.lookup own.state key = none ∧ own.lost key = true := by
  have sparedAll : ∀ operation ∈ operations ++ [last], keep operation = false →
      store.writesKey operation key = false := by
    intro operation member dropped
    rcases List.mem_append.mp member with earlier | final
    · exact spared operation earlier dropped
    · rw [List.mem_singleton.mp final, kept] at dropped
      cases dropped
  have filtered : (operations ++ [last]).filter keep = operations.filter keep ++ [last] := by
    simp [List.filter_append, kept]
  have compared := lookup_filter empty sparedAll
  simpa only [filtered, run_concat] using compared

end LossyStore

end Parsec.Foundation
