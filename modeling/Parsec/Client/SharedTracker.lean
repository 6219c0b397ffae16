import Parsec.Client.Envelope
import Parsec.Foundation.Execution

/-! # Concurrent draws of sequence numbers

The tracker of the source as goroutines share it: a map from channels to the cells of their
counters. A draw looks its cell up under the read lock, makes one under the write lock when there
was none, and adds to it outside of both. -/

namespace Parsec.Client

open Foundation

structure SharedTracker where
  state : String → Option Nat
  memory : Nat → Int64
  allocated : Nat

/-- What `Restore` is given: a map, in an order in which it may be visited. -/
structure SequenceSnapshot where
  entries : List (String × Int64)
  distinct : (entries.map Prod.fst).Nodup

namespace SharedTracker

def peek (tracker : SharedTracker) (channel : String) : Int64 :=
  match tracker.state channel with
  | some cell => tracker.memory cell
  | none => 0

def place (tracker : SharedTracker) (channel : String) (value : Int64) : SharedTracker where
  state := Function.update tracker.state channel (some tracker.allocated)
  memory := Function.update tracker.memory tracker.allocated value
  allocated := tracker.allocated + 1

def add (tracker : SharedTracker) (cell : Nat) : SharedTracker :=
  { tracker with memory := Function.update tracker.memory cell (tracker.memory cell + 1) }

def restore (tracker : SharedTracker) (saved : SequenceSnapshot) : SharedTracker :=
  saved.entries.foldl (fun tracker entry => tracker.place entry.1 entry.2)
    { tracker with state := fun _ => none }

structure Separate (tracker : SharedTracker) : Prop where
  allocated : ∀ {channel cell}, tracker.state channel = some cell → cell < tracker.allocated
  apart : ∀ {first second cell}, tracker.state first = some cell →
    tracker.state second = some cell → first = second

section Updates

variable {tracker : SharedTracker} {channel : String} {cell : Nat} (value : Int64)

theorem peek_of_state (found : tracker.state channel = some cell) :
    tracker.peek channel = tracker.memory cell := by
  rw [peek, found]

theorem state_place (tracker : SharedTracker) (channel other : String) :
    (tracker.place channel value).state other =
      if other = channel then some tracker.allocated else tracker.state other :=
  Function.update_apply _ _ _ _

theorem Separate.place (separate : tracker.Separate) (channel : String) :
    (tracker.place channel value).Separate where
  allocated := by
    intro other cell found
    rw [state_place] at found
    split_ifs at found
    · cases found
      exact Nat.lt_succ_self _
    · exact Nat.lt_succ_of_lt (separate.allocated found)
  apart := by
    intro first second cell found again
    rw [state_place] at found again
    split_ifs at found again with one two two
    · rw [one, two]
    · cases found
      exact absurd (separate.allocated again) (Nat.lt_irrefl _)
    · cases again
      exact absurd (separate.allocated found) (Nat.lt_irrefl _)
    · exact separate.apart found again

variable (separate : tracker.Separate)
include separate

theorem Separate.peek_place (channel other : String) :
    (tracker.place channel value).peek other =
      if other = channel then value else tracker.peek other := by
  rw [peek, state_place]
  split_ifs with same
  · simp [SharedTracker.place]
  · cases found : tracker.state other with
    | none => rw [peek, found]
    | some cell =>
      have older := separate.allocated found
      rw [peek_of_state found]
      exact Function.update_of_ne (Nat.ne_of_lt older) _ _

theorem Separate.add (cell : Nat) : (tracker.add cell).Separate :=
  ⟨separate.allocated, separate.apart⟩

theorem Separate.peek_add (found : tracker.state channel = some cell) (other : String) :
    (tracker.add cell).peek other =
      if other = channel then tracker.peek channel + 1 else tracker.peek other := by
  split_ifs with same
  · subst same
    have kept : (tracker.add cell).state other = some cell := found
    rw [peek_of_state found, peek_of_state kept]
    exact Function.update_self _ _ _
  · cases elsewhere : tracker.state other with
    | none =>
      have kept : (tracker.add cell).state other = none := elsewhere
      rw [peek, peek, elsewhere, kept]
    | some cell' =>
      have kept : (tracker.add cell).state other = some cell' := elsewhere
      have different : cell' ≠ cell := by
        rintro rfl
        exact same (separate.apart elsewhere found)
      rw [peek_of_state elsewhere, peek_of_state kept]
      exact Function.update_of_ne different _ _

end Updates

theorem Separate.restored {tracker : SharedTracker} (separate : tracker.Separate)
    {entries : List (String × Int64)} (distinct : (entries.map Prod.fst).Nodup) :
    (entries.foldl (fun tracker entry => tracker.place entry.1 entry.2) tracker).Separate ∧
      ∀ channel,
        (entries.foldl (fun tracker entry => tracker.place entry.1 entry.2) tracker).peek channel =
          (entries.lookup channel).getD (tracker.peek channel) := by
  induction entries generalizing tracker with
  | nil => exact ⟨separate, fun _ => rfl⟩
  | cons entry entries induction =>
    rcases entry with ⟨channel, value⟩
    rw [List.map_cons, List.nodup_cons] at distinct
    rcases induction (separate.place value channel) distinct.2 with ⟨later, peeks⟩
    refine ⟨later, fun other => ?_⟩
    rw [List.foldl_cons, peeks, separate.peek_place, List.lookup_cons]
    rcases eq_or_ne other channel with rfl | different
    · have absent : entries.lookup other = none := by
        rw [List.lookup_eq_none_iff]
        intro entry member
        simp only [bne_iff_ne, ne_eq]
        rintro rfl
        exact distinct.1 (List.mem_map.mpr ⟨entry, member, rfl⟩)
      simp [absent]
    · simp [different, beq_false_of_ne]

end SharedTracker

/-! ## Saved numbers -/

namespace SequenceSnapshot

def value (saved : SequenceSnapshot) (channel : String) : Int64 :=
  (saved.entries.lookup channel).getD 0

def tracker (saved : SequenceSnapshot) : SequenceTracker := fun channel =>
  (saved.entries.lookup channel).map Int64.toInt

theorem peek_tracker (saved : SequenceSnapshot) (channel : String) :
    saved.tracker.peek channel = (saved.value channel).toInt := by
  rw [SequenceTracker.peek, tracker, value]
  cases saved.entries.lookup channel with
  | none | some value => rfl

end SequenceSnapshot

theorem SharedTracker.separate_restore (tracker : SharedTracker) (saved : SequenceSnapshot) :
    (tracker.restore saved).Separate ∧
      ∀ channel, (tracker.restore saved).peek channel = saved.value channel := by
  have empty : SharedTracker.Separate { tracker with state := fun _ => none } :=
    ⟨fun found => absurd found (by simp), fun found => absurd found (by simp)⟩
  exact empty.restored saved.distinct

/-! ## Goroutines -/

/-- Where a goroutine stands in a call of `Next`. -/
inductive NextStage
  | idle
  | reading (channel : String)
  | creating (channel : String)
  | adding (channel : String) (cell : Nat)

structure ConcurrentDraws (Goroutine : Type) where
  tracker : SharedTracker
  stages : Goroutine → NextStage
  returned : List (String × Int64)

inductive DrawAction (Goroutine : Type)
  | call (goroutine : Goroutine) (channel : String)
  | read (goroutine : Goroutine)
  | create (goroutine : Goroutine)
  | add (goroutine : Goroutine)

namespace ConcurrentDraws

variable {Goroutine : Type}

def start (tracker : SharedTracker) : ConcurrentDraws Goroutine where
  tracker := tracker
  stages := fun _ => .idle
  returned := []

def channels (draws : ConcurrentDraws Goroutine) : List String := draws.returned.map Prod.fst

def returnedFor (draws : ConcurrentDraws Goroutine) (channel : String) : List Int64 :=
  (draws.returned.filter (·.1 = channel)).map (·.2)

variable [DecidableEq Goroutine]

def enter (draws : ConcurrentDraws Goroutine) (goroutine : Goroutine) (stage : NextStage) :
    ConcurrentDraws Goroutine :=
  { draws with stages := Function.update draws.stages goroutine stage }

theorem stages_enter (draws : ConcurrentDraws Goroutine) (goroutine other : Goroutine)
    (stage : NextStage) :
    (draws.enter goroutine stage).stages other =
      if other = goroutine then stage else draws.stages other :=
  Function.update_apply _ _ _ _

def complete (draws : ConcurrentDraws Goroutine) (goroutine : Goroutine) (channel : String)
    (cell : Nat) : ConcurrentDraws Goroutine :=
  { draws with
    tracker := draws.tracker.add cell
    returned := draws.returned ++ [(channel, draws.tracker.memory cell + 1)] }.enter goroutine .idle

def step : Step (ConcurrentDraws Goroutine) (DrawAction Goroutine) :=
  fun draws action =>
    match action with
    | .call goroutine channel =>
      match draws.stages goroutine with
      | .idle => some (draws.enter goroutine (.reading channel))
      | _ => none
    | .read goroutine =>
      match draws.stages goroutine with
      | .reading channel =>
        match draws.tracker.state channel with
        | some cell => some (draws.enter goroutine (.adding channel cell))
        | none => some (draws.enter goroutine (.creating channel))
      | _ => none
    | .create goroutine =>
      match draws.stages goroutine with
      | .creating channel =>
        match draws.tracker.state channel with
        | some cell => some (draws.enter goroutine (.adding channel cell))
        | none =>
          some ({ draws with tracker := draws.tracker.place channel 0 }.enter goroutine
            (.adding channel draws.tracker.allocated))
      | _ => none
    | .add goroutine =>
      match draws.stages goroutine with
      | .adding channel cell => some (draws.complete goroutine channel cell)
      | _ => none

/-- What a step can do: a goroutine goes on, with the cell of its channel if it has one, a cell is
made for a channel without one, or a call returns. -/
inductive Moved (draws : ConcurrentDraws Goroutine) : ConcurrentDraws Goroutine → Prop
  | entered (goroutine : Goroutine) (stage : NextStage) :
      (∀ channel cell, stage = .adding channel cell → draws.tracker.state channel = some cell) →
      Moved draws (draws.enter goroutine stage)
  | created (goroutine : Goroutine) (channel : String) :
      draws.tracker.state channel = none →
      Moved draws ({ draws with tracker := draws.tracker.place channel 0 }.enter goroutine
        (.adding channel draws.tracker.allocated))
  | completed (goroutine : Goroutine) (channel : String) (cell : Nat) :
      draws.stages goroutine = .adding channel cell →
      Moved draws (draws.complete goroutine channel cell)

variable {draws : ConcurrentDraws Goroutine}
  {channel : String}
  {cell : Nat}

theorem entered_found (goroutine : Goroutine) (found : draws.tracker.state channel = some cell) :
    Moved draws (draws.enter goroutine (.adding channel cell)) := by
  apply Moved.entered
  intro _ _ same
  cases same
  exact found

theorem moved_of_step {next : ConcurrentDraws Goroutine} {action : DrawAction Goroutine}
    (taken : step draws action = some next) : Moved draws next := by
  unfold step at taken
  cases action with
  | call goroutine channel =>
    cases stage : draws.stages goroutine <;> simp only [stage, reduceCtorEq] at taken
    cases taken
    exact .entered goroutine _ (by simp)
  | read goroutine =>
    cases stage : draws.stages goroutine <;> simp only [stage, reduceCtorEq] at taken
    rename_i channel
    cases found : draws.tracker.state channel with
    | none =>
      simp only [found] at taken
      cases taken
      exact .entered goroutine _ (by simp)
    | some cell =>
      simp only [found] at taken
      cases taken
      exact entered_found goroutine found
  | create goroutine =>
    cases stage : draws.stages goroutine <;> simp only [stage, reduceCtorEq] at taken
    rename_i channel
    cases found : draws.tracker.state channel with
    | none =>
      simp only [found] at taken
      cases taken
      exact .created goroutine channel found
    | some cell =>
      simp only [found] at taken
      cases taken
      exact entered_found goroutine found
  | add goroutine =>
    cases stage : draws.stages goroutine <;> simp only [stage, reduceCtorEq] at taken
    cases taken
    exact .completed goroutine _ _ stage

/-! ## Consistency -/

/-- The calls so far returned what a tracker used by one goroutine would have given out in the
order of the increments, and the counters stand where it stands. -/
structure Consistent (saved : SequenceSnapshot) (draws : ConcurrentDraws Goroutine) : Prop where
  separate : draws.tracker.Separate
  held : ∀ {goroutine channel cell}, draws.stages goroutine = .adding channel cell →
    draws.tracker.state channel = some cell
  counted : ∀ channel, draws.tracker.peek channel =
    Int64.ofInt (saved.tracker.peek channel + draws.channels.count channel)
  returned : draws.returned = (saved.tracker.drawn draws.channels).map (Prod.map id Int64.ofInt)

omit [DecidableEq Goroutine] in
theorem consistent_start (tracker : SharedTracker) (saved : SequenceSnapshot) :
    Consistent saved (start (tracker.restore saved) : ConcurrentDraws Goroutine) where
  separate := (tracker.separate_restore saved).1
  held := by
    intro goroutine channel cell adding
    cases adding
  counted := by
    intro channel
    apply ((tracker.separate_restore saved).2 channel).trans
    rw [saved.peek_tracker]
    exact ((congrArg Int64.ofInt (Int.add_zero _)).trans (Int64.ofInt_toInt _)).symm
  returned := rfl

theorem held_enter {goroutine : Goroutine} {stage : NextStage}
    (held : ∀ {goroutine channel cell}, draws.stages goroutine = .adding channel cell →
      draws.tracker.state channel = some cell)
    (found : ∀ channel cell, stage = .adding channel cell →
      draws.tracker.state channel = some cell) {other : Goroutine}
    (adding : (draws.enter goroutine stage).stages other = .adding channel cell) :
    (draws.enter goroutine stage).tracker.state channel = some cell := by
  rw [stages_enter] at adding
  split_ifs at adding
  · exact found channel cell adding
  · exact held adding

theorem Consistent.moved {saved : SequenceSnapshot} {draws next : ConcurrentDraws Goroutine}
    (consistent : Consistent saved draws) (moved : Moved draws next) : Consistent saved next := by
  cases moved with
  | entered goroutine stage found =>
    exact ⟨consistent.separate, held_enter consistent.held found, consistent.counted,
      consistent.returned⟩
  | created goroutine channel absent =>
    have kept : ∀ {other cell}, draws.tracker.state other = some cell →
        (draws.tracker.place channel 0).state other = some cell := by
      intro other cell found
      rw [SharedTracker.state_place, if_neg]
      · exact found
      · rintro rfl
        rw [absent] at found
        cases found
    refine ⟨consistent.separate.place 0 channel, held_enter ?_ ?_, ?_, consistent.returned⟩
    · intro other channel cell adding
      exact kept (consistent.held adding)
    · intro other cell same
      cases same
      rw [SharedTracker.state_place, if_pos rfl]
    · intro other
      apply (consistent.separate.peek_place 0 channel other).trans
      apply Eq.trans _ (consistent.counted other)
      split_ifs with same
      · rw [same, SharedTracker.peek, absent]
      · rfl
  | completed goroutine channel cell adding =>
    have found := consistent.held adding
    have drawn : (draws.complete goroutine channel cell).channels =
        draws.channels ++ [channel] := List.map_append
    refine ⟨consistent.separate.add cell, held_enter consistent.held ?_, ?_, ?_⟩
    · intro _ _ same
      cases same
    · intro other
      rw [drawn, List.count_append]
      apply (consistent.separate.peek_add found other).trans
      split_ifs with same
      · rw [same, consistent.counted, List.count_singleton_self, Nat.cast_add, ← add_assoc,
          Int64.ofInt_add _ (1 : Nat)]
        rfl
      · rw [consistent.counted, List.count_singleton, if_neg (by simp [Ne.symm same])]
        rfl
    · rw [drawn, SequenceTracker.drawn_concat, List.map_append, ← consistent.returned]
      have value : draws.tracker.memory cell + 1 =
          Int64.ofInt (saved.tracker.peek channel + draws.channels.count channel + 1) := by
        rw [← SharedTracker.peek_of_state found, consistent.counted, Int64.ofInt_add _ 1]
        rfl
      exact congrArg (fun number => draws.returned ++ [(channel, number)]) value

private theorem consistent_run {tracker : SharedTracker} {saved : SequenceSnapshot}
    {actions : List (DrawAction Goroutine)} {final : ConcurrentDraws Goroutine}
    (run : Run step unrestricted (start (tracker.restore saved)) actions final) :
    Consistent saved final := by
  apply run.invariant (Consistent saved)
  · intro current action next consistent _ taken
    exact consistent.moved (moved_of_step taken)
  · exact consistent_start tracker saved

/-- The numbers returned for a channel are the ones after its restored number, each once, and its
counter stands at the last of them: calls for other channels have no part in it. -/
theorem numbers_consecutive (tracker : SharedTracker) (saved : SequenceSnapshot)
    (actions : List (DrawAction Goroutine)) (final : ConcurrentDraws Goroutine)
    (run : Run step unrestricted (start (tracker.restore saved)) actions final)
    (channel : String) :
    let values := final.returnedFor channel
    values = ((List.range values.length).map fun index =>
        saved.value channel + Int64.ofNat (index + 1)) ∧
      (values.length ≤ 2 ^ 64 → values.Nodup) ∧
      final.tracker.peek channel = saved.value channel + Int64.ofNat values.length := by
  intro values
  have consistent := consistent_run run
  have machine : ∀ number : Nat, Int64.ofInt (saved.tracker.peek channel + number) =
      saved.value channel + Int64.ofNat number := by
    intro number
    rw [saved.peek_tracker, Int64.ofInt_add, Int64.ofInt_toInt, Int64.ofInt_eq_ofNat]
  have all : values = (List.range (final.channels.count channel)).map fun index =>
      saved.value channel + Int64.ofNat (index + 1) := by
    have drawn : values =
        (((saved.tracker.drawn final.channels).filter (·.1 = channel)).map (·.2)).map
          Int64.ofInt := by
      dsimp only [values]
      rw [returnedFor, consistent.returned, List.filter_map, List.map_map, List.map_map]
      rfl
    rw [drawn, SequenceTracker.drawn_for, List.map_map]
    apply List.map_congr_left
    intro index _
    exact machine (index + 1)
  have length : values.length = final.channels.count channel := by
    rw [all, List.length_map, List.length_range]
  refine ⟨?_, ?_, ?_⟩
  · rw [length]
    exact all
  · intro bounded
    rw [all]
    apply List.Nodup.map_on _ List.nodup_range
    intro first before second after same
    rw [List.mem_range] at before after
    rw [Int64.add_right_inj, Int64.ofNat_add, Int64.ofNat_add, Int64.add_left_inj] at same
    have bits := congrArg (fun number => number.toBitVec.toNat) same
    simp only [Int64.toBitVec_ofNat', BitVec.toNat_ofNat] at bits
    omega
  · rw [length, consistent.counted, machine]

def racing : List (DrawAction Bool) :=
  [.call true "orders", .call false "orders", .read true, .read false, .create false,
    .create true, .add true, .call true "invoices", .read true, .add true, .add false]

def restoredInvoices : SequenceSnapshot where
  entries := [("invoices", 7)]
  distinct := by decide

def noCounters : SharedTracker where
  state := fun _ => none
  memory := fun _ => 0
  allocated := 0

theorem racing_draws_numbered :
    ∃ final, Run step unrestricted (start (noCounters.restore restoredInvoices)) racing final ∧
      final.returnedFor "orders" = [1, 2] ∧ final.returnedFor "invoices" = [8] := by
  have executed : (execute step unrestricted (start (noCounters.restore restoredInvoices))
      racing).map (fun final => ((final.returnedFor "orders").length,
        (final.returnedFor "invoices").length)) = some (2, 1) := by decide +kernel
  rcases Run.exists_of_execute _ executed with ⟨final, run, lengths⟩
  rcases Prod.mk.inj lengths with ⟨orders, invoices⟩
  refine ⟨final, run, ?_, ?_⟩
  · rw [(numbers_consecutive noCounters restoredInvoices racing final run "orders").1, orders]
    decide
  · rw [(numbers_consecutive noCounters restoredInvoices racing final run "invoices").1, invoices]
    decide

end ConcurrentDraws

end Parsec.Client
