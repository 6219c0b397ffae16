import Parsec.Foundation.Execution
import Parsec.Schema.Registry

/-! # Notifications of the registry

A change is announced after the lock was released: the list of subscribers is copied under the
lock, and the sends follow without it. A subscription that is cancelled in between has its channel
closed, and the send to a closed channel panics. -/

namespace Parsec.Schema

open Foundation

def subscriberCapacity : Nat := 64

structure ChangeChannel (Contract : Type) where
  buffered : List (Change Contract) := []
  closed : Bool := false

/-- Where a goroutine that changes patterns stands. -/
inductive Stage (Contract : Type)
  | idle
  | announcing (change : Change Contract)
  | sending (change : Change Contract) (remaining : List Nat)

namespace Stage

variable {Contract : Type}

def afterCall : Except String (Option (Change Contract)) → Stage Contract
  | .ok (some change) => .announcing change
  | .ok none | .error _ => .idle

def sendingTo (change : Change Contract) (remaining : List Nat) : Stage Contract :=
  if remaining = [] then .idle else .sending change remaining

def pending : Stage Contract → List Nat
  | .sending _ remaining => remaining
  | .idle | .announcing _ => []

private theorem pending_afterCall (answer : Except String (Option (Change Contract))) :
    (afterCall answer).pending = [] := by
  rcases answer with error | change
  · rfl
  · cases change <;> rfl

theorem pending_sendingTo (change : Change Contract) (remaining : List Nat) :
    (sendingTo change remaining).pending = remaining := by
  unfold sendingTo
  split
  · rename_i none
    exact none.symm
  · rfl

end Stage

structure SharedRegistry (Thread Contract : Type) where
  registry : MemoryRegistry Contract
  subscribers : List Nat
  nextSub : Nat
  channels : Nat → ChangeChannel Contract
  stages : Thread → Stage Contract
  panicked : Bool

/-- The critical sections and the sends. The subscribers are copied in an order in which their map
may be visited. -/
inductive RegistryAction (Thread Contract : Type)
  | call (thread : Thread) (call : MemoryRegistry.Call Contract)
  | copy (thread : Thread) (order : List Nat)
  | send (thread : Thread) (id : Nat)
  | subscribe
  | cancel (id : Nat)
  | receive (id : Nat)

namespace SharedRegistry

variable {Thread Contract : Type}

def new (registry : MemoryRegistry Contract) : SharedRegistry Thread Contract where
  registry := registry
  subscribers := []
  nextSub := 0
  channels := fun _ => {}
  stages := fun _ => .idle
  panicked := false

section

variable (shared : SharedRegistry Thread Contract)

def setChannel (id : Nat) (channel : ChangeChannel Contract) : SharedRegistry Thread Contract :=
  { shared with channels := Function.update shared.channels id channel }

def subscribe : SharedRegistry Thread Contract :=
  { shared with
    subscribers := shared.subscribers ++ [shared.nextSub]
    nextSub := shared.nextSub + 1 }

/-- The function that `Subscribe` returns; only its first call has an effect. -/
def cancel (id : Nat) : SharedRegistry Thread Contract :=
  if id ∈ shared.subscribers then
    { shared with subscribers := shared.subscribers.filter (· ≠ id) }.setChannel id
      { shared.channels id with closed := true }
  else shared

def deliver (id : Nat) (change : Change Contract) : SharedRegistry Thread Contract :=
  if (shared.channels id).closed then { shared with panicked := true }
  else if (shared.channels id).buffered.length < subscriberCapacity then
    shared.setChannel id
      { shared.channels id with buffered := (shared.channels id).buffered ++ [change] }
  else shared

def enter [DecidableEq Thread] (thread : Thread) (stage : Stage Contract) :
    SharedRegistry Thread Contract :=
  { shared with stages := Function.update shared.stages thread stage }

end

def step [DecidableEq Thread] :
    Step (SharedRegistry Thread Contract) (RegistryAction Thread Contract) :=
  fun shared action =>
    if shared.panicked then none
    else
      match action with
      | .call thread call =>
        match shared.stages thread with
        | .idle =>
          let (answer, registry) := shared.registry.perform call
          some ({ shared with registry := registry }.enter thread (.afterCall answer))
        | .announcing _ | .sending _ _ => none
      | .copy thread order =>
        match shared.stages thread with
        | .announcing change =>
          if order.Perm shared.subscribers then
            some (shared.enter thread (.sendingTo change order))
          else none
        | .idle | .sending _ _ => none
      | .send thread id =>
        match shared.stages thread with
        | .sending change (next :: remaining) =>
          if id = next then
            some ((shared.deliver id change).enter thread (.sendingTo change remaining))
          else none
        | .sending _ [] | .idle | .announcing _ => none
      | .subscribe => some shared.subscribe
      | .cancel id => if id < shared.nextSub then some (shared.cancel id) else none
      | .receive id =>
        match (shared.channels id).buffered with
        | [] => none
        | _ :: rest => some (shared.setChannel id { shared.channels id with buffered := rest })

structure Live (shared : SharedRegistry Thread Contract) : Prop where
  running : shared.panicked = false
  subscribed : ∀ id ∈ shared.subscribers, (shared.channels id).closed = false
  made : ∀ id, (shared.channels id).closed = true → id < shared.nextSub
  awaited : ∀ thread, ∀ id ∈ (shared.stages thread).pending, (shared.channels id).closed = false

variable {shared next : SharedRegistry Thread Contract} {id : Nat}

theorem Live.enter [DecidableEq Thread] (live : shared.Live) {thread : Thread}
    {stage : Stage Contract} (own : ∀ id ∈ stage.pending, (shared.channels id).closed = false) :
    (shared.enter thread stage).Live where
  running := live.running
  subscribed := live.subscribed
  made := live.made
  awaited := (Function.forall_update_iff shared.stages fun _ stage =>
    ∀ id ∈ stage.pending, (shared.channels id).closed = false).mpr
      ⟨own, fun other _ => live.awaited other⟩

theorem Live.setBuffered (live : shared.Live) (changes : List (Change Contract)) :
    (shared.setChannel id { shared.channels id with buffered := changes }).Live := by
  have same : ∀ other, ((shared.setChannel id
      { shared.channels id with buffered := changes }).channels other).closed =
        (shared.channels other).closed := by
    intro other
    rcases eq_or_ne other id with rfl | different
    · simp [setChannel]
    · simp [setChannel, different]
  constructor
  · exact live.running
  · exact fun other member => (same other).trans (live.subscribed other member)
  · exact fun other closed => live.made other ((same other).symm.trans closed)
  · exact fun thread other member => (same other).trans (live.awaited thread other member)

theorem Live.deliver (live : shared.Live) (opened : (shared.channels id).closed = false)
    (change : Change Contract) : (shared.deliver id change).Live := by
  rw [SharedRegistry.deliver, if_neg (ne_true_of_eq_false opened)]
  split
  · exact live.setBuffered _
  · exact live

private theorem stages_deliver (change : Change Contract) :
    (shared.deliver id change).stages = shared.stages := by
  unfold deliver
  split_ifs <;> rfl

theorem Live.subscribe (live : shared.Live) : shared.subscribe.Live where
  running := live.running
  subscribed := by
    intro other member
    rcases List.mem_append.mp member with earlier | last
    · exact live.subscribed other earlier
    · -- the channel is new
      rw [List.mem_singleton.mp last]
      exact eq_false_of_ne_true fun closed => lt_irrefl _ (live.made _ closed)
  made := fun other closed => Nat.lt_succ_of_lt (live.made other closed)
  awaited := live.awaited

theorem Live.cancel (live : shared.Live) (issued : id < shared.nextSub)
    (unawaited : ∀ thread, id ∉ (shared.stages thread).pending) : (shared.cancel id).Live := by
  unfold SharedRegistry.cancel
  split
  · have same : ∀ other, other ≠ id → (Function.update shared.channels id
        { shared.channels id with closed := true } other).closed =
          (shared.channels other).closed := by
      intro other different
      rw [Function.update_of_ne different]
    constructor
    · exact live.running
    · intro other member
      have kept := List.mem_filter.mp member
      exact (same other (of_decide_eq_true kept.2)).trans (live.subscribed other kept.1)
    · intro other closed
      rcases eq_or_ne other id with rfl | different
      · exact issued
      · exact live.made other ((same other different).symm.trans closed)
    · intro thread other member
      have different : other ≠ id := by
        rintro rfl
        exact unawaited thread member
      exact (same other different).trans (live.awaited thread other member)
  · exact live

def Undisturbed (shared : SharedRegistry Thread Contract) : RegistryAction Thread Contract → Prop
  | .cancel id => ∀ thread, id ∉ (shared.stages thread).pending
  | .call _ _ | .copy _ _ | .send _ _ | .subscribe | .receive _ => True

variable [DecidableEq Thread]

theorem Live.step (live : shared.Live) {action : RegistryAction Thread Contract}
    (undisturbed : shared.Undisturbed action)
    (taken : SharedRegistry.step shared action = some next) : next.Live := by
  unfold SharedRegistry.step at taken
  rw [if_neg (ne_true_of_eq_false live.running)] at taken
  cases action with
  | call thread call =>
    dsimp only at taken
    split at taken <;> cases taken
    have performed : Live { shared with registry := (shared.registry.perform call).2 } :=
      { live with }
    exact performed.enter (by simp [Stage.pending_afterCall])
  | copy thread order =>
    dsimp only at taken
    split at taken
    · split at taken <;> cases taken
      rename_i visited
      apply live.enter
      rw [Stage.pending_sendingTo]
      exact fun other member => live.subscribed other (visited.mem_iff.mp member)
    all_goals cases taken
  | send thread id =>
    dsimp only at taken
    split at taken
    · rename_i change first remaining stage
      split at taken <;> cases taken
      rename_i same
      subst same
      have awaited := live.awaited thread
      rw [stage] at awaited
      have opened := awaited id List.mem_cons_self
      apply (live.deliver opened change).enter
      rw [Stage.pending_sendingTo]
      intro other member
      apply (live.deliver opened change).awaited thread other
      rw [stages_deliver, stage]
      exact List.mem_cons_of_mem _ member
    all_goals cases taken
  | subscribe =>
    cases taken
    exact live.subscribe
  | cancel id =>
    dsimp only at taken
    split at taken <;> cases taken
    rename_i issued
    exact live.cancel issued undisturbed
  | receive id =>
    dsimp only at taken
    split at taken <;> cases taken
    exact live.setBuffered _

/-- Whatever goroutines change patterns, subscribe and cancel: no send panics as long as no
subscription is cancelled while a send to it is still to come. -/
theorem never_panics_undisturbed (registry : MemoryRegistry Contract)
    (actions : List (RegistryAction Thread Contract)) (final : SharedRegistry Thread Contract)
    (run : Run step Undisturbed (new registry) actions final) : final.panicked = false := by
  have started : (new registry : SharedRegistry Thread Contract).Live :=
    ⟨rfl, by simp [new], by simp [new], by simp [new, Stage.pending]⟩
  exact (run.invariant Live (fun _ _ _ live allowed taken => live.step allowed taken)
    started).running

/-- One goroutine registers a pattern while there is one subscription, with what happens between
its copy of the list and its send. -/
def registering (between : List (RegistryAction Unit Unit)) : List (RegistryAction Unit Unit) :=
  [.subscribe, .call () (.register ⟨"orders.*", 0, ()⟩), .copy () [0]] ++ between ++ [.send () 0]

/-- The subscription is cancelled before the send. -/
theorem cancelled_subscription_panics :
    (execute step unrestricted (new .empty) (registering [.cancel 0])).map (·.panicked) =
      some true := by
  decide +kernel

instance (shared : SharedRegistry Unit Contract) : DecidablePred shared.Undisturbed
  | .cancel id => inferInstanceAs (Decidable (∀ thread, id ∉ (shared.stages thread).pending))
  | .call _ _ | .copy _ _ | .send _ _ | .subscribe | .receive _ => isTrue trivial

theorem undisturbed_registration_announced :
    ∃ final, Run step Undisturbed (new .empty) (registering [] ++ [.cancel 0]) final ∧
      final.panicked = false ∧ (final.channels 0).buffered.length = 1 := by
  have executed : (execute step Undisturbed (new .empty) (registering [] ++ [.cancel 0])).map
      (fun final => (final.channels 0).buffered.length) = some 1 := by
    decide +kernel
  rcases Run.exists_of_execute _ executed with ⟨final, run, observed⟩
  exact ⟨final, run, never_panics_undisturbed .empty _ final run, observed⟩

end SharedRegistry

end Parsec.Schema
