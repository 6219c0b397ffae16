import Parsec.Foundation.Records
import Parsec.Sinks.CancelledDelivery

/-! # The sinks of an instance

A new instance puts each registered sink into an observer for its metrics, and the observer into a
retrier. -/

namespace Parsec.Sinks

open Foundation

variable {Value Store : Type}

/-! ## Registries -/

structure Registry (Value Store : Type) where
  sinks : Records (Sink Value Store)
  named : ∀ name sink, sinks.lookup name = some sink → sink.name = name

namespace Registry

def empty : Registry Value Store where
  sinks := ∅
  named := by
    intro name sink found
    cases found

def register (registry : Registry Value Store) (sink : Sink Value Store) :
    Registry Value Store where
  sinks := registry.sinks.insert sink.name sink
  named := Records.forall_lookup_insert registry.named rfl

def get (registry : Registry Value Store) (name : String) : Option (Sink Value Store) :=
  registry.sinks.lookup name

def names (registry : Registry Value Store) : List String := registry.sinks.keys

variable (registry : Registry Value Store) (sink : Sink Value Store)

theorem get_register (name : String) :
    (registry.register sink).get name =
      if name = sink.name then some sink else registry.get name := by
  unfold get register
  split
  · rename_i same
    rw [same, AList.lookup_insert]
  · rename_i different
    rw [AList.lookup_insert_ne different]

def wrapInto (registry : Registry Value Store)
    (wrap : String → Sink Value Store → Sink Value Store) (out : Registry Value Store)
    (name : String) : Registry Value Store :=
  match registry.get name with
  | none => out
  | some sink => out.register (wrap name sink)

def rewrap (registry : Registry Value Store)
    (wrap : String → Sink Value Store → Sink Value Store) : Registry Value Store :=
  registry.names.foldl (registry.wrapInto wrap) empty

def observeSinks (registry : Registry Value Store) (metrics : Bool) : Registry Value Store :=
  if metrics then registry.rewrap fun _ sink => .observed sink else registry

def wrapSinks (registry : Registry Value Store) (config : RetryConfig)
    (perSink : String → Option RetryConfig) (dlq : Option (DLQ Value Store)) :
    Registry Value Store :=
  registry.rewrap fun name sink => sink.wrapSink ((perSink name).getD config) dlq

/-- The sinks as `New` wires them; it always has metrics and a queue. -/
def wired (registry : Registry Value Store) (config : RetryConfig)
    (perSink : String → Option RetryConfig) (dlq : DLQ Value Store) : Registry Value Store :=
  (registry.observeSinks true).wrapSinks config perSink (some dlq)

section Rewrap

variable {registry : Registry Value Store} {wrap : String → Sink Value Store → Sink Value Store}

variable (keeps : ∀ name sink, (wrap name sink).name = sink.name)
include keeps

theorem get_foldl_wrapInto (names : List String) (out : Registry Value Store) (name : String) :
    (names.foldl (registry.wrapInto wrap) out).get name =
      if name ∈ names ∧ (registry.get name).isSome then (registry.get name).map (wrap name)
      else out.get name := by
  induction names generalizing out with
  | nil => simp
  | cons first names induction =>
    rw [List.foldl_cons, induction]
    cases found : registry.get first with
    | none =>
      rw [wrapInto, found]
      by_cases same : name = first
      · subst same
        simp [found]
      · simp [same]
    | some sink =>
      have key : (wrap first sink).name = first :=
        (keeps first sink).trans (registry.named first sink found)
      rw [wrapInto, found, get_register, key]
      by_cases same : name = first
      · subst same
        simp [found]
      · simp [same]

theorem get_rewrap (name : String) :
    (registry.rewrap wrap).get name = (registry.get name).map (wrap name) := by
  rw [rewrap, get_foldl_wrapInto keeps]
  cases found : registry.get name with
  | none =>
    simp only [Option.isSome_none, Bool.false_eq_true, and_false, if_false, Option.map_none]
    rfl
  | some sink =>
    have listed : name ∈ registry.names :=
      AList.mem_keys.mp (AList.lookup_isSome.mp (Option.isSome_of_mem found))
    simp [listed]

end Rewrap

variable (config : RetryConfig)

theorem name_wrapSink (dlq : Option (DLQ Value Store)) :
    (sink.wrapSink config dlq).name = sink.name := by
  unfold Sink.wrapSink
  split
  · rfl
  · split <;> rfl

theorem get_wired (perSink : String → Option RetryConfig) (dlq : DLQ Value Store) (name : String) :
    (registry.wired config perSink dlq).get name = (registry.get name).map fun sink =>
      .retried (.observed sink)
        { config := ((perSink name).getD config).normalize.normalize, dlq := some dlq } := by
  have keeps : ∀ (name : String) (sink : Sink Value Store), (Sink.observed sink).name = sink.name :=
    fun _ _ => rfl
  have observed : (registry.observeSinks true).get name =
      (registry.get name).map .observed := get_rewrap keeps name
  rw [wired, wrapSinks, get_rewrap (fun _ sink => name_wrapSink sink _ _), observed, Option.map_map]
  cases registry.get name with
  | none => rfl
  | some sink => simp [Sink.wrapSink, Sink.isRetrier]

theorem get_wrapSinks_plain {name : String}
    {decodeRecipient : Option (Bytes → Except Failure (Recipient Value))}
    {answer : List (Event Value) → Option Failure → Recipient Value → Message → Option Failure}
    (registered : registry.get name = some (.plain name decodeRecipient answer))
    (config : RetryConfig) (perSink : String → Option RetryConfig) (dlq : DLQ Value Store) :
    ((registry.observeSinks false).wrapSinks config perSink (some dlq)).get name =
      some (.retried (.plain name decodeRecipient answer)
        { config := ((perSink name).getD config).normalize.normalize, dlq := some dlq }) := by
  have bare : registry.observeSinks false = registry := rfl
  rw [bare, wrapSinks, get_rewrap (fun _ sink => name_wrapSink sink _ _), registered]
  simp [Sink.wrapSink, Sink.isRetrier]

end Registry

/-! ## Loops around loops -/

def Event.isSent : Event Value → Bool
  | .sent _ _ _ _ => true
  | .pushed _ _ => false

def Event.isPushed : Event Value → Bool
  | .sent _ _ _ _ => false
  | .pushed _ result => result.isNone

def World.sends (world : World Value Store) : Nat := world.trace.countP Event.isSent

def World.pushes (world : World Value Store) : Nat := world.trace.countP Event.isPushed

def DLQ.Accepts (queue : DLQ Value Store) : Prop :=
  ∀ moment item store, (queue.push moment none item store).1 = none

namespace Sink

def swallows : Sink Value Store → Bool
  | plain _ _ _ => false
  | observed inner => inner.swallows
  | retried inner retrier => inner.swallows || retrier.dlq.isSome

def deliveries : Sink Value Store → Nat
  | plain _ _ _ => 1
  | observed inner => inner.deliveries
  | retried inner retrier =>
    if inner.swallows then inner.deliveries else retrier.config.limit * inner.deliveries

def loops : Sink Value Store → Nat
  | plain _ _ _ => 0
  | observed inner => inner.loops
  | retried inner _ => inner.loops + 1

def attempts (config : RetryConfig) : Sink Value Store → Nat
  | plain _ _ _ => config.limit
  | observed inner => inner.attempts config
  | retried _ retrier => retrier.config.limit

def Failing (around : Surroundings) (failure : Failure) : Sink Value Store → Prop
  | plain _ _ answer =>
    ∀ trace ended recipient message, answer trace ended recipient message = some failure
  | observed inner => inner.Failing around failure
  | retried inner retrier =>
    inner.Failing around failure ∧ retrier.classify around failure = true ∧
      ∀ queue, retrier.dlq = some queue → queue.Accepts

end Sink

section Loops

variable {around : Surroundings} {failure : Failure}

theorem contextErr_of_uncancelled (uncancelled : around.cancellation = none) (moment : Nat) :
    around.contextErr moment = none := by
  rw [Surroundings.contextErr, uncancelled]

theorem pause_of_uncancelled (uncancelled : around.cancellation = none) (config : RetryConfig)
    (attempt : Nat) (world : World Value Store) :
    ∃ ready, pause around config attempt world = (none, ready) ∧
      ready.sends = world.sends ∧ ready.pushes = world.pushes := by
  unfold pause
  rw [contextErr_of_uncancelled uncancelled, ite_self]
  split
  · exact ⟨world, rfl, rfl, rfl⟩
  · split
    · exact ⟨world, rfl, rfl, rfl⟩
    · exact ⟨world.tick, rfl, rfl, rfl⟩

structure AlwaysFails (send : World Value Store → Option Failure × World Value Store)
    (failure : Failure) (each : Nat) : Prop where
  answer : ∀ world, (send world).1 = some failure
  sends : ∀ world, (send world).2.sends = world.sends + each
  pushes : ∀ world, (send world).2.pushes = world.pushes

theorem retryLoop_exhausts (uncancelled : around.cancellation = none)
    {classify : Failure → Bool} (transient : classify failure = true)
    {send : World Value Store → Option Failure × World Value Store} {each : Nat}
    (fails : AlwaysFails send failure each) (config : RetryConfig) (remaining attempt : Nat)
    (lastErr : Option Failure) (world : World Value Store) :
    let looped := retryLoop around classify config send remaining attempt lastErr world
    (∃ attempts, looped.1 = .failed attempts (if remaining = 0 then lastErr else some failure)) ∧
      looped.2.2.sends = world.sends + remaining * each ∧ looped.2.2.pushes = world.pushes := by
  induction remaining generalizing attempt lastErr world with
  | zero => exact ⟨⟨attempt - 1, rfl⟩, by simp [retryLoop], rfl⟩
  | succ remaining induction =>
    rcases pause_of_uncancelled uncancelled config attempt world with
      ⟨ready, pauses, sameSends, samePushes⟩
    have called : send ready = (some failure, (send ready).2) :=
      Prod.ext (fails.answer ready) rfl
    have rest := induction (attempt + 1) (some failure) (send ready).2.tick
    rw [retryLoop_retry remaining lastErr pauses called
      (contextErr_of_uncancelled uncancelled _) transient]
    have sends : (send ready).2.tick.sends = world.sends + each := by
      rw [← sameSends]
      exact fails.sends ready
    have pushes : (send ready).2.tick.pushes = world.pushes := by
      rw [← samePushes]
      exact fails.pushes ready
    rw [sends, pushes] at rest
    rcases rest with ⟨⟨attempts, ends⟩, restSends, restPushes⟩
    refine ⟨⟨attempts, ?_⟩, ?_, restPushes⟩
    · rw [ends]
      simp
    · rw [restSends]
      ring

structure Exhausted (sink : Sink Value Store) (failure : Failure)
    (answer : Option Failure) (before after : World Value Store) : Prop where
  answers : answer = if sink.swallows then none else some failure
  sends : after.sends = before.sends + sink.deliveries
  pushes : after.pushes = before.pushes + sink.swallows.toNat

theorem recordFailure_accepted (uncancelled : around.cancellation = none)
    {queue : DLQ Value Store} (accepts : queue.Accepts) (name : String)
    (recipient : Recipient Value) (message : Message) (attempts : Nat) (lastErr : Option Failure)
    (calls : List Call) (world : World Value Store) :
    let outcome := recordFailure around (some queue) name recipient message attempts lastErr
      calls world
    outcome.answer = none ∧ outcome.world.sends = world.sends ∧
      outcome.world.pushes = world.pushes + 1 := by
  have live := contextErr_of_uncancelled uncancelled world.moment
  have taken := accepts world.moment
    (failureItem around name recipient message attempts lastErr world.moment) world.store
  simp [recordFailure, live, taken, World.sends, World.pushes, Event.isSent, Event.isPushed,
    List.countP_append]

variable {recipient : Recipient Value} {message : Message}
  {retrier : Retrier Value Store} {world : World Value Store}

theorem Retrier.loop_of_success {inner : Sender Value Store} {later : World Value Store}
    (succeeds : inner recipient message world = (none, later)) :
    retrier.loop around inner recipient message world = (.delivered, [⟨none, none⟩], later) := by
  rcases Nat.exists_eq_add_of_le' retrier.config.one_le_limit with ⟨more, limit⟩
  have unpaused : pause around retrier.config.normalize 1 world = (none, world) := rfl
  rw [Retrier.loop, limit]
  simp only [retryLoop, unpaused, succeeds]

variable {inner : Sink Value Store}

theorem exhausted_of_swallows (retrier : Retrier Value Store) (swallowed : inner.swallows = true)
    (inside : Exhausted inner failure (inner.send around recipient message world).1 world
      (inner.send around recipient message world).2) :
    Exhausted (.retried inner retrier) failure
      ((Sink.retried inner retrier).send around recipient message world).1 world
      ((Sink.retried inner retrier).send around recipient message world).2 := by
  have succeeds : inner.send around recipient message world =
      (none, (inner.send around recipient message world).2) := by
    refine Prod.ext ?_ rfl
    rw [inside.answers, if_pos swallowed]
  have ends : retrier.loop around (inner.send around) recipient message world = _ :=
    Retrier.loop_of_success succeeds
  have sent := Retrier.send_of_delivered inner.name ends
  have sends : (Sink.retried inner retrier).send around recipient message world =
      (none, (inner.send around recipient message world).2) := by
    simp only [Sink.send, sent]
  rw [sends]
  constructor
  · simp [Sink.swallows, swallowed]
  · rw [inside.sends, Sink.deliveries, if_pos swallowed]
  · rw [inside.pushes, Sink.swallows, swallowed]
    rfl

theorem exhausted_of_failures (uncancelled : around.cancellation = none)
    (returned : inner.swallows = false) (transient : retrier.classify around failure = true)
    (accepts : ∀ queue, retrier.dlq = some queue → queue.Accepts)
    (inside : ∀ world, Exhausted inner failure (inner.send around recipient message world).1 world
      (inner.send around recipient message world).2) (world : World Value Store) :
    Exhausted (.retried inner retrier) failure
      ((Sink.retried inner retrier).send around recipient message world).1 world
      ((Sink.retried inner retrier).send around recipient message world).2 := by
  have fails : AlwaysFails (inner.send around recipient message) failure inner.deliveries := by
    constructor
    · intro world
      rw [(inside world).answers, returned]
      rfl
    · exact fun world => (inside world).sends
    · intro world
      rw [(inside world).pushes, returned]
      rfl
  have looped := retryLoop_exhausts uncancelled transient fails retrier.config.normalize
    retrier.config.limit 1 none world
  rw [if_neg (Nat.one_le_iff_ne_zero.mp retrier.config.one_le_limit)] at looped
  rcases ends : retrier.loop around (inner.send around) recipient message world with
    ⟨exit, calls, last⟩
  rw [← Retrier.loop, ends] at looped
  rcases looped with ⟨⟨attempts, failed⟩, sends, pushes⟩
  dsimp only at failed sends pushes
  rw [failed] at ends
  have sent := Retrier.send_of_failed inner.name ends
  cases queued : retrier.dlq with
  | none =>
    rw [queued] at sent
    constructor
    · simp [Sink.send, sent, recordFailure, Sink.swallows, returned, queued]
    · simp [Sink.send, sent, recordFailure, Sink.deliveries, returned, sends]
    · simp [Sink.send, sent, recordFailure, Sink.swallows, returned, queued, pushes]
  | some queue =>
    rw [queued] at sent
    have recorded := recordFailure_accepted uncancelled (accepts queue queued) inner.name
      recipient message attempts (some failure) calls last
    rw [← sent] at recorded
    rcases recorded with ⟨answer, sendsLast, pushesLast⟩
    constructor
    · simp [Sink.send, answer, Sink.swallows, queued]
    · simp [Sink.send, sendsLast, sends, Sink.deliveries, returned]
    · simp [Sink.send, pushesLast, pushes, Sink.swallows, queued]

variable {sink : Sink Value Store}

theorem Sink.send_failing (uncancelled : around.cancellation = none)
    (failing : sink.Failing around failure) (recipient : Recipient Value) (message : Message)
    (world : World Value Store) :
    Exhausted sink failure (sink.send around recipient message world).1 world
      (sink.send around recipient message world).2 := by
  induction sink generalizing world with
  | plain name decodeRecipient answer =>
    have fails := failing world.trace (around.contextErr world.moment) recipient message
    constructor
    · exact fails
    · simp [send, World.sends, Event.isSent, deliveries, List.countP_append]
    · simp [send, World.pushes, Event.isPushed, swallows, List.countP_append]
  | observed inner induction =>
    have exhausted := induction failing world
    exact ⟨exhausted.answers, exhausted.sends, exhausted.pushes⟩
  | retried inner retrier induction =>
    rcases failing with ⟨innerFailing, transient, accepts⟩
    cases swallowed : inner.swallows with
    | true => exact exhausted_of_swallows retrier swallowed (induction innerFailing world)
    | false =>
      exact exhausted_of_failures uncancelled swallowed transient accepts
        (induction innerFailing) world

variable (config : RetryConfig)

theorem Sink.of_loops_eq_zero (unlooped : sink.loops = 0) :
    sink.swallows = false ∧ sink.deliveries = 1 ∧ sink.attempts config = config.limit := by
  induction sink with
  | plain name decodeRecipient answer => exact ⟨rfl, rfl, rfl⟩
  | observed inner induction => exact induction unlooped
  | retried inner retrier induction => cases unlooped

theorem Sink.deliveries_of_loops_eq_one (looped : sink.loops = 1) :
    sink.deliveries = sink.attempts config := by
  induction sink with
  | plain name decodeRecipient answer => cases looped
  | observed inner induction => exact induction looped
  | retried inner retrier induction =>
    rcases inner.of_loops_eq_zero config (Nat.succ.inj looped) with ⟨returned, once, _⟩
    simp [deliveries, attempts, returned, once]

theorem Sink.one_le_attempts (sink : Sink Value Store) (config : RetryConfig) :
    1 ≤ sink.attempts config := by
  induction sink with
  | plain name decodeRecipient answer => exact config.one_le_limit
  | observed inner induction => exact induction
  | retried inner retrier induction => exact retrier.config.one_le_limit

/-- One item is stored. The calls stay within the configuration in force unless the registered
sink is a retrier without a queue: the observer hides that it retries, so it is retried again. -/
theorem wired_calls_iff (registry : Registry Value Store) {name : String}
    {sink : Sink Value Store} (registered : registry.get name = some sink) (config : RetryConfig)
    (perSink : String → Option RetryConfig) {queue : DLQ Value Store} (accepts : queue.Accepts)
    (uncancelled : around.cancellation = none) (transient : around.isTransient failure = true)
    (failing : sink.Failing around failure) (recipient : Recipient Value) (message : Message)
    (world : World Value Store) :
    ∃ wrapped after, (registry.wired config perSink queue).get name = some wrapped ∧
      wrapped.send around recipient message world = (none, after) ∧
      after.pushes = world.pushes + 1 ∧
      after.sends = world.sends + (if sink.swallows then sink.deliveries
        else ((perSink name).getD config).limit * sink.deliveries) ∧
      (sink.loops ≤ 1 →
        (after.sends ≤ world.sends + sink.attempts ((perSink name).getD config) ↔
          sink.loops = 0 ∨ sink.swallows = true ∨ ((perSink name).getD config).limit = 1)) := by
  let inForce := (perSink name).getD config
  let wrapped : Sink Value Store :=
    .retried (.observed sink) { config := inForce.normalize.normalize, dlq := some queue }
  have found : (registry.wired config perSink queue).get name = some wrapped := by
    rw [Registry.get_wired, registered]
    rfl
  have wrappedFails : wrapped.Failing around failure := by
    refine ⟨failing, transient, ?_⟩
    intro other same
    cases same
    exact accepts
  have exhausted := Sink.send_failing uncancelled wrappedFails recipient message world
  have swallowed : wrapped.swallows = true := by simp [wrapped, Sink.swallows]
  have calls : wrapped.deliveries =
      if sink.swallows then sink.deliveries else inForce.limit * sink.deliveries := by
    simp [wrapped, Sink.deliveries, Sink.swallows, RetryConfig.limit_normalize]
  have answers := exhausted.answers
  have sends := exhausted.sends
  have pushes := exhausted.pushes
  rw [swallowed] at answers pushes
  rw [calls] at sends
  refine ⟨wrapped, (wrapped.send around recipient message world).2, found, Prod.ext answers rfl,
    pushes, sends, ?_⟩
  intro single
  rw [sends, Nat.add_le_add_iff_left]
  rcases Nat.le_one_iff_eq_zero_or_eq_one.mp single with unlooped | looped
  · rcases sink.of_loops_eq_zero inForce unlooped with ⟨returned, once, allowed⟩
    simp [unlooped, returned, once, allowed, inForce]
  · have once := sink.deliveries_of_loops_eq_one inForce looped
    have positive := sink.one_le_attempts inForce
    cases held : sink.swallows with
    | true => simp [once, inForce]
    | false =>
      have tried : inForce.limit ≤ 1 ↔ inForce.limit = 1 := by
        have least := inForce.one_le_limit
        omega
      have multiplied : inForce.limit * sink.attempts inForce ≤ sink.attempts inForce ↔
          inForce.limit = 1 := (mul_le_iff_le_one_left positive).trans tried
      simpa [once, looped] using multiplied

end Loops

def unreachableEmail : Sink Unit (List (DLQItem Unit)) :=
  .plain "email" none fun _ _ _ _ => some (.sink 0 "smtp send")

def wiredSend (sink : Sink Unit (List (DLQItem Unit))) : Option (Nat × Nat) :=
  (((Registry.empty.register sink).wired threeAttempts (fun _ => none)
    (memoryDLQ fun _ => "f00d")).get "email").map fun wrapped =>
      let after := (wrapped.send (undisturbed true) .absent ⟨"subject", "body", none⟩ emptyWorld).2
      (after.sends, after.pushes)

theorem plain_sink_called_thrice : wiredSend unreachableEmail = some (3, 1) := by
  have registered : (Registry.empty.register unreachableEmail).get "email" =
      some unreachableEmail := by
    rw [Registry.get_register]
    rfl
  have accepts : (memoryDLQ fun _ => "f00d" : DLQ Unit _).Accepts := fun _ _ _ => rfl
  have uncancelled : (undisturbed true).cancellation = none := rfl
  rcases wired_calls_iff _ registered threeAttempts (fun _ => none) accepts uncancelled rfl
    (fun _ _ _ _ => rfl) .absent ⟨"subject", "body", none⟩ emptyWorld with
    ⟨wrapped, after, found, sent, pushes, sends, _⟩
  rw [wiredSend, found, Option.map_some, sent]
  dsimp only
  rw [sends, pushes]
  decide

/-- A registered retrier with three attempts and no queue: the loops multiply. -/
theorem retrier_called_nine_times :
    wiredSend (.retried unreachableEmail { config := threeAttempts, dlq := none }) =
      some (9, 1) := by
  decide +kernel

end Parsec.Sinks
