import Parsec.Errors
import Parsec.Foundation.Encoding

/-! # Sinks and their retries

A sink that fails is tried again after a pause, until it succeeds, fails for good or the context
of the caller is over. What could not be delivered goes to a dead-letter queue. -/

namespace Parsec.Sinks

open Foundation

inductive ContextError
  | canceled
  | deadlineExceeded
  deriving DecidableEq

def ContextError.text : ContextError → String
  | .canceled => "context canceled"
  | .deadlineExceeded => "context deadline exceeded"

inductive Failure
  | sink (number : Nat) (text : String)
  | context (error : ContextError)
  | coded (code : Code) (message : String)
  | wrapped (code : Code) (message : String) (cause : Failure)
  deriving DecidableEq

def Failure.text : Failure → String
  | .sink _ text => text
  | .context error => error.text
  | .coded code message => code.text ++ ": " ++ message
  | .wrapped code message cause => code.text ++ ": " ++ message ++ ": " ++ cause.text

/-- The metadata are the entries of the map by their keys, or a nil map. -/
structure Message where
  subject : String
  body : String
  metadata : Option (List (String × String)) := none
  deriving DecidableEq

/-- A recipient is nil, JSON as a queue keeps it, or a value of the sink's own type. -/
inductive Recipient (Value : Type)
  | absent
  | raw (json : Bytes)
  | typed (value : Value)
  deriving DecidableEq

structure DLQItem (Value : Type) where
  id : String := ""
  sink : String
  «at» : Int
  recipient : Recipient Value
  message : Message
  attempts : Nat
  lastError : String
  deriving DecidableEq

inductive Event (Value : Type)
  | sent (sink : String) (recipient : Recipient Value) (message : Message)
      (result : Option Failure)
  | pushed (item : DLQItem Value) (result : Option Failure)
  deriving DecidableEq

structure World (Value Store : Type) where
  moment : Nat
  store : Store
  trace : List (Event Value)

def World.tick {Value Store : Type} (world : World Value Store) : World Value Store :=
  { world with moment := world.moment + 1 }

/-- What a send meets: the default classifier, the moment from which on the context is over,
which of a timer and an ended context is seen first, random numbers and the clock. -/
structure Surroundings where
  isTransient : Failure → Bool
  cancellation : Option (Nat × ContextError)
  timerFirst : Nat → Bool
  draw : Nat → ℚ
  clock : Nat → Int

def Surroundings.contextErr (around : Surroundings) (moment : Nat) : Option Failure :=
  match around.cancellation with
  | none => none
  | some (since, error) => if since ≤ moment then some (.context error) else none

theorem Surroundings.contextErr_eq_none {around : Surroundings} {moment : Nat} :
    around.contextErr moment = none ↔
      ∀ since error, around.cancellation = some (since, error) → moment < since := by
  unfold Surroundings.contextErr
  cases around.cancellation with
  | none => simp
  | some cancelled =>
    rcases cancelled with ⟨since, error⟩
    simp

structure DLQ (Value Store : Type) where
  push : Nat → Option Failure → DLQItem Value → Store → Option Failure × Store

abbrev Sender (Value Store : Type) :=
  Recipient Value → Message → World Value Store → Option Failure × World Value Store

/-! ## Retry configurations -/

structure RetryConfig where
  maxAttempts : Int
  baseBackoff : Int
  maxBackoff : Int
  jitterFraction : ℚ
  deriving DecidableEq

namespace RetryConfig

def normalize (config : RetryConfig) : RetryConfig :=
  let maxAttempts := if config.maxAttempts ≤ 0 then 5 else config.maxAttempts
  let baseBackoff := if config.baseBackoff ≤ 0 then 1000000000 else config.baseBackoff
  let maxBackoff := if config.maxBackoff ≤ 0 then 30000000000 else config.maxBackoff
  let maxBackoff := if maxBackoff < baseBackoff then baseBackoff else maxBackoff
  let jitter := if config.jitterFraction < 0 then 0 else config.jitterFraction
  let jitter := if 1 < jitter then 1 else jitter
  let jitter := if jitter = 0 then 1 / 5 else jitter
  { maxAttempts := maxAttempts
    baseBackoff := baseBackoff
    maxBackoff := maxBackoff
    jitterFraction := jitter }

def backoffFor (config : RetryConfig) (draw : ℚ) (attempt : Nat) : Int :=
  if attempt ≤ 1 then 0
  else
    let config := config.normalize
    let exponent := min (attempt - 2) 30
    let grown := min ((config.baseBackoff : ℚ) * 2 ^ exponent) config.maxBackoff
    let jitter := 1 + (draw * 2 - 1) * config.jitterFraction
    ⌊grown * jitter⌋

variable (config : RetryConfig)

theorem maxAttempts_normalize :
    config.normalize.maxAttempts = if config.maxAttempts ≤ 0 then 5 else config.maxAttempts :=
  rfl

theorem one_le_maxAttempts : 1 ≤ config.normalize.maxAttempts := by
  rw [maxAttempts_normalize]
  split <;> omega

def limit (config : RetryConfig) : Nat := config.normalize.maxAttempts.toNat

theorem one_le_limit : 1 ≤ config.limit := by
  have positive := config.one_le_maxAttempts
  unfold limit
  omega

theorem limit_normalize : config.normalize.limit = config.limit := by
  have positive := config.one_le_maxAttempts
  rw [limit, maxAttempts_normalize, if_neg (by omega), limit]

end RetryConfig

/-! ## The retry loop -/

structure Call where
  result : Option Failure
  ended : Option Failure
  deriving DecidableEq

structure Push (Value : Type) where
  item : DLQItem Value
  ended : Option Failure
  result : Option Failure
  deriving DecidableEq

inductive Exit
  | delivered
  | failed (attempts : Nat) (lastErr : Option Failure)

structure Outcome (Value Store : Type) where
  answer : Option Failure
  calls : List Call
  pushes : List (Push Value)
  world : World Value Store

structure Retrier (Value Store : Type) where
  config : RetryConfig
  dlq : Option (DLQ Value Store)
  isTransientFn : Option (Failure → Bool) := none

section Loop

variable {Value Store : Type}

def pause (around : Surroundings) (config : RetryConfig) (attempt : Nat)
    (world : World Value Store) : Option Failure × World Value Store :=
  if attempt ≤ 1 then (none, world)
  else if config.backoffFor (around.draw world.moment) attempt ≤ 0 then (none, world)
  else
    (if around.timerFirst world.moment then none else around.contextErr world.moment, world.tick)

def retryLoop (around : Surroundings) (classify : Failure → Bool) (config : RetryConfig)
    (send : World Value Store → Option Failure × World Value Store) :
    Nat → Nat → Option Failure → World Value Store → Exit × List Call × World Value Store
  | 0, attempt, lastErr, world => (.failed (attempt - 1) lastErr, [], world)
  | remaining + 1, attempt, _, world =>
    match pause around config attempt world with
    | (some error, world) => (.failed (attempt - 1) (some error), [], world)
    | (none, world) =>
      match send world with
      | (none, world) => (.delivered, [⟨none, none⟩], world)
      | (some error, world) =>
        match around.contextErr world.moment with
        | some reason =>
          (.failed attempt (some reason), [⟨some error, some reason⟩], world.tick)
        | none =>
          if classify error then
            let (exit, calls, world) :=
              retryLoop around classify config send remaining (attempt + 1) (some error) world.tick
            (exit, ⟨some error, none⟩ :: calls, world)
          else (.failed (attempt - 1) (some error), [⟨some error, none⟩], world.tick)

def failureItem (around : Surroundings) (name : String) (recipient : Recipient Value)
    (message : Message) (attempts : Nat) (lastErr : Option Failure) (moment : Nat) :
    DLQItem Value where
  sink := name
  «at» := around.clock moment
  recipient := recipient
  message := message
  attempts := attempts
  lastError := (lastErr.map Failure.text).getD ""

def recordFailure (around : Surroundings) (dlq : Option (DLQ Value Store)) (name : String)
    (recipient : Recipient Value) (message : Message) (attempts : Nat) (lastErr : Option Failure)
    (calls : List Call) (world : World Value Store) : Outcome Value Store :=
  match dlq with
  | none =>
    { answer := some (lastErr.getD
        (.coded .sinkUnavailable "sink retry exhausted with no recorded error"))
      calls := calls
      pushes := []
      world := world }
  | some dlq =>
    let item := failureItem around name recipient message attempts lastErr world.moment
    let ended := around.contextErr world.moment
    let (result, store) := dlq.push world.moment ended item world.store
    { answer := result.map fun error => .wrapped .sinkDLQOverflow "dlq push" error
      calls := calls
      pushes := [⟨item, ended, result⟩]
      world :=
        { moment := world.moment + 1
          store := store
          trace := world.trace ++ [.pushed item result] } }

namespace Retrier

def classify (retrier : Retrier Value Store) (around : Surroundings) : Failure → Bool :=
  retrier.isTransientFn.getD around.isTransient

def loop (retrier : Retrier Value Store) (around : Surroundings) (inner : Sender Value Store)
    (recipient : Recipient Value) (message : Message) (world : World Value Store) :
    Exit × List Call × World Value Store :=
  retryLoop around (retrier.classify around) retrier.config.normalize (inner recipient message)
    retrier.config.limit 1 none world

def send (retrier : Retrier Value Store) (around : Surroundings) (name : String)
    (inner : Sender Value Store) (recipient : Recipient Value) (message : Message)
    (world : World Value Store) : Outcome Value Store :=
  match retrier.loop around inner recipient message world with
  | (.delivered, calls, world) =>
    { answer := none, calls := calls, pushes := [], world := world }
  | (.failed attempts lastErr, calls, world) =>
    recordFailure around retrier.dlq name recipient message attempts lastErr calls world

end Retrier

/-! ## Accounts of the calls -/

def Call.Retried (classify : Failure → Bool) (call : Call) : Prop :=
  ∃ error, call = ⟨some error, none⟩ ∧ classify error = true

def Terminal (classify : Failure → Bool) (calls : List Call) : Prop :=
  ∃ error, calls.getLast? = some ⟨some error, none⟩ ∧ classify error = false

structure Looped (classify : Failure → Bool) (remaining attempt : Nat) (exit : Exit)
    (calls : List Call) : Prop where
  bounded : calls.length ≤ remaining
  retried : ∀ call ∈ calls.dropLast, call.Retried classify
  delivered : exit = .delivered → calls.getLast? = some ⟨none, none⟩
  failed : ∀ attempts lastErr, exit = .failed attempts lastErr → ∀ call ∈ calls, call.result ≠ none
  terminal : ∀ attempts lastErr, exit = .failed attempts lastErr → Terminal classify calls →
    attempts + 1 = attempt - 1 + calls.length
  counted : ∀ attempts lastErr, exit = .failed attempts lastErr → ¬ Terminal classify calls →
    attempts = attempt - 1 + calls.length

variable {classify : Failure → Bool} {call : Call} {calls : List Call}

theorem terminal_cons_iff (retried : call.Retried classify) :
    Terminal classify (call :: calls) ↔ Terminal classify calls := by
  cases calls with
  | nil =>
    rcases retried with ⟨error, rfl, transient⟩
    simp [Terminal, transient]
  | cons next calls => simp [Terminal, List.getLast?_cons_cons]

theorem Looped.cons {remaining attempt : Nat} {exit : Exit}
    (looped : Looped classify remaining (attempt + 1) exit calls) (positive : 1 ≤ attempt)
    (retried : call.Retried classify) :
    Looped classify (remaining + 1) attempt exit (call :: calls) where
  bounded := by
    have bounded := looped.bounded
    simpa using bounded
  retried := by
    intro other member
    cases calls with
    | nil => cases member
    | cons next calls =>
      rcases List.mem_cons.mp member with rfl | member
      · exact retried
      · exact looped.retried other member
  delivered := by
    intro delivered
    have last := looped.delivered delivered
    cases calls with
    | nil => cases last
    | cons next calls => rwa [List.getLast?_cons_cons]
  failed := by
    intro attempts lastErr failed other member
    rcases List.mem_cons.mp member with rfl | member
    · rcases retried with ⟨error, rfl, _⟩
      simp
    · exact looped.failed attempts lastErr failed other member
  terminal := by
    intro attempts lastErr failed terminal
    rw [terminal_cons_iff retried] at terminal
    have counted := looped.terminal attempts lastErr failed terminal
    rw [List.length_cons]
    omega
  counted := by
    intro attempts lastErr failed lasting
    rw [terminal_cons_iff retried] at lasting
    have counted := looped.counted attempts lastErr failed lasting
    rw [List.length_cons]
    omega

variable (around : Surroundings) (config : RetryConfig)
  (send : World Value Store → Option Failure × World Value Store)
  (remaining : Nat) {attempt : Nat}

private theorem retryLoop_looped (positive : 1 ≤ attempt) (lastErr : Option Failure)
    (world : World Value Store) :
    Looped classify remaining attempt
      (retryLoop around classify config send remaining attempt lastErr world).1
      (retryLoop around classify config send remaining attempt lastErr world).2.1 := by
  induction remaining generalizing attempt lastErr world with
  | zero => constructor <;> simp [retryLoop, Terminal]
  | succ remaining induction =>
    unfold retryLoop
    rcases pause around config attempt world with ⟨_ | error, world⟩
    · dsimp only
      rcases send world with ⟨_ | error, world⟩
      · constructor <;> simp
      · dsimp only
        cases around.contextErr world.moment with
        | some reason =>
          constructor <;> simp [Terminal]
          omega
        | none =>
          cases transient : classify error with
          | true =>
            exact (induction (Nat.le_add_left 1 attempt) (some error) world.tick).cons
              positive ⟨error, rfl, transient⟩
          | false => constructor <;> simp [Terminal, transient]
    · constructor <;> simp [Terminal]

/-- From one world to another the sink was called as listed, with these results, and between the
calls only time passed. -/
inductive Called (send : World Value Store → Option Failure × World Value Store) :
    World Value Store → List Call → World Value Store → Prop
  | done (world : World Value Store) : Called send world [] world
  | waited {world last : World Value Store} {calls : List Call}
      (rest : Called send world.tick calls last) : Called send world calls last
  | made {world later last : World Value Store} {calls : List Call} {result : Option Failure}
      (ended : Option Failure) (answered : send world = (result, later))
      (rest : Called send later calls last) : Called send world (⟨result, ended⟩ :: calls) last

theorem retryLoop_called (attempt : Nat) (lastErr : Option Failure) (world : World Value Store) :
    Called send world
      (retryLoop around classify config send remaining attempt lastErr world).2.1
      (retryLoop around classify config send remaining attempt lastErr world).2.2 := by
  induction remaining generalizing attempt lastErr world with
  | zero => exact .done world
  | succ remaining induction =>
    have wait (calls : List Call) (last : World Value Store)
        (rest : Called send (pause around config attempt world).2 calls last) :
        Called send world calls last := by
      unfold pause at rest
      split at rest
      · exact rest
      · split at rest
        · exact rest
        · exact .waited rest
    unfold retryLoop
    rcases pauses : pause around config attempt world with ⟨_ | error, ready⟩
    · rw [pauses] at wait
      apply wait
      dsimp only
      rcases answered : send ready with ⟨_ | error, later⟩
      · exact .made none answered (.done later)
      · dsimp only
        cases around.contextErr later.moment with
        | some reason => exact .made (some reason) answered (.waited (.done later.tick))
        | none =>
          cases classify error with
          | true => exact .made none answered (.waited (induction (attempt + 1) (some error) _))
          | false => exact .made none answered (.waited (.done later.tick))
    · rw [pauses] at wait
      exact wait _ _ (.done ready)

variable {world : World Value Store}

theorem retryLoop_retry {around : Surroundings} {config : RetryConfig}
    {send : World Value Store → Option Failure × World Value Store}
    {ready later : World Value Store} {error : Failure} (lastErr : Option Failure)
    (pauses : pause around config attempt world = (none, ready))
    (fails : send ready = (some error, later)) (live : around.contextErr later.moment = none)
    (transient : classify error = true) :
    retryLoop around classify config send (remaining + 1) attempt lastErr world =
      let rest := retryLoop around classify config send remaining (attempt + 1) (some error)
        later.tick
      (rest.1, ⟨some error, none⟩ :: rest.2.1, rest.2.2) := by
  simp only [retryLoop, pauses, fails, live, transient, if_true]

theorem retryLoop_first {remaining : Nat} (positive : 1 ≤ remaining) (world : World Value Store) :
    let looped := retryLoop around classify config send remaining 1 none world
    looped.2.1 ≠ [] ∧
      (looped.2.2 = (send world).2 ∨ looped.2.2 = (send world).2.tick ∨
        ∃ more lastErr, looped.2.2 =
          (retryLoop around classify config send more 2 lastErr (send world).2.tick).2.2) := by
  cases remaining with
  | zero => omega
  | succ remaining =>
    have unpaused : pause around config 1 world = (none, world) := rfl
    rw [retryLoop, unpaused]
    dsimp only
    rcases send world with ⟨_ | error, later⟩
    · exact ⟨List.cons_ne_nil _ _, .inl rfl⟩
    · dsimp only
      cases around.contextErr later.moment with
      | some reason => exact ⟨List.cons_ne_nil _ _, .inr (.inl rfl)⟩
      | none =>
        cases classify error with
        | true => exact ⟨List.cons_ne_nil _ _, .inr (.inr ⟨remaining, some error, rfl⟩)⟩
        | false => exact ⟨List.cons_ne_nil _ _, .inr (.inl rfl)⟩

section

variable (holds : World Value Store → Prop) (ticks : ∀ world, holds world → holds world.tick)
  (sends : ∀ world, holds world → holds (send world).2)
include ticks sends

theorem retryLoop_invariant (remaining attempt : Nat) (lastErr : Option Failure)
    (start : holds world) :
    holds (retryLoop around classify config send remaining attempt lastErr world).2.2 := by
  induction remaining generalizing attempt lastErr world with
  | zero => exact start
  | succ remaining induction =>
    have paused : holds (pause around config attempt world).2 := by
      unfold pause
      split
      · exact start
      · split
        · exact start
        · exact ticks world start
    unfold retryLoop
    rcases pauses : pause around config attempt world with ⟨_ | error, ready⟩
    · rw [pauses] at paused
      have called := sends ready paused
      dsimp only
      rcases calls : send ready with ⟨_ | error, later⟩
      · rw [calls] at called
        exact called
      · rw [calls] at called
        dsimp only
        cases around.contextErr later.moment with
        | some reason => exact ticks later called
        | none =>
          cases classify error with
          | true => exact induction (attempt + 1) (some error) (ticks later called)
          | false => exact ticks later called
    · rw [pauses] at paused
      exact paused

theorem retryLoop_of_first {remaining : Nat} (positive : 1 ≤ remaining)
    (first : holds (send world).2) :
    holds (retryLoop around classify config send remaining 1 none world).2.2 := by
  rcases (retryLoop_first around config send positive world).2 with ended | ended | more
  · rw [ended]
    exact first
  · rw [ended]
    exact ticks _ first
  · rcases more with ⟨more, lastErr, goesOn⟩
    rw [goesOn]
    exact retryLoop_invariant around config send holds ticks sends more 2 lastErr (ticks _ first)

end

namespace Retrier

variable (retrier : Retrier Value Store) (around : Surroundings) (name : String)
  (inner : Sender Value Store) (recipient : Recipient Value) (message : Message)
  (world : World Value Store)

theorem loop_looped :
    Looped (retrier.classify around) retrier.config.limit 1
      (retrier.loop around inner recipient message world).1
      (retrier.loop around inner recipient message world).2.1 :=
  retryLoop_looped around _ _ _ le_rfl none world

theorem calls_loop_ne_nil : (retrier.loop around inner recipient message world).2.1 ≠ [] :=
  (retryLoop_first around _ _ retrier.config.one_le_limit world).1

theorem store_loop (untouched : ∀ later, (inner recipient message later).2.store = later.store) :
    (retrier.loop around inner recipient message world).2.2.store = world.store := by
  apply retryLoop_invariant around _ _ (fun later => later.store = world.store)
  · exact fun later same => same
  · exact fun later same => (untouched later).trans same
  · rfl

variable {retrier around inner recipient message world} {calls : List Call}
  {last : World Value Store}

theorem send_of_delivered
    (ends : retrier.loop around inner recipient message world = (.delivered, calls, last)) :
    retrier.send around name inner recipient message world =
      { answer := none, calls := calls, pushes := [], world := last } := by
  rw [send, ends]

variable {attempts : Nat} {lastErr : Option Failure}

theorem send_of_failed
    (ends : retrier.loop around inner recipient message world =
      (.failed attempts lastErr, calls, last)) :
    retrier.send around name inner recipient message world =
      recordFailure around retrier.dlq name recipient message attempts lastErr calls last := by
  rw [send, ends]

private theorem calls_recordFailure (dlq : Option (DLQ Value Store)) (attempts : Nat)
    (lastErr : Option Failure) :
    (recordFailure around dlq name recipient message attempts lastErr calls last).calls =
      calls := by
  cases dlq with
  | none | some queue => rfl

theorem pushes_of_failed {queue : DLQ Value Store} (queued : retrier.dlq = some queue)
    (ends : retrier.loop around inner recipient message world =
      (.failed attempts lastErr, calls, last)) :
    ∃ push, (retrier.send around name inner recipient message world).pushes = [push] ∧
      push.item = failureItem around name recipient message attempts lastErr last.moment ∧
      push.ended = around.contextErr last.moment ∧
      (push.result, (retrier.send around name inner recipient message world).world.store) =
        queue.push last.moment push.ended push.item last.store ∧
      (retrier.send around name inner recipient message world).answer =
        push.result.map (.wrapped .sinkDLQOverflow "dlq push") ∧
      (retrier.send around name inner recipient message world).world.moment = last.moment + 1 ∧
      (retrier.send around name inner recipient message world).world.trace =
        last.trace ++ [.pushed push.item push.result] := by
  rw [send_of_failed name ends, queued]
  exact ⟨_, rfl, rfl, rfl, rfl, rfl, rfl, rfl⟩

theorem calls_send : (retrier.send around name inner recipient message world).calls =
    (retrier.loop around inner recipient message world).2.1 := by
  rcases ends : retrier.loop around inner recipient message world with ⟨exit, calls, last⟩
  cases exit with
  | delivered => rw [send_of_delivered name ends]
  | failed attempts lastErr => rw [send_of_failed name ends, calls_recordFailure]

end Retrier

/-! ## Deliveries with a queue -/

section Queue

variable (config : RetryConfig) (queue : DLQ Value Store)
  (isTransientFn : Option (Failure → Bool)) (around : Surroundings) (name : String)
  (inner : Sender Value Store) (recipient : Recipient Value) (message : Message)
  (world : World Value Store)

def Outcome.Queued (outcome : Outcome Value Store) (queue : DLQ Value Store)
    (last : World Value Store) : Prop :=
  (outcome.pushes = [] → outcome.world = last) ∧
    ∀ push ∈ outcome.pushes,
      (push.result, outcome.world.store) = queue.push last.moment push.ended push.item last.store ∧
        outcome.world.trace = last.trace ++ [.pushed push.item push.result]

theorem send_queued (retrier : Retrier Value Store) (queued : retrier.dlq = some queue) :
    (retrier.send around name inner recipient message world).Queued queue
      (retrier.loop around inner recipient message world).2.2 := by
  rcases ends : retrier.loop around inner recipient message world with ⟨exit, made, last⟩
  cases exit with
  | delivered =>
    rw [Retrier.send_of_delivered name ends]
    exact ⟨fun _ => rfl, by simp⟩
  | failed attempts lastErr =>
    rcases Retrier.pushes_of_failed name queued ends with
      ⟨push, pushes, _, _, stored, _, _, traced⟩
    refine ⟨fun none => ?_, fun other member => ?_⟩
    · rw [pushes] at none
      cases none
    · rw [pushes, List.mem_singleton] at member
      subst member
      exact ⟨stored, traced⟩

/-- No message is lost without an error: either the last call of the sink succeeded, or none did
and one item was pushed. The calls are those of the inner sink, and the pushes those to the
queue. -/
theorem send_accounted :
    let retrier : Retrier Value Store := ⟨config, some queue, isTransientFn⟩
    let outcome := retrier.send around name inner recipient message world
    (∃ last, Called (inner recipient message) world outcome.calls last ∧
      outcome.Queued queue last) ∧
    (outcome.answer = none ↔
      (outcome.calls.getLast?.map (·.result) = some none ∧ outcome.pushes = []) ∨
      ((∀ call ∈ outcome.calls, call.result ≠ none) ∧
        ∃ push, outcome.pushes = [push] ∧ push.result = none ∧
          push.item.recipient = recipient ∧ push.item.message = message)) ∧
    (1 ≤ outcome.calls.length ∧ outcome.calls.length ≤ config.normalize.maxAttempts) ∧
    ∀ call ∈ outcome.calls.dropLast,
      ∃ error, call.result = some error ∧ retrier.classify around error = true := by
  intro retrier outcome
  have looped := retrier.loop_looped around inner recipient message world
  have called := retrier.calls_loop_ne_nil around inner recipient message world
  have calls : outcome.calls = (retrier.loop around inner recipient message world).2.1 :=
    Retrier.calls_send name
  rw [← calls] at looped called
  refine ⟨⟨_, calls ▸ retryLoop_called around _ _ _ 1 none world,
    send_queued queue around name inner recipient message world retrier rfl⟩, ?_,
    ⟨List.length_pos_iff.mpr called, ?_⟩, ?_⟩
  · rcases ends : retrier.loop around inner recipient message world with ⟨exit, made, last⟩
    rw [ends] at looped
    cases exit with
    | delivered =>
      have sent : outcome = _ := Retrier.send_of_delivered name ends
      have delivered := looped.delivered rfl
      rw [delivered, sent]
      simp
    | failed attempts lastErr =>
      have failed := looped.failed attempts lastErr rfl
      rcases Retrier.pushes_of_failed name rfl ends with
        ⟨push, pushes, item, _, _, answer, _, _⟩
      rw [show outcome.pushes = [push] from pushes, show outcome.answer = _ from answer,
        Option.map_eq_none_iff]
      constructor
      · intro stored
        exact .inr ⟨failed, push, rfl, stored, by rw [item]; rfl, by rw [item]; rfl⟩
      · intro either
        rcases either with ⟨_, none⟩ | ⟨_, other, same, stored, _⟩
        · cases none
        · cases same
          exact stored
  · have bounded : outcome.calls.length ≤ config.limit := looped.bounded
    have positive := config.one_le_maxAttempts
    unfold RetryConfig.limit at bounded
    omega
  · intro call member
    rcases looped.retried call member with ⟨error, rfl, transient⟩
    exact ⟨error, rfl, transient⟩

/-- The attempts of an item are the calls that were made, but for a failure that is not tried
again: the loop is left before it counts the call. -/
theorem attempts_counted_iff :
    let retrier : Retrier Value Store := ⟨config, some queue, isTransientFn⟩
    let outcome := retrier.send around name inner recipient message world
    ∀ push ∈ outcome.pushes,
      (push.item.attempts = outcome.calls.length ↔
        ¬ Terminal (retrier.classify around) outcome.calls) ∧
      (Terminal (retrier.classify around) outcome.calls →
        push.item.attempts + 1 = outcome.calls.length) := by
  intro retrier outcome push member
  have looped := retrier.loop_looped around inner recipient message world
  have calls : outcome.calls = (retrier.loop around inner recipient message world).2.1 :=
    Retrier.calls_send name
  rw [← calls] at looped
  rcases ends : retrier.loop around inner recipient message world with ⟨exit, made, last⟩
  rw [ends] at looped
  cases exit with
  | delivered =>
    have sent : outcome = _ := Retrier.send_of_delivered name ends
    rw [sent] at member
    cases member
  | failed attempts lastErr =>
    rcases Retrier.pushes_of_failed name rfl ends with ⟨only, pushes, item, _⟩
    rw [show outcome.pushes = [only] from pushes, List.mem_singleton] at member
    have recorded : push.item.attempts = attempts := by
      rw [member, item]
      rfl
    have lost := looped.terminal attempts lastErr rfl
    have counted := looped.counted attempts lastErr rfl
    by_cases terminal : Terminal (retrier.classify around) outcome.calls
    · have missing := lost terminal
      simp only [terminal, not_true, iff_false, true_implies]
      omega
    · have complete := counted terminal
      simp only [terminal, not_false_iff, iff_true, false_implies, and_true]
      omega

end Queue

end Loop

/-! ## The queue in memory -/

def memoryDLQ {Value : Type} (newDLQID : Nat → String) : DLQ Value (List (DLQItem Value)) where
  push := fun moment _ item items =>
    (none, items ++ [if item.id = "" then { item with id := newDLQID moment } else item])

def emptyWorld : World Unit (List (DLQItem Unit)) where
  moment := 0
  store := []
  trace := []

def undisturbed (transient : Bool) : Surroundings where
  isTransient := fun _ => transient
  cancellation := none
  timerFirst := fun _ => true
  draw := fun _ => 1 / 2
  clock := fun _ => 0

def unreachable {Value Store : Type} : Sender Value Store := fun _ _ world =>
  (some (.sink 0 "smtp send"), world.tick)

def threeAttempts : RetryConfig where
  maxAttempts := 3
  baseBackoff := 1000000000
  maxBackoff := 30000000000
  jitterFraction := 1 / 5

def mailed (transient : Bool) : Outcome Unit (List (DLQItem Unit)) :=
  Retrier.send ⟨threeAttempts, some (memoryDLQ fun _ => "f00d"), none⟩ (undisturbed transient)
    "email" unreachable .absent ⟨"subject", "body", none⟩ emptyWorld

/-- Three calls fail, and the queue has the message. -/
theorem undelivered_mail_accounted :
    (mailed true).answer = none ∧ (mailed true).calls.length = 3 ∧
      ∃ last, Called (unreachable .absent ⟨"subject", "body", none⟩) emptyWorld
          (mailed true).calls last ∧
        (mailed true).Queued (memoryDLQ fun _ => "f00d") last ∧
        (mailed true).world.store.map (·.message.subject) = ["subject"] := by
  rcases (send_accounted threeAttempts (memoryDLQ fun _ => "f00d") none (undisturbed true) "email"
    unreachable .absent ⟨"subject", "body", none⟩ emptyWorld).1 with ⟨last, called, queued⟩
  exact ⟨by decide +kernel, by decide +kernel, last, called, queued, by decide +kernel⟩

theorem attempts_counted_of_transient :
    ∃ push ∈ (mailed true).pushes, push.item.attempts = (mailed true).calls.length ∧
      (mailed true).calls.length = 3 := by
  have pushed : (mailed true).pushes.length = 1 := by decide +kernel
  rcases List.length_eq_one_iff.mp pushed with ⟨push, only⟩
  have member : push ∈ (mailed true).pushes := only ▸ List.mem_singleton_self push
  have counted := attempts_counted_iff threeAttempts (memoryDLQ fun _ => "f00d") none
    (undisturbed true) "email" unreachable .absent ⟨"subject", "body", none⟩ emptyWorld push member
  refine ⟨push, member, counted.1.mpr ?_, by decide +kernel⟩
  intro ⟨error, _, terminal⟩
  cases terminal

/-- The call that fails for good is not counted. -/
theorem terminal_attempt_uncounted :
    ((mailed false).calls.length, (mailed false).pushes.map (·.item.attempts)) = (1, [0]) := by
  decide +kernel

/-- A sink of its own, which answers from what was sent so far and may decode recipients; or one
of the wrappers for metrics and for retries. -/
inductive Sink (Value Store : Type)
  | plain (name : String) (decodeRecipient : Option (Bytes → Except Failure (Recipient Value)))
      (answer : List (Event Value) → Option Failure → Recipient Value → Message → Option Failure)
  | observed (inner : Sink Value Store)
  | retried (inner : Sink Value Store) (retrier : Retrier Value Store)

namespace Sink

variable {Value Store : Type}

def name : Sink Value Store → String
  | plain name _ _ => name
  | observed inner => inner.name
  | retried inner _ => inner.name

/-- `Send`; the metrics that an observer records are left out. -/
def send (around : Surroundings) : Sink Value Store → Sender Value Store
  | plain name _ answer => fun recipient message world =>
    let result := answer world.trace (around.contextErr world.moment) recipient message
    (result,
      { world with
        moment := world.moment + 1
        trace := world.trace ++ [.sent name recipient message result] })
  | observed inner => inner.send around
  | retried inner retrier => fun recipient message world =>
    let outcome := retrier.send around inner.name (inner.send around) recipient message world
    (outcome.answer, outcome.world)

def isRetrier : Sink Value Store → Bool
  | retried _ _ => true
  | plain _ _ _ | observed _ => false

def wrapSink (inner : Sink Value Store) (config : RetryConfig) (dlq : Option (DLQ Value Store)) :
    Sink Value Store :=
  if inner.isRetrier then inner
  else if config.normalize.maxAttempts ≤ 1 ∧ dlq.isNone then inner
  else inner.retried { config := config.normalize.normalize, dlq := dlq }

end Sink

end Parsec.Sinks
