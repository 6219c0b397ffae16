import Parsec.Sinks.RedisDLQ

/-! # Dead letters of cancelled deliveries

The context of the caller also reaches the queue. A delivery that fails because its context has
ended is pushed under that context, and a client that looks at it refuses the push. -/

namespace Parsec.Sinks

open Foundation

variable {Value Payload : Type}

def Encodable (codec : Codec Value Payload) (recipient : Recipient Value) : Prop :=
  ∃ json, encodeRecipient codec recipient = .ok json

def RedisDLQ.queue (dlq : RedisDLQ) (codec : Codec Value Payload) (arrivals : Nat → Arrival) :
    DLQ Value (Backend Payload) where
  push := fun moment => dlq.push codec (arrivals moment)

def Kept (codec : Codec Value Payload) (sink : String) (recipient : Recipient Value)
    (message : Message) (entry : StreamID × Payload) : Prop :=
  ∃ item json, decodeStreamEntry codec entry = .ok item ∧ item.sink = sink ∧
    item.message = message ∧ encodeRecipient codec recipient = .ok json ∧
    item.recipient = storedRecipient json

def Stored (dlq : RedisDLQ) (codec : Codec Value Payload) (sink : String)
    (recipient : Recipient Value) (message : Message) (before after : Backend Payload) : Prop :=
  ∃ entry cut,
    (after.redis (dlq.streamKey sink)).entries =
      (before.redis (dlq.streamKey sink)).entries.drop cut ++ [entry] ∧
    entry ∉ (before.redis (dlq.streamKey sink)).entries ∧
    Kept codec sink recipient message entry ∧
    ∀ other, other ≠ dlq.streamKey sink → after.redis other = before.redis other

section Push

variable {dlq : RedisDLQ} {codec : Codec Value Payload} {arrival : Arrival}
  {ended : Option Failure} {item : DLQItem Value} {backend : Backend Payload}

private theorem not_stored_self (sink : String) (recipient : Recipient Value) (message : Message) :
    ¬ Stored dlq codec sink recipient message backend backend := by
  intro ⟨entry, _, entries, absent, _⟩
  apply absent
  rw [entries]
  exact List.mem_append_right _ List.mem_cons_self

private theorem encodable_iff : Encodable codec item.recipient ↔
    ∃ payload, encodeDLQItem codec (item.dated arrival.clock) = .ok payload := by
  rw [DLQItem.dated_eq]
  constructor
  · intro ⟨json, encoded⟩
    rw [encodeDLQItem, encoded]
    exact ⟨_, rfl⟩
  · intro ⟨payload, encoded⟩
    rcases decode_of_encode encoded ⟨0, 0⟩ with ⟨json, made, _⟩
    exact ⟨json, made⟩

theorem stored_append (dlq : RedisDLQ) (arrival : Arrival) (backend : Backend Payload)
    {payload : Payload} (encoded : encodeDLQItem codec (item.dated arrival.clock) = .ok payload) :
    Stored dlq codec item.sink item.recipient item.message backend
      (dlq.append arrival item.sink payload backend) := by
  rw [DLQItem.dated_eq] at encoded
  let stream := backend.redis (dlq.streamKey item.sink)
  rcases decode_of_encode encoded (stream.last.next arrival.now) with ⟨json, made, decodes⟩
  refine ⟨(stream.last.next arrival.now, payload),
    dlq.trimmed arrival.cut stream.entries.length, ?_, ?_,
    ⟨_, json, decodes, rfl, rfl, made, rfl⟩, ?_⟩
  · rw [dlq.append_self]
    rfl
  · intro member
    exact StreamID.not_before_self _ (stream.before_next_of_mem arrival.now _ member)
  · intro other different
    exact dlq.append_of_ne arrival payload backend different

/-- A push stores its item, or it changes nothing: the sink has no name, the recipient has no
JSON form or the context has ended. -/
theorem push_cases (dlq : RedisDLQ) (codec : Codec Value Payload) (arrival : Arrival)
    (ended : Option Failure) (item : DLQItem Value) (backend : Backend Payload) :
    ((item.sink ≠ "" ∧ Encodable codec item.recipient ∧ ended = none) ∧
      Stored dlq codec item.sink item.recipient item.message backend
        (dlq.push codec arrival ended item backend).2) ∨
    (¬ (item.sink ≠ "" ∧ Encodable codec item.recipient ∧ ended = none) ∧
      (dlq.push codec arrival ended item backend).2 = backend) := by
  have encodable : Encodable codec item.recipient ↔
      ∃ payload, encodeDLQItem codec (item.dated arrival.clock) = .ok payload := encodable_iff
  unfold RedisDLQ.push
  by_cases unnamed : item.sink = ""
  · rw [if_pos unnamed]
    exact .inr ⟨fun named => named.1 unnamed, rfl⟩
  · rw [if_neg unnamed]
    cases encoded : encodeDLQItem codec (item.dated arrival.clock) with
    | error error =>
      have unencodable : ¬ Encodable codec item.recipient := by
        rw [encodable, encoded]
        simp
      exact .inr ⟨fun both => unencodable both.2.1, rfl⟩
    | ok payload =>
      cases ended with
      | some error => exact .inr ⟨fun live => Option.some_ne_none error live.2.2, rfl⟩
      | none =>
        exact .inl ⟨⟨unnamed, encodable.mpr ⟨payload, encoded⟩, rfl⟩,
          stored_append dlq arrival backend encoded⟩

theorem stored_push_iff : Stored dlq codec item.sink item.recipient item.message backend
      (dlq.push codec arrival ended item backend).2 ↔
    item.sink ≠ "" ∧ Encodable codec item.recipient ∧ ended = none := by
  rcases push_cases dlq codec arrival ended item backend with
    ⟨taken, stored⟩ | ⟨refused, unchanged⟩
  · exact iff_of_true stored taken
  · rw [unchanged]
    exact iff_of_false (not_stored_self _ _ _) refused

end Push

section Delivery

variable (dlq : RedisDLQ) (codec : Codec Value Payload) (arrivals : Nat → Arrival)
  (config : RetryConfig) (isTransientFn : Option (Failure → Bool)) (around : Surroundings)
  (name : String) (decodeRecipient : Option (Bytes → Except Failure (Recipient Value)))
  (answer : List (Event Value) → Option Failure → Recipient Value → Message → Option Failure)
  (recipient : Recipient Value) (message : Message) (world : World Value (Backend Payload))

/-- A message that the sink never took is stored, unless the context ended before the send
did. -/
theorem dead_letter_stored_iff :
    let sink : Sink Value (Backend Payload) := .plain name decodeRecipient answer
    let retrier : Retrier Value (Backend Payload) :=
      ⟨config, some (dlq.queue codec arrivals), isTransientFn⟩
    let outcome := retrier.send around name (sink.send around) recipient message world
    (∀ call ∈ outcome.calls, call.result ≠ none) →
      (Stored dlq codec name recipient message world.store outcome.world.store ↔
        name ≠ "" ∧ Encodable codec recipient ∧
          ∀ since error, around.cancellation = some (since, error) →
            outcome.world.moment ≤ since) := by
  intro sink retrier outcome unsent
  have looped := retrier.loop_looped around (sink.send around) recipient message world
  have called := retrier.calls_loop_ne_nil around (sink.send around) recipient message world
  have calls : outcome.calls =
      (retrier.loop around (sink.send around) recipient message world).2.1 :=
    Retrier.calls_send name
  -- the sink and the loop leave the store alone
  have untouched := retrier.store_loop around (sink.send around) recipient message world
    fun _ => rfl
  rcases ends : retrier.loop around (sink.send around) recipient message world with
    ⟨exit, made, last⟩
  rw [ends] at looped called calls untouched
  cases exit with
  | delivered =>
    have delivered := looped.delivered rfl
    rw [calls] at unsent
    exact absurd rfl (unsent _ (List.mem_of_getLast? delivered))
  | failed attempts lastErr =>
    rcases Retrier.pushes_of_failed name rfl ends with
      ⟨push, _, item, ended, pushed, _, moment, _⟩
    have stored : outcome.world.store =
        (dlq.push codec (arrivals last.moment) push.ended push.item last.store).2 :=
      (Prod.mk.inj pushed).2
    have during : push.ended = none ↔ ∀ since error,
        around.cancellation = some (since, error) → outcome.world.moment ≤ since := by
      rw [ended, Surroundings.contextErr_eq_none, show outcome.world.moment = _ from moment]
      rfl
    rw [stored, ← during, ← show last.store = world.store from untouched]
    have iff : Stored dlq codec push.item.sink push.item.recipient push.item.message last.store
        (dlq.push codec (arrivals last.moment) push.ended push.item last.store).2 ↔ _ :=
      stored_push_iff
    rw [item] at iff ⊢
    exact iff

end Delivery

def emptyRedis : World Unit (Backend Envelope) where
  moment := 0
  store := { redis := fun _ => .empty, known := [] }
  trace := []

def failedSend (cancellation : Option (Nat × ContextError)) : Outcome Unit (Backend Envelope) :=
  Retrier.send
    ⟨threeAttempts, some (RedisDLQ.queue {} keptCodec fun _ => ⟨1000, 0, 0⟩), none⟩
    { undisturbed true with cancellation := cancellation } "slack"
    (Sink.send { undisturbed true with cancellation := cancellation }
      (.plain "slack" none fun _ _ _ _ => some (.sink 0 "503")))
    .absent ⟨"subject", "body", none⟩ emptyRedis

theorem undisturbed_dead_letter_stored :
    Stored {} keptCodec "slack" .absent ⟨"subject", "body", none⟩ emptyRedis.store
      (failedSend none).world.store := by
  have unsent : ∀ call ∈ (failedSend none).calls, call.result ≠ none := by decide +kernel
  apply (dead_letter_stored_iff {} keptCodec (fun _ => ⟨1000, 0, 0⟩) threeAttempts none
    { undisturbed true with cancellation := none } "slack" none
    (fun _ _ _ _ => some (.sink 0 "503")) .absent ⟨"subject", "body", none⟩ emptyRedis unsent).mpr
  refine ⟨by decide, ⟨none, rfl⟩, ?_⟩
  intro since error cancelled
  cases cancelled

/-- The context ends during the first call, and the message is in no stream. -/
theorem cancelled_dead_letter_lost :
    ((failedSend (some (1, .canceled))).calls.map (·.result),
      (failedSend (some (1, .canceled))).pushes.map (·.result),
      ((failedSend (some (1, .canceled))).world.store.redis
        (RedisDLQ.streamKey {} "slack")).entries.length) =
    ([some (.sink 0 "503")],
      [some (.wrapped .sinkUnavailable "xadd dlq" (.context .canceled))], 0) := by
  decide +kernel

end Parsec.Sinks
