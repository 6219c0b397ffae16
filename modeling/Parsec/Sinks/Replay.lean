import Parsec.Sinks.Wiring

/-! # Replayed deliveries

A stored item has the JSON of its recipient. -/

namespace Parsec.Sinks

open Foundation

variable {Value Store Payload : Type}

def Delivered (name : String) (recipient : Recipient Value) (message : Message)
    (before after : World Value Store) : Prop :=
  ∃ events, after.trace = before.trace ++ events ∧ (∃ event ∈ events, event.isSent = true) ∧
    ∀ event ∈ events, event.isSent = true → ∃ result, event = .sent name recipient message result

section Sends

variable {name : String} {recipient : Recipient Value} {message : Message}
  {before between after : World Value Store}

section

variable (delivered : Delivered name recipient message before between)
include delivered

theorem Delivered.extended {events : List (Event Value)}
    (longer : after.trace = between.trace ++ events)
    (alike : ∀ event ∈ events, event.isSent = true →
      ∃ result, event = .sent name recipient message result) :
    Delivered name recipient message before after := by
  rcases delivered with ⟨earlier, extended, ⟨event, member, sent⟩, before⟩
  refine ⟨earlier ++ events, ?_, ⟨event, List.mem_append_left _ member, sent⟩, ?_⟩
  · rw [longer, extended, List.append_assoc]
  · intro event member sent
    rcases List.mem_append.mp member with member | member
    · exact before event member sent
    · exact alike event member sent

theorem Delivered.trans (again : Delivered name recipient message between after) :
    Delivered name recipient message before after := by
  rcases again with ⟨events, extended, _, alike⟩
  exact delivered.extended extended alike

theorem Delivered.pushed {item : DLQItem Value} {result : Option Failure}
    (pushes : after.trace = between.trace ++ [.pushed item result]) :
    Delivered name recipient message before after := by
  apply delivered.extended pushes
  intro event member sent
  rw [List.mem_singleton.mp member] at sent
  cases sent

end

theorem Sink.send_delivered (around : Surroundings) (sink : Sink Value Store)
    (recipient : Recipient Value) (message : Message) (world : World Value Store) :
    Delivered sink.name recipient message world (sink.send around recipient message world).2 := by
  induction sink generalizing world with
  | plain name decodeRecipient answer =>
    refine ⟨_, rfl, ⟨_, List.mem_singleton_self _, rfl⟩, ?_⟩
    intro event member _
    exact ⟨_, List.mem_singleton.mp member⟩
  | observed inner induction => exact induction world
  | retried inner retrier induction =>
    have looped : Delivered inner.name recipient message world
        (retrier.loop around (inner.send around) recipient message world).2.2 := by
      apply retryLoop_of_first around _ _ (Delivered inner.name recipient message world)
      · exact fun later delivered => delivered
      · exact fun later delivered => delivered.trans (induction later)
      · exact retrier.config.one_le_limit
      · exact induction world
    rcases ends : retrier.loop around (inner.send around) recipient message world with
      ⟨exit, calls, last⟩
    rw [ends] at looped
    cases exit with
    | delivered =>
      simp only [send, Retrier.send_of_delivered inner.name ends]
      exact looped
    | failed attempts lastErr =>
      simp only [send, Retrier.send_of_failed inner.name ends]
      cases retrier.dlq with
      | none => exact looped
      | some queue => exact looped.pushed rfl

end Sends

theorem Retrier.store_send {around : Surroundings} {inner : Sender Value Store}
    {recipient : Recipient Value} {message : Message}
    (untouched : ∀ later, (inner recipient message later).2.store = later.store)
    {retrier : Retrier Value Store} {queue : DLQ Value Store} (queued : retrier.dlq = some queue)
    (name : String) (world : World Value Store) :
    (retrier.send around name inner recipient message world).world.store = world.store ∨
      ∃ attempts lastErr moment,
        (retrier.send around name inner recipient message world).world.store =
          (queue.push moment (around.contextErr moment)
            (failureItem around name recipient message attempts lastErr moment) world.store).2 := by
  have same := retrier.store_loop around inner recipient message world untouched
  rcases ends : retrier.loop around inner recipient message world with ⟨exit, calls, last⟩
  rw [ends] at same
  cases exit with
  | delivered =>
    rw [Retrier.send_of_delivered name ends]
    exact .inl same
  | failed attempts lastErr =>
    rw [Retrier.send_of_failed name ends, queued]
    refine .inr ⟨attempts, lastErr, last.moment, ?_⟩
    rw [← same]
    rfl

section Stored

variable {dlq : RedisDLQ} {codec : Codec Value Payload} {name : String}
  {recipient : Recipient Value} {message : Message} {entry : StreamID × Payload}

theorem Stored.kept {before after : Backend Payload}
    (stored : Stored dlq codec name recipient message before after)
    (present : entry ∈ (after.redis (dlq.streamKey name)).entries)
    (fresh : entry ∉ (before.redis (dlq.streamKey name)).entries) :
    Kept codec name recipient message entry := by
  rcases stored with ⟨added, cut, entries, _, kept, _⟩
  have only : entry = added := by
    rw [entries] at present
    rcases List.mem_append.mp present with old | last
    · exact absurd (List.mem_of_mem_drop old) fresh
    · exact List.mem_singleton.mp last
  rwa [only]

variable {around : Surroundings}

theorem kept_of_send {arrivals : Nat → Arrival}
    {decodeRecipient : Option (Bytes → Except Failure (Recipient Value))}
    {answer : List (Event Value) → Option Failure → Recipient Value → Message → Option Failure}
    {config : RetryConfig} {world : World Value (Backend Payload)}
    (present : entry ∈ (((Sink.retried (.observed (.plain name decodeRecipient answer))
      { config := config, dlq := some (dlq.queue codec arrivals) }).send around recipient message
        world).2.store.redis (dlq.streamKey name)).entries)
    (fresh : entry ∉ (world.store.redis (dlq.streamKey name)).entries) :
    Kept codec name recipient message entry := by
  let sink : Sink Value (Backend Payload) := .observed (.plain name decodeRecipient answer)
  let retrier : Retrier Value (Backend Payload) :=
    { config := config, dlq := some (dlq.queue codec arrivals) }
  have untouched : ∀ later : World Value (Backend Payload),
      (sink.send around recipient message later).2.store = later.store := fun _ => rfl
  change entry ∈ ((retrier.send around name (sink.send around) recipient message
    world).world.store.redis (dlq.streamKey name)).entries at present
  rcases retrier.store_send untouched rfl name world with
    unchanged | ⟨attempts, lastErr, moment, pushed⟩
  · rw [unchanged] at present
    exact absurd present fresh
  · rw [pushed] at present
    rcases push_cases dlq codec (arrivals moment) (around.contextErr moment)
      (failureItem around name recipient message attempts lastErr moment) world.store with
      ⟨_, stored⟩ | ⟨_, unchanged⟩
    · exact stored.kept present fresh
    · rw [show ((dlq.queue codec arrivals).push _ _ _ _).2 = _ from unchanged] at present
      exact absurd present fresh

theorem replay_kept (kept : Kept codec name recipient message entry)
    {later : World Value (Backend Payload)} (live : around.contextErr later.moment = none)
    {key : String}
    (located : locate later.store.redis entry.1.text
      (allStreams later.store.known) = some (key, entry))
    {lookup : String → Option (Sink Value (Backend Payload))} {sink : Sink Value (Backend Payload)}
    (found : lookup name = some sink) (named : sink.name = name) :
    ∃ json, encodeRecipient codec recipient = .ok json ∧
      ∀ resent, replayRecipient sink (storedRecipient json) = .ok resent →
        Delivered name resent message later
          (replay codec (some lookup) around entry.1.text later).2 := by
  rcases kept with ⟨item, json, decodes, itemSink, itemMessage, encodes, back⟩
  refine ⟨json, encodes, ?_⟩
  intro resent remade
  rw [replay_of_located live located decodes]
  simp only [resend, itemSink, found, back, remade, itemMessage]
  rw [← named]
  exact sink.send_delivered around resent message later

end Stored

section Recipients

variable {codec : Codec Value Payload} {recipient : Recipient Value} {json : Option Bytes}

private theorem storedRecipient_eq_iff (encodes : encodeRecipient codec recipient = .ok json) :
    storedRecipient json = recipient ↔
      recipient = .absent ∨
        ∃ bytes, recipient = .raw bytes ∧ codec.marshalRecipient recipient = .ok bytes := by
  rcases encodeRecipient_cases encodes with
    ⟨rfl, rfl⟩ | ⟨bytes, present, marshalled, rfl, filled⟩
  · simp [storedRecipient]
  · rw [storedRecipient, if_neg filled, marshalled]
    constructor
    · intro same
      exact .inr ⟨bytes, same.symm, rfl⟩
    · intro either
      rcases either with missing | ⟨given, raw, same⟩
      · exact absurd missing present
      · rw [raw, Except.ok.inj same]

variable {retrier : Retrier Value Store}

theorem replayRecipient_observed {sink : Sink Value Store} (stored : Recipient Value) :
    replayRecipient (.retried (.observed sink) retrier) stored = .ok stored := by
  cases stored with
  | absent | raw json | typed value => rfl

private theorem replayRecipient_decoded {name : String}
    {decodeRecipient : Bytes → Except Failure (Recipient Value)}
    {answer : List (Event Value) → Option Failure → Recipient Value → Message → Option Failure}
    (encodes : encodeRecipient codec recipient = .ok json)
    (roundTrip : ∀ bytes, encodeRecipient codec recipient = .ok (some bytes) →
      decodeRecipient bytes = .ok recipient) :
    replayRecipient (.retried (.plain name (some decodeRecipient) answer) retrier)
      (storedRecipient json) = .ok recipient := by
  rcases encodeRecipient_cases encodes with ⟨rfl, rfl⟩ | ⟨bytes, _, _, rfl, filled⟩
  · rfl
  · rw [storedRecipient, if_neg filled]
    exact roundTrip bytes encodes

end Recipients

/-- A replay sends to the recipient of the delivery only if that was nil or JSON of its own;
without the observer it would send to what the sink decodes. -/
theorem replayed_recipient_iff (registry : Registry Value (Backend Payload)) {name : String}
    {decodeRecipient : Bytes → Except Failure (Recipient Value)}
    {answer : List (Event Value) → Option Failure → Recipient Value → Message → Option Failure}
    (registered : registry.get name = some (.plain name (some decodeRecipient) answer))
    (config : RetryConfig) (perSink : String → Option RetryConfig) (dlq : RedisDLQ)
    (codec : Codec Value Payload) (arrivals : Nat → Arrival) (around : Surroundings)
    (recipient : Recipient Value) (message : Message) (world : World Value (Backend Payload))
    {wrapped : Sink Value (Backend Payload)}
    (found : (registry.wired config perSink (dlq.queue codec arrivals)).get name = some wrapped)
    {entry : StreamID × Payload}
    (present : entry ∈ ((wrapped.send around recipient message world).2.store.redis
      (dlq.streamKey name)).entries)
    (fresh : entry ∉ (world.store.redis (dlq.streamKey name)).entries)
    (again : Surroundings) (later : World Value (Backend Payload))
    (live : again.contextErr later.moment = none) {key : String}
    (located : locate later.store.redis entry.1.text (allStreams later.store.known) =
      some (key, entry)) :
    (∃ resent,
      Delivered name resent message later
        (replay codec (some (registry.wired config perSink (dlq.queue codec arrivals)).get) again
          entry.1.text later).2 ∧
      (resent = recipient ↔ recipient = .absent ∨
        ∃ json, recipient = .raw json ∧ codec.marshalRecipient recipient = .ok json)) ∧
    ((∀ json, encodeRecipient codec recipient = .ok (some json) →
        decodeRecipient json = .ok recipient) →
      Delivered name recipient message later
        (replay codec (some ((registry.observeSinks false).wrapSinks config perSink
          (some (dlq.queue codec arrivals))).get) again entry.1.text later).2) := by
  have stack := found
  rw [Registry.get_wired, registered, Option.map_some] at stack
  cases stack
  have kept := kept_of_send present fresh
  constructor
  · rcases replay_kept kept live located found rfl with ⟨json, encodes, delivers⟩
    exact ⟨storedRecipient json, delivers _ (replayRecipient_observed _),
      storedRecipient_eq_iff encodes⟩
  · intro roundTrip
    have unobserved := registry.get_wrapSinks_plain registered config perSink
      (dlq.queue codec arrivals)
    rcases replay_kept kept live located unobserved rfl with ⟨json, encodes, delivers⟩
    exact delivers _ (replayRecipient_decoded encodes roundTrip)

def emailSink : Sink Unit (Backend Envelope) :=
  .plain "email" (some fun _ => .ok (.typed ())) fun _ _ recipient _ =>
    match recipient with
    | .typed _ => some (.sink 0 "smtp send")
    | .absent | .raw _ =>
      some (.coded .invalidArgument "email sink expects sinks/email.Recipient")

def emailRegistry : Registry Unit (Backend Envelope) :=
  (Registry.empty.register emailSink).wired threeAttempts (fun _ => none)
    (RedisDLQ.queue {} keptCodec fun _ => ⟨1000, 0, 0⟩)

def hello : Message := ⟨"subject", "body", none⟩

def connected : Surroundings :=
  { undisturbed true with
    isTransient := fun failure =>
      match failure with
      | .sink _ _ => true
      | .context _ | .coded _ _ | .wrapped _ _ _ => false }

def afterSend (recipient : Recipient Unit) : World Unit (Backend Envelope) :=
  ((emailRegistry.get "email").map fun wrapped =>
    (wrapped.send connected recipient hello emptyRedis).2).getD emptyRedis

def afterReplay (recipient : Recipient Unit) : World Unit (Backend Envelope) :=
  (replay keptCodec (some emailRegistry.get) connected "1000-0" (afterSend recipient)).2

theorem absent_recipient_replayed :
    Delivered "email" .absent hello (afterSend .absent) (afterReplay .absent) := by
  have registered : (Registry.empty.register emailSink).get "email" = some emailSink := by
    rw [Registry.get_register]
    rfl
  rcases Option.isSome_iff_exists.mp
    (show (emailRegistry.get "email").isSome = true by decide +kernel) with ⟨wrapped, found⟩
  have sent : (wrapped.send connected .absent hello emptyRedis).2 = afterSend .absent := by
    rw [afterSend, found]
    rfl
  have stored : ((afterSend .absent).store.redis
      (RedisDLQ.streamKey {} "email")).entries.map (·.1.text) = ["1000-0"] := by
    decide +kernel
  rcases List.map_eq_singleton_iff.mp stored with ⟨entry, only, identified⟩
  have known : (afterSend .absent).store.known = [RedisDLQ.streamKey {} "email"] := by
    decide +kernel
  have located : locate (afterSend .absent).store.redis entry.1.text
      (allStreams (afterSend .absent).store.known) =
        some (RedisDLQ.streamKey {} "email", entry) := by
    refine locate_eq_some.mpr ⟨?_, ?_, ?_⟩
    · rw [known]
      exact List.mem_cons_self
    · intro other member before
      rw [known, List.mem_singleton] at member
      exact absurd before (member ▸ lt_irrefl _)
    · exact Stream.find?_eq_some.mpr ⟨only ▸ List.mem_cons_self, rfl⟩
  rcases (replayed_recipient_iff _ registered threeAttempts (fun _ => none) {} keptCodec
    (fun _ => ⟨1000, 0, 0⟩) connected .absent hello emptyRedis found
    (by rw [sent, only]; exact List.mem_cons_self) List.not_mem_nil connected
    (afterSend .absent) rfl located).1 with ⟨resent, delivered, same⟩
  rw [same.mpr (.inl rfl), identified] at delivered
  exact delivered

/-- A recipient of the sink's own type comes back as JSON, which the sink does not take. -/
theorem typed_recipient_lost :
    ((afterReplay (.typed ())).trace.drop (afterSend (.typed ())).trace.length).filter
      Event.isSent = [.sent "email" (.raw [123, 125]) hello
        (some (.coded .invalidArgument "email sink expects sinks/email.Recipient"))] := by
  decide +kernel

end Parsec.Sinks
