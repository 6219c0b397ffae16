import Parsec.Channels.MemoryStore
import Parsec.Management.Service

/-! # Publishing

`Publish` looks the channel up before it hands the data to the broker. `PublishOrSink` counts
the subscribers first and looks the channel up only for its encoding. -/

namespace Parsec.Instance

open Foundation Channels Auth MemoryStore
open Management (Failure PublishAck)

structure BrokerOptions where
  historySize : Int := 100
  publicHistoryTTL : Int := 5 * minute
  privateHistoryTTL : Int := 5 * minute

structure Publication where
  channel : String
  data : Bytes
  historySize : Int
  historyTTL : Int
  delta : Bool
  deriving DecidableEq

/-- Whether the broker runs, the clients its node counts on a channel, the node's answer to a
publication, and the publications it took. -/
structure Broker where
  options : BrokerOptions := {}
  started : Bool
  attached : String → Except String Nat
  answer : Publication → Except String PublishAck
  shipped : List Publication := []

namespace Broker

def historyTTLFor (broker : Broker) (name : Name) : Int :=
  if name.isPrivate then broker.options.privateHistoryTTL else broker.options.publicHistoryTTL

def publication (broker : Broker) (name : Name) (data : Bytes) (delta : Bool) : Publication where
  channel := name.text
  data := data
  historySize := broker.options.historySize
  historyTTL := broker.historyTTLFor name
  delta := delta

def publish (broker : Broker) (name : Name) (data : Bytes) (delta : Bool) :
    Except CodedError PublishAck × Broker :=
  if broker.started = false then
    (.error { code := .brokerNotReady, message := "broker not running" }, broker)
  else
    match broker.answer (broker.publication name data delta) with
    | .error error =>
      (.error { code := .brokerInternal, message := "publish", cause := some error }, broker)
    | .ok ack =>
      (.ok ack, { broker with shipped := broker.shipped ++ [broker.publication name data delta] })

def presence (broker : Broker) (name : Name) : Except CodedError Nat :=
  (broker.attached name.text).mapError fun error =>
    { code := .brokerInternal, message := "presence", cause := some error }

def Takes (broker : Broker) (name : Name) (data : Bytes) (delta : Bool) : Prop :=
  broker.started = true ∧ ∃ ack, broker.answer (broker.publication name data delta) = .ok ack

private theorem publish_cases (broker : Broker) (name : Name) (data : Bytes) (delta : Bool) :
    (broker.Takes name data delta ∧ ∃ ack, broker.publish name data delta =
        (.ok ack,
          { broker with shipped := broker.shipped ++ [broker.publication name data delta] })) ∨
      ¬ broker.Takes name data delta ∧ ∃ error,
        broker.publish name data delta = (.error error, broker) := by
  unfold publish
  by_cases stopped : broker.started = false
  · rw [if_pos stopped]
    refine .inr ⟨fun takes => ?_, _, rfl⟩
    rw [takes.1] at stopped
    cases stopped
  · rw [if_neg stopped]
    cases answered : broker.answer (broker.publication name data delta) with
    | error error =>
      refine .inr ⟨fun takes => ?_, _, rfl⟩
      rcases takes.2 with ⟨ack, taken⟩
      rw [answered] at taken
      cases taken
    | ok ack => exact .inl ⟨⟨Bool.not_eq_false _ ▸ stopped, ack, answered⟩, ack, rfl⟩

end Broker

structure Running (Stored : Type) where
  stored : Stored
  broker : Broker

abbrev Sinks (Recipient Message : Type) :=
  String → Option (Recipient → Message → Except Failure Unit)

section

variable {Stored : Type} (registry : Registry Stored)

def publish (now : Int) (name : String) (data : Bytes) (state : Running Stored) :
    Except CodedError PublishAck × Running Stored :=
  match parseName name with
  | .error error => (.error error, state)
  | .ok name =>
    match registry.get name state.stored with
    | .error error => (.error error, state)
    | .ok channel =>
      match state.broker.publish name data channel.deltaEnabled with
      | (.error error, broker) => (.error error, { state with broker := broker })
      | (.ok ack, broker) =>
        (.ok ack, { stored := (registry.touch name now state.stored).2, broker := broker })

variable {Recipient Message : Type}

def publishOrSink (sinks : Sinks Recipient Message) (now : Int) (name : String) (data : Bytes)
    (sinkName : String) (recipient : Recipient) (message : Message) (state : Running Stored) :
    (Bool × Except Failure Unit) × Running Stored :=
  match parseName name with
  | .error error => ((false, .error (.coded error)), state)
  | .ok name =>
    match state.broker.presence name with
    | .error error => ((false, .error (.coded error)), state)
    | .ok presence =>
      if 0 < presence then
        -- a channel that is not found has no delta encoding, and no error
        let delta := match registry.get name state.stored with
          | .error _ => false
          | .ok channel => channel.deltaEnabled
        match state.broker.publish name data delta with
        | (.error error, broker) =>
          ((false, .error (.coded error)), { state with broker := broker })
        | (.ok _, broker) =>
          ((false, .ok ()),
            { stored := (registry.touch name now state.stored).2, broker := broker })
      else
        match sinks sinkName with
        | none =>
          ((false, .error (.coded
            { code := .sinkConfig, message := "unknown sink: " ++ sinkName })), state)
        | some send => ((true, send recipient message), state)

end

def Broker.Attached (broker : Broker) (name : Name) : Prop :=
  ∃ count, broker.attached name.text = .ok count ∧ 0 < count

def Ships (name : Name) (data : Bytes) (before after : Broker) : Prop :=
  ∃ publication : Publication, publication.channel = name.text ∧ publication.data = data ∧
    after.shipped = before.shipped ++ [publication]

/-- On a channel that the manager does not know, `Publish` returns the error and ships nothing.
`PublishOrSink` ships the data all the same exactly if a client is attached and the node takes
it. -/
theorem publishOrSink_ships_unknown_iff {Stored Recipient Message : Type}
    {registry : Registry Stored} {sinks : Sinks Recipient Message} {now : Int} {text : String}
    {data : Bytes} {sinkName : String} {recipient : Recipient} {message : Message}
    {state : Running Stored} {name : Name} {error : CodedError}
    (named : parseName text = .ok name)
    (unknown : registry.get name state.stored = .error error) :
    publish registry now text data state = (.error error, state) ∧
      (Ships name data state.broker
          (publishOrSink registry sinks now text data sinkName recipient message state).2.broker ↔
        state.broker.Attached name ∧ state.broker.Takes name data false) := by
  have nothing : ¬ Ships name data state.broker state.broker := by
    intro ⟨publication, _, _, longer⟩
    simp at longer
  constructor
  · simp only [publish, named, unknown]
  · simp only [publishOrSink, named, unknown, Broker.presence]
    cases counted : state.broker.attached name.text with
    | error failure =>
      apply iff_of_false nothing
      intro ⟨⟨count, attached, _⟩, _⟩
      rw [counted] at attached
      cases attached
    | ok count =>
      simp only [Except.mapError]
      by_cases attached : 0 < count
      · rw [if_pos attached]
        rcases state.broker.publish_cases name data false with
          ⟨takes, ack, published⟩ | ⟨refuses, failure, published⟩
        · rw [published]
          exact iff_of_true ⟨_, rfl, rfl, rfl⟩ ⟨⟨count, counted, attached⟩, takes⟩
        · rw [published]
          exact iff_of_false nothing fun ships => refuses ships.2
      · rw [if_neg attached]
        have unattached : ¬ (state.broker.Attached name ∧ state.broker.Takes name data false) := by
          intro ⟨⟨other, found, positive⟩, _⟩
          rw [counted] at found
          cases found
          exact attached positive
        cases sinks sinkName with
        | none | some send => exact iff_of_false nothing unattached

def pricesName : Name := { visibility := .public, app := "shop", domain := "prices" }

def afterDeletion (clients : Nat) : Running MemoryStore where
  stored := serve.after ∅ [.openPublic pricesName minute 0, .delete pricesName 1]
  broker :=
    { started := true
      attached := fun _ => .ok clients
      answer := fun _ => .ok { offset := 1, epoch := "e1" } }

def mailbox : Sinks String String := fun name =>
  if name = "email" then some fun _ _ => .ok () else none

theorem pricesName_unknown (clients : Nat) :
    asRegistry.get pricesName (afterDeletion clients).stored =
      .error (notFound "no such channel") := by
  change get pricesName (afterDeletion 0).stored = _
  decide +kernel

theorem unattached_not_shipped : ¬ Ships pricesName [1] (afterDeletion 0).broker
    (publishOrSink asRegistry mailbox 2 "public:shop.prices" [1] "email" "u1" "text"
      (afterDeletion 0)).2.broker := by
  have named : parseName "public:shop.prices" = .ok pricesName := by decide +kernel
  intro shipped
  rcases ((publishOrSink_ships_unknown_iff named (pricesName_unknown 0)).2.mp shipped).1 with
    ⟨count, counted, positive⟩
  cases counted
  exact absurd positive (by decide)

/-- With one client attached `Publish` fails, and `PublishOrSink` publishes. -/
theorem deleted_channel_published :
    (publish asRegistry 2 "public:shop.prices" [1] (afterDeletion 1)).1 =
        .error (notFound "no such channel") ∧
      (publishOrSink asRegistry mailbox 2 "public:shop.prices" [1] "email" "u1" "text"
        (afterDeletion 1)).1 = (false, .ok ()) ∧
      (publishOrSink asRegistry mailbox 2 "public:shop.prices" [1] "email" "u1" "text"
        (afterDeletion 1)).2.broker.shipped.map (fun sent => (sent.channel, sent.data)) =
          [("public:shop.prices", [1])] := by
  decide +kernel

end Parsec.Instance
