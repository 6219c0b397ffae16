import Parsec.Foundation.Calls
import Parsec.Foundation.Fallible
import Parsec.Foundation.Ranking
import Parsec.Foundation.Stream
import Parsec.Sinks.Retrier

/-! # The dead-letter queue in Redis

Each sink has a stream of its own, and identifiers are unique within a stream only. A process
finds the stream of an identifier by a search through the streams that it has met since it
started. -/

namespace Parsec.Sinks

open Foundation

/-! ## Stored items -/

structure Envelope where
  sink : String
  «at» : Int
  recipient : Option Bytes
  message : Message
  attempts : Nat
  lastError : String
  deriving DecidableEq

structure Codec (Value Payload : Type) where
  marshalRecipient : Recipient Value → Except Failure Bytes
  marshal : Envelope → Payload
  unmarshal : Payload → Except Failure Envelope
  written : ∀ recipient json, marshalRecipient recipient = .ok json → json ≠ []
  roundTrip : ∀ envelope, envelope.recipient ≠ some [] → unmarshal (marshal envelope) = .ok envelope

section Items

variable {Value Payload : Type} (codec : Codec Value Payload)

def encodeRecipient : Recipient Value → Except Failure (Option Bytes)
  | .absent => .ok none
  | .raw json => (codec.marshalRecipient (.raw json)).map some
  | .typed value => (codec.marshalRecipient (.typed value)).map some

def encodeDLQItem (item : DLQItem Value) : Except Failure Payload :=
  (encodeRecipient codec item.recipient).map fun recipient =>
    codec.marshal
      { sink := item.sink
        «at» := item.at
        recipient := recipient
        message := item.message
        attempts := item.attempts
        lastError := item.lastError }

def storedRecipient : Option Bytes → Recipient Value
  | none => .absent
  | some json => if json = [] then .absent else .raw json

def decodeStreamEntry (entry : StreamID × Payload) : Except Failure (DLQItem Value) :=
  (codec.unmarshal entry.2).map fun envelope =>
    { id := entry.1.text
      sink := envelope.sink
      «at» := envelope.at
      recipient := storedRecipient envelope.recipient
      message := envelope.message
      attempts := envelope.attempts
      lastError := envelope.lastError }

variable {codec}

section

variable {recipient : Recipient Value} {json : Option Bytes}
  (encoded : encodeRecipient codec recipient = .ok json)
include encoded

theorem encodeRecipient_cases :
    (recipient = .absent ∧ json = none) ∨
      ∃ bytes, recipient ≠ .absent ∧ codec.marshalRecipient recipient = .ok bytes ∧
        json = some bytes ∧ bytes ≠ [] := by
  have filled : ∀ given, (codec.marshalRecipient given).map some = .ok json →
      ∃ bytes, codec.marshalRecipient given = .ok bytes ∧ json = some bytes ∧ bytes ≠ [] := by
    intro given marshalled
    cases made : codec.marshalRecipient given with
    | error error =>
      rw [made] at marshalled
      cases marshalled
    | ok bytes =>
      rw [made] at marshalled
      cases marshalled
      exact ⟨bytes, rfl, rfl, codec.written given bytes made⟩
  cases recipient with
  | absent =>
    cases encoded
    exact .inl ⟨rfl, rfl⟩
  | raw given | typed value =>
    rcases filled _ encoded with ⟨bytes, stored⟩
    exact .inr ⟨bytes, by simp, stored⟩

theorem encodeRecipient_ne_nil : json ≠ some [] := by
  rcases encodeRecipient_cases encoded with ⟨_, missing⟩ | ⟨bytes, _, _, stored, filled⟩
  · rw [missing]
    simp
  · rw [stored]
    exact fun empty => filled (Option.some.inj empty)

end

theorem decode_of_encode {item : DLQItem Value} {payload : Payload}
    (encoded : encodeDLQItem codec item = .ok payload) (id : StreamID) :
    ∃ json, encodeRecipient codec item.recipient = .ok json ∧
      decodeStreamEntry codec (id, payload) =
        .ok { item with id := id.text, recipient := storedRecipient json } := by
  unfold encodeDLQItem at encoded
  cases made : encodeRecipient codec item.recipient with
  | error error =>
    rw [made] at encoded
    cases encoded
  | ok json =>
    rw [made] at encoded
    cases encoded
    refine ⟨json, rfl, ?_⟩
    rw [decodeStreamEntry, codec.roundTrip _ (encodeRecipient_ne_nil made)]
    rfl

end Items

/-! ## Operations of a process -/

abbrev Redis (Payload : Type) := String → Stream Payload

structure Backend (Payload : Type) where
  redis : Redis Payload
  known : List String

structure Arrival where
  now : Nat
  cut : Nat
  clock : Int

def zeroTime : Int := -62135596800000000000

def DLQItem.dated {Value : Type} (item : DLQItem Value) (clock : Int) : DLQItem Value :=
  if item.at = zeroTime then { item with «at» := clock } else item

theorem DLQItem.dated_eq {Value : Type} (item : DLQItem Value) (clock : Int) :
    item.dated clock = { item with «at» := (item.dated clock).at } := by
  unfold DLQItem.dated
  split <;> rfl

structure RedisDLQ where
  keyPrefix : String := "parsec"
  maxLen : Int := 10000

def rememberStream (key : String) (known : List String) : List String :=
  if key ∈ known then known else key :: known

def allStreams (known : List String) : List String :=
  known.insertionSort fun first second => first ≤ second

def RedisDLQ.trimmed (dlq : RedisDLQ) (cut length : Nat) : Nat :=
  if 0 < dlq.maxLen then min cut (length + 1 - dlq.maxLen.toNat) else 0

def locate {Payload : Type} (redis : Redis Payload) (id : String) (streams : List String) :
    Option (String × (StreamID × Payload)) :=
  streams.findSome? fun key => ((redis key).find? id).map (Prod.mk key)

def refused (ended : Option Failure) : List String → Option Failure
  | [] => none
  | _ :: _ => ended

theorem refused_none (streams : List String) : refused none streams = none := by
  cases streams with
  | nil | cons key streams => rfl

def maxFetch (limit : Int) : Nat := if limit ≤ 0 then 1000 else limit.toNat

namespace RedisDLQ

variable {Value Payload Store : Type} (dlq : RedisDLQ) (codec : Codec Value Payload)

def streamKey (sink : String) : String := dlq.keyPrefix ++ ":dlq:" ++ sink

def streamsFor (sink : String) (known : List String) : List String × List String :=
  if sink ≠ "" then ([dlq.streamKey sink], rememberStream (dlq.streamKey sink) known)
  else (allStreams known, known)

def append (arrival : Arrival) (sink : String) (payload : Payload) (backend : Backend Payload) :
    Backend Payload :=
  let key := dlq.streamKey sink
  let stream := backend.redis key
  { redis := Function.update backend.redis key
      (stream.add arrival.now (dlq.trimmed arrival.cut stream.entries.length) payload)
    known := rememberStream key backend.known }

theorem append_self (arrival : Arrival) (sink : String) (payload : Payload)
    (backend : Backend Payload) :
    (dlq.append arrival sink payload backend).redis (dlq.streamKey sink) =
      (backend.redis (dlq.streamKey sink)).add arrival.now
        (dlq.trimmed arrival.cut (backend.redis (dlq.streamKey sink)).entries.length) payload :=
  Function.update_self ..

theorem append_of_ne (arrival : Arrival) {sink other : String} (payload : Payload)
    (backend : Backend Payload) (different : other ≠ dlq.streamKey sink) :
    (dlq.append arrival sink payload backend).redis other = backend.redis other :=
  Function.update_of_ne different ..

def push (arrival : Arrival) (ended : Option Failure) (item : DLQItem Value)
    (backend : Backend Payload) : Option Failure × Backend Payload :=
  if item.sink = "" then
    (some (.coded .invalidArgument "dlq push: sink name required"), backend)
  else
    match encodeDLQItem codec (item.dated arrival.clock) with
    | .error error => (some (.wrapped .internal "encode dlq item" error), backend)
    | .ok payload =>
      match ended with
      | some error => (some (.wrapped .sinkUnavailable "xadd dlq" error), backend)
      | none => (none, dlq.append arrival item.sink payload backend)

def listing (redis : Redis Payload) (streams : List String) (limit : Int) : List (DLQItem Value) :=
  let listed := streams.flatMap fun key =>
    ((redis key).entries.reverse.take (maxFetch limit)).filterMap fun entry =>
      (decodeStreamEntry codec entry).toOption
  let sorted := listed.insertionSort fun first second => second.at ≤ first.at
  if 0 < limit then sorted.take limit.toNat else sorted

def items (ended : Option Failure) (sink : String) (limit : Int) (backend : Backend Payload) :
    Except Failure (List (DLQItem Value)) × Backend Payload :=
  let (streams, known) := dlq.streamsFor sink backend.known
  match refused ended streams with
  | some error =>
    (.error (.wrapped .sinkUnavailable "xrevrange dlq" error), { backend with known := known })
  | none => (.ok (listing codec backend.redis streams limit), { backend with known := known })

def count (ended : Option Failure) (sink : String) (backend : Backend Payload) :
    Except Failure Nat × Backend Payload :=
  let (streams, known) := dlq.streamsFor sink backend.known
  match refused ended streams with
  | some error =>
    (.error (.wrapped .sinkUnavailable "xlen dlq" error), { backend with known := known })
  | none =>
    (.ok (streams.map fun key => (backend.redis key).entries.length).sum,
      { backend with known := known })

def discard (ended : Option Failure) (id : String) (backend : Backend Payload) :
    Option Failure × Backend Payload :=
  match refused ended (allStreams backend.known) with
  | some error => (some (.wrapped .sinkUnavailable "xdel dlq" error), backend)
  | none =>
    match locate backend.redis id (allStreams backend.known) with
    | none => (none, backend)
    | some (key, _) =>
      (none,
        { backend with
          redis := Function.update backend.redis key ((backend.redis key).remove id) })

end RedisDLQ

/-! ## Replay -/

section Replay

variable {Value Payload : Type}

def Sink.unwrapToDecoder {Store : Type} :
    Sink Value Store → Option (Bytes → Except Failure (Recipient Value))
  | .plain _ decodeRecipient _ => decodeRecipient
  | .observed _ => none
  | .retried inner _ => inner.unwrapToDecoder

def replayRecipient {Store : Type} (sink : Sink Value Store) :
    Recipient Value → Except Failure (Recipient Value)
  | .raw json =>
    match sink.unwrapToDecoder with
    | some decodeRecipient => decodeRecipient json
    | none => .ok (.raw json)
  | .absent => .ok .absent
  | .typed value => .ok (.typed value)

def resend {Store : Type} (lookup : Option (String → Option (Sink Value Store)))
    (around : Surroundings) (item : DLQItem Value) (world : World Value Store) :
    Option Failure × World Value Store :=
  match lookup with
  | none => (some (.coded .sinkConfig "dlq has no registry lookup configured"), world)
  | some lookup =>
    match lookup item.sink with
    | none =>
      (some (.coded .sinkConfig ("dlq replay: sink not registered: " ++ item.sink)), world)
    | some sink =>
      match replayRecipient sink item.recipient with
      | .error error =>
        (some (.wrapped .internal "dlq replay decode recipient" error), world)
      | .ok recipient => sink.send around recipient item.message world

def replay (codec : Codec Value Payload)
    (lookup : Option (String → Option (Sink Value (Backend Payload)))) (around : Surroundings)
    (id : String) (world : World Value (Backend Payload)) :
    Option Failure × World Value (Backend Payload) :=
  match refused (around.contextErr world.moment) (allStreams world.store.known) with
  | some error => (some (.wrapped .sinkUnavailable "xrange dlq" error), world)
  | none =>
    match locate world.store.redis id (allStreams world.store.known) with
    | none => (some (.coded .invalidArgument ("dlq item not found: " ++ id)), world)
    | some (_, entry) =>
      match decodeStreamEntry codec entry with
      | .error error => (some (.wrapped .internal "decode dlq item" error), world)
      | .ok item => resend lookup around item world

end Replay

/-! ## The stream that an identifier leads to -/

section Locate

variable {Payload : Type} {redis : Redis Payload} {known : List String} {id key : String}
  {entry : StreamID × Payload}

def Clear (redis : Redis Payload) (known : List String) (id key : String) : Prop :=
  ∀ other ∈ known, other < key → (redis other).find? id = none

theorem locate_eq_some : locate redis id (allStreams known) = some (key, entry) ↔
    key ∈ known ∧ Clear redis known id key ∧ (redis key).find? id = some entry := by
  have sorted : (allStreams known).Pairwise (· ≤ ·) := List.pairwise_insertionSort _ known
  have members : ∀ {other}, other ∈ allStreams known ↔ other ∈ known :=
    List.mem_insertionSort _
  have pair : ∀ {other}, ((redis other).find? id).map (Prod.mk other) = some (key, entry) ↔
      other = key ∧ (redis key).find? id = some entry := by
    intro other
    rw [Option.map_eq_some_iff]
    constructor
    · intro ⟨found, holds, same⟩
      cases same
      exact ⟨rfl, holds⟩
    · intro ⟨same, holds⟩
      subst same
      exact ⟨entry, holds, rfl⟩
  rw [locate, List.findSome?_eq_some_iff]
  constructor
  · intro ⟨before, other, after, split, holds, unheld⟩
    rcases pair.mp holds with ⟨rfl, found⟩
    refine ⟨members.mp (split ▸ List.mem_append_right _ List.mem_cons_self), ?_, found⟩
    intro earlier earlierKnown less
    have listed := members.mpr earlierKnown
    rw [split] at listed sorted
    rcases List.mem_append.mp listed with inside | behind
    · simpa using unheld earlier inside
    · rcases List.mem_cons.mp behind with same | later
      · exact absurd less (same ▸ lt_irrefl _)
      · have least := (List.pairwise_cons.mp (List.pairwise_append.mp sorted).2.1).1 _ later
        exact absurd less (not_lt_of_ge least)
  · intro ⟨isKnown, clear, found⟩
    rcases List.eq_append_cons_of_mem (members.mpr isKnown) with ⟨before, after, split, first⟩
    refine ⟨before, key, after, split, pair.mpr ⟨rfl, found⟩, ?_⟩
    intro earlier inside
    have earlierKnown : earlier ∈ known := members.mp (split ▸ List.mem_append_left _ inside)
    rw [split] at sorted
    have least := (List.pairwise_append.mp sorted).2.2 _ inside _ List.mem_cons_self
    have less : earlier < key := lt_of_le_of_ne least fun same => first (same ▸ inside)
    rw [clear earlier earlierKnown less]
    rfl

variable {backend : Backend Payload}

theorem discard_of_none (missing : locate backend.redis id (allStreams backend.known) = none) :
    RedisDLQ.discard none id backend = (none, backend) := by
  rw [RedisDLQ.discard, refused_none, missing]

theorem discard_of_some
    (hit : locate backend.redis id (allStreams backend.known) = some (key, entry)) :
    RedisDLQ.discard none id backend =
      (none, { backend with
        redis := Function.update backend.redis key ((backend.redis key).remove id) }) := by
  rw [RedisDLQ.discard, refused_none, hit]

def DiscardsOnly (backend after : Backend Payload) (id key : String) : Prop :=
  after.redis key = (backend.redis key).remove id ∧
    ∀ other, other ≠ key → after.redis other = backend.redis other

theorem discardsOnly_iff {entry : StreamID × Payload}
    (present : entry ∈ (backend.redis key).entries) :
    DiscardsOnly backend (RedisDLQ.discard none entry.1.text backend).2 entry.1.text key ↔
      key ∈ backend.known ∧ Clear backend.redis backend.known entry.1.text key := by
  have found : (backend.redis key).find? entry.1.text = some entry :=
    Stream.find?_eq_some.mpr ⟨present, rfl⟩
  constructor
  · intro ⟨removed, others⟩
    cases hit : locate backend.redis entry.1.text (allStreams backend.known) with
    | none =>
      rw [discard_of_none hit] at removed
      exact absurd removed.symm (Stream.remove_ne found)
    | some pair =>
      rcases pair with ⟨other, held⟩
      rw [discard_of_some hit] at others
      have holds := locate_eq_some.mp hit
      by_cases same : other = key
      · subst same
        exact ⟨holds.1, holds.2.1⟩
      · have unchanged := others other same
        dsimp only at unchanged
        rw [Function.update_self] at unchanged
        exact absurd unchanged (Stream.remove_ne holds.2.2)
  · intro ⟨isKnown, clear⟩
    rw [discard_of_some (locate_eq_some.mpr ⟨isKnown, clear, found⟩)]
    refine ⟨Function.update_self _ _ _, ?_⟩
    intro other different
    exact Function.update_of_ne different _ _

end Locate

/-! ## Processes that share Redis -/

structure System (Process Payload : Type) where
  redis : Redis Payload
  known : Process → List String

inductive Action (Process Value : Type)
  | push (process : Process) (arrival : Arrival) (ended : Option Failure) (item : DLQItem Value)
  | items (process : Process) (ended : Option Failure) (sink : String) (limit : Int)
  | count (process : Process) (ended : Option Failure) (sink : String)
  | discard (process : Process) (ended : Option Failure) (id : String)
  | restart (process : Process)

inductive Answer (Value : Type)
  | done (error : Option Failure)
  | items (listed : Except Failure (List (DLQItem Value)))
  | count (number : Except Failure Nat)

section Processes

variable {Process Value Payload : Type} [DecidableEq Process]

def System.view (system : System Process Payload) (process : Process) : Backend Payload where
  redis := system.redis
  known := system.known process

def System.update (system : System Process Payload) (process : Process)
    (backend : Backend Payload) : System Process Payload where
  redis := backend.redis
  known := Function.update system.known process backend.known

def perform (dlq : RedisDLQ) (codec : Codec Value Payload) :
    Service (System Process Payload) (Action Process Value) (Answer Value) :=
  fun system action =>
    match action with
    | .push process arrival ended item =>
      let (error, backend) := dlq.push codec arrival ended item (system.view process)
      (.done error, system.update process backend)
    | .items process ended sink limit =>
      let (listed, backend) := dlq.items codec ended sink limit (system.view process)
      (.items listed, system.update process backend)
    | .count process ended sink =>
      let (number, backend) := dlq.count ended sink (system.view process)
      (.count number, system.update process backend)
    | .discard process ended id =>
      let (error, backend) := RedisDLQ.discard ended id (system.view process)
      (.done error, system.update process backend)
    | .restart process =>
      (.done none, { system with known := Function.update system.known process [] })

structure Grows (before after : Backend Payload) : Prop where
  follows : ∀ key, (after.redis key).Follows (before.redis key)
  remembers : ∀ key ∈ before.known, key ∈ after.known

theorem Grows.refl (backend : Backend Payload) : Grows backend backend where
  follows := fun _ => .refl _
  remembers := fun _ member => member

variable {key : String}

theorem mem_rememberStream {other : String} {known : List String} :
    other ∈ rememberStream key known ↔ other = key ∨ other ∈ known := by
  unfold rememberStream
  split
  · rename_i member
    constructor
    · exact .inr
    · intro either
      rcases either with rfl | known
      · exact member
      · exact known
  · exact List.mem_cons

theorem follows_update {redis : Redis Payload} {stream : Stream Payload}
    (follows : stream.Follows (redis key)) (other : String) :
    (Function.update redis key stream other).Follows (redis other) := by
  by_cases same : other = key
  · subst same
    rwa [Function.update_self]
  · rw [Function.update_of_ne same]
    exact .refl _

variable (dlq : RedisDLQ) (codec : Codec Value Payload)

theorem push_grows (arrival : Arrival) (ended : Option Failure) (item : DLQItem Value)
    (backend : Backend Payload) : Grows backend (dlq.push codec arrival ended item backend).2 := by
  unfold RedisDLQ.push
  by_cases unnamed : item.sink = ""
  · rw [if_pos unnamed]
    exact .refl backend
  · rw [if_neg unnamed]
    cases encodeDLQItem codec (item.dated arrival.clock) with
    | error error => exact .refl backend
    | ok payload =>
      cases ended with
      | some error => exact .refl backend
      | none =>
        constructor
        · intro key
          exact follows_update (Stream.add_follows _ _ _ _) key
        · intro key member
          exact mem_rememberStream.mpr (.inr member)

variable (sink : String)

theorem streamsFor_remembers (known : List String) :
    ∀ key ∈ known, key ∈ (dlq.streamsFor sink known).2 := by
  intro key member
  unfold RedisDLQ.streamsFor
  split
  · exact mem_rememberStream.mpr (.inr member)
  · exact member

variable (ended : Option Failure)

theorem items_backend (limit : Int) (backend : Backend Payload) :
    (dlq.items codec ended sink limit backend).2 =
      { backend with known := (dlq.streamsFor sink backend.known).2 } := by
  unfold RedisDLQ.items
  dsimp only
  cases refused ended (dlq.streamsFor sink backend.known).1 with
  | some error | none => rfl

private theorem count_backend (backend : Backend Payload) :
    (dlq.count ended sink backend).2 =
      { backend with known := (dlq.streamsFor sink backend.known).2 } := by
  unfold RedisDLQ.count
  dsimp only
  cases refused ended (dlq.streamsFor sink backend.known).1 with
  | some error | none => rfl

private theorem discard_grows (id : String) (backend : Backend Payload) :
    Grows backend (RedisDLQ.discard ended id backend).2 := by
  unfold RedisDLQ.discard
  cases refused ended (allStreams backend.known) with
  | some error => exact .refl backend
  | none =>
    cases locate backend.redis id (allStreams backend.known) with
    | none => exact .refl backend
    | some hit =>
      constructor
      · intro key
        exact follows_update (Stream.remove_follows _ _) key
      · intro key member
        exact member

theorem streamsFor_grows (backend : Backend Payload) :
    Grows backend { backend with known := (dlq.streamsFor sink backend.known).2 } where
  follows := fun _ => .refl _
  remembers := streamsFor_remembers dlq sink backend.known

variable (system : System Process Payload)

theorem perform_cases (action : Action Process Value) :
    (∃ process, action = .restart process ∧ (perform dlq codec system action).2 =
      { system with known := Function.update system.known process [] }) ∨
    ∃ process backend, (perform dlq codec system action).2 = system.update process backend ∧
      Grows (system.view process) backend := by
  cases action with
  | push process arrival ended item =>
    exact .inr ⟨process, _, rfl, push_grows dlq codec arrival ended item _⟩
  | items process ended sink limit =>
    refine .inr ⟨process, (dlq.items codec ended sink limit (system.view process)).2, rfl, ?_⟩
    rw [items_backend]
    exact streamsFor_grows dlq sink _
  | count process ended sink =>
    refine .inr ⟨process, (dlq.count ended sink (system.view process)).2, rfl, ?_⟩
    rw [count_backend]
    exact streamsFor_grows dlq sink _
  | discard process ended id => exact .inr ⟨process, _, rfl, discard_grows ended id _⟩
  | restart process => exact .inl ⟨process, rfl, rfl⟩

private theorem perform_follows (action : Action Process Value) (key : String) :
    ((perform dlq codec system action).2.redis key).Follows (system.redis key) := by
  rcases perform_cases dlq codec system action with ⟨process, _, next⟩ | ⟨process, _, next, grows⟩
  · rw [next]
    exact .refl _
  · rw [next]
    exact grows.follows key

theorem perform_remembers {system : System Process Payload} {action : Action Process Value}
    {process : Process} (known : key ∈ system.known process) (running : action ≠ .restart process) :
    key ∈ (perform dlq codec system action).2.known process := by
  rcases perform_cases dlq codec system action with
    ⟨other, restarts, next⟩ | ⟨other, _, next, grows⟩
  · have different : process ≠ other := fun same => running (same ▸ restarts)
    rw [next]
    dsimp only
    rwa [Function.update_of_ne different]
  · rw [next]
    unfold System.update
    dsimp only
    by_cases same : process = other
    · subst same
      rw [Function.update_self]
      exact grows.remembers key known
    · rwa [Function.update_of_ne same]

variable {item : DLQItem Value} {codec}

theorem mem_listing {redis : Redis Payload} {streams : List String} {limit : Int}
    (member : item ∈ RedisDLQ.listing codec redis streams limit) :
    ∃ key ∈ streams, ∃ entry ∈ (redis key).entries, decodeStreamEntry codec entry = .ok item := by
  have listed : item ∈ streams.flatMap fun key =>
      ((redis key).entries.reverse.take (maxFetch limit)).filterMap fun entry =>
        (decodeStreamEntry codec entry).toOption := by
    unfold RedisDLQ.listing at member
    split at member
    · exact (List.mem_insertionSort _).mp (List.mem_of_mem_take member)
    · exact (List.mem_insertionSort _).mp member
  rcases List.mem_flatMap.mp listed with ⟨key, keyIn, decoded⟩
  rcases List.mem_filterMap.mp decoded with ⟨entry, taken, made⟩
  refine ⟨key, keyIn, entry, List.mem_reverse.mp (List.mem_of_mem_take taken), ?_⟩
  cases decodes : decodeStreamEntry codec entry with
  | error error =>
    rw [decodes] at made
    cases made
  | ok other =>
    rw [decodes] at made
    cases made
    rfl

theorem mem_items {dlq : RedisDLQ} {sink : String} {limit : Int}
    {backend : Backend Payload} {listed : List (DLQItem Value)} (named : sink ≠ "")
    (lists : (dlq.items codec none sink limit backend).1 = .ok listed) (member : item ∈ listed) :
    ∃ entry ∈ (backend.redis (dlq.streamKey sink)).entries,
      decodeStreamEntry codec entry = .ok item := by
  simp only [RedisDLQ.items, RedisDLQ.streamsFor, if_pos named, refused_none] at lists
  cases lists
  rcases mem_listing member with ⟨key, only, found⟩
  rwa [List.mem_singleton.mp only] at found

theorem id_of_decode {entry : StreamID × Payload}
    (decodes : decodeStreamEntry codec entry = .ok item) : item.id = entry.1.text := by
  unfold decodeStreamEntry at decodes
  cases made : codec.unmarshal entry.2 with
  | error error =>
    rw [made] at decodes
    cases decodes
  | ok envelope =>
    rw [made] at decodes
    cases decodes
    rfl

theorem replay_of_located
    {lookup : Option (String → Option (Sink Value (Backend Payload)))} {around : Surroundings}
    {id : String} {entry : StreamID × Payload} {world : World Value (Backend Payload)}
    (live : around.contextErr world.moment = none)
    (located : locate world.store.redis id (allStreams world.store.known) = some (key, entry))
    (decodes : decodeStreamEntry codec entry = .ok item) :
    replay codec lookup around id world = resend lookup around item world := by
  simp only [replay, live, refused_none, located, decodes]

private theorem known_of_items (process : Process) (ended : Option Failure) {sink : String}
    (named : sink ≠ "") (limit : Int) :
    dlq.streamKey sink ∈
      (perform dlq codec system (.items process ended sink limit)).2.known process := by
  change dlq.streamKey sink ∈ Function.update system.known process
    (dlq.items codec ended sink limit (system.view process)).2.known process
  rw [Function.update_self, items_backend, RedisDLQ.streamsFor, if_pos named]
  exact mem_rememberStream.mpr (.inl rfl)

/-- The operations of a process hit the item that was listed exactly when the process knows the
stream of its sink and no stream before that holds the same identifier. -/
theorem listed_item_hit_iff (dlq : RedisDLQ) (codec : Codec Value Payload)
    (system : System Process Payload) {lister : Process} {sink : String} {limit : Int}
    {listed : List (DLQItem Value)} {item : DLQItem Value} (named : sink ≠ "")
    (lists : (dlq.items codec none sink limit (system.view lister)).1 = .ok listed)
    (member : item ∈ listed) (actions : List (Action Process Value))
    {final : System Process Payload}
    (ran : final = Service.after (perform dlq codec)
      (perform dlq codec system (.items lister none sink limit)).2 actions)
    {entry : StreamID × Payload}
    (present : entry ∈ (final.redis (dlq.streamKey sink)).entries)
    (identified : entry.1.text = item.id) (process : Process) :
    let key := dlq.streamKey sink
    let backend := final.view process
    decodeStreamEntry codec entry = .ok item ∧
    (DiscardsOnly backend (RedisDLQ.discard none item.id backend).2 item.id key ↔
      key ∈ backend.known ∧ Clear backend.redis backend.known item.id key) ∧
    (locate backend.redis item.id (allStreams backend.known) = some (key, entry) ↔
      key ∈ backend.known ∧ Clear backend.redis backend.known item.id key) ∧
    (key ∈ backend.known ∧ Clear backend.redis backend.known item.id key →
      ∀ lookup around world, world.store = backend → around.contextErr world.moment = none →
        replay codec lookup around item.id world = resend lookup around item world) ∧
    (process = lister → (∀ action ∈ actions, action ≠ .restart lister) → key ∈ backend.known) := by
  intro key backend
  rcases mem_items named lists member with ⟨old, oldIn, oldDecodes⟩
  have follows : (final.redis key).Follows (system.redis key) := by
    rw [ran]
    apply Service.after_invariant (perform dlq codec) (fun _ => True)
      (fun state => (state.redis key).Follows (system.redis key))
    · intro state action held _
      exact held.trans (perform_follows dlq codec state action key)
    · exact perform_follows dlq codec system _ key
    · exact fun _ _ => trivial
  have same : entry = old := by
    apply follows.eq_of_mem oldIn present
    apply StreamID.text_injective
    rw [identified, id_of_decode oldDecodes]
  have decodes : decodeStreamEntry codec entry = .ok item := same ▸ oldDecodes
  have found : (backend.redis key).find? item.id = some entry :=
    Stream.find?_eq_some.mpr ⟨present, identified⟩
  have located : locate backend.redis item.id (allStreams backend.known) = some (key, entry) ↔
      key ∈ backend.known ∧ Clear backend.redis backend.known item.id key := by
    rw [locate_eq_some]
    exact ⟨fun all => ⟨all.1, all.2.1⟩, fun both => ⟨both.1, both.2, found⟩⟩
  refine ⟨decodes, ?_, located, ?_, ?_⟩
  · rw [← identified]
    exact discardsOnly_iff present
  · intro hit lookup around world stored live
    have hits := located.mpr hit
    rw [← stored] at hits
    exact replay_of_located live hits decodes
  · intro isLister running
    change key ∈ final.known process
    rw [isLister, ran]
    apply Service.after_invariant (perform dlq codec) (fun action => action ≠ .restart lister)
      (fun state => key ∈ state.known lister)
    · intro state action known allowed
      exact perform_remembers dlq codec known allowed
    · exact known_of_items dlq system lister none named limit
    · exact running

end Processes

def keptCodec : Codec Unit Envelope where
  marshalRecipient := fun
    | .raw json => if json = [] then .error (.sink 0 "unexpected end of JSON input") else .ok json
    | .absent | .typed _ => .ok [123, 125]
  marshal := id
  unmarshal := .ok
  written := by
    intro recipient json written
    cases recipient with
    | raw given =>
      by_cases empty : given = []
      · simp [empty] at written
      · simp only [if_neg empty, Except.ok.injEq] at written
        exact written ▸ empty
    | absent | typed value =>
      cases written
      simp
  roundTrip := fun _ _ => rfl

def failedItem (sink : String) : DLQItem Unit where
  sink := sink
  «at» := 0
  recipient := .absent
  message := { subject := "subject", body := "body" }
  attempts := 5
  lastError := "503"

def deadLettered (sinks : List String) : System Bool Envelope :=
  Service.after (perform {} keptCodec) { redis := fun _ => .empty, known := fun _ => [] }
    (sinks.map fun sink =>
      .push true { now := 1000, cut := 0, clock := 0 } none (failedItem sink))

def slackItem : DLQItem Unit := { failedItem "slack" with id := "1000-0" }

def listedFor (sinks : List String) (sink : String) : System Bool Envelope :=
  (perform {} keptCodec (deadLettered sinks) (.items true none sink 0)).2

theorem only_item_discarded :
    let backend := (listedFor ["slack"] "slack").view true
    DiscardsOnly backend (RedisDLQ.discard none "1000-0" backend).2 "1000-0"
      (RedisDLQ.streamKey {} "slack") := by
  have lists : (RedisDLQ.items {} keptCodec none "slack" 0
      ((deadLettered ["slack"]).view true)).1 = .ok [slackItem] := by
    decide +kernel
  have present : ((listedFor ["slack"] "slack").redis
      (RedisDLQ.streamKey {} "slack")).entries.length = 1 := by
    decide +kernel
  rcases List.length_eq_one_iff.mp present with ⟨entry, only⟩
  have identified : ((listedFor ["slack"] "slack").redis
      (RedisDLQ.streamKey {} "slack")).entries.map (·.1.text) = ["1000-0"] := by
    decide +kernel
  rw [only] at identified
  have hits := listed_item_hit_iff {} keptCodec (deadLettered ["slack"]) (by decide) lists
    List.mem_cons_self [] rfl (show entry ∈ _ from only ▸ List.mem_cons_self)
    (List.singleton_inj.mp identified) true
  apply hits.2.1.mpr
  constructor
  · decide +kernel
  · unfold Clear
    decide +kernel

/-- Two sinks with items of one millisecond: the item of the other sink is discarded, and the
other item is the one to be replayed. -/
theorem other_item_discarded :
    let backend := (listedFor ["email", "slack"] "slack").view true
    (RedisDLQ.items {} keptCodec none "slack" 0 backend).1 = .ok [slackItem] ∧
    ((RedisDLQ.discard none slackItem.id backend).2.redis
      (RedisDLQ.streamKey {} "email")).entries.length = 0 ∧
    ((RedisDLQ.discard none slackItem.id backend).2.redis
      (RedisDLQ.streamKey {} "slack")).entries.length = 1 ∧
    (locate backend.redis slackItem.id (allStreams backend.known)).map (·.1) =
      some (RedisDLQ.streamKey {} "email") := by
  decide +kernel

end Parsec.Sinks
