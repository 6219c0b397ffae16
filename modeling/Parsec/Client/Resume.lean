import Parsec.Foundation.Execution
import Parsec.Client.Subscription

/-! # Resuming a subscription

A subscription over a transport that can be lost at any time. The transport keeps everything
published on the channel; when it is subscribed to from a positive number, it first replays
what lies above that number. The subscription asks from the number it dispatched last,
whoever produced it. -/

namespace Parsec.Client

open Foundation

/-- `pending` is on its way to the subscription. `openedAt` is how much had been published
when the subscription was opened, `dispatched` what reached the handlers. -/
structure Stream {Raw : Type} (wire : Wire Raw) where
  history : List (Sealed wire)
  openedAt : Nat
  pending : List (Sealed wire)
  connected : Bool := true
  subscription : Subscription
  dispatched : List Envelope := []

inductive StreamAction {Raw : Type} (wire : Wire Raw)
  | publish (message : Sealed wire)
  | deliver
  | disconnect (kept : Nat)
  | reconnect

namespace Stream

variable {Raw : Type} {wire : Wire Raw}

def replay (fromSequence : Int) (history : List (Sealed wire)) : List (Sealed wire) :=
  if 0 < fromSequence then
    history.filter fun message => fromSequence < message.envelope.sequence
  else []

def opened (history : List (Sealed wire)) (channel : String) (fromSequence : Int) :
    Stream wire where
  history := history
  openedAt := history.length
  pending := replay fromSequence history
  subscription := { channel := channel, fromSequence := fromSequence }

def receive (stream : Stream wire) (message : Sealed wire) : Stream wire :=
  let dispatch := stream.subscription.dispatch wire none message.raw
  { stream with
    subscription := dispatch.subscription
    dispatched := stream.dispatched ++ dispatch.passed.toList }

/-- What is pending when the transport is lost may be lost with it, from some point on. What
is left is still read before the subscription notices. -/
def step : Step (Stream wire) (StreamAction wire) := fun stream action =>
  match action with
  | .publish message =>
    some
      { stream with
        history := stream.history ++ [message]
        pending := if stream.connected then stream.pending ++ [message] else stream.pending }
  | .deliver =>
    match stream.pending with
    | [] => none
    | message :: pending => some ({ stream with pending := pending }.receive message)
  | .disconnect kept =>
    if stream.connected then
      some { stream with pending := stream.pending.take kept, connected := false }
    else none
  | .reconnect =>
    if stream.connected = false ∧ stream.pending = [] then
      let fromSequence := stream.subscription.lastSeq
      some
        { stream with
          pending := replay fromSequence stream.history
          connected := true
          subscription := { stream.subscription with fromSequence := fromSequence } }
    else none

def since (stream : Stream wire) : List (Sealed wire) := stream.history.drop stream.openedAt

def settled (stream : Stream wire) : Stream wire :=
  stream.pending.foldl receive { stream with pending := [] }

def Complete (stream : Stream wire) : Prop :=
  stream.connected = true → ∀ message ∈ stream.since, message.received ∈ stream.settled.dispatched

def Ordered (stream : Stream wire) : StreamAction wire → Prop
  | .publish message =>
    ∀ earlier ∈ stream.history,
      earlier.envelope.producer.id = message.envelope.producer.id →
        earlier.envelope.sequence < message.envelope.sequence
  | .deliver | .disconnect _ | .reconnect => True

def Resumable (stream : Stream wire) : StreamAction wire → Prop
  | .reconnect =>
    ∀ message ∈ stream.since, message.received ∉ stream.dispatched →
      0 < stream.subscription.lastSeq ∧ stream.subscription.lastSeq < message.envelope.sequence
  | .publish _ | .deliver | .disconnect _ => True

instance (stream : Stream wire) (action : StreamAction wire) : Decidable (stream.Ordered action) :=
  match action with
  | .publish message =>
    inferInstanceAs (Decidable (∀ earlier ∈ stream.history,
      earlier.envelope.producer.id = message.envelope.producer.id →
        earlier.envelope.sequence < message.envelope.sequence))
  | .deliver | .disconnect _ | .reconnect => isTrue trivial

instance (stream : Stream wire) (action : StreamAction wire) :
    Decidable (stream.Resumable action) :=
  match action with
  | .reconnect =>
    inferInstanceAs (Decidable (∀ message ∈ stream.since,
      message.received ∉ stream.dispatched → 0 < stream.subscription.lastSeq ∧
        stream.subscription.lastSeq < message.envelope.sequence))
  | .publish _ | .deliver | .disconnect _ => isTrue trivial

/-! ## Delivering -/

variable {message : Sealed wire} {history : List (Sealed wire)}

theorem mem_replay {fromSequence : Int} :
    message ∈ replay fromSequence history ↔ message ∈ history ∧ 0 < fromSequence ∧
      fromSequence < message.envelope.sequence := by
  unfold replay
  split
  · rename_i positive
    simp [positive]
  · rename_i none
    simp [none]

theorem replay_sublist (fromSequence : Int) (history : List (Sealed wire)) :
    (replay fromSequence history).Sublist history := by
  unfold replay
  split
  · exact List.filter_sublist
  · exact List.nil_sublist _

variable {stream : Stream wire}

section

variable (unfiltered : stream.subscription.filter = none) (message : Sealed wire)
include unfiltered

theorem receive_dispatched :
    (stream.receive message).dispatched = stream.dispatched ++
      if Marks.fresh stream.subscription.gap message.received.source
        message.received.sequence = true then [message.received] else [] := by
  rw [receive, Subscription.dispatch_raw]
  rcases Subscription.receive_cases unfiltered message.received with
    ⟨fresh, gap, received⟩ | ⟨stale, received⟩
  · rw [received, fresh]
    rfl
  · rw [received, stale]
    rfl

theorem receive_gap :
    (stream.receive message).subscription.gap = Marks.observe stream.subscription.gap
      message.received.source message.received.sequence := by
  rw [receive, Subscription.dispatch_raw]
  exact Subscription.receive_gap unfiltered

theorem receive_unfiltered : (stream.receive message).subscription.filter = none := by
  rw [receive, Subscription.dispatch_raw]
  exact (Subscription.receive_sameHandlers unfiltered).filter.trans unfiltered

end

def passes (stream : Stream wire) (messages : List (Sealed wire)) : List (Sealed wire) :=
  Marks.passed (fun message => message.received.source)
    (fun message => message.received.sequence) stream.subscription.gap messages

theorem foldl_receive (stream : Stream wire) (unfiltered : stream.subscription.filter = none)
    (messages : List (Sealed wire)) :
    (messages.foldl receive stream).dispatched =
      stream.dispatched ++ (stream.passes messages).map Sealed.received := by
  induction messages generalizing stream with
  | nil => simp [passes, Marks.passed]
  | cons message messages induction =>
    rw [List.foldl_cons, induction _ (receive_unfiltered unfiltered message),
      receive_dispatched unfiltered, List.append_assoc, passes, receive_gap unfiltered, passes,
      Marks.passed]
    split <;> rfl

theorem mem_settled (unfiltered : stream.subscription.filter = none) {envelope : Envelope} :
    envelope ∈ stream.settled.dispatched ↔ envelope ∈ stream.dispatched ∨
      ∃ message ∈ stream.passes stream.pending, message.received = envelope := by
  have settled : stream.settled.dispatched = stream.dispatched ++
      (stream.passes stream.pending).map Sealed.received :=
    foldl_receive { stream with pending := [] } unfiltered stream.pending
  rw [settled, List.mem_append, List.mem_map]

/-! ## Nothing is missed -/

def Increasing (messages : List (Sealed wire)) : Prop :=
  messages.Pairwise fun earlier later =>
    earlier.envelope.producer.id = later.envelope.producer.id →
      earlier.envelope.sequence < later.envelope.sequence

/-- A message that has not reached the handlers is fresh. It is pending or, while the
transport is lost, comes behind what is pending. -/
structure Sound (stream : Stream wire) : Prop where
  unfiltered : stream.subscription.filter = none
  within : stream.openedAt ≤ stream.history.length
  increasing : Increasing stream.history
  pending : stream.pending.Sublist stream.history
  marked : ∀ source highest, stream.subscription.gap source = some highest →
    ∃ message ∈ stream.history, message.received.source = source ∧
      message.received.sequence = highest
  fresh : ∀ message ∈ stream.since, message.received ∉ stream.dispatched →
    Marks.fresh stream.subscription.gap message.received.source message.received.sequence = true
  reachable : ∀ message ∈ stream.since, message.received ∉ stream.dispatched →
    message ∈ stream.pending ∨ stream.connected = false ∧ ∀ earlier ∈ stream.pending,
      earlier.envelope.producer.id = message.envelope.producer.id →
        earlier.envelope.sequence < message.envelope.sequence

theorem source_producer {earlier later : Sealed wire}
    (same : earlier.received.source = later.received.source) :
    earlier.envelope.producer.id = later.envelope.producer.id := by
  rw [← earlier.arrives.producer, ← later.arrives.producer]
  exact congrArg Prod.snd same

theorem sound_opened (increasing : Increasing history) (channel : String) (fromSequence : Int) :
    (opened history channel fromSequence).Sound where
  unfiltered := rfl
  within := Nat.le_refl _
  increasing := increasing
  pending := replay_sublist fromSequence history
  marked := fun _ _ marked => by cases marked
  fresh := fun _ member => by simp [since, opened] at member
  reachable := fun _ member => by simp [since, opened] at member

section

variable (sound : stream.Sound)
include sound

theorem Sound.complete : stream.Complete := by
  intro connected message member
  rw [mem_settled sound.unfiltered]
  by_cases before : message.received ∈ stream.dispatched
  · exact .inl before
  · right
    have pending : message ∈ stream.pending := by
      rcases sound.reachable message member before with pending | ⟨lost, _⟩
      · exact pending
      · rw [connected] at lost
        cases lost
    refine ⟨message, Marks.mem_passed_of_fresh ?_ pending (sound.fresh message member before), rfl⟩
    refine (sound.increasing.sublist sound.pending).imp fun {earlier later} below same => ?_
    rw [earlier.arrives.sequence, later.arrives.sequence]
    exact below (source_producer same)

theorem Sound.publish (ordered : stream.Ordered (.publish message)) :
    Sound
      { stream with
        history := stream.history ++ [message]
        pending := if stream.connected then stream.pending ++ [message] else stream.pending } := by
  have since : ∀ found ∈ (stream.history ++ [message]).drop stream.openedAt,
      found ∈ stream.since ∨ found = message := by
    intro found member
    rw [List.drop_append_of_le_length sound.within, List.mem_append, List.mem_singleton] at member
    exact member
  refine
    { unfiltered := sound.unfiltered
      within := ?_
      increasing := ?_
      pending := ?_
      marked := ?_
      fresh := ?_
      reachable := ?_ }
  · rw [List.length_append]
    exact sound.within.trans (Nat.le_add_right _ _)
  · refine List.pairwise_append.mpr ⟨sound.increasing, List.pairwise_singleton _ _, ?_⟩
    intro earlier before last member
    rw [List.mem_singleton.mp member]
    exact ordered earlier before
  · split
    · exact sound.pending.append (List.Sublist.refl _)
    · exact sound.pending.trans (List.sublist_append_left _ _)
  · intro source highest marked
    rcases sound.marked source highest marked with ⟨earlier, member, found⟩
    exact ⟨earlier, List.mem_append_left _ member, found⟩
  · intro found member missing
    rcases since found member with earlier | rfl
    · exact sound.fresh found earlier missing
    · -- All marks stem from messages before this one.
      rw [Marks.fresh_iff]
      intro highest marked
      rcases sound.marked _ highest marked with ⟨earlier, before, same, rfl⟩
      rw [earlier.arrives.sequence, found.arrives.sequence]
      exact ordered earlier before (source_producer same)
  · intro found member missing
    cases connected : stream.connected with
    | true =>
      left
      rcases since found member with earlier | rfl
      · rcases sound.reachable found earlier missing with pending | ⟨lost, _⟩
        · exact List.mem_append_left _ pending
        · rw [connected] at lost
          cases lost
      · exact List.mem_append_right _ List.mem_cons_self
    | false =>
      simp only [Bool.false_eq_true, if_false]
      rcases since found member with earlier | rfl
      · rcases sound.reachable found earlier missing with pending | ⟨_, behind⟩
        · exact .inl pending
        · exact .inr ⟨trivial, behind⟩
      · exact .inr ⟨trivial, fun earlier before => ordered earlier (sound.pending.subset before)⟩

theorem Sound.deliver {rest : List (Sealed wire)} (head : stream.pending = message :: rest) :
    ({ stream with pending := rest }.receive message).Sound := by
  have unfiltered : Subscription.filter
      ({ stream with pending := rest } : Stream wire).subscription = none := sound.unfiltered
  have gap := receive_gap unfiltered message
  have dispatched := receive_dispatched unfiltered message
  have first : message ∈ stream.history := sound.pending.subset (by simp [head])
  have increasing := sound.increasing.sublist sound.pending
  rw [head, List.pairwise_cons] at increasing
  -- A message that is still missing was missing before and comes behind this one.
  have missed : ∀ found ∈ stream.since,
      found.received ∉ ({ stream with pending := rest }.receive message).dispatched →
        found.received ∉ stream.dispatched ∧
          (found.envelope.producer.id = message.envelope.producer.id →
            message.envelope.sequence < found.envelope.sequence) ∧
          (found ∈ rest ∨ stream.connected = false ∧ ∀ earlier ∈ rest,
            earlier.envelope.producer.id = found.envelope.producer.id →
              earlier.envelope.sequence < found.envelope.sequence) := by
    intro found member missing
    rw [dispatched, List.mem_append, not_or] at missing
    refine ⟨missing.1, ?_⟩
    have reachable := sound.reachable found member missing.1
    rw [head, List.mem_cons] at reachable
    rcases reachable with (rfl | later) | ⟨lost, behind⟩
    · have fresh := sound.fresh found member missing.1
      exact absurd missing.2 (by simp [fresh])
    · exact ⟨fun same => increasing.1 found later same.symm, .inl later⟩
    · exact ⟨fun same => behind message List.mem_cons_self same.symm,
        .inr ⟨lost, fun earlier before => behind earlier (List.mem_cons_of_mem _ before)⟩⟩
  refine
    { unfiltered := receive_unfiltered unfiltered message
      within := sound.within
      increasing := sound.increasing
      pending := ?_
      marked := ?_
      fresh := ?_
      reachable := fun found member missing => (missed found member missing).2.2 }
  · have whole := sound.pending
    rw [head] at whole
    exact (List.sublist_cons_self message rest).trans whole
  · intro source highest marked
    rw [gap] at marked
    rcases Marks.observe_eq_some marked with ⟨rfl, observed⟩ | before
    · exact ⟨message, first, rfl, observed⟩
    · exact sound.marked source highest before
  · intro found member missing
    rcases missed found member missing with ⟨before, behind, _⟩
    rw [gap, Marks.fresh_observe]
    refine ⟨sound.fresh found member before, fun same => ?_⟩
    rw [message.arrives.sequence, found.arrives.sequence]
    exact behind (source_producer same)

theorem Sound.disconnect (kept : Nat) :
    Sound { stream with pending := stream.pending.take kept, connected := false } := by
  refine
    { sound with
      pending := (List.take_sublist kept stream.pending).trans sound.pending
      reachable := ?_ }
  intro found member missing
  rcases sound.reachable found member missing with pending | ⟨_, behind⟩
  · have increasing := sound.increasing.sublist sound.pending
    rw [← List.take_append_drop kept stream.pending] at pending increasing
    rcases List.mem_append.mp pending with early | late
    · exact .inl early
    · right
      refine ⟨rfl, fun earlier before => ?_⟩
      exact (List.pairwise_append.mp increasing).2.2 earlier before found late
  · exact .inr ⟨rfl, fun earlier before => behind earlier (List.mem_of_mem_take before)⟩

theorem Sound.reconnect (resumable : stream.Resumable .reconnect) :
    Sound
      { stream with
        pending := replay stream.subscription.lastSeq stream.history
        connected := true
        subscription :=
          { stream.subscription with fromSequence := stream.subscription.lastSeq } } := by
  refine
    { sound with
      pending := replay_sublist _ _
      reachable := fun found member missing => .inl ?_ }
  rw [mem_replay]
  exact ⟨List.mem_of_mem_drop member, resumable found member missing⟩

end

variable {action : StreamAction wire} {next : Stream wire}

theorem Sound.step (sound : stream.Sound) (ordered : stream.Ordered action)
    (resumable : stream.Resumable action) (taken : Stream.step stream action = some next) :
    next.Sound := by
  cases action with
  | publish message =>
    cases taken
    exact sound.publish ordered
  | deliver =>
    simp only [Stream.step] at taken
    split at taken
    · cases taken
    · rename_i message rest head
      cases taken
      exact sound.deliver head
  | disconnect kept =>
    simp only [Stream.step] at taken
    split at taken
    · cases taken
      exact sound.disconnect kept
    · cases taken
  | reconnect =>
    simp only [Stream.step] at taken
    split at taken
    · cases taken
      exact sound.reconnect resumable
    · cases taken

section

variable (unfiltered : stream.subscription.filter = none)
  (taken : Stream.step stream action = some next)
include unfiltered taken

theorem unfiltered_step : next.subscription.filter = none := by
  cases action with
  | publish message =>
    cases taken
    exact unfiltered
  | deliver =>
    simp only [Stream.step] at taken
    split at taken
    · cases taken
    · rename_i message rest head
      cases taken
      have same : Subscription.filter
          ({ stream with pending := rest } : Stream wire).subscription = none := unfiltered
      exact receive_unfiltered same message
  | disconnect kept | reconnect =>
    simp only [Stream.step] at taken
    split at taken
    · cases taken
      exact unfiltered
    · cases taken

private theorem resumable_of_complete (complete : next.Complete) : stream.Resumable action := by
  cases action with
  | publish | deliver | disconnect => trivial
  | reconnect =>
    intro message member missing
    have same := unfiltered_step unfiltered taken
    simp only [Stream.step] at taken
    split at taken
    · cases taken
      rcases (mem_settled same).mp (complete rfl message member) with before | ⟨found, passes,
        equal⟩
      · exact absurd before missing
      · have replayed := (mem_replay.mp (Marks.mem_of_mem_passed passes)).2
        rw [← found.arrives.sequence, equal, message.arrives.sequence] at replayed
        exact replayed
    · cases taken

end

theorem resumable_run {initial final : Stream wire} {actions : List (StreamAction wire)}
    (unfiltered : initial.subscription.filter = none)
    (run : Run Stream.step (fun stream _ => stream.Complete) initial actions final)
    (last : final.Complete) : Run Stream.step Resumable initial actions final := by
  induction run with
  | nil => exact .nil _
  | @cons current middle final action actions complete taken rest induction =>
    have next : middle.Complete := by
      cases rest with
      | nil => exact last
      | cons complete _ _ => exact complete
    exact .cons (resumable_of_complete unfiltered taken next) taken
      (induction (unfiltered_step unfiltered taken) last)

end Stream

/-- Over any producers that publish in the order of their numbers and any disconnects, nothing
published since the opening is ever lost if and only if, whenever the subscription asks again,
all it has missed has a larger number than what it dispatched last. -/
theorem nothing_lost_iff {Raw : Type} {wire : Wire Raw} {history : List (Sealed wire)}
    (increasing : Stream.Increasing history) {channel : String} {fromSequence : Int}
    {actions : List (StreamAction wire)} {final : Stream wire}
    (run : Run Stream.step Stream.Ordered (.opened history channel fromSequence) actions final) :
    Run Stream.step (fun stream _ => stream.Complete) (.opened history channel fromSequence)
        actions final ∧ final.Complete ↔
      Run Stream.step Stream.Resumable (.opened history channel fromSequence) actions final := by
  constructor
  · intro ⟨complete, last⟩
    exact Stream.resumable_run rfl complete last
  · intro resumable
    have start := Stream.sound_opened increasing channel fromSequence
    have together := run.both resumable
    have preserved : ∀ (current : Stream wire) (action : StreamAction wire) (next : Stream wire),
        current.Sound → current.Ordered action ∧ current.Resumable action →
          Stream.step current action = some next → next.Sound :=
      fun _ _ _ sound allowed taken => sound.step allowed.1 allowed.2 taken
    exact ⟨together.strengthen Stream.Sound preserved (fun _ _ sound _ => sound.complete) start,
      (together.invariant Stream.Sound preserved start).complete⟩

/-! ## Two producers -/

def price (producer : String) (sequence : Int) : Sealed Wire.plain :=
  let envelope : Envelope :=
    { channel := "public:shop.prices"
      sequence := sequence
      producedAt := 0
      producer := { id := producer, kind := .service }
      aspect := "price" }
  { envelope := envelope, raw := envelope, encoded := rfl }

/-- The number of one producer hides what another producer has published meanwhile, and
without any number nothing is replayed. -/
theorem resumed_stream_loses :
    (execute Stream.step Stream.Ordered (.opened [] "public:shop.prices" 0)
        [.publish (price "feed-1" 5), .deliver, .disconnect 0, .publish (price "feed-2" 1),
          .reconnect]).map
        (fun final => (final.connected, final.since.map fun message => message.envelope.sequence,
          final.settled.dispatched.map Envelope.sequence)) = some (true, [5, 1], [5]) ∧
      (execute Stream.step Stream.Ordered (.opened [] "public:shop.prices" 3)
        [.disconnect 0, .publish (price "feed-1" 4), .reconnect]).map
        (fun final => (final.connected, final.since.map fun message => message.envelope.sequence,
          final.settled.dispatched.map Envelope.sequence)) = some (true, [4], []) := by
  decide +kernel

theorem single_producer_resumes :
    ∃ final, Run Stream.step Stream.Ordered (.opened [] "public:shop.prices" 0)
        [.publish (price "feed-1" 1), .deliver, .disconnect 0, .publish (price "feed-1" 2),
          .reconnect] final ∧ final.connected = true ∧ final.Complete := by
  have executed : (execute Stream.step
      (fun stream action => stream.Ordered action ∧ stream.Resumable action)
      (.opened [] "public:shop.prices" 0)
      [.publish (price "feed-1" 1), .deliver, .disconnect 0, .publish (price "feed-1" 2),
        .reconnect]).map Stream.connected = some true := by
    decide +kernel
  rcases Run.exists_of_execute _ executed with ⟨final, run, connected⟩
  have ordered := run.weaken fun _ _ _ allowed => allowed.1
  have resumable := run.weaken fun _ _ _ allowed => allowed.2
  exact ⟨final, ordered, connected, ((nothing_lost_iff .nil ordered).mpr resumable).2⟩

end Parsec.Client
