import Parsec.Client.Publisher

/-! # From publishing to the handlers

The calls of one client on a channel, a transport that keeps what it accepted in the order of its
calls, and one subscription of the channel. -/

namespace Parsec.Client

open Foundation Subscription

variable {Raw : Type} {config : Config Raw}

/-! ## Numbers are drawn once -/

abbrev Place := String × Int

def Envelope.place (envelope : Envelope) : Place := (envelope.channel, envelope.sequence)

def Handover.place {wire : Wire Raw} (handover : Handover wire) : Place :=
  handover.message.envelope.place

def Stage.held {wire : Wire Raw} : Stage wire → Option Place
  | .stamping envelope => some envelope.place
  | .sending message => some message.envelope.place
  | .drawing _ _ | .copying _ | .saving _ _ | .returned _ _ => none

namespace Publisher

def Holds {wire : Wire Raw} (publisher : Publisher wire) (id : CallId) (place : Place) : Prop :=
  ∃ stage, publisher.calls id = some stage ∧ stage.held = some place

structure Numbered {wire : Wire Raw} (publisher : Publisher wire) : Prop where
  held : ∀ id place, publisher.Holds id place → place.2 ≤ publisher.tracker.peek place.1
  apart : ∀ id other place, publisher.Holds id place → publisher.Holds other place → id = other
  unsent : ∀ id place, publisher.Holds id place → place ∉ publisher.handed.map Handover.place
  sent : ∀ place ∈ publisher.handed.map Handover.place, place.2 ≤ publisher.tracker.peek place.1
  once : (publisher.handed.map Handover.place).Nodup

section

variable {wire : Wire Raw} {publisher : Publisher wire} {id other : CallId} {place : Place}
  {stage : Stage wire}

theorem holds_enter_self : (publisher.enter id stage).Holds id place ↔ stage.held = some place := by
  constructor
  · intro ⟨found, called, holding⟩
    rw [enter_calls_self] at called
    cases called
    exact holding
  · intro holding
    exact ⟨stage, enter_calls_self _ _ _, holding⟩

theorem holds_enter_other (different : other ≠ id) :
    (publisher.enter id stage).Holds other place ↔ publisher.Holds other place := by
  unfold Holds
  rw [enter_calls_other publisher stage different]

variable (numbered : publisher.Numbered)
include numbered

theorem Numbered.enter (own : ∀ place, stage.held = some place → publisher.Holds id place) :
    (publisher.enter id stage).Numbered := by
  have earlier : ∀ other place, (publisher.enter id stage).Holds other place →
      publisher.Holds other place := by
    intro other place holds
    by_cases same : other = id
    · subst same
      exact own place (holds_enter_self.mp holds)
    · exact (holds_enter_other same).mp holds
  exact
    { held := fun other place holds => numbered.held other place (earlier other place holds)
      apart := fun first second place holds again =>
        numbered.apart first second place (earlier first place holds) (earlier second place again)
      unsent := fun other place holds => numbered.unsent other place (earlier other place holds)
      sent := numbered.sent
      once := numbered.once }

theorem Numbered.hand {message : Sealed wire} (holds : publisher.Holds id message.envelope.place)
    (accepted : Bool) (leaves : stage.held = none) :
    ((publisher.hand id message accepted).enter id stage).Numbered := by
  have others : ∀ other place,
      ((publisher.hand id message accepted).enter id stage).Holds other place →
        other ≠ id ∧ publisher.Holds other place := by
    intro other place holding
    by_cases same : other = id
    · subst same
      rw [holds_enter_self, leaves] at holding
      cases holding
    · exact ⟨same, (holds_enter_other same).mp holding⟩
  have handed : ((publisher.hand id message accepted).enter id stage).handed.map
      Handover.place = publisher.handed.map Handover.place ++ [message.envelope.place] := by
    simp [Publisher.hand, Handover.place]
  refine ⟨?_, ?_, ?_, ?_, ?_⟩
  · intro other place holding
    exact numbered.held other place (others other place holding).2
  · intro first second place holding again
    exact numbered.apart first second place (others first place holding).2
      (others second place again).2
  · intro other place holding member
    rw [handed, List.mem_append, List.mem_singleton] at member
    rcases others other place holding with ⟨different, before⟩
    rcases member with earlier | rfl
    · exact numbered.unsent other place before earlier
    · exact different (numbered.apart other id _ before holds)
  · intro place member
    rw [handed, List.mem_append, List.mem_singleton] at member
    rcases member with earlier | rfl
    · exact numbered.sent place earlier
    · exact numbered.held id _ holds
  · rw [handed]
    refine List.nodup_append.mpr ⟨numbered.once, List.nodup_singleton _, ?_⟩
    intro place earlier last member
    rw [List.mem_singleton.mp member]
    rintro rfl
    exact numbered.unsent id _ holds earlier

theorem Numbered.draw {channel : String} {envelope : Envelope}
    (free : ∀ place, ¬ publisher.Holds id place)
    (drawn : envelope.place = (channel, publisher.tracker.peek channel + 1)) :
    ({ publisher with tracker := (publisher.tracker.next channel).2 }.enter id
      (.stamping envelope)).Numbered := by
  have grown := publisher.tracker.peek_le_next channel
  have beyond : ∀ place : Place, place.2 ≤ publisher.tracker.peek place.1 →
      envelope.place ≠ place := by
    intro place bounded equal
    rw [← equal, drawn] at bounded
    exact absurd bounded (by simp)
  have cases : ∀ other place,
      ({ publisher with tracker := (publisher.tracker.next channel).2 }.enter id
        (.stamping envelope)).Holds other place →
        (other = id ∧ place = envelope.place) ∨ (other ≠ id ∧ publisher.Holds other place) := by
    intro other place holds
    by_cases same : other = id
    · subst same
      exact .inl ⟨rfl, (Option.some.inj (holds_enter_self.mp holds)).symm⟩
    · exact .inr ⟨same, (holds_enter_other same).mp holds⟩
  refine ⟨?_, ?_, ?_, ?_, numbered.once⟩
  · intro other place holds
    rcases cases other place holds with ⟨_, rfl⟩ | ⟨_, before⟩
    · rw [drawn]
      simp
    · exact (numbered.held other place before).trans (grown place.1)
  · intro first second place holds again
    rcases cases first place holds with ⟨rfl, rfl⟩ | ⟨_, before⟩
    · rcases cases second _ again with ⟨same, _⟩ | ⟨_, before⟩
      · exact same.symm
      · exact absurd rfl (beyond _ (numbered.held second _ before))
    · rcases cases second place again with ⟨_, rfl⟩ | ⟨_, too⟩
      · exact absurd rfl (beyond _ (numbered.held first _ before))
      · exact numbered.apart first second place before too
  · intro other place holds member
    rcases cases other place holds with ⟨_, rfl⟩ | ⟨_, before⟩
    · exact absurd rfl (beyond _ (numbered.sent _ member))
    · exact numbered.unsent other place before member
  · intro place member
    exact (numbered.sent place member).trans (grown place.1)

end

variable {publisher next : Publisher config.wire}

theorem Numbered.step {action : PublishAction} (numbered : publisher.Numbered)
    (taken : Publisher.step config publisher action = some next) : next.Numbered := by
  cases steps_of_step taken with
  | started | rejected | copied | loaded => exact numbered.enter (fun _ holds => by cases holds)
  | @saved id now refusal message state called =>
    have moved : Publisher.Numbered { publisher with saved := some state } :=
      { numbered with }
    exact moved.enter (fun _ holds => by cases holds)
  | drawn called =>
    refine numbered.draw ?_ rfl
    intro place ⟨stage, found, holds⟩
    rw [called] at found
    cases found
    cases holds
  | stamped called equal valid =>
    apply numbered.enter
    intro place holds
    refine ⟨_, called, ?_⟩
    rw [← holds, Stage.held, Stage.held, equal]
    rfl
  | refused called => exact numbered.hand ⟨_, called, rfl⟩ false rfl
  | accepted called =>
    refine numbered.hand ⟨_, called, rfl⟩ true ?_
    split <;> rfl

variable {action : PublishAction} (steps : Steps config publisher action next)
include steps

theorem handed_of_steps :
    next.handed = publisher.handed ∨ ∃ id message accepted,
      publisher.calls id = some (.sending message) ∧
        next.handed = publisher.handed ++ [{ call := id, message, accepted }] := by
  cases steps with
  | started | drawn | rejected | stamped | copied | loaded | saved => exact .inl rfl
  | refused called | accepted called => exact .inr ⟨_, _, _, called, rfl⟩

theorem handed_prefix_of_steps : publisher.handed <+: next.handed := by
  rcases handed_of_steps steps with same | ⟨_, _, _, _, grown⟩
  · rw [same]
  · rw [grown]
    exact List.prefix_append _ _

private theorem calls_of_steps {id : CallId} (absent : next.calls id = none) :
    publisher.calls id = none := by
  have kept : ∀ (before : Publisher config.wire) (moved : CallId) (stage : Stage config.wire),
      (before.enter moved stage).calls id = none → before.calls id = none := by
    intro before moved stage absent
    by_cases same : id = moved
    · subst same
      rw [enter_calls_self] at absent
      cases absent
    · rwa [enter_calls_other before stage same] at absent
  cases steps with
  | started | rejected | stamped | copied | loaded => exact kept _ _ _ absent
  | drawn => exact kept { publisher with tracker := _ } _ _ absent
  | saved => exact kept { publisher with saved := _ } _ _ absent
  | refused | accepted => exact kept (publisher.hand _ _ _) _ _ absent

end Publisher

def Stage.handedOver {wire : Wire Raw} : Stage wire → Option (Sealed wire)
  | .copying message | .saving message _ | .returned (some message) (.ok ()) => some message
  | .drawing _ _ | .stamping _ | .sending _ | .returned none _ | .returned _ (.error _) => none

namespace Publisher

theorem handedOver_of_steps {publisher next : Publisher config.wire} {action : PublishAction}
    (steps : Steps config publisher action next) :
    ∀ id stage, next.calls id = some stage → ∀ message, stage.handedOver = some message →
      { call := id, message, accepted := true } ∈ next.handed ∨
        ∃ earlier, publisher.calls id = some earlier ∧ earlier.handedOver = some message := by
  have before : ∀ id stage, publisher.calls id = some stage →
      ∀ message, stage.handedOver = some message →
        { call := id, message, accepted := true } ∈ next.handed ∨
          ∃ earlier, publisher.calls id = some earlier ∧ earlier.handedOver = some message :=
    fun id stage called message done => .inr ⟨stage, called, done⟩
  cases steps with
  | started | rejected | stamped =>
    exact forall_enter before (fun _ done => by cases done)
  | @drawn id now refusal channel envelope called =>
    have same : ∀ id stage, Publisher.calls
        { publisher with tracker := (publisher.tracker.next channel).2 } id = some stage → _ :=
      before
    exact forall_enter same (fun _ done => by cases done)
  | @refused id now cause message called =>
    have same : ∀ other found,
        (publisher.hand id message false).calls other = some found → _ := before
    exact forall_enter same (fun _ done => by cases done)
  | @accepted id now message called =>
    have same : ∀ other found,
        (publisher.hand id message true).calls other = some found → _ := before
    refine forall_enter same (fun other done => .inl ?_)
    have equal : message = other := by
      split at done <;> exact Option.some.inj done
    subst equal
    exact List.mem_append_right _ List.mem_cons_self
  | copied called | loaded called =>
    exact forall_enter before (fun _ done => .inr ⟨_, called, done⟩)
  | @saved id now refusal message state called =>
    have same : ∀ id stage, Publisher.calls
        { publisher with saved := some state } id = some stage → _ := before
    exact forall_enter same (fun _ done => .inr ⟨_, called, done⟩)

private theorem numbered_opened (saved : Option SequenceTracker) :
    (Publisher.opened saved : Publisher config.wire).Numbered where
  held := fun _ _ ⟨_, called, _⟩ => by cases called
  apart := fun _ _ _ ⟨_, called, _⟩ => by cases called
  unsent := fun _ _ ⟨_, called, _⟩ => by cases called
  sent := fun _ member => by cases member
  once := List.nodup_nil

end Publisher

/-! ## A client, its transport and a subscription -/

inductive Registration
  | onEnvelope
  | onAspect (name : String)
  | onGap
  deriving DecidableEq

namespace Subscription

def register (subscription : Subscription) : Registration → Subscription
  | .onEnvelope => { subscription with onEnvelope := subscription.onEnvelope + 1 }
  | .onAspect name =>
    { subscription with
      aspectFuncs := Function.update subscription.aspectFuncs name
        (subscription.aspectFuncs name + 1) }
  | .onGap => { subscription with onGap := subscription.onGap + 1 }

variable (subscription : Subscription) (registration : Registration)

private theorem register_onEnvelope :
    subscription.onEnvelope ≤ (subscription.register registration).onEnvelope := by
  cases registration with
  | onEnvelope => exact Nat.le_succ _
  | onAspect | onGap => exact Nat.le_refl _

private theorem register_aspectFuncs (name : String) :
    subscription.aspectFuncs name ≤ (subscription.register registration).aspectFuncs name := by
  cases registration with
  | onAspect other =>
    by_cases same : name = other
    · subst same
      simp [register]
    · simp [register, same]
  | onEnvelope | onGap => exact Nat.le_refl _

theorem registered_register {subscription : Subscription} {handler : Handler}
    (registered : subscription.registered handler = true) (registration : Registration) :
    (subscription.register registration).registered handler = true := by
  cases handler with
  | envelope index =>
    have below : index < subscription.onEnvelope := of_decide_eq_true registered
    exact decide_eq_true (below.trans_le (subscription.register_onEnvelope registration))
  | aspect name index =>
    have below : index < subscription.aspectFuncs name := of_decide_eq_true registered
    exact decide_eq_true (below.trans_le (subscription.register_aspectFuncs registration name))

theorem register_filter : (subscription.register registration).filter = subscription.filter := by
  cases registration <;> rfl

theorem register_channel : (subscription.register registration).channel = subscription.channel := by
  cases registration <;> rfl

theorem register_gap : (subscription.register registration).gap = subscription.gap := by
  cases registration <;> rfl

end Subscription

/-- `delivered` counts the accepted envelopes that were delivered, `beforehand` holds the handlers
registered when a call started. The last two fields exist for the statements only. -/
structure Feed {Raw : Type} (wire : Wire Raw) where
  publisher : Publisher wire
  subscription : Subscription
  delivered : Nat := 0
  invocations : List Invocation := []
  beforehand : CallId → Option (Handler → Bool) := fun _ => none

inductive FeedAction
  | publish (action : PublishAction)
  | register (registration : Registration)
  | deliver

namespace Feed

def accepted {wire : Wire Raw} (feed : Feed wire) : List (Handover wire) :=
  feed.publisher.handed.filter fun handover =>
    handover.accepted && (handover.message.envelope.channel == feed.subscription.channel)

def opened {wire : Wire Raw} (publisher : Publisher wire) (channel : String)
    (fromSequence : Int) : Feed wire where
  publisher := { publisher with handed := [] }
  subscription := { channel := channel, fromSequence := fromSequence }

def noted {wire : Wire Raw} (feed : Feed wire) : PublishAction → CallId → Option (Handler → Bool)
  | .start id _ _ => Function.update feed.beforehand id (some feed.subscription.registered)
  | .advance _ _ _ | .load _ _ => feed.beforehand

def publishing {wire : Wire Raw} (feed : Feed wire) (action : PublishAction)
    (publisher : Publisher wire) : Feed wire :=
  { feed with publisher := publisher, beforehand := feed.noted action }

variable {wire : Wire Raw}

@[simp] theorem publishing_publisher (feed : Feed wire) (action : PublishAction)
    (publisher : Publisher wire) : (feed.publishing action publisher).publisher = publisher := rfl

def registering {wire : Wire Raw} (feed : Feed wire) (registration : Registration) : Feed wire :=
  { feed with subscription := feed.subscription.register registration }

def receiving {wire : Wire Raw} (feed : Feed wire) (handover : Handover wire) : Feed wire :=
  let dispatch := feed.subscription.dispatch wire none handover.message.raw
  { feed with
    subscription := dispatch.subscription
    delivered := feed.delivered + 1
    invocations := feed.invocations ++ dispatch.invocations }

def step (config : Config Raw) : Step (Feed config.wire) FeedAction := fun feed action =>
  match action with
  | .publish action => (feed.publisher.step config action).map (feed.publishing action)
  | .register registration => some (feed.registering registration)
  | .deliver => feed.accepted[feed.delivered]?.map feed.receiving

def arrived {wire : Wire Raw} (feed : Feed wire) : List (Handover wire) :=
  feed.accepted.take feed.delivered

/-! ## The calls of the publisher -/

/-- What was handed over came from known calls, and a call started under the subscription
that handed over successfully is found there. -/
structure Traced {wire : Wire Raw} (feed : Feed wire) : Prop where
  called : ∀ handover ∈ feed.publisher.handed, feed.publisher.calls handover.call ≠ none
  kept : ∀ id registered, feed.beforehand id = some registered →
    ∀ stage, feed.publisher.calls id = some stage → ∀ message, stage.handedOver = some message →
      { call := id, message, accepted := true } ∈ feed.publisher.handed

private theorem traced_opened (publisher : Publisher wire) (channel : String) (fromSequence : Int) :
    (opened publisher channel fromSequence).Traced where
  called := fun _ member => by cases member
  kept := fun _ _ known => by cases known

variable {feed : Feed config.wire} {publisher : Publisher config.wire} {action : PublishAction}

theorem noted_of_called (steps : Publisher.Steps config feed.publisher action publisher)
    {id : CallId} (called : feed.publisher.calls id ≠ none) :
    feed.noted action id = feed.beforehand id := by
  cases steps with
  | @started moved channel envelope absent =>
    apply Function.update_of_ne
    rintro rfl
    exact called absent
  | _ => rfl

theorem Traced.publish (traced : feed.Traced)
    (steps : Publisher.Steps config feed.publisher action publisher) :
    (feed.publishing action publisher).Traced := by
  constructor
  · intro handover member absent
    have before := Publisher.calls_of_steps steps absent
    rcases Publisher.handed_of_steps steps with same | ⟨id, message, accepted, sending, grown⟩
    · rw [publishing_publisher, same] at member
      exact traced.called handover member before
    · rw [publishing_publisher, grown, List.mem_append, List.mem_singleton] at member
      rcases member with earlier | rfl
      · exact traced.called handover earlier before
      · rw [sending] at before
        cases before
  · intro id registered known stage called message done
    rcases Publisher.handedOver_of_steps steps id stage called message done with
      now | ⟨earlier, found, earlierDone⟩
    · exact now
    · have noted : feed.beforehand id = some registered := by
        rw [← noted_of_called steps (by simp [found])]
        exact known
      exact (Publisher.handed_prefix_of_steps steps).subset
        (traced.kept id registered noted earlier found message earlierDone)

section

variable {wire : Wire Raw} {feed : Feed wire} {handover : Handover wire}

theorem mem_accepted : handover ∈ feed.accepted ↔ handover ∈ feed.publisher.handed ∧
    handover.accepted = true ∧ handover.message.envelope.channel = feed.subscription.channel := by
  simp [accepted]

theorem nodup_places (numbered : feed.publisher.Numbered) :
    (feed.accepted.map Handover.place).Nodup :=
  numbered.once.sublist (List.filter_sublist.map _)

private theorem place_of_received {first second : Handover wire}
    (same : first.message.received = second.message.received) : first.place = second.place := by
  have one := first.message.arrives
  have two := second.message.arrives
  rw [same] at one
  rw [Handover.place, Handover.place, Envelope.place, Envelope.place, ← one.channel,
    ← one.sequence, ← two.channel, ← two.sequence]

end

theorem accepted_publishing (steps : Publisher.Steps config feed.publisher action publisher) :
    feed.accepted <+: (feed.publishing action publisher).accepted :=
  (Publisher.handed_prefix_of_steps steps).filter _

/-! ## The calls of the handlers -/

def InOrder {wire : Wire Raw} (before : List (Handover wire)) (handover : Handover wire) : Prop :=
  ∀ earlier ∈ before, earlier.message.envelope.sequence < handover.message.envelope.sequence

def calls {wire : Wire Raw} (feed : Feed wire) (handler : Handler) (envelope : Envelope) : Nat :=
  feed.invocations.count (.handled handler envelope)

structure Sound (config : Config Raw) (feed : Feed config.wire) : Prop where
  numbered : feed.publisher.Numbered
  genuine : feed.publisher.Genuine config
  traced : feed.Traced
  unfiltered : feed.subscription.filter = none
  known : ∀ id registered, feed.beforehand id = some registered →
    ∀ handler, registered handler = true → feed.subscription.registered handler = true
  within : feed.delivered ≤ feed.accepted.length
  marked : feed.subscription.gap = Marks.after Envelope.source Envelope.sequence Marks.empty
    (feed.arrived.map fun handover => handover.message.received)
  unseen : ∀ handler envelope, (∀ handover ∈ feed.arrived,
    handover.message.received ≠ envelope) → feed.calls handler envelope = 0
  served : ∀ before handover after, feed.arrived = before ++ handover :: after →
    ∀ registered, feed.beforehand handover.call = some registered →
      ∀ handler, registered handler = true →
        handler.Wants handover.message.envelope.aspect →
          (feed.calls handler handover.message.received = 1 ↔ InOrder before handover)

variable {feed : Feed config.wire}

theorem sound_opened (numbered : publisher.Numbered) (genuine : publisher.Genuine config)
    (channel : String) (fromSequence : Int) :
    (opened publisher channel fromSequence).Sound config where
  numbered :=
    { numbered with
      unsent := fun _ _ _ member => by cases member
      sent := fun _ member => by cases member
      once := List.nodup_nil }
  genuine := { genuine with handed := fun _ member => by cases member }
  traced := traced_opened publisher channel fromSequence
  unfiltered := rfl
  known := fun _ _ known => by cases known
  within := Nat.le_refl _
  marked := rfl
  unseen := fun _ _ _ => rfl
  served := fun before handover after split => by simp [arrived, accepted, opened] at split

theorem Sound.publish (sound : feed.Sound config)
    (taken : feed.publisher.step config action = some publisher) :
    (feed.publishing action publisher).Sound config := by
  have steps := Publisher.steps_of_step taken
  have grown := accepted_publishing steps
  have same : (feed.publishing action publisher).arrived = feed.arrived := by
    rcases grown with ⟨new, grown⟩
    rw [arrived, ← grown]
    exact List.take_append_of_le_length sound.within
  refine
    { numbered := sound.numbered.step taken
      genuine := sound.genuine.step taken
      traced := sound.traced.publish steps
      unfiltered := sound.unfiltered
      known := ?_
      within := ?_
      marked := ?_
      unseen := ?_
      served := ?_ }
  · intro id registered known
    cases steps with
    | @started moved channel envelope absent =>
      by_cases same : id = moved
      · subst same
        intro handler found
        simp only [publishing, noted, Function.update_self, Option.some.injEq] at known
        subst known
        exact found
      · simp only [publishing, noted, Function.update_of_ne same] at known
        exact sound.known id registered known
    | _ => exact sound.known id registered known
  · exact sound.within.trans grown.length_le
  · rw [same]
    exact sound.marked
  · intro handler envelope absent
    rw [same] at absent
    exact sound.unseen handler envelope absent
  · intro before handover after split registered known
    rw [same] at split
    have member : handover ∈ feed.arrived := by simp [split]
    have handed := (mem_accepted.mp (List.mem_of_mem_take member)).1
    have earlier : feed.beforehand handover.call = some registered := by
      rw [← noted_of_called steps (sound.traced.called handover handed)]
      exact known
    exact sound.served before handover after split registered earlier

theorem Sound.register (sound : feed.Sound config) (registration : Registration) :
    (feed.registering registration).Sound config := by
  have accepted : (feed.registering registration).accepted = feed.accepted := by
    rw [Feed.accepted, registering, register_channel]
    rfl
  have same : (feed.registering registration).arrived = feed.arrived := by
    rw [arrived, accepted]
    rfl
  refine
    { numbered := sound.numbered
      genuine := sound.genuine
      traced := ⟨sound.traced.called, sound.traced.kept⟩
      unfiltered := (register_filter _ _).trans sound.unfiltered
      known := ?_
      within := ?_
      marked := ?_
      unseen := ?_
      served := ?_ }
  · intro id registered known handler found
    exact registered_register (sound.known id registered known handler found) _
  · rw [accepted]
    exact sound.within
  · rw [same]
    exact (register_gap _ _).trans sound.marked
  · intro handler envelope absent
    rw [same] at absent
    exact sound.unseen handler envelope absent
  · intro before handover after split
    rw [same] at split
    exact sound.served before handover after split

variable {handover : Handover config.wire}

private theorem source_received (sound : feed.Sound config) (member : handover ∈ feed.accepted) :
    handover.message.received.source = (feed.subscription.channel, config.producer.id) := by
  rcases mem_accepted.mp member with ⟨handed, _, channel⟩
  have arrives := handover.message.arrives
  rw [Envelope.source, arrives.channel, arrives.producer, channel,
    (sound.genuine.handed handover handed).2]

theorem fresh_iff_inOrder (sound : feed.Sound config) (member : handover ∈ feed.accepted) :
    Marks.fresh feed.subscription.gap handover.message.received.source
        handover.message.received.sequence = true ↔ InOrder feed.arrived handover := by
  rw [sound.marked, Marks.fresh_after, List.forall_mem_map]
  simp only [Marks.fresh_empty, true_and]
  refine forall₂_congr fun earlier before => ?_
  have same : earlier.message.received.source = handover.message.received.source := by
    rw [source_received sound (List.mem_of_mem_take before), source_received sound member]
  rw [earlier.message.arrives.sequence, handover.message.arrives.sequence]
  exact ⟨fun below => below same, fun below _ => below⟩

theorem received_apart (sound : feed.Sound config)
    (next : feed.accepted[feed.delivered]? = some handover) :
    ∀ earlier ∈ feed.arrived, earlier.message.received ≠ handover.message.received := by
  intro earlier before same
  have places := nodup_places sound.numbered
  rw [← List.take_append_drop (feed.delivered + 1) feed.accepted, List.take_add_one, next,
    List.map_append, List.map_append] at places
  have apart := (List.nodup_append.mp (List.nodup_append.mp places).1).2.2
  exact apart _ (List.mem_map_of_mem before) _ (List.mem_map_of_mem List.mem_cons_self)
    (place_of_received same)

theorem calls_receiving (handover : Handover config.wire) (handler : Handler)
    (envelope : Envelope) :
    (feed.receiving handover).calls handler envelope = feed.calls handler envelope +
      (feed.subscription.receive none handover.message.received).invocations.count
        (.handled handler envelope) := by
  rw [calls, receiving, dispatch_raw, List.count_append]
  rfl

theorem Sound.deliver (sound : feed.Sound config)
    (next : feed.accepted[feed.delivered]? = some handover) :
    (feed.receiving handover).Sound config := by
  have member : handover ∈ feed.accepted := List.mem_of_getElem? next
  have apart := received_apart sound next
  have kept : Subscription.SameHandlers feed.subscription
      (feed.receiving handover).subscription := by
    rw [receiving, dispatch_raw]
    exact receive_sameHandlers sound.unfiltered
  have accepted : (feed.receiving handover).accepted = feed.accepted := by
    rw [Feed.accepted, Feed.accepted, kept.channel]
    rfl
  have grown : (feed.receiving handover).arrived = feed.arrived ++ [handover] := by
    rw [arrived, accepted]
    exact (List.take_add_one).trans (by rw [next]; rfl)
  have settled : ∀ handler envelope, envelope ≠ handover.message.received →
      (feed.receiving handover).calls handler envelope = feed.calls handler envelope := by
    intro handler envelope different
    rw [calls_receiving, count_receive_other sound.unfiltered different, Nat.add_zero]
  refine
    { numbered := sound.numbered
      genuine := sound.genuine
      traced := ⟨sound.traced.called, sound.traced.kept⟩
      unfiltered := kept.filter.trans sound.unfiltered
      known := ?_
      within := ?_
      marked := ?_
      unseen := ?_
      served := ?_ }
  · intro id registered known handler found
    rw [kept.registered]
    exact sound.known id registered known handler found
  · rw [accepted]
    exact (List.getElem?_eq_some_iff.mp next).1
  · rw [grown, List.map_append, List.map_singleton, Marks.after_concat, ← sound.marked,
      receiving, dispatch_raw]
    exact receive_gap sound.unfiltered
  · intro handler envelope absent
    rw [grown] at absent
    have different := absent handover (List.mem_append_right _ List.mem_cons_self)
    rw [settled handler envelope different.symm]
    exact sound.unseen handler envelope fun earlier before =>
      absent earlier (List.mem_append_left _ before)
  · intro before delivered after split registered known handler found wanted
    rw [grown] at split
    rcases split_concat split with ⟨rfl, rfl, rfl⟩ | ⟨rest, _, earlier⟩
    · -- The envelope of this delivery: nothing was counted for it before.
      have aspect : handler.Wants delivered.message.received.aspect := by
        rw [delivered.message.arrives.aspect]
        exact wanted
      rw [calls_receiving, sound.unseen handler _ apart, Nat.zero_add,
        count_receive sound.unfiltered
          (sound.known _ registered known handler found) aspect,
        ← fresh_iff_inOrder sound member]
      split <;> simp_all
    · have before : delivered ∈ feed.arrived := by simp [earlier]
      rw [settled handler _ (apart delivered before)]
      exact sound.served _ delivered rest earlier registered known handler found wanted

theorem Sound.step (sound : feed.Sound config) {next : Feed config.wire} {action : FeedAction}
    (taken : Feed.step config feed action = some next) : next.Sound config := by
  cases action with
  | publish action =>
    rcases Option.map_eq_some_iff.mp taken with ⟨publisher, moved, rfl⟩
    exact sound.publish moved
  | register registration =>
    cases taken
    exact sound.register registration
  | deliver =>
    rcases Option.map_eq_some_iff.mp taken with ⟨handover, found, rfl⟩
    exact sound.deliver found

end Feed

/-- After a successful `Publish` and once everything accepted was delivered, a handler that
was registered before the call has been called exactly once with the envelope if and only if
every envelope that the transport accepted before it has a smaller number. -/
theorem handled_once_iff {saved : Option SequenceTracker} {past : List PublishAction}
    {publisher : Publisher config.wire}
    (earlier : Run (Publisher.step config) unrestricted (.opened saved) past publisher)
    {channel : String} {fromSequence : Int} {actions : List FeedAction}
    {final : Feed config.wire}
    (run : Run (Feed.step config) unrestricted (.opened publisher channel fromSequence) actions
      final)
    (drained : final.delivered = final.accepted.length) {id : CallId}
    {message : Sealed config.wire}
    (returned : final.publisher.calls id = some (.returned (some message) (.ok ())))
    (sent : message.envelope.channel = final.subscription.channel)
    {registered : Handler → Bool} (known : final.beforehand id = some registered)
    {handler : Handler} (beforehand : registered handler = true)
    (wanted : handler.Wants message.envelope.aspect) :
    final.invocations.count (.handled handler message.received) = 1 ↔
      ∀ before after,
        final.accepted = before ++ { call := id, message, accepted := true } :: after →
        ∀ overtaken ∈ before, overtaken.message.envelope.sequence < message.envelope.sequence := by
  have numbered := earlier.invariant Publisher.Numbered
    (fun _ _ _ holds _ taken => holds.step taken) (Publisher.numbered_opened saved)
  have genuine := earlier.invariant (Publisher.Genuine config)
    (fun _ _ _ holds _ taken => holds.step taken) (Publisher.genuine_opened saved)
  have sound := run.invariant (Feed.Sound config) (fun _ _ _ holds _ taken => holds.step taken)
    (Feed.sound_opened numbered genuine channel fromSequence)
  have all : final.arrived = final.accepted := by
    rw [Feed.arrived, drained, List.take_length]
  have served : ∀ before after,
      final.accepted = before ++ { call := id, message, accepted := true } :: after →
      (final.calls handler message.received = 1 ↔
        Feed.InOrder before { call := id, message, accepted := true }) := by
    intro before after split
    exact sound.served before _ after (all.trans split) registered known handler beforehand wanted
  have handed := sound.traced.kept id registered known _ returned message rfl
  have accepted : { call := id, message, accepted := true } ∈ final.accepted :=
    Feed.mem_accepted.mpr ⟨handed, rfl, sent⟩
  rcases List.append_of_mem accepted with ⟨before, after, split⟩
  constructor
  · intro once others behind found
    exact (served others behind found).mp once
  · intro inOrder
    exact (served before after split).mpr (inOrder before after split)

/-! ## Two calls -/

def Stage.published {wire : Wire Raw} : Stage wire → Option Envelope
  | .returned (some message) (.ok ()) => some message.envelope
  | _ => none

theorem Stage.published_eq_some {wire : Wire Raw} {stage : Stage wire} {envelope : Envelope} :
    stage.published = some envelope ↔
      ∃ message, stage = .returned (some message) (.ok ()) ∧ message.envelope = envelope := by
  constructor
  · intro published
    unfold Stage.published at published
    split at published
    · rename_i message
      exact ⟨message, rfl, Option.some.inj published⟩
    · cases published
  · rintro ⟨message, rfl, rfl⟩
    rfl

def twoCalls (first second : CallId) : List FeedAction :=
  [.register .onEnvelope, .publish (.start 0 "public:shop.prices" { aspect := "price" }),
    .publish (.start 1 "public:shop.prices" { aspect := "price" }),
    .publish (.advance 0 0 none), .publish (.advance 1 0 none)] ++
    List.replicate 4 (.publish (.advance first 0 none)) ++
    List.replicate 4 (.publish (.advance second 0 none)) ++ [.deliver, .deliver]

/-- The second number is sent first. Both calls succeed, and the first envelope reaches no
handler. -/
theorem overtaken_envelope_unhandled :
    (execute (Feed.step feedConfig) unrestricted (.opened (.opened none) "public:shop.prices" 0)
        (twoCalls 1 0)).map
        (fun final =>
          ([0, 1].map fun id => ((final.publisher.calls id).bind Stage.published).map
              Envelope.sequence,
            [0, 1].map fun id => (final.beforehand id).map (· (.envelope 0)),
            final.delivered, final.accepted.map fun handover =>
              (handover.message.envelope.sequence,
                final.invocations.count (.handled (.envelope 0) handover.message.received)))) =
      some ([some 1, some 2], [some true, some true], 2, [(2, 1), (1, 0)]) := by
  decide +kernel

theorem ordered_envelope_handled :
    ∃ (final : Feed feedConfig.wire) (message : Sealed feedConfig.wire),
      Run (Feed.step feedConfig) unrestricted (.opened (.opened none) "public:shop.prices" 0)
        (twoCalls 0 1) final ∧
      final.publisher.calls 1 = some (.returned (some message) (.ok ())) ∧
      final.invocations.count (.handled (.envelope 0) message.received) = 1 := by
  have executed : (execute (Feed.step feedConfig) unrestricted
      (.opened (.opened none) "public:shop.prices" 0) (twoCalls 0 1)).map
      (fun final =>
        (((final.publisher.calls 1).bind Stage.published).map fun envelope =>
            decide (envelope.channel = final.subscription.channel),
          (final.beforehand 1).map (· (.envelope 0)),
          decide (final.delivered = final.accepted.length),
          decide (final.accepted.Pairwise fun earlier later =>
            earlier.message.envelope.sequence < later.message.envelope.sequence))) =
      some (some true, some true, true, true) := by
    decide +kernel
  rcases Run.exists_of_execute _ executed with ⟨final, run, observed⟩
  simp only [Prod.mk.injEq, decide_eq_true_eq, Option.map_eq_some_iff] at observed
  rcases observed with ⟨⟨envelope, published, sent⟩, ⟨registered, known, beforehand⟩, drained,
    ordered⟩
  rcases Option.bind_eq_some_iff.mp published with ⟨stage, called, outcome⟩
  rcases Stage.published_eq_some.mp outcome with ⟨message, rfl, rfl⟩
  refine ⟨final, message, run, called, ?_⟩
  apply (handled_once_iff (.nil _) run drained called sent known beforehand trivial).mpr
  intro before after split overtaken member
  rw [split, List.pairwise_append] at ordered
  exact ordered.2.2 overtaken member _ List.mem_cons_self

end Parsec.Client
