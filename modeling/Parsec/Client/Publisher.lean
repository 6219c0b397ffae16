import Parsec.Foundation.Execution
import Parsec.Client.Subscription

/-! # Publishing

Any number of `Publish` calls on one client, cut where another call can run in between: a
number is drawn, the envelope is stamped and encoded, it is handed to the transport, and the
counters are copied and saved. -/

namespace Parsec.Client

open Foundation

/-- What `New` was given besides the transport. It refuses a producer without an id or of an
unknown kind. -/
structure Config (Raw : Type) where
  wire : Wire Raw
  producer : Producer
  hasSnapshotter : Bool := false
  identified : producer.id ≠ ""
  known : producer.kind.valid = true

/-- Where a `Publish` call stands. A call that returned is kept with what it handed over. -/
inductive Stage {Raw : Type} (wire : Wire Raw)
  | drawing (channel : String) (envelope : Envelope)
  | stamping (envelope : Envelope)
  | sending (message : Sealed wire)
  | copying (message : Sealed wire)
  | saving (message : Sealed wire) (state : SequenceTracker)
  | returned (message : Option (Sealed wire)) (result : Except String Unit)

abbrev CallId := Nat

structure Handover {Raw : Type} (wire : Wire Raw) where
  call : CallId
  message : Sealed wire
  accepted : Bool

/-- A running client. `handed` lists the transport's calls in their order, also those of
earlier processes; it exists for the statements only. -/
structure Publisher {Raw : Type} (wire : Wire Raw) where
  tracker : SequenceTracker
  calls : CallId → Option (Stage wire)
  handed : List (Handover wire)
  saved : Option SequenceTracker

inductive PublishAction
  | start (id : CallId) (channel : String) (envelope : Envelope)
  | advance (id : CallId) (now : Int) (refusal : Option String)
  | load (id : CallId) (channel : String)

namespace Publisher

section

variable {Raw : Type} {wire : Wire Raw}

def restored (publisher : Publisher wire) : SequenceTracker :=
  match publisher.saved with
  | none => .empty
  | some state => SequenceTracker.empty.restore state

def opened (saved : Option SequenceTracker) : Publisher wire :=
  let blank : Publisher wire :=
    { tracker := .empty, calls := fun _ => none, handed := [], saved := saved }
  { blank with tracker := blank.restored }

def restart (publisher : Publisher wire) : Publisher wire :=
  { publisher with tracker := publisher.restored, calls := fun _ => none }

def enter (publisher : Publisher wire) (id : CallId) (stage : Stage wire) : Publisher wire :=
  { publisher with calls := Function.update publisher.calls id (some stage) }

def hand (publisher : Publisher wire) (id : CallId) (message : Sealed wire)
    (accepted : Bool) : Publisher wire :=
  { publisher with
    handed := publisher.handed ++ [{ call := id, message := message, accepted := accepted }] }

variable (publisher : Publisher wire) (id : CallId) (stage : Stage wire)

@[simp] theorem enter_tracker : (publisher.enter id stage).tracker = publisher.tracker := rfl

@[simp] theorem enter_handed : (publisher.enter id stage).handed = publisher.handed := rfl

@[simp] theorem enter_saved : (publisher.enter id stage).saved = publisher.saved := rfl

@[simp] theorem enter_calls_self : (publisher.enter id stage).calls id = some stage :=
  Function.update_self _ _ _

variable {id : CallId}

theorem enter_calls_other {other : CallId} (different : other ≠ id) :
    (publisher.enter id stage).calls other = publisher.calls other :=
  Function.update_of_ne different _ _

theorem forall_enter {publisher : Publisher wire} {holds : CallId → Stage wire → Prop}
    (all : ∀ id stage, publisher.calls id = some stage → holds id stage) {stage : Stage wire}
    (own : holds id stage) :
    ∀ other found, (publisher.enter id stage).calls other = some found → holds other found := by
  intro other found called
  by_cases same : other = id
  · subst same
    rw [enter_calls_self] at called
    cases called
    exact own
  · rw [enter_calls_other publisher stage same] at called
    exact all other found called

end

section

variable {Raw : Type} (config : Config Raw)

def stamp (now : Int) (envelope : Envelope) : Envelope :=
  { envelope with producedAt := now, producer := config.producer }

def check (envelope : Envelope) : Except String (Sealed config.wire) := do
  envelope.validate
  config.wire.seal envelope

def advance (publisher : Publisher config.wire) (id : CallId) (now : Int)
    (refusal : Option String) : Option (Publisher config.wire) :=
  match publisher.calls id with
  | none => none
  | some (.drawing channel envelope) =>
    let (sequence, tracker) := publisher.tracker.next channel
    some ({ publisher with tracker := tracker }.enter id
      (.stamping { envelope with channel := channel, sequence := sequence }))
  | some (.stamping envelope) =>
    match check config (stamp config now envelope) with
    | .error message => some (publisher.enter id (.returned none (.error message)))
    | .ok message => some (publisher.enter id (.sending message))
  | some (.sending message) =>
    let sent := publisher.hand id message refusal.isNone
    match refusal with
    | some cause => some (sent.enter id (.returned (some message) (.error cause)))
    | none =>
      if config.hasSnapshotter then some (sent.enter id (.copying message))
      else some (sent.enter id (.returned (some message) (.ok ())))
  | some (.copying message) => some (publisher.enter id (.saving message publisher.tracker))
  | some (.saving message state) =>
    some ({ publisher with saved := some state }.enter id (.returned (some message) (.ok ())))
  | some (.returned _ _) => none

/-- `Snapshot` locks the map and loads its counters one after another; others may draw from
them meanwhile. -/
def load (publisher : Publisher config.wire) (id : CallId) (channel : String) :
    Option (Publisher config.wire) :=
  match publisher.calls id with
  | some (.saving message state) =>
    if (state channel).isSome then
      some (publisher.enter id
        (.saving message (Function.update state channel (publisher.tracker channel))))
    else none
  | _ => none

def step : Step (Publisher config.wire) PublishAction := fun publisher action =>
  match action with
  | .start id channel envelope =>
    if (publisher.calls id).isNone then
      some (publisher.enter id (.drawing channel envelope))
    else none
  | .advance id now refusal => advance config publisher id now refusal
  | .load id channel => load config publisher id channel

end

/-! ## What a step does -/

section

variable {Raw : Type} {config : Config Raw}

inductive Steps (config : Config Raw) (publisher : Publisher config.wire) :
    PublishAction → Publisher config.wire → Prop
  | started {id channel envelope} :
      publisher.calls id = none →
      Steps config publisher (.start id channel envelope)
        (publisher.enter id (.drawing channel envelope))
  | drawn {id now refusal channel envelope} :
      publisher.calls id = some (.drawing channel envelope) →
      Steps config publisher (.advance id now refusal)
        ({ publisher with tracker := (publisher.tracker.next channel).2 }.enter id
          (.stamping { envelope with
            channel := channel, sequence := publisher.tracker.peek channel + 1 }))
  | rejected {id now refusal envelope message} :
      publisher.calls id = some (.stamping envelope) →
      Steps config publisher (.advance id now refusal)
        (publisher.enter id (.returned none (.error message)))
  | stamped {id now refusal envelope message} :
      publisher.calls id = some (.stamping envelope) →
      message.envelope = stamp config now envelope → message.envelope.validate = .ok () →
      Steps config publisher (.advance id now refusal) (publisher.enter id (.sending message))
  | refused {id now cause message} :
      publisher.calls id = some (.sending message) →
      Steps config publisher (.advance id now (some cause))
        ((publisher.hand id message false).enter id (.returned (some message) (.error cause)))
  | accepted {id now message} :
      publisher.calls id = some (.sending message) →
      Steps config publisher (.advance id now none)
        ((publisher.hand id message true).enter id
          (if config.hasSnapshotter then .copying message
            else .returned (some message) (.ok ())))
  | copied {id now refusal message} :
      publisher.calls id = some (.copying message) →
      Steps config publisher (.advance id now refusal)
        (publisher.enter id (.saving message publisher.tracker))
  | loaded {id channel message state} :
      publisher.calls id = some (.saving message state) →
      Steps config publisher (.load id channel) (publisher.enter id
        (.saving message (Function.update state channel (publisher.tracker channel))))
  | saved {id now refusal message state} :
      publisher.calls id = some (.saving message state) →
      Steps config publisher (.advance id now refusal)
        ({ publisher with saved := some state }.enter id (.returned (some message) (.ok ())))

theorem check_eq_ok {envelope : Envelope} {message : Sealed config.wire} :
    check config envelope = .ok message ↔
      message.envelope = envelope ∧ message.envelope.validate = .ok () := by
  simp only [check, bind_eq_ok, Wire.seal_eq_ok]
  constructor
  · rintro ⟨_, valid, rfl⟩
    exact ⟨rfl, valid⟩
  · rintro ⟨rfl, valid⟩
    exact ⟨(), valid, rfl⟩

theorem steps_of_step {publisher next : Publisher config.wire} {action : PublishAction}
    (taken : step config publisher action = some next) : Steps config publisher action next := by
  cases action with
  | start id channel envelope =>
    simp only [step, Option.isNone_iff_eq_none, Option.ite_none_right_eq_some,
      Option.some.injEq] at taken
    rcases taken with ⟨fresh, rfl⟩
    exact .started fresh
  | advance id now refusal =>
    simp only [step, advance] at taken
    cases called : publisher.calls id with
    | none => simp [called] at taken
    | some stage =>
      rw [called] at taken
      cases stage with
      | drawing channel envelope =>
        cases taken
        exact .drawn called
      | stamping envelope =>
        simp only at taken
        split at taken
        · cases taken
          exact .rejected called
        · rename_i message checked
          cases taken
          rw [check_eq_ok] at checked
          exact .stamped called checked.1 checked.2
      | sending message =>
        cases refusal with
        | some cause =>
          cases taken
          exact .refused called
        | none =>
          have moved : Steps config publisher (.advance id now none) _ :=
            .accepted called
          simp only at taken
          split at taken
          · rename_i snapshots
            cases taken
            rw [if_pos snapshots] at moved
            exact moved
          · rename_i unsaved
            cases taken
            rw [if_neg unsaved] at moved
            exact moved
      | copying message =>
        cases taken
        exact .copied called
      | saving message state =>
        cases taken
        exact .saved called
      | returned message result => cases taken
  | load id channel =>
    simp only [step, load] at taken
    split at taken
    · rename_i message state called
      simp only [Option.ite_none_right_eq_some, Option.some.injEq] at taken
      rcases taken with ⟨_, rfl⟩
      exact .loaded called
    · cases taken

end

end Publisher

/-! ## What is handed over passed the checks -/

section

variable {Raw : Type} {config : Config Raw}

def Sealed.Genuine (config : Config Raw) (message : Sealed config.wire) : Prop :=
  message.envelope.validate = .ok () ∧ message.envelope.producer = config.producer

def Stage.Genuine (config : Config Raw) : Stage config.wire → Prop
  | .sending message => message.Genuine config
  | _ => True

structure Publisher.Genuine (config : Config Raw) (publisher : Publisher config.wire) :
    Prop where
  stages : ∀ id stage, publisher.calls id = some stage → stage.Genuine config
  handed : ∀ handover ∈ publisher.handed, handover.message.Genuine config

namespace Publisher

variable {publisher : Publisher config.wire}

section

variable (genuine : publisher.Genuine config)
include genuine

variable {id : CallId}

theorem Genuine.enter {stage : Stage config.wire} (own : stage.Genuine config) :
    (publisher.enter id stage).Genuine config where
  stages := forall_enter genuine.stages own
  handed := genuine.handed

theorem Genuine.hand {message : Sealed config.wire} (own : message.Genuine config)
    (accepted : Bool) :
    (publisher.hand id message accepted).Genuine config where
  stages := genuine.stages
  handed := by
    intro handover member
    rcases List.mem_append.mp member with earlier | last
    · exact genuine.handed handover earlier
    · rw [List.mem_singleton.mp last]
      exact own

theorem Genuine.step {next : Publisher config.wire} {action : PublishAction}
    (taken : Publisher.step config publisher action = some next) : next.Genuine config := by
  cases steps_of_step taken with
  | started | rejected | copied | loaded => exact genuine.enter trivial
  | @drawn id now refusal channel envelope called =>
    have moved : Publisher.Genuine config
        { publisher with tracker := (publisher.tracker.next channel).2 } :=
      { genuine with }
    exact moved.enter trivial
  | @saved id now refusal message state called =>
    have moved : Publisher.Genuine config { publisher with saved := some state } :=
      { genuine with }
    exact moved.enter trivial
  | stamped called equal valid =>
    apply genuine.enter
    refine ⟨valid, ?_⟩
    rw [equal]
    rfl
  | refused called => exact (genuine.hand (genuine.stages _ _ called) false).enter trivial
  | accepted called =>
    apply (genuine.hand (genuine.stages _ _ called) true).enter
    split <;> trivial

end

theorem genuine_opened (saved : Option SequenceTracker) :
    (Publisher.opened saved : Publisher config.wire).Genuine config where
  stages := fun _ _ called => by cases called
  handed := fun _ member => by cases member

end Publisher

end

def feedConfig : Config Envelope where
  wire := .plain
  producer := { id := "feed-1", kind := .service }
  hasSnapshotter := true
  identified := by decide
  known := rfl

/-! ## Numbers of failed calls

Calls of `Publish` on one channel, one after another, over a transport that takes everything. -/

open Publisher

variable {Raw : Type}

structure PublishCall where
  envelope : Envelope
  now : Int

def Envelope.addressed (envelope : Envelope) (channel : String) (sequence : Int) : Envelope :=
  { envelope with channel := channel, sequence := sequence }

structure Publication (wire : Wire Raw) where
  sequence : Int
  outcome : Except String (Sealed wire)

def Publication.sent {wire : Wire Raw} (publication : Publication wire) : Bool :=
  publication.outcome.isOk

def publish (config : Config Raw) (channel : String) :
    Service SequenceTracker PublishCall (Publication config.wire) := fun tracker call =>
  let (sequence, tracker) := tracker.next channel
  let stamped := stamp config call.now (call.envelope.addressed channel sequence)
  ({ sequence := sequence, outcome := check config stamped }, tracker)

def handed {wire : Wire Raw} (publications : List (Publication wire)) : List (Sealed wire) :=
  publications.filterMap (·.outcome.toOption)

theorem publish_run (config : Config Raw) (publisher : Publisher config.wire) {id : CallId}
    (unused : publisher.calls id = none) (channel : String) (call : PublishCall) :
    let published := publish config channel publisher.tracker call
    ∃ actions next, Run (step config) unrestricted publisher actions next ∧
      next.tracker = published.2 ∧ next.handed = publisher.handed ++
        (handed [published.1]).map fun message => { call := id, message, accepted := true } := by
  let begun := publisher.enter id (.drawing channel call.envelope)
  let envelope := call.envelope.addressed channel (publisher.tracker.peek channel + 1)
  let drawn := { begun with tracker := (begun.tracker.next channel).2 }.enter id
    (.stamping envelope)
  have started : step config publisher (.start id channel call.envelope) =
      some begun := by
    simp [step, unused, begun]
  have advanced : step config begun (.advance id 0 none) = some drawn := by
    simp only [step, advance, begun, enter_calls_self]
    rfl
  cases checked : check config (stamp config call.now envelope) with
  | error message =>
    have failed : step config drawn (.advance id call.now none) =
        some (drawn.enter id (.returned none (.error message))) := by
      simp [step, advance, drawn, checked]
    refine ⟨_, _, .cons trivial started (.cons trivial advanced (.cons trivial failed (.nil _))),
      rfl, ?_⟩
    change publisher.handed = publisher.handed ++ (handed [⟨_, check _ _⟩]).map _
    rw [checked]
    exact (List.append_nil _).symm
  | ok message =>
    have stamped : step config drawn (.advance id call.now none) =
        some (drawn.enter id (.sending message)) := by
      simp [step, advance, drawn, checked]
    have sent : step config (drawn.enter id (.sending message))
        (.advance id 0 none) =
        some (((drawn.enter id (.sending message)).hand id message true).enter id
          (if config.hasSnapshotter then .copying message
            else .returned (some message) (.ok ()))) := by
      simp only [step, advance, enter_calls_self]
      split <;> rfl
    refine ⟨_, _, .cons trivial started (.cons trivial advanced (.cons trivial stamped
      (.cons trivial sent (.nil _)))), rfl, ?_⟩
    change publisher.handed ++ _ = publisher.handed ++ (handed [⟨_, check _ _⟩]).map _
    rw [checked]
    rfl

def GapDetector.reports (detector : GapDetector) (stream : List Envelope) : List GapResult :=
  Service.answers (fun detector envelope =>
    GapDetector.observe detector envelope.channel envelope.producer.id envelope.sequence)
    detector stream

theorem GapDetector.gap_reports (detector : GapDetector) (stream : List Envelope) :
    (detector.reports stream).map (·.gap) =
      Marks.gaps Envelope.source Envelope.sequence detector stream := by
  induction stream generalizing detector with
  | nil => rfl
  | cons envelope stream induction =>
    have marked := (detector.observe_eq envelope.channel envelope.producer.id envelope.sequence).2
    have rest := induction (detector.observe envelope.channel envelope.producer.id
      envelope.sequence).2
    rw [marked] at rest
    rw [reports, Service.answers, List.map_cons, detector.observe_gap, marked]
    exact congrArg (List.cons _) rest

/-! ## Numbers -/

section Numbers

variable (config : Config Raw) (channel : String) (tracker : SequenceTracker)

theorem sequence_publish (call : PublishCall) :
    (publish config channel tracker call).1.sequence = tracker.peek channel + 1 ∧
      (publish config channel tracker call).2.peek channel = tracker.peek channel + 1 := by
  refine ⟨rfl, ?_⟩
  exact (tracker.peek_next channel channel).trans (if_pos rfl)

variable (calls : List PublishCall)

private theorem consecutive_drawn :
    Consecutive (tracker.peek channel ::
      (Service.answers (publish config channel) tracker calls).map (·.sequence)) := by
  induction calls generalizing tracker with
  | nil => exact .singleton _
  | cons call calls induction =>
    rcases sequence_publish config channel tracker call with ⟨drawn, next⟩
    have rest := induction (publish config channel tracker call).2
    rw [next] at rest
    rw [Service.answers, List.map_cons, drawn, consecutive_cons_cons]
    exact ⟨rfl, rest⟩

def Publication.Stamped {wire : Wire Raw} (producer : Producer) (publication : Publication wire) :
    Prop :=
  ∀ message, publication.outcome = .ok message →
    message.envelope.sequence = publication.sequence ∧ message.envelope.channel = channel ∧
      message.envelope.producer = producer

theorem stamped_answers :
    ∀ publication ∈ Service.answers (publish config channel) tracker calls,
      publication.Stamped channel config.producer := by
  induction calls generalizing tracker with
  | nil => simp
  | cons call calls induction =>
    rw [Service.answers, List.forall_mem_cons]
    refine ⟨?_, induction _⟩
    intro message checked
    rw [(check_eq_ok.mp checked).1]
    exact ⟨rfl, rfl, rfl⟩

variable {config channel}

theorem map_handed {wire : Wire Raw} {Result : Type} {publications : List (Publication wire)}
    {observe : Sealed wire → Result} {result : Publication wire → Result}
    (same : ∀ publication ∈ publications, ∀ message, publication.outcome = .ok message →
      observe message = result publication) :
    (handed publications).map observe = (publications.filter (·.sent)).map result := by
  induction publications with
  | nil => rfl
  | cons publication publications induction =>
    rw [List.forall_mem_cons] at same
    have rest := induction same.2
    rw [handed] at rest ⊢
    cases outcome : publication.outcome with
    | error error =>
      have unsent : ¬ publication.sent = true := by
        simp [Publication.sent, outcome, Except.isOk, Except.toBool]
      rw [List.filterMap_cons_none (by rw [outcome]; rfl), List.filter_cons_of_neg unsent]
      exact rest
    | ok message =>
      have sent : publication.sent = true := by
        simp [Publication.sent, outcome, Except.isOk, Except.toBool]
      rw [List.filterMap_cons_some (by rw [outcome]; rfl), List.filter_cons_of_pos sent,
        List.map_cons, List.map_cons, rest, same.1 message outcome]

/-- The numbers handed over have no hole, and nobody who receives them reports a gap, unless a
call that failed stands between two that did not. -/
theorem handed_consecutive_iff (config : Config Raw) (channel : String)
    (tracker : SequenceTracker) (calls : List PublishCall) :
    let publications := Service.answers (publish config channel) tracker calls
    (Consecutive ((handed publications).map (·.envelope.sequence)) ∧
      ∀ report ∈ GapDetector.reports .empty ((handed publications).map (·.received)),
        report.gap = 0) ↔
      ¬ Interrupted Publication.sent publications := by
  intro publications
  have stamped := stamped_answers config channel tracker calls
  have consecutive : Consecutive (publications.map (·.sequence)) :=
    (consecutive_drawn config channel tracker calls).tail
  have numbers : (handed publications).map (·.envelope.sequence) =
      (publications.filter (·.sent)).map (·.sequence) :=
    map_handed fun publication member message outcome =>
      (stamped publication member message outcome).1
  have unbroken : Consecutive ((handed publications).map (·.envelope.sequence)) ↔
      ¬ Interrupted Publication.sent publications := by
    rw [numbers]
    exact consecutive_kept_iff consecutive
  have source : ∀ name, publications.filter (fun _ => (channel, config.producer.id) = name) =
      if (channel, config.producer.id) = name then publications else [] := by
    intro name
    split_ifs with same <;> simp [same]
  have silent : (∀ report ∈ GapDetector.reports .empty ((handed publications).map (·.received)),
      report.gap = 0) ↔ ¬ Interrupted Publication.sent publications := by
    have items : ((handed publications).map (·.received)).map
        (fun envelope => (envelope.source, envelope.sequence)) =
        (publications.filter (·.sent)).map
          fun publication => ((channel, config.producer.id), publication.sequence) := by
      rw [List.map_map]
      apply map_handed
      intro publication member message outcome
      rcases stamped publication member message outcome with ⟨sequence, named, producer⟩
      have arrives := message.arrives
      simp only [Function.comp_apply, Envelope.source, arrives.channel, arrives.producer,
        arrives.sequence, sequence, named, producer]
    have zero := List.forall_mem_map (f := GapResult.gap) (P := fun gap => gap = 0)
      (l := GapDetector.reports .empty ((handed publications).map (·.received)))
    rw [GapDetector.gap_reports, Marks.gaps_eq, items, ← Marks.gaps_eq] at zero
    have complete : ∀ name, Consecutive ((publications.filter
        fun _ => (channel, config.producer.id) = name).map (·.sequence)) := by
      intro name
      rw [source]
      split_ifs
      · exact consecutive
      · exact consecutive_nil
    apply zero.symm.trans
    apply (Marks.gaps_kept_eq_zero_iff complete).trans
    constructor
    · intro all
      have own := all (channel, config.producer.id)
      rwa [source, if_pos rfl] at own
    · intro whole name
      rw [source]
      split_ifs
      · exact whole
      · simp [Interrupted]
  exact ⟨fun both => unbroken.mp both.1, fun whole => ⟨unbroken.mpr whole, silent.mpr whole⟩⟩

end Numbers

def orderCalls : List PublishCall :=
  [⟨{ aspect := "placed" }, 1⟩, ⟨{ aspect := "" }, 2⟩, ⟨{ aspect := "placed" }, 3⟩]

/-- The transport gets the numbers one and three, and the subscriber reports a gap. -/
theorem failed_call_leaves_hole :
    ((handed (Service.answers (publish feedConfig "orders") .empty orderCalls)).map
        (·.envelope.sequence),
      (GapDetector.reports .empty ((handed (Service.answers (publish feedConfig "orders") .empty
        orderCalls)).map (·.received))).map (·.gap)) = ([1, 3], [0, 1]) := by
  decide +kernel

end Parsec.Client
