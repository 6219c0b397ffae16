import Parsec.Client.HandledOnce
import Parsec.Client.Resume

/-! # What handlers see

The loop of a subscription, with everything that can happen to it: messages of any kind and in
any order, streams that close and are opened again, handlers that are registered meanwhile. -/

namespace Parsec.Client

open Foundation Service Marks

variable {Raw : Type}

inductive StreamEvent (Raw : Type)
  | message (validator : Validator) (raw : Raw)
  | closed (reopened : Bool)
  | cancelled
  | registered (registration : Registration)

structure Reader where
  subscription : Subscription
  running : Bool := true

namespace Reader

def run (wire : Wire Raw) : Service Reader (StreamEvent Raw) Dispatch := fun reader event =>
  match event with
  | .registered registration =>
    let subscription := reader.subscription.register registration
    ({ subscription := subscription }, { reader with subscription := subscription })
  | .cancelled => ({ subscription := reader.subscription }, { reader with running := false })
  | .closed reopened =>
    if reader.running then
      let resumed :=
        { reader.subscription with fromSequence := reader.subscription.lastSeq }
      ({ subscription := resumed }, { subscription := resumed, running := reopened })
    else ({ subscription := reader.subscription }, reader)
  | .message validator raw =>
    if reader.running then
      let dispatched := reader.subscription.dispatch wire validator raw
      (dispatched, { reader with subscription := dispatched.subscription })
    else ({ subscription := reader.subscription }, reader)

def handled (dispatches : List Dispatch) : List Envelope := dispatches.filterMap (·.passed)

def lastOf (source : String × String) (envelopes : List Envelope) : Option Envelope :=
  (envelopes.filter (·.source = source)).getLast?

end Reader

inductive Dispatched (before : GapDetector) (dispatch : Dispatch) : Prop
  | silent (passed : dispatch.passed = none) (invocations : dispatch.invocations = [])
      (gap : dispatch.subscription.gap = before)
  | passed (envelope : Envelope) (observed : Subscription)
      (passed : dispatch.passed = some envelope)
      (fresh : fresh before envelope.source envelope.sequence = true)
      (invocations : dispatch.invocations = observed.invocations envelope
        (gap before envelope.source envelope.sequence))
      (gap : dispatch.subscription.gap = observe before envelope.source envelope.sequence)

namespace Subscription

theorem of_mem_invocations {subscription : Subscription} {envelope : Envelope} {gap : Int}
    {invocation : Invocation} (called : invocation ∈ subscription.invocations envelope gap) :
    (0 < gap ∧ ∃ index, invocation = .gapped index envelope.channel gap) ∨
      ∃ handler ∈ subscription.handlers envelope.aspect,
        invocation = .handled handler envelope := by
  rcases List.mem_append.mp called with told | passed
  · split_ifs at told with missing
    · rcases List.mem_map.mp told with ⟨index, _, rfl⟩
      exact .inl ⟨missing, index, rfl⟩
    · cases told
  · rcases List.mem_map.mp passed with ⟨handler, listed, rfl⟩
    exact .inr ⟨handler, listed, rfl⟩

theorem dispatched_receive (subscription : Subscription) (validator : Validator)
    (envelope : Envelope) :
    Dispatched subscription.gap (subscription.receive validator envelope) := by
  rcases GapDetector.observe_eq subscription.gap envelope.channel envelope.producer.id
    envelope.sequence with ⟨duplicate, marked⟩
  have missing := GapDetector.observe_gap subscription.gap envelope.channel envelope.producer.id
    envelope.sequence
  unfold receive
  split_ifs with unwanted refused
  · exact .silent rfl rfl rfl
  · exact .silent rfl rfl rfl
  · dsimp only
    cases fresh : fresh subscription.gap (envelope.channel, envelope.producer.id)
        envelope.sequence with
    | true =>
      rw [duplicate, fresh, marked, missing, Bool.not_true, if_neg Bool.false_ne_true]
      exact .passed envelope _ rfl fresh rfl rfl
    | false =>
      rw [duplicate, fresh, marked, Bool.not_false, if_pos rfl]
      refine .silent rfl rfl ?_
      rw [observe, if_neg (by simp [fresh])]

end Subscription

namespace Reader

theorem dispatched_run (wire : Wire Raw) (reader : Reader) (event : StreamEvent Raw) :
    Dispatched reader.subscription.gap (run wire reader event).1 ∧
      (run wire reader event).2.subscription = (run wire reader event).1.subscription := by
  cases event with
  | registered registration =>
    exact ⟨.silent rfl rfl (Subscription.register_gap _ registration), rfl⟩
  | cancelled => exact ⟨.silent rfl rfl rfl, rfl⟩
  | closed reopened =>
    unfold run
    split_ifs
    · exact ⟨.silent rfl rfl rfl, rfl⟩
    · exact ⟨.silent rfl rfl rfl, rfl⟩
  | message validator raw =>
    simp only [run]
    split_ifs
    · refine ⟨?_, rfl⟩
      unfold Subscription.dispatch
      cases wire.decode raw with
      | error => exact .silent rfl rfl rfl
      | ok envelope => exact reader.subscription.dispatched_receive validator envelope
    · exact ⟨.silent rfl rfl rfl, rfl⟩

structure Follows (envelopes : List Envelope) (gap : GapDetector) : Prop where
  marks : ∀ source, gap source = (lastOf source envelopes).map (·.sequence)
  below : ∀ envelope ∈ envelopes, ∃ mark, gap envelope.source = some mark ∧ envelope.sequence ≤ mark
  increasing : envelopes.Pairwise fun earlier later =>
    earlier.source = later.source → earlier.sequence < later.sequence

theorem follows_concat {envelopes : List Envelope} {gap : GapDetector}
    (follows : Follows envelopes gap) {envelope : Envelope}
    (fresh : fresh gap envelope.source envelope.sequence = true) :
    Follows (envelopes ++ [envelope]) (observe gap envelope.source envelope.sequence) := by
  have above : ∀ earlier ∈ envelopes, earlier.source = envelope.source →
      earlier.sequence < envelope.sequence := by
    intro earlier member same
    rcases follows.below earlier member with ⟨mark, marked, reached⟩
    rw [same] at marked
    exact reached.trans_lt (fresh_iff.mp fresh mark marked)
  rw [observe, if_pos fresh]
  refine ⟨?_, ?_, ?_⟩
  · intro source
    rcases eq_or_ne envelope.source source with rfl | different
    · simp [lastOf]
    · rw [Function.update_of_ne different.symm, follows.marks source]
      simp [lastOf, different]
  · intro earlier member
    rcases eq_or_ne earlier.source envelope.source with same | different
    · refine ⟨envelope.sequence, by rw [same, Function.update_self], ?_⟩
      rcases List.mem_append.mp member with before | last
      · exact (above earlier before same).le
      · rw [List.mem_singleton.mp last]
    · rw [Function.update_of_ne different]
      rcases List.mem_append.mp member with before | last
      · exact follows.below earlier before
      · exact absurd (congrArg _ (List.mem_singleton.mp last)) different
  · refine List.pairwise_append.mpr ⟨follows.increasing, List.pairwise_singleton _ _, ?_⟩
    intro earlier member later last
    rw [List.mem_singleton.mp last]
    exact above earlier member

variable (wire : Wire Raw) {reader : Reader} (events : List (StreamEvent Raw))

private theorem follows_after (opened : reader.subscription.gap = .empty) :
    Follows (handled (answers (run wire) reader events))
      (after (run wire) reader events).subscription.gap := by
  induction events using List.reverseRecOn with
  | nil =>
    rw [after_nil, opened]
    exact ⟨fun _ => rfl, by simp [handled], .nil⟩
  | append_singleton events event induction =>
    have ⟨dispatched, same⟩ := dispatched_run wire (after (run wire) reader events) event
    rw [answers_concat, Service.after_concat, handled, List.filterMap_append, same]
    cases dispatched with
    | silent passed _ gap =>
      rw [gap]
      simpa [passed, handled] using induction
    | passed envelope _ passed fresh _ gap =>
      rw [gap, List.filterMap_cons_some passed]
      exact follows_concat induction fresh

/-- The handlers have seen the envelopes of each source in increasing order; and whatever happens
next, they are called for the one envelope that passes, and a gap they are told of is what lies
between it and the one of its source handled before. -/
theorem handlers_in_order (opened : reader.subscription.gap = .empty) (event : StreamEvent Raw) :
    let before := handled (answers (run wire) reader events)
    let dispatch := (run wire (after (run wire) reader events) event).1
    (before ++ dispatch.passed.toList).Pairwise (fun earlier later =>
      earlier.source = later.source → earlier.sequence < later.sequence) ∧
    (∀ handler envelope, .handled handler envelope ∈ dispatch.invocations →
      dispatch.passed = some envelope) ∧
    ∀ index channel gap, .gapped index channel gap ∈ dispatch.invocations →
      ∃ envelope previous, dispatch.passed = some envelope ∧ envelope.channel = channel ∧
        lastOf envelope.source before = some previous ∧
        gap = envelope.sequence - previous.sequence - 1 := by
  intro before dispatch
  have follows := follows_after wire events opened
  have ⟨dispatched, _⟩ := dispatched_run wire (after (run wire) reader events) event
  cases dispatched with
  | silent passed invocations _ =>
    refine ⟨?_, ?_, ?_⟩ <;> simp [dispatch, passed, invocations]
    exact follows.increasing
  | passed envelope observed passed fresh invocations _ =>
    refine ⟨?_, ?_, ?_⟩
    · rw [show dispatch.passed = some envelope from passed]
      exact (follows_concat follows fresh).increasing
    · intro handler other called
      rw [show dispatch.invocations = _ from invocations] at called
      rcases Subscription.of_mem_invocations called with ⟨_, _, same⟩ | ⟨_, _, same⟩
      · cases same
      · cases same
        exact passed
    · intro index channel gap told
      rw [show dispatch.invocations = _ from invocations] at told
      rcases Subscription.of_mem_invocations told with ⟨missing, _, same⟩ | ⟨_, _, same⟩
      · cases same
        have marked := follows.marks envelope.source
        cases last : lastOf envelope.source before with
        | none =>
          rw [show lastOf envelope.source _ = none from last] at marked
          simp [gap, marked] at missing
        | some previous =>
          rw [show lastOf envelope.source _ = some previous from last] at marked
          refine ⟨envelope, previous, passed, rfl, last, ?_⟩
          have later := fresh_iff.mp fresh previous.sequence marked
          simp only [gap, marked, Option.map_some]
          rw [if_neg (by omega)]
      · cases same

end Reader

def deliveries (name : String) (sequences : List Int) : List (StreamEvent Envelope) :=
  sequences.map fun sequence =>
    .message none { channel := "orders", sequence := sequence, producer := { id := name },
                     aspect := "placed" }

/-- Two of the lost numbers are reported, and what comes late is not handled. -/
theorem reordered_orders_handled :
    let reader : Reader := { subscription := { channel := "orders", onGap := 1 } }
    let events := deliveries "shop" [2, 1] ++ [.closed true]
    (Reader.handled (answers (Reader.run .plain) reader events) ++
      ((Reader.run .plain (after (Reader.run .plain) reader events)
        (deliveries "shop" [5])[0]).1.passed.toList)).Pairwise fun earlier later =>
          earlier.source = later.source → earlier.sequence < later.sequence :=
  (Reader.handlers_in_order .plain (deliveries "shop" [2, 1] ++ [.closed true]) rfl
    (deliveries "shop" [5])[0]).1

/-! ## Handlers that are registered after the subscription was opened -/

def memoryTransportBuffer : Nat := 64

namespace Reader

variable {wire : Wire Raw} (history : List (Sealed wire)) (channel : String) (fromSequence : Int)

def replayed : List (Sealed wire) :=
  (Stream.replay fromSequence history).take memoryTransportBuffer

/-- `Subscribe` has returned, and the goroutine that delivers takes some of the stream before the
caller registers a handler. -/
def registering (early late : List (Sealed wire)) : List (StreamEvent Raw) :=
  early.map (.message none ·.raw) ++ .registered .onEnvelope :: late.map (.message none ·.raw)

def calls (early late : List (Sealed wire)) : List Invocation :=
  (answers (run wire) { subscription := { channel := channel, fromSequence } }
    (registering early late)).flatMap (·.invocations)

structure Listening (handlers : Nat) (reader : Reader) : Prop where
  running : reader.running = true
  unfiltered : reader.subscription.filter = none
  onEnvelope : reader.subscription.onEnvelope = handlers
  onGap : reader.subscription.onGap = 0
  aspectFuncs : reader.subscription.aspectFuncs = fun _ => 0

def invocationsOf (wire : Wire Raw) (reader : Reader) (messages : List (Sealed wire)) :
    List Invocation :=
  (answers (run wire) reader (messages.map (.message none ·.raw))).flatMap (·.invocations)

variable {reader : Reader} {handlers : Nat} {messages : List (Sealed wire)}

theorem Listening.invocations (listening : Listening handlers reader) (envelope : Envelope)
    (gap : Int) :
    reader.subscription.invocations envelope gap =
      (List.range handlers).map fun index => .handled (.envelope index) envelope := by
  simp [Subscription.invocations, Subscription.handlers, listening.onEnvelope, listening.onGap,
    listening.aspectFuncs]

theorem Listening.run (listening : Listening handlers reader) (message : Sealed wire) :
    (Reader.run wire reader (.message none message.raw)).1.invocations =
        (if fresh reader.subscription.gap message.received.source
            message.received.sequence = true then
          (List.range handlers).map fun index => .handled (.envelope index) message.received
        else []) ∧
      Listening handlers (Reader.run wire reader (.message none message.raw)).2 ∧
      (Reader.run wire reader (.message none message.raw)).2.subscription.gap =
        observe reader.subscription.gap message.received.source
          message.received.sequence := by
  simp only [Reader.run, listening.running, if_true, Subscription.dispatch_raw]
  refine ⟨?_, ?_, Subscription.receive_gap listening.unfiltered⟩
  all_goals
    rcases Subscription.receive_cases listening.unfiltered message.received with
      ⟨fresh, gap, received⟩ | ⟨stale, received⟩
  · rw [received, if_pos fresh, listening.invocations]
  · rw [received, if_neg (by simp [stale])]
  · rw [received]
    exact ⟨rfl, listening.unfiltered, listening.onEnvelope, listening.onGap,
      listening.aspectFuncs⟩
  · rw [received]
    exact ⟨rfl, listening.unfiltered, listening.onEnvelope, listening.onGap,
      listening.aspectFuncs⟩

theorem Listening.after (listening : Listening handlers reader) :
    Listening handlers (after (Reader.run wire) reader
      (messages.map (.message none ·.raw))) := by
  induction messages generalizing reader with
  | nil => exact listening
  | cons message messages induction => exact induction (listening.run message).2.1

theorem Listening.length_le (listening : Listening handlers reader)
    (messages : List (Sealed wire)) :
    (invocationsOf wire reader messages).length ≤ messages.length * handlers := by
  induction messages generalizing reader with
  | nil => simp [invocationsOf]
  | cons message messages induction =>
    have rest := induction (listening.run message).2.1
    have first : (Reader.run wire reader (.message none message.raw)).1.invocations.length ≤
        handlers := by
      rw [(listening.run message).1]
      split <;> simp
    rw [invocationsOf, List.map_cons, answers, List.flatMap_cons, List.length_append,
      List.length_cons, Nat.succ_mul]
    exact (Nat.add_le_add first rest).trans_eq (Nat.add_comm _ _)

def prices : List (Sealed Wire.plain) := [price "shop" 1, price "shop" 2, price "shop" 3]

end Reader

end Parsec.Client
