import Parsec.Client.Subscription
import Parsec.Schema.JSONSchema

/-! # Gap alarms

A subscription drops what its filter or its validator refuses before the gap detector has seen it.
The numbers of what is dropped are missing to the detector when the next envelope comes. -/

namespace Parsec.Client

open Foundation

def checking {Number : Type} [DecidableEq Number] (reader : Schema.PayloadReader Number)
    (validator : Schema.Validator Number) : Validator :=
  some fun envelope =>
    (validator.check reader envelope.channel envelope.aspect envelope.payload).isOk

variable {Raw : Type} {wire : Wire Raw}

/-- The bytes of an envelope, with the validator as it stands when they arrive: what it asks of a
registry may change. -/
structure Arrival (wire : Wire Raw) where
  validator : Validator
  raw : Raw
  envelope : Envelope
  decoded : wire.decode raw = .ok envelope

def Arrival.passes (filter : Option (List String)) (arrival : Arrival wire) : Bool :=
  (filter.all fun aspects => aspects.contains arrival.envelope.aspect) &&
    arrival.validator.all fun passes => passes arrival.envelope

def Arrival.source (arrival : Arrival wire) : String × String := arrival.envelope.source

def Arrival.sequence (arrival : Arrival wire) : Int := arrival.envelope.sequence

namespace Subscription

def dispatching : Service Subscription (Arrival wire) (List Invocation) :=
  fun subscription arrival =>
    let dispatched := subscription.dispatch wire arrival.validator arrival.raw
    (dispatched.invocations, dispatched.subscription)

def Alarmed (invocations : List Invocation) : Prop :=
  ∃ index channel gap, Invocation.gapped index channel gap ∈ invocations

variable (subscription : Subscription) (arrival : Arrival wire)

theorem dispatching_eq :
    dispatching subscription arrival =
      ((subscription.receive arrival.validator arrival.envelope).invocations,
        (subscription.receive arrival.validator arrival.envelope).subscription) := by
  simp only [dispatching, dispatch, arrival.decoded]

variable {subscription : Subscription}

private theorem alarmed_invocations {envelope : Envelope} {gap : Int} :
    Alarmed (subscription.invocations envelope gap) ↔ 0 < subscription.onGap ∧ 0 < gap := by
  constructor
  · rintro ⟨index, channel, found, member⟩
    rcases List.mem_append.mp member with alarm | handled
    · split_ifs at alarm with missing
      · rcases List.mem_map.mp alarm with ⟨place, below, _⟩
        exact ⟨(Nat.zero_le place).trans_lt (List.mem_range.mp below), missing⟩
      · cases alarm
    · rcases List.mem_map.mp handled with ⟨_, _, same⟩
      cases same
  · rintro ⟨registered, missing⟩
    refine ⟨0, envelope.channel, gap, List.mem_append_left _ ?_⟩
    rw [if_pos missing]
    exact List.mem_map_of_mem (List.mem_range.mpr registered)

theorem passes_eq :
    arrival.passes subscription.filter =
      (subscription.wants arrival.envelope.aspect &&
        !arrival.validator.any fun passes => !passes arrival.envelope) := by
  unfold Arrival.passes wants
  cases arrival.validator with
  | none => rfl
  | some passes => simp

variable {arrival : Arrival wire}

private theorem dispatching_dropped (dropped : arrival.passes subscription.filter = false) :
    dispatching subscription arrival = ([], subscription) := by
  rw [passes_eq, Bool.and_eq_false_iff] at dropped
  rw [dispatching_eq, receive]
  by_cases unwanted : subscription.wants arrival.envelope.aspect = false
  · rw [if_pos unwanted]
  · have refused := dropped.resolve_left unwanted
    rw [Bool.not_eq_false'] at refused
    rw [if_neg unwanted, if_pos refused]

structure Observed (subscription : Subscription) (arrival : Arrival wire) : Prop where
  filter : (dispatching subscription arrival).2.filter = subscription.filter
  onGap : (dispatching subscription arrival).2.onGap = subscription.onGap
  gap : (dispatching subscription arrival).2.gap =
    Marks.observe subscription.gap arrival.source arrival.sequence
  alarmed : Alarmed (dispatching subscription arrival).1 ↔
    0 < subscription.onGap ∧ 0 < Marks.gap subscription.gap arrival.source arrival.sequence

theorem dispatching_passed (passed : arrival.passes subscription.filter = true) :
    Observed subscription arrival := by
  rw [passes_eq, Bool.and_eq_true, Bool.not_eq_true'] at passed
  have wanted : ¬ subscription.wants arrival.envelope.aspect = false := by simp [passed.1]
  have accepted : ¬ (arrival.validator.any fun passes => !passes arrival.envelope) = true := by
    simp [passed.2]
  rcases GapDetector.observe_eq subscription.gap arrival.envelope.channel
    arrival.envelope.producer.id arrival.envelope.sequence with ⟨duplicate, marked⟩
  have missing := GapDetector.observe_gap subscription.gap arrival.envelope.channel
    arrival.envelope.producer.id arrival.envelope.sequence
  have received := dispatching_eq subscription arrival
  rw [receive, if_neg wanted, if_neg accepted] at received
  dsimp only at received
  rw [duplicate, marked, missing] at received
  cases fresh : Marks.fresh subscription.gap
      (arrival.envelope.channel, arrival.envelope.producer.id) arrival.envelope.sequence with
  | true =>
    rw [fresh, Bool.not_true, if_neg Bool.false_ne_true] at received
    refine ⟨?_, ?_, ?_, ?_⟩ <;> rw [received]
    · rfl
    · exact alarmed_invocations
  | false =>
    rw [fresh, Bool.not_false, if_pos rfl] at received
    have stale : Marks.gap subscription.gap arrival.source arrival.sequence = 0 :=
      Marks.gap_of_stale fresh
    refine ⟨?_, ?_, ?_, ?_⟩ <;> rw [received]
    · rfl
    · simp [Alarmed, stale]

theorem alarmed_flatten_cons {first : List Invocation} {rest : List (List Invocation)} :
    Alarmed (first :: rest).flatten ↔ Alarmed first ∨ Alarmed rest.flatten := by
  unfold Alarmed
  simp only [List.flatten_cons, List.mem_append, exists_or]

theorem alarmed_iff (arrivals : List (Arrival wire)) :
    Alarmed (Service.answers dispatching subscription arrivals).flatten ↔
      0 < subscription.onGap ∧
        ∃ gap ∈ Marks.gaps Arrival.source Arrival.sequence subscription.gap
          (arrivals.filter (·.passes subscription.filter)), 0 < gap := by
  induction arrivals generalizing subscription with
  | nil => simp [Alarmed, Marks.gaps]
  | cons arrival arrivals induction =>
    rw [Service.answers, alarmed_flatten_cons, induction]
    cases passed : arrival.passes subscription.filter with
    | false =>
      rw [dispatching_dropped passed, List.filter_cons_of_neg (by simp [passed])]
      simp [Alarmed]
    | true =>
      have observed := dispatching_passed passed
      rw [observed.alarmed, observed.filter, observed.onGap, observed.gap,
        List.filter_cons_of_pos passed, Marks.gaps, ← and_or_left]
      simp only [List.mem_cons, exists_eq_or_imp]

/-- No handler is called about a gap in a stream that is complete, unless an envelope is dropped
between two of its source that are not. -/
theorem silent_iff (subscription : Subscription) (fresh : subscription.gap = .empty)
    (arrivals : List (Arrival wire))
    (complete : ∀ source, Consecutive ((arrivals.filter (·.source = source)).map (·.sequence))) :
    ¬ Alarmed (Service.answers dispatching subscription arrivals).flatten ↔
      (0 < subscription.onGap → ∀ source, ¬ Interrupted (·.passes subscription.filter)
        (arrivals.filter (·.source = source))) := by
  rw [alarmed_iff, fresh, not_and]
  apply imp_congr_right
  intro _
  apply Iff.trans _ (Marks.gaps_kept_eq_zero_iff complete)
  constructor
  · intro silent gap member
    have nonneg := Marks.gaps_nonneg _ _ gap member
    by_contra missing
    exact silent ⟨gap, member, by omega⟩
  · rintro zero ⟨gap, member, positive⟩
    rw [zero gap member] at positive
    exact lt_irrefl _ positive

end Subscription

def orderArrival (validator : Validator) (aspect : String) (sequence : Int) (payload : String) :
    Arrival .plain where
  validator := validator
  raw := { channel := "orders", sequence := sequence, producer := { id := "shop" },
           aspect := aspect, payload := payload }
  envelope := { channel := "orders", sequence := sequence, producer := { id := "shop" },
                aspect := aspect, payload := payload }
  decoded := rfl

def oneReader : Schema.PayloadReader Nat where
  unmarshal := fun raw => if raw = "1" then .ok (.number 1) else .error "invalid character"
  float64 := id
  truncated := id

def placedPattern : Schema.ChannelPattern (Records (Schema.Aspect Nat)) where
  pattern := "orders"
  version := 1
  contract := AList.singleton "placed" ⟨some { type := some .number }⟩
  compiled := { tokens := [.literal "orders"], raw := "orders" }

def strictValidator : Schema.Validator Nat where
  registry := some (Schema.MemoryRegistry.resolve [placedPattern])
  mode := .strict

def placedOnly : Subscription := { channel := "orders", filter := some ["placed"], onGap := 1 }

def everyAspect : Subscription := { channel := "orders", onGap := 1 }

private theorem complete_of_source (arrivals : List (Arrival .plain)) (name : String × String)
    (one : ∀ arrival ∈ arrivals, arrival.source = name)
    (consecutive : Consecutive (arrivals.map (·.sequence))) (source : String × String) :
    Consecutive ((arrivals.filter (·.source = source)).map (·.sequence)) := by
  rcases eq_or_ne name source with rfl | different
  · rwa [List.filter_eq_self.mpr (by simpa using one)]
  · have none' : arrivals.filter (·.source = source) = [] := by
      rw [List.filter_eq_nil_iff]
      intro arrival member same
      exact different ((one arrival member).symm.trans (of_decide_eq_true same))
    rw [none']
    exact consecutive_nil

def shippedFirst : List (Arrival .plain) :=
  [orderArrival none "shipped" 1 "", orderArrival none "placed" 2 "",
    orderArrival none "placed" 3 ""]

theorem shipped_first_silent :
    ¬ Subscription.Alarmed (Service.answers Subscription.dispatching placedOnly
      shippedFirst).flatten := by
  have one : ∀ arrival ∈ shippedFirst, arrival.source = ("orders", "shop") := by
    simp only [shippedFirst, List.forall_mem_cons]
    exact ⟨rfl, rfl, rfl, by simp⟩
  have complete := complete_of_source shippedFirst ("orders", "shop") one
    (.cons_cons rfl (.cons_cons rfl (.singleton _)))
  have kept := complete_of_source (shippedFirst.filter (·.passes placedOnly.filter))
    ("orders", "shop") (fun arrival member => one arrival (List.mem_of_mem_filter member))
    (.cons_cons rfl (.singleton _))
  apply (Subscription.silent_iff placedOnly rfl shippedFirst complete).mpr
  intro _ source
  rw [← consecutive_kept_iff (complete source), List.filter_comm]
  exact kept source

/-- Both streams are complete, and in both a handler is told of a gap. -/
theorem dropped_envelopes_alarm : let filtered : List (Arrival .plain) :=
      [orderArrival none "placed" 1 "", orderArrival none "shipped" 2 "",
        orderArrival none "placed" 3 ""]
    let validated : List (Arrival .plain) := ["1", "x", "1"].zipIdx.map fun payload =>
      orderArrival (checking oneReader strictValidator) "placed" (payload.2 + 1) payload.1
    (filtered.map (·.sequence), validated.map (·.sequence)) = ([1, 2, 3], [1, 2, 3]) ∧
      (Service.answers Subscription.dispatching placedOnly filtered).flatten =
        [.gapped 0 "orders" 1] ∧
      (Service.answers Subscription.dispatching everyAspect validated).flatten =
        [.gapped 0 "orders" 1] := by
  decide +kernel

end Parsec.Client
