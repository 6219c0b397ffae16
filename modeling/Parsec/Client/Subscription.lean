import Parsec.Client.Envelope

/-! # Dispatching

What a subscription does with the bytes its transport delivers. Handlers are known by their
place in the order of registration. -/

namespace Parsec.Client

open Foundation

inductive Handler
  | envelope (index : Nat)
  | aspect (name : String) (index : Nat)
  deriving DecidableEq

def Handler.Wants (aspect : String) : Handler → Prop
  | .envelope _ => True
  | .aspect name _ => name = aspect

inductive Invocation
  | handled (handler : Handler) (envelope : Envelope)
  | gapped (index : Nat) (channel : String) (gap : Int)
  deriving DecidableEq

/-- `filter` is absent when no aspects were asked for. The numbers of registered handlers
stand for the lists of them. -/
structure Subscription where
  channel : String
  fromSequence : Int := 0
  filter : Option (List String) := none
  gap : GapDetector := .empty
  onEnvelope : Nat := 0
  onGap : Nat := 0
  aspectFuncs : String → Nat := fun _ => 0
  current : Option Envelope := none
  lastSeq : Int := 0

abbrev Validator := Option (Envelope → Bool)

structure Dispatch where
  passed : Option Envelope := none
  invocations : List Invocation := []
  subscription : Subscription

namespace Subscription

def wants (subscription : Subscription) (aspect : String) : Bool :=
  subscription.filter.all fun aspects => aspects.contains aspect

def handlers (subscription : Subscription) (aspect : String) : List Handler :=
  (List.range subscription.onEnvelope).map .envelope ++
    (List.range (subscription.aspectFuncs aspect)).map (.aspect aspect)

def invocations (subscription : Subscription) (envelope : Envelope) (gap : Int) : List Invocation :=
  (if 0 < gap then
    (List.range subscription.onGap).map fun index => .gapped index envelope.channel gap
  else []) ++ (subscription.handlers envelope.aspect).map fun handler => .handled handler envelope

def receive (validator : Validator) (subscription : Subscription) (envelope : Envelope) :
    Dispatch :=
  if subscription.wants envelope.aspect = false then { subscription := subscription }
  else if validator.any (fun passes => !passes envelope) then { subscription := subscription }
  else
    let (result, gap) :=
      subscription.gap.observe envelope.channel envelope.producer.id envelope.sequence
    let observed := { subscription with gap := gap }
    if result.duplicate then { subscription := observed }
    else
      { passed := some envelope
        invocations := observed.invocations envelope result.gap
        subscription :=
          { observed with lastSeq := envelope.sequence, current := some envelope } }

def dispatch {Raw : Type} (wire : Wire Raw) (validator : Validator)
    (subscription : Subscription) (raw : Raw) : Dispatch :=
  match wire.decode raw with
  | .error _ => { subscription := subscription }
  | .ok envelope => subscription.receive validator envelope

def registered (subscription : Subscription) : Handler → Bool
  | .envelope index => index < subscription.onEnvelope
  | .aspect name index => index < subscription.aspectFuncs name

section

variable {subscription : Subscription} {envelope other : Envelope} {gap : Int} {handler : Handler}

private theorem mem_handlers {aspect : String} :
    handler ∈ subscription.handlers aspect ↔
      subscription.registered handler = true ∧ handler.Wants aspect := by
  unfold handlers registered Handler.Wants
  cases handler with
  | envelope index => simp
  | aspect name index =>
    simp only [List.mem_append, List.mem_map, List.mem_range, Handler.aspect.injEq,
      decide_eq_true_eq]
    constructor
    · rintro (⟨_, _, absurd⟩ | ⟨other, below, rfl, rfl⟩)
      · cases absurd
      · exact ⟨below, rfl⟩
    · rintro ⟨below, rfl⟩
      exact .inr ⟨index, below, rfl, rfl⟩

theorem nodup_handlers (aspect : String) : (subscription.handlers aspect).Nodup := by
  refine List.nodup_append.mpr ⟨?_, ?_, ?_⟩
  · refine List.nodup_range.map fun first second equal => ?_
    cases equal
    rfl
  · refine List.nodup_range.map fun first second equal => ?_
    cases equal
    rfl
  · intro first all second own equal
    rcases List.mem_map.mp all with ⟨_, _, rfl⟩
    rcases List.mem_map.mp own with ⟨_, _, rfl⟩
    cases equal

theorem count_invocations_eq :
    (subscription.invocations envelope gap).count (.handled handler other) =
      ((subscription.handlers envelope.aspect).map fun handler =>
        Invocation.handled handler envelope).count (.handled handler other) := by
  have silent : (if 0 < gap then (List.range subscription.onGap).map fun index =>
      Invocation.gapped index envelope.channel gap else []).count (.handled handler other) = 0 := by
    split
    · simp [List.count_eq_zero]
    · rfl
  rw [invocations, List.count_append, silent, Nat.zero_add]

private theorem count_invocations (registered : subscription.registered handler = true)
    (wanted : handler.Wants envelope.aspect) :
    (subscription.invocations envelope gap).count (.handled handler envelope) = 1 := by
  have apart : Function.Injective fun handler => Invocation.handled handler envelope := by
    intro first second equal
    cases equal
    rfl
  rw [count_invocations_eq,
    List.count_map_of_injective _ (fun handler => Invocation.handled handler envelope) apart]
  exact List.count_eq_one_of_mem (nodup_handlers _) (mem_handlers.mpr ⟨registered, wanted⟩)

theorem count_invocations_other (different : other ≠ envelope) :
    (subscription.invocations envelope gap).count (.handled handler other) = 0 := by
  rw [count_invocations_eq, List.count_eq_zero]
  intro member
  rcases List.mem_map.mp member with ⟨_, _, equal⟩
  cases equal
  exact different rfl

end

end Subscription

def Envelope.source (envelope : Envelope) : String × String :=
  (envelope.channel, envelope.producer.id)

namespace Subscription

variable {subscription : Subscription} {envelope : Envelope}

structure SameHandlers (before after : Subscription) : Prop where
  channel : after.channel = before.channel
  filter : after.filter = before.filter
  registered : after.registered = before.registered

section

variable (unfiltered : subscription.filter = none)
include unfiltered

private theorem wants_unfiltered {aspect : String} : subscription.wants aspect = true := by
  rw [wants, unfiltered, Option.all_none]

theorem receive_cases (envelope : Envelope) :
    (Marks.fresh subscription.gap envelope.source envelope.sequence = true ∧
      ∃ gap, subscription.receive none envelope =
        { passed := some envelope
          invocations := subscription.invocations envelope gap
          subscription :=
            { subscription with
              gap := Marks.observe subscription.gap envelope.source envelope.sequence
              lastSeq := envelope.sequence
              current := some envelope } }) ∨
    Marks.fresh subscription.gap envelope.source envelope.sequence = false ∧
      subscription.receive none envelope = { subscription := subscription } := by
  rcases GapDetector.observe_eq subscription.gap envelope.channel envelope.producer.id
    envelope.sequence with ⟨duplicate, marked⟩
  cases fresh : Marks.fresh subscription.gap envelope.source envelope.sequence with
  | true =>
    have first := duplicate.trans (congrArg not fresh)
    refine .inl ⟨rfl, (GapDetector.observe subscription.gap envelope.channel envelope.producer.id
      envelope.sequence).1.gap, ?_⟩
    simp only [receive, wants_unfiltered unfiltered, first, marked, Option.any_none,
      Bool.not_true, Bool.true_eq_false, Bool.false_eq_true, if_false]
    rfl
  | false =>
    have again := duplicate.trans (congrArg not fresh)
    have unmarked : Marks.observe subscription.gap (envelope.channel, envelope.producer.id)
        envelope.sequence = subscription.gap := if_neg (ne_true_of_eq_false fresh)
    refine .inr ⟨rfl, ?_⟩
    simp only [receive, wants_unfiltered unfiltered, again, marked, unmarked, Option.any_none,
      Bool.not_false, Bool.true_eq_false, Bool.false_eq_true, if_false, if_true]

theorem receive_gap :
    (subscription.receive none envelope).subscription.gap =
      Marks.observe subscription.gap envelope.source envelope.sequence := by
  rcases receive_cases unfiltered envelope with ⟨_, gap, received⟩ | ⟨stale, received⟩
  · rw [received]
  · rw [received, Marks.observe, if_neg (by simp [stale])]

theorem receive_sameHandlers :
    SameHandlers subscription (subscription.receive none envelope).subscription := by
  rcases receive_cases unfiltered envelope with ⟨_, gap, received⟩ | ⟨_, received⟩
  · rw [received]
    refine ⟨rfl, rfl, funext fun handler => ?_⟩
    cases handler <;> rfl
  · rw [received]
    exact ⟨rfl, rfl, rfl⟩

variable {handler : Handler}

theorem count_receive (registered : subscription.registered handler = true)
    (wanted : handler.Wants envelope.aspect) :
    (subscription.receive none envelope).invocations.count (.handled handler envelope) =
      if Marks.fresh subscription.gap envelope.source envelope.sequence = true then 1 else 0 := by
  rcases receive_cases unfiltered envelope with ⟨fresh, gap, received⟩ | ⟨stale, received⟩
  · rw [received, if_pos fresh]
    exact count_invocations registered wanted
  · rw [received, if_neg (by simp [stale])]
    rfl

theorem count_receive_other {other : Envelope} (different : other ≠ envelope) :
    (subscription.receive none envelope).invocations.count (.handled handler other) = 0 := by
  rcases receive_cases unfiltered envelope with ⟨_, gap, received⟩ | ⟨_, received⟩
  · rw [received]
    exact count_invocations_other different
  · rw [received]
    rfl

end

theorem dispatch_raw {Raw : Type} {wire : Wire Raw} (validator : Validator)
    (subscription : Subscription) (message : Sealed wire) :
    subscription.dispatch wire validator message.raw =
      subscription.receive validator message.received := by
  simp only [dispatch, message.decode_raw]

end Subscription

end Parsec.Client
