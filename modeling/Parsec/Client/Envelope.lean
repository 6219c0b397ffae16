import Parsec.Foundation.Clock
import Parsec.Foundation.Fallible
import Parsec.Foundation.Calls
import Parsec.Foundation.Numbering

/-! # Envelopes

The wire envelope, the checks a publisher makes on it, and its JSON form. The JSON text is
not modelled: a wire format is what the encoder and the decoder do. -/

namespace Parsec.Client

open Foundation

def maxEnvelopeSize : Nat := 64 * 1024

inductive ProducerKind
  | user
  | agent
  | service
  | other (text : String)
  deriving DecidableEq

def ProducerKind.valid : ProducerKind → Bool
  | user | agent | service => true
  | other _ => false

structure Producer where
  id : String := ""
  kind : ProducerKind := .other ""
  deriving DecidableEq

structure Causation where
  parentChannel : String := ""
  parentSequence : Int := 0
  deriving DecidableEq

def zeroTime : Int := ofUnix (-62135596800)

structure Envelope where
  channel : String := ""
  sequence : Int := 0
  producedAt : Int := zeroTime
  producer : Producer := {}
  aspect : String
  schemaRef : String := ""
  causation : Causation := {}
  payload : String := ""
  deriving DecidableEq

namespace Envelope

def validate (envelope : Envelope) : Except String Unit := do
  ensure (envelope.channel ≠ "") "envelope: channel required"
  ensure (envelope.aspect ≠ "") "envelope: aspect required"
  ensure (envelope.producer.id ≠ "") "envelope: producer required"
  ensure (envelope.producer.kind.valid = true) "envelope: unknown producer kind"
  ensure (0 < envelope.sequence) "envelope: sequence must be positive"
  ensure (envelope.producedAt ≠ zeroTime) "envelope: produced_at must be set"

def millisecond : Int := 1000000

/-- What a decoder makes of an envelope: the time is cut to milliseconds and the payload may
be spelled differently, everything else is as it was sent. -/
structure Arrives (sent received : Envelope) : Prop where
  channel : received.channel = sent.channel
  sequence : received.sequence = sent.sequence
  producedAt : received.producedAt = sent.producedAt / millisecond * millisecond
  producer : received.producer = sent.producer
  aspect : received.aspect = sent.aspect
  schemaRef : received.schemaRef = sent.schemaRef
  causation : received.causation = sent.causation

end Envelope

/-- `encoding/json` on envelopes, over any type of byte strings. -/
structure Wire (Raw : Type) where
  marshal : Envelope → Except String Raw
  size : Raw → Nat
  unmarshal : Raw → Except String Envelope
  roundTrip : ∀ {sent : Envelope} {raw : Raw}, marshal sent = .ok raw →
    ∃ received, unmarshal raw = .ok received ∧ sent.Arrives received

namespace Wire

variable {Raw : Type} (wire : Wire Raw)

def encode (envelope : Envelope) : Except String Raw := do
  let raw ← wire.marshal envelope
  ensure (wire.size raw ≤ maxEnvelopeSize)
    ("envelope: encoded size exceeds MaxEnvelopeSize: " ++ toString (wire.size raw) ++
      " bytes > " ++ toString maxEnvelopeSize)
  return raw

def decode (raw : Raw) : Except String Envelope := wire.unmarshal raw

def plain : Wire Envelope where
  marshal := fun envelope =>
    .ok { envelope with
          producedAt := envelope.producedAt / Envelope.millisecond * Envelope.millisecond }
  size := fun envelope => envelope.payload.length
  unmarshal := .ok
  roundTrip := by
    intro sent raw marshalled
    cases marshalled
    exact ⟨_, rfl, rfl, rfl, rfl, rfl, rfl, rfl, rfl⟩

end Wire

structure Sealed {Raw : Type} (wire : Wire Raw) where
  envelope : Envelope
  raw : Raw
  encoded : wire.encode envelope = .ok raw

namespace Sealed

variable {Raw : Type} {wire : Wire Raw} (message : Sealed wire)

def received : Envelope := (wire.decode message.raw).toOption.getD message.envelope

theorem decode_arrives :
    wire.decode message.raw = .ok message.received ∧ message.envelope.Arrives message.received := by
  have encoded := message.encoded
  simp only [Wire.encode, bind_eq_ok, ensure_eq_ok] at encoded
  rcases encoded with ⟨raw, marshalled, _, _, same⟩
  cases same
  rcases wire.roundTrip marshalled with ⟨received, unmarshalled, arrives⟩
  have decoded : wire.decode message.raw = .ok received := unmarshalled
  have equal : message.received = received := by
    rw [Sealed.received, decoded]
    rfl
  rw [equal]
  exact ⟨decoded, arrives⟩

theorem decode_raw : wire.decode message.raw = .ok message.received :=
  message.decode_arrives.1

theorem arrives : message.envelope.Arrives message.received := message.decode_arrives.2

end Sealed

def Wire.seal {Raw : Type} (wire : Wire Raw) (envelope : Envelope) : Except String (Sealed wire) :=
  match encoded : wire.encode envelope with
  | .error message => .error message
  | .ok raw => .ok { envelope := envelope, raw := raw, encoded := encoded }

theorem Wire.seal_eq_ok {Raw : Type} {wire : Wire Raw} {envelope : Envelope}
    {message : Sealed wire} :
    wire.seal envelope = .ok message ↔ message.envelope = envelope := by
  unfold Wire.seal
  constructor
  · intro succeeded
    split at succeeded
    · cases succeeded
    · cases succeeded
      rfl
  · rintro rfl
    split
    · rename_i failed
      rw [message.encoded] at failed
      cases failed
    · rename_i raw encoded
      have same : raw = message.raw := by
        rw [message.encoded] at encoded
        exact (Except.ok.inj encoded).symm
      subst same
      rfl

/-! ## Sequence numbers

The counters a publishing client draws from, and the detector by which a subscriber tells
gaps and duplicates. -/

abbrev SequenceTracker := String → Option Int

namespace SequenceTracker

def empty : SequenceTracker := fun _ => none

def peek (tracker : SequenceTracker) (channel : String) : Int := (tracker channel).getD 0

def next (tracker : SequenceTracker) (channel : String) : Int × SequenceTracker :=
  let drawn := tracker.peek channel + 1
  (drawn, Function.update tracker channel (some drawn))

variable (tracker : SequenceTracker) (channel : String) (other : String)

@[simp] theorem peek_next :
    (tracker.next channel).2.peek other =
      if other = channel then tracker.peek channel + 1 else tracker.peek other := by
  unfold next peek
  by_cases same : other = channel <;> simp [same]

theorem peek_le_next : tracker.peek other ≤ (tracker.next channel).2.peek other := by
  rw [peek_next]
  split
  · rename_i same
    subst same
    omega
  · exact le_refl _

variable (channels : List String)

private theorem peek_after :
    (Service.after next tracker channels).peek channel =
      tracker.peek channel + channels.count channel := by
  induction channels generalizing tracker with
  | nil => simp
  | cons first channels induction =>
    rw [Service.after, induction, peek_next, List.count_cons]
    rcases eq_or_ne channel first with rfl | different
    · simp
      omega
    · simp [different, different.symm]

def drawn (tracker : SequenceTracker) (channels : List String) : List (String × Int) :=
  (Service.past next tracker channels).reverse

theorem drawn_concat :
    tracker.drawn (channels ++ [channel]) =
      tracker.drawn channels ++ [(channel, tracker.peek channel + channels.count channel + 1)] := by
  rw [drawn, Service.past_concat, List.reverse_cons, drawn, ← peek_after]
  rfl

theorem drawn_for :
    ((tracker.drawn channels).filter (·.1 = channel)).map (·.2) =
      (List.range (channels.count channel)).map fun index : Nat =>
        tracker.peek channel + (index + 1) := by
  induction channels using List.reverseRecOn with
  | nil => rfl
  | append_singleton channels last induction =>
    rw [drawn_concat, List.filter_append, List.map_append, induction, List.count_append]
    rcases eq_or_ne last channel with rfl | different
    · simp [List.range_succ, add_assoc]
    · simp [different]

def restore (_ : SequenceTracker) (saved : SequenceTracker) : SequenceTracker := saved

end SequenceTracker

abbrev GapDetector := Marks (String × String)

structure GapResult where
  gap : Int := 0
  duplicate : Bool := false
  first : Bool := false
  deriving DecidableEq

namespace GapDetector

def empty : GapDetector := Marks.empty

def observe (detector : GapDetector) (channel producer : String) (sequence : Int) :
    GapResult × GapDetector :=
  match detector (channel, producer) with
  | none => ({ first := true }, Function.update detector (channel, producer) (some sequence))
  | some previous =>
    if sequence ≤ previous then ({ duplicate := true }, detector)
    else ({ gap := sequence - previous - 1 },
      Function.update detector (channel, producer) (some sequence))

variable (detector : GapDetector) (channel producer : String) (sequence : Int)

theorem observe_eq :
    (detector.observe channel producer sequence).1.duplicate =
        !Marks.fresh detector (channel, producer) sequence ∧
      (detector.observe channel producer sequence).2 =
        Marks.observe detector (channel, producer) sequence := by
  unfold observe Marks.observe Marks.fresh
  cases detector (channel, producer) with
  | none => simp
  | some previous =>
    by_cases reached : sequence ≤ previous
    · have below : ¬ previous < sequence := by omega
      simp [reached, below]
    · have above : previous < sequence := by omega
      simp [reached, above]

theorem observe_gap :
    (detector.observe channel producer sequence).1.gap =
      Marks.gap detector (channel, producer) sequence := by
  unfold observe Marks.gap
  cases detector (channel, producer) with
  | none => rfl
  | some previous =>
    dsimp only
    split_ifs <;> rfl

end GapDetector

end Parsec.Client
