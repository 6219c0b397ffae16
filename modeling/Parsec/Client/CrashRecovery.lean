import Parsec.Client.Publisher

/-! # Crashes of a publishing client

A client dies at any step of its calls, and the next one starts from the counters that were
saved last. Saving comes after sending, so what was sent may lie beyond them. -/

namespace Parsec.Client

open Foundation

inductive LifeAction
  | publish (action : PublishAction)
  | restart

section

variable {Raw : Type} (config : Config Raw)

def lifeStep : Step (Publisher config.wire) LifeAction := fun publisher action =>
  match action with
  | .publish action => publisher.step config action
  | .restart => some publisher.restart

end

variable {Raw : Type} {config : Config Raw}

def Handover.label {wire : Wire Raw} (handover : Handover wire) : String × Producer × Int :=
  let envelope := handover.message.envelope
  (envelope.channel, envelope.producer, envelope.sequence)

def Publisher.Covered {wire : Wire Raw} (publisher : Publisher wire) : Prop :=
  ∀ handover ∈ publisher.handed,
    handover.message.envelope.sequence ≤ publisher.restored.peek handover.message.envelope.channel

def Stage.Beyond {wire : Wire Raw} (floor : String → Int) : Stage wire → Prop
  | .stamping envelope => floor envelope.channel < envelope.sequence
  | .sending message => floor message.envelope.channel < message.envelope.sequence
  | .saving _ state => ∀ channel, floor channel ≤ state.peek channel
  | .drawing _ _ | .copying _ | .returned _ _ => True

/-- After `old`, only numbers above the floor were handed over, and nothing leads back below
it. -/
structure Publisher.Beyond {wire : Wire Raw} (floor : String → Int) (old : List (Handover wire))
    (publisher : Publisher wire) : Prop where
  tracker : ∀ channel, floor channel ≤ publisher.tracker.peek channel
  restored : ∀ channel, floor channel ≤ publisher.restored.peek channel
  stages : ∀ id stage, publisher.calls id = some stage → stage.Beyond floor
  handed : ∃ later, publisher.handed = old ++ later ∧
    ∀ handover ∈ later, floor handover.message.envelope.channel < handover.message.envelope.sequence

namespace Publisher

variable {wire : Wire Raw} {floor : String → Int} {old : List (Handover wire)}
  {publisher : Publisher wire}

private theorem beyond_restart (publisher : Publisher wire) :
    publisher.restart.Beyond publisher.restored.peek publisher.handed where
  tracker := fun _ => le_refl _
  restored := fun _ => le_refl _
  stages := fun _ _ called => by cases called
  handed := ⟨[], (List.append_nil _).symm, by simp⟩

section

variable (beyond : publisher.Beyond floor old)
include beyond

theorem Beyond.restart : publisher.restart.Beyond floor old where
  tracker := beyond.restored
  restored := beyond.restored
  stages := fun _ _ called => by cases called
  handed := beyond.handed

variable {id : CallId}

theorem Beyond.enter {stage : Stage wire} (own : stage.Beyond floor) :
    (publisher.enter id stage).Beyond floor old where
  tracker := beyond.tracker
  restored := beyond.restored
  stages := forall_enter beyond.stages own
  handed := beyond.handed

theorem Beyond.hand {message : Sealed wire}
    (above : floor message.envelope.channel < message.envelope.sequence) (accepted : Bool) :
    (publisher.hand id message accepted).Beyond floor old where
  tracker := beyond.tracker
  restored := beyond.restored
  stages := beyond.stages
  handed := by
    rcases beyond.handed with ⟨later, split, all⟩
    refine ⟨later ++ [{ call := id, message := message, accepted := accepted }], ?_, ?_⟩
    · change publisher.handed ++ _ = _
      rw [split, List.append_assoc]
    · intro handover member
      rcases List.mem_append.mp member with earlier | last
      · exact all handover earlier
      · rw [List.mem_singleton.mp last]
        exact above

end

variable {publisher next : Publisher config.wire} {old : List (Handover config.wire)}

theorem Beyond.step {action : PublishAction} (beyond : publisher.Beyond floor old)
    (taken : publisher.step config action = some next) : next.Beyond floor old := by
  cases steps_of_step taken with
  | started fresh => exact beyond.enter trivial
  | @drawn id now refusal channel envelope called =>
    have later := beyond.tracker channel
    have drawn : Publisher.Beyond floor old
        { publisher with tracker := (publisher.tracker.next channel).2 } :=
      { beyond with
        tracker := fun other =>
          (beyond.tracker other).trans (publisher.tracker.peek_le_next channel other) }
    apply drawn.enter
    change floor channel < publisher.tracker.peek channel + 1
    omega
  | rejected called => exact beyond.enter trivial
  | @stamped id now refusal envelope message called equal valid =>
    apply beyond.enter
    have above : floor envelope.channel < envelope.sequence := beyond.stages id _ called
    change floor message.envelope.channel < message.envelope.sequence
    rw [equal]
    exact above
  | refused called => exact (beyond.hand (beyond.stages _ _ called) false).enter trivial
  | accepted called =>
    apply (beyond.hand (beyond.stages _ _ called) true).enter
    split <;> trivial
  | copied called => exact beyond.enter beyond.tracker
  | @loaded id channel message state called =>
    apply beyond.enter
    intro other
    by_cases same : other = channel
    · subst same
      simpa [SequenceTracker.peek] using beyond.tracker other
    · simpa [SequenceTracker.peek, same] using beyond.stages id _ called other
  | @saved id now refusal message state called =>
    have written : Publisher.Beyond floor old { publisher with saved := some state } :=
      { beyond with restored := beyond.stages id _ called }
    exact written.enter trivial

theorem Beyond.lifeStep {action : LifeAction} (beyond : publisher.Beyond floor old)
    (taken : Client.lifeStep config publisher action = some next) : next.Beyond floor old := by
  cases action with
  | publish action => exact beyond.step taken
  | restart =>
    cases taken
    exact beyond.restart

end Publisher

namespace Publisher

variable {publisher : Publisher config.wire}

theorem Genuine.lifeStep {next : Publisher config.wire} {action : LifeAction}
    (genuine : publisher.Genuine config)
    (taken : Client.lifeStep config publisher action = some next) : next.Genuine config := by
  cases action with
  | publish action => exact genuine.step taken
  | restart =>
    cases taken
    exact { stages := fun _ _ called => (by cases called), handed := genuine.handed }

theorem exists_draws (channel : String) (idle : ∀ id, publisher.calls id = none) (count : Nat) :
    ∃ later final, Run (lifeStep config) unrestricted publisher later final ∧
      final.tracker.peek channel = publisher.tracker.peek channel + count ∧
      final.handed = publisher.handed ∧ ∀ id, count ≤ id → final.calls id = none := by
  induction count with
  | zero => exact ⟨[], publisher, .nil _, by simp, rfl, fun id _ => idle id⟩
  | succ count induction =>
    rcases induction with ⟨later, middle, run, drawn, same, unused⟩
    let begun := middle.enter count (.drawing channel { aspect := "" })
    let final := { begun with tracker := (begun.tracker.next channel).2 }.enter count
      (.stamping { aspect := "", channel := channel,
                   sequence := begun.tracker.peek channel + 1 })
    have started : lifeStep config middle
        (.publish (.start count channel { aspect := "" })) = some begun := by
      simp [lifeStep, step, unused count (le_refl _), begun]
    have advanced : lifeStep config begun (.publish (.advance count 0 none)) = some final := by
      simp [lifeStep, step, advance, begun, final, SequenceTracker.next]
    refine ⟨_, final, run.append (.cons trivial started (.cons trivial advanced (.nil _))),
      ?_, same, ?_⟩
    · change (middle.tracker.next channel).2.peek channel = _
      rw [SequenceTracker.peek_next, if_pos rfl, drawn]
      push_cast
      ring
    · intro id reached
      have other : id ≠ count := by omega
      change (Function.update (Function.update middle.calls _ _) _ _) id = none
      rw [Function.update_of_ne other, Function.update_of_ne other]
      exact unused id (by omega)

theorem exists_send {id : CallId} (unused : publisher.calls id = none)
    {message : Sealed config.wire} (genuine : message.Genuine config)
    (number : message.envelope.sequence = publisher.tracker.peek message.envelope.channel + 1) :
    ∃ later final, Run (lifeStep config) unrestricted publisher later final ∧
      final.handed =
        publisher.handed ++ [{ call := id, message := message, accepted := true }] := by
  let call : PublishCall := ⟨message.envelope, message.envelope.producedAt⟩
  have sent : (publish config message.envelope.channel publisher.tracker call).1.outcome =
      .ok message := by
    refine check_eq_ok.mpr ⟨?_, genuine.1⟩
    simp only [stamp, Envelope.addressed, call, ← number, ← genuine.2]
  rcases publish_run config publisher unused message.envelope.channel call with
    ⟨actions, final, run, _, handedOver⟩
  have lives : ∀ current action next, step config current action = some next →
      lifeStep config current (.publish action) = some next := fun _ _ _ taken => taken
  rcases run.project (fun current => current) (fun _ => LifeAction.publish) lives with
    ⟨later, life, _⟩
  refine ⟨later, final, life, handedOver.trans ?_⟩
  rw [Client.handed, List.filterMap_cons_some (by rw [sent]; rfl)]
  rfl

end Publisher

/-- Wherever a client crashes, its successors never hand over an envelope that was handed over
before the crash exactly if the counters saved last reach every number handed over. -/
theorem never_resends_iff_covered {saved : Option SequenceTracker} {actions : List LifeAction}
    {crashed : Publisher config.wire}
    (run : Run (lifeStep config) unrestricted (.opened saved) actions crashed) :
    (∀ later final, Run (lifeStep config) unrestricted crashed.restart later final →
      ∀ resent ∈ final.handed.drop crashed.handed.length, ∀ earlier ∈ crashed.handed,
        resent.label ≠ earlier.label) ↔
      crashed.Covered := by
  constructor
  · intro never handover member
    by_contra beyond
    have genuine : crashed.Genuine config :=
      run.invariant (Publisher.Genuine config) (fun _ _ _ holds _ taken => holds.lifeStep taken)
        (Publisher.genuine_opened saved)
    let message := handover.message
    let channel := message.envelope.channel
    let gap := (message.envelope.sequence - crashed.restored.peek channel - 1).toNat
    have reached : crashed.restored.peek channel + gap + 1 = message.envelope.sequence := by
      have above : crashed.restored.peek channel < message.envelope.sequence := by
        simpa using beyond
      omega
    have idle : ∀ id, crashed.restart.calls id = none := fun _ => rfl
    rcases Publisher.exists_draws channel idle gap with
      ⟨draws, ready, drawing, drawn, same, unused⟩
    have next : message.envelope.sequence = ready.tracker.peek message.envelope.channel + 1 := by
      rw [drawn]
      exact reached.symm
    rcases Publisher.exists_send (unused gap (le_refl _)) (genuine.handed handover member) next with
      ⟨sends, final, sending, handed⟩
    refine never _ final (drawing.append sending)
      { call := gap, message := message, accepted := true } ?_ handover member rfl
    rw [handed, same]
    change _ ∈ (crashed.handed ++ _).drop _
    rw [List.drop_left]
    exact List.mem_singleton.mpr rfl
  · intro covered later final continued resent member earlier old same
    have beyond := continued.invariant (Publisher.Beyond crashed.restored.peek crashed.handed)
      (fun _ _ _ holds _ taken => holds.lifeStep taken) crashed.beyond_restart
    rcases beyond.handed with ⟨added, split, above⟩
    rw [split, List.drop_left] at member
    have higher := above resent member
    have within := covered earlier old
    have channel : resent.message.envelope.channel = earlier.message.envelope.channel :=
      congrArg (·.1) same
    have sequence : resent.message.envelope.sequence = earlier.message.envelope.sequence :=
      congrArg (·.2.2) same
    rw [channel, sequence] at higher
    omega

def sendsOne (id : CallId) (channel : String) : List LifeAction :=
  .publish (.start id channel { aspect := "price" }) ::
    List.replicate 3 (.publish (.advance id 0 none))

def crashedFeed : List LifeAction :=
  sendsOne 0 "public:shop.prices" ++ [.restart] ++ sendsOne 0 "public:shop.prices"

theorem crashed_feed_resends :
    (execute (lifeStep feedConfig) unrestricted (.opened none) crashedFeed).map
        (fun final => final.handed.map Handover.label) =
      some [("public:shop.prices", feedConfig.producer, 1),
        ("public:shop.prices", feedConfig.producer, 1)] := by
  decide +kernel

/-- When the first call was left to finish, its number is saved and not sent again. -/
theorem saved_feed_never_resends :
    ∃ crashed : Publisher feedConfig.wire,
      Run (lifeStep feedConfig) unrestricted (.opened none)
        (sendsOne 0 "public:shop.prices" ++ List.replicate 2 (.publish (.advance 0 0 none)))
        crashed ∧
      crashed.handed.map Handover.label = [("public:shop.prices", feedConfig.producer, 1)] ∧
      ∀ later final, Run (lifeStep feedConfig) unrestricted crashed.restart later final →
        ∀ resent ∈ final.handed.drop crashed.handed.length, ∀ earlier ∈ crashed.handed,
          resent.label ≠ earlier.label := by
  rcases Run.exists_of_execute
      (fun crashed : Publisher feedConfig.wire => (crashed.handed.map Handover.label,
        crashed.handed.all fun handover => decide (handover.message.envelope.sequence ≤
          crashed.restored.peek handover.message.envelope.channel)))
      (show (execute (lifeStep feedConfig) unrestricted (.opened none)
        (sendsOne 0 "public:shop.prices" ++
          List.replicate 2 (.publish (.advance 0 0 none)))).map _ =
        some ([("public:shop.prices", feedConfig.producer, 1)], true) by decide +kernel)
    with ⟨crashed, run, observed⟩
  have labels := congrArg Prod.fst observed
  have covered : crashed.Covered := by simpa [Publisher.Covered] using congrArg Prod.snd observed
  exact ⟨crashed, run, labels, (never_resends_iff_covered run).mpr covered⟩

end Parsec.Client
