import Parsec.Foundation.Execution
import Parsec.Foundation.Records

/-! # The subscriptions a client tracks

A client remembers one subscription for each channel, the one opened last. Closing the client
cancels what it remembers, and unsubscribing forgets whatever is remembered for the channel. -/

namespace Parsec.Client

open Foundation

/-- The subscriptions returned so far are known by their place in `opened`, which holds their
channels; `cancelled` lists those whose context was cancelled. -/
structure TrackingClient where
  opened : List String := []
  subs : Records Nat := ∅
  cancelled : List Nat := []

inductive TrackingCall
  | subscribe (channel : String) (started : Bool)
  | unsubscribe (id : Nat)
  | close

namespace TrackingClient

def subscribe (client : TrackingClient) (channel : String) (started : Bool) : TrackingClient :=
  if started then
    { client with
      opened := client.opened ++ [channel]
      subs := client.subs.insert channel client.opened.length }
  else client

def unsubscribe (client : TrackingClient) (id : Nat) : TrackingClient :=
  match client.opened[id]? with
  | none => client
  | some channel =>
    { client with
      cancelled := id :: client.cancelled
      subs := client.subs.erase channel }

def close (client : TrackingClient) : TrackingClient :=
  { client with
    cancelled := client.subs.entries.map (·.2) ++ client.cancelled
    subs := ∅ }

def perform (client : TrackingClient) : TrackingCall → TrackingClient
  | .subscribe channel started => client.subscribe channel started
  | .unsubscribe id => client.unsubscribe id
  | .close => client.close

def after (calls : List TrackingCall) : TrackingClient := calls.foldl perform {}

def Live (client : TrackingClient) (id : Nat) : Prop :=
  id < client.opened.length ∧ id ∉ client.cancelled

def Tracked (client : TrackingClient) (id : Nat) : Prop :=
  ∃ channel, client.subs.lookup channel = some id

structure Sound (client : TrackingClient) : Prop where
  subs : ∀ channel id, client.subs.lookup channel = some id → client.opened[id]? = some channel
  cancelled : ∀ id ∈ client.cancelled, id < client.opened.length

variable {client : TrackingClient}

theorem mem_cancelled_close {id : Nat} :
    id ∈ client.close.cancelled ↔ client.Tracked id ∨ id ∈ client.cancelled := by
  rw [close, List.mem_append, List.mem_map]
  apply or_congr_left
  constructor
  · rintro ⟨⟨channel, _⟩, listed, rfl⟩
    exact ⟨channel, Records.mem_entries.mp listed⟩
  · rintro ⟨channel, found⟩
    exact ⟨⟨channel, id⟩, Records.mem_entries.mpr found, rfl⟩

theorem Sound.perform (sound : client.Sound) (call : TrackingCall) :
    (client.perform call).Sound := by
  cases call with
  | subscribe name started =>
    simp only [TrackingClient.perform, subscribe]
    split_ifs with start
    · refine ⟨fun channel id found => ?_, fun id member => ?_⟩
      · rcases Records.of_lookup_insert found with ⟨rfl, rfl⟩ | ⟨_, found⟩
        · simp
        · have before := sound.subs channel id found
          rw [List.getElem?_append_left (List.getElem?_eq_some_iff.mp before).1, before]
      · rw [List.length_append]
        exact (sound.cancelled id member).trans_le (Nat.le_add_right _ _)
    · exact sound
  | unsubscribe other =>
    simp only [TrackingClient.perform, unsubscribe]
    cases name : client.opened[other]? with
    | none => exact sound
    | some forgotten =>
      refine ⟨fun channel id found => sound.subs channel id (Records.of_lookup_erase found).2,
        List.forall_mem_cons.mpr ⟨?_, sound.cancelled⟩⟩
      exact (List.getElem?_eq_some_iff.mp name).1
  | close =>
    refine ⟨fun _ _ found => (by cases found), fun id member => ?_⟩
    rcases mem_cancelled_close.mp member with ⟨channel, found⟩ | earlier
    · exact (List.getElem?_eq_some_iff.mp (sound.subs channel id found)).1
    · exact sound.cancelled id earlier

variable (calls : List TrackingCall)

theorem after_concat (call : TrackingCall) :
    after (calls ++ [call]) = (after calls).perform call := by
  rw [after, List.foldl_append]
  rfl

theorem sound_after : (after calls).Sound := by
  induction calls using List.reverseRecOn with
  | nil => exact ⟨fun _ _ found => (by cases found), fun _ member => (by cases member)⟩
  | append_singleton calls call induction =>
    rw [after_concat]
    exact induction.perform call

def returned : List String :=
  calls.filterMap fun
    | .subscribe channel true => some channel
    | _ => none

theorem opened_after : (after calls).opened = returned calls := by
  induction calls using List.reverseRecOn with
  | nil => rfl
  | append_singleton calls call induction =>
    rw [after_concat, returned, List.filterMap_append, ← returned, ← induction]
    cases call with
    | subscribe channel started => cases started <;> simp [perform, subscribe]
    | unsubscribe id =>
      simp only [perform, unsubscribe]
      split <;> simp
    | close => simp [perform, close]

/-- The call replaces or removes what is remembered for the channel, and is no `Unsubscribe` of
the subscription itself. -/
def disturbs (opened : List String) (channel : String) (id : Nat) : TrackingCall → Prop
  | .subscribe name started => started = true ∧ name = channel
  | .unsubscribe other => other ≠ id ∧ opened[other]? = some channel
  | .close => False

theorem Sound.tracked_iff (sound : client.Sound) {channel : String} {id : Nat}
    (opened : client.opened[id]? = some channel) :
    client.Tracked id ↔ client.subs.lookup channel = some id := by
  refine ⟨?_, fun found => ⟨channel, found⟩⟩
  rintro ⟨name, found⟩
  cases (sound.subs name id found).symm.trans opened
  exact found

theorem Sound.fate_perform (sound : client.Sound) {channel : String} {id : Nat}
    (opened : client.opened[id]? = some channel) (call : TrackingCall) :
    ((client.perform call).subs.lookup channel = some id ↔
      client.subs.lookup channel = some id ∧ call ≠ .close ∧ call ≠ .unsubscribe id ∧
        ¬ disturbs client.opened channel id call) ∧
    (id ∈ (client.perform call).cancelled ↔
      id ∈ client.cancelled ∨ call = .unsubscribe id ∨
        call = .close ∧ client.subs.lookup channel = some id) := by
  cases call with
  | subscribe name started =>
    simp only [TrackingClient.perform, subscribe, disturbs]
    cases started with
    | false => simp
    | true =>
      rcases eq_or_ne channel name with rfl | different
      · have below := (List.getElem?_eq_some_iff.mp opened).1
        simp [below.ne']
      · simp [AList.lookup_insert_ne different, different.symm]
  | unsubscribe other =>
    simp only [TrackingClient.perform, unsubscribe, disturbs]
    rcases eq_or_ne other id with rfl | different
    · simp [opened]
    · cases name : client.opened[other]? with
      | none => simp [different]
      | some forgotten =>
        rcases eq_or_ne channel forgotten with rfl | apart
        · simp [different, different.symm]
        · simp [AList.lookup_erase_ne apart, different, different.symm, apart.symm]
  | close =>
    refine ⟨iff_of_false (fun found => by cases found) (by simp), ?_⟩
    rw [TrackingClient.perform, mem_cancelled_close, or_comm]
    apply or_congr_right
    simp only [reduceCtorEq, true_and, false_or]
    exact sound.tracked_iff opened

theorem Sound.tracked_unsubscribe (sound : client.Sound) {channel : String} {id other : Nat}
    (opened : client.opened[other]? = some channel) (different : other ≠ id) :
    (client.perform (.unsubscribe id)).Tracked other ↔
      client.subs.lookup channel = some other ∧ client.opened[id]? ≠ some channel := by
  have same : (client.perform (.unsubscribe id)).opened = client.opened := by
    simp only [TrackingClient.perform, unsubscribe]
    split <;> rfl
  rw [(sound.perform _).tracked_iff (by rw [same, opened]), (sound.fate_perform opened _).1]
  simp [disturbs, different.symm]

/-- Of the calls that follow a `Subscribe`, one disturbs its subscription before any `Close`. -/
def Disturbed (before : List TrackingCall) (channel : String) (later : List TrackingCall) : Prop :=
  ∃ middle call rest, later = middle ++ call :: rest ∧ .close ∉ middle ∧
    disturbs (returned (before ++ .subscribe channel true :: middle)) channel
      (returned before).length call

variable (before later : List TrackingCall) (channel : String)

theorem disturbed_concat (call : TrackingCall) :
    Disturbed before channel (later ++ [call]) ↔ Disturbed before channel later ∨
      .close ∉ later ∧ disturbs (returned (before ++ .subscribe channel true :: later)) channel
        (returned before).length call := by
  constructor
  · rintro ⟨middle, other, rest, split, opened, disturbs⟩
    rcases split_concat split with ⟨rfl, rfl, rfl⟩ | ⟨rest, rfl, earlier⟩
    · exact .inr ⟨opened, disturbs⟩
    · exact .inl ⟨middle, other, rest, earlier, opened, disturbs⟩
  · rintro (⟨middle, other, rest, rfl, opened, disturbs⟩ | ⟨opened, disturbs⟩)
    · exact ⟨middle, other, rest ++ [call], by simp, opened, disturbs⟩
    · exact ⟨later, call, [], rfl, opened, disturbs⟩

theorem opened_subscribe :
    (after (before ++ .subscribe channel true :: later)).opened[(returned before).length]? =
      some channel := by
  simp [opened_after, returned]

private theorem fate_step {closed unsubscribed disturbed closes unsubscribes disturbs : Prop}
    (closing : closes → ¬ disturbs) :
    ((¬ closed ∧ ¬ unsubscribed ∧ ¬ disturbed) ∧ ¬ closes ∧ ¬ unsubscribes ∧ ¬ disturbs ↔
      ¬ (closed ∨ closes) ∧ ¬ (unsubscribed ∨ unsubscribes) ∧
        ¬ (disturbed ∨ ¬ closed ∧ disturbs)) ∧
    ((unsubscribed ∨ closed ∧ ¬ disturbed) ∨ unsubscribes ∨
        closes ∧ ¬ closed ∧ ¬ unsubscribed ∧ ¬ disturbed ↔
      (unsubscribed ∨ unsubscribes) ∨
        (closed ∨ closes) ∧ ¬ (disturbed ∨ ¬ closed ∧ disturbs)) := by
  by_cases already : closed
  · simp [already, or_right_comm]
  · simp only [already]
    grind

/-- A subscription is remembered until it is closed, unsubscribed or disturbed, and it is
cancelled when it is unsubscribed, or closed while it is remembered. -/
theorem fate :
    ((after (before ++ .subscribe channel true :: later)).subs.lookup channel =
        some (returned before).length ↔
      .close ∉ later ∧ .unsubscribe (returned before).length ∉ later ∧
        ¬ Disturbed before channel later) ∧
    ((returned before).length ∈ (after (before ++ .subscribe channel true :: later)).cancelled ↔
      .unsubscribe (returned before).length ∈ later ∨
        .close ∈ later ∧ ¬ Disturbed before channel later) := by
  induction later using List.reverseRecOn with
  | nil =>
    have unmarked : (returned before).length ∉ (after before).cancelled := fun member => by
      have below := (sound_after before).cancelled _ member
      rw [opened_after] at below
      exact lt_irrefl _ below
    rw [after_concat]
    simp [perform, subscribe, opened_after, Disturbed, unmarked]
  | append_singleton later call induction =>
    rcases (sound_after _).fate_perform (opened_subscribe before later channel) call with
      ⟨tracked, cancelled⟩
    have closing : call = .close →
        ¬ disturbs (returned (before ++ .subscribe channel true :: later)) channel
          (returned before).length call := by
      rintro rfl
      exact id
    rw [opened_after] at tracked
    rw [← List.cons_append, ← List.append_assoc, after_concat, disturbed_concat, tracked,
      cancelled, induction.1, induction.2]
    simp only [List.mem_append, List.mem_singleton, eq_comm (b := call)]
    exact fate_step closing

private theorem exists_split {id : Nat} (below : id < (returned calls).length) :
    ∃ before channel later, calls = before ++ .subscribe channel true :: later ∧
      id = (returned before).length := by
  induction calls using List.reverseRecOn with
  | nil => cases below
  | append_singleton calls call induction =>
    by_cases earlier : id < (returned calls).length
    · rcases induction earlier with ⟨before, channel, later, rfl, place⟩
      exact ⟨before, channel, later ++ [call], by simp, place⟩
    · cases call with
      | subscribe channel started =>
        cases started with
        | true =>
          refine ⟨calls, channel, [], rfl, ?_⟩
          simp [returned] at below earlier ⊢
          omega
        | false => exact absurd (by simpa [returned] using below) earlier
      | unsubscribe | close => exact absurd (by simpa [returned] using below) earlier

/-- `Close` ends all subscriptions just when every one that was disturbed is unsubscribed itself.
No `Unsubscribe` forgets another live subscription just when any that follows a `Subscribe` to its
channel finds it closed, unsubscribed or disturbed. -/
theorem close_ends_all_iff (calls : List TrackingCall) :
    ((∀ id, id < (returned calls).length → id ∈ (after (calls ++ [.close])).cancelled) ↔
      ∀ before channel later, calls = before ++ .subscribe channel true :: later →
        Disturbed before channel later → .unsubscribe (returned before).length ∈ later) ∧
    ((∀ before id rest, calls = before ++ .unsubscribe id :: rest → ∀ other, other ≠ id →
        (after before).Live other → (after before).Tracked other →
        (after (before ++ [.unsubscribe id])).Tracked other) ↔
      ∀ before channel middle id rest,
        calls = before ++ .subscribe channel true :: (middle ++ .unsubscribe id :: rest) →
        (returned (before ++ .subscribe channel true :: middle))[id]? = some channel →
        id ≠ (returned before).length → .close ∈ middle ∨
          .unsubscribe (returned before).length ∈ middle ∨ Disturbed before channel middle) := by
  refine ⟨⟨?_, ?_⟩, ?_, ?_⟩
  · rintro ended before channel later rfl disturbed
    have cancelled := ended (returned before).length (by simp [returned])
    rw [List.append_assoc, List.cons_append] at cancelled
    rcases (fate before (later ++ [.close]) channel).2.mp cancelled with own | ⟨_, remembered⟩
    · simpa using own
    · exact absurd ((disturbed_concat ..).mpr (.inl disturbed)) remembered
  · intro unsubscribed id below
    rcases exists_split calls below with ⟨before, channel, later, rfl, rfl⟩
    rw [List.append_assoc, List.cons_append]
    apply (fate before (later ++ [TrackingCall.close]) channel).2.mpr
    by_cases disturbed : Disturbed before channel later
    · exact .inl (List.mem_append_left _ (unsubscribed before channel later rfl disturbed))
    · refine .inr ⟨by simp, fun either => ?_⟩
      exact ((disturbed_concat ..).mp either).elim disturbed And.right
  · rintro kept before channel middle id rest split named different
    by_contra remembered
    push Not at remembered
    rcases remembered with ⟨opened, subscribed, undisturbed⟩
    rcases fate before middle channel with ⟨tracked, cancelled⟩
    have found := tracked.mpr ⟨opened, subscribed, undisturbed⟩
    have place := opened_subscribe before middle channel
    have live : (after (before ++ .subscribe channel true :: middle)).Live
        (returned before).length :=
      ⟨(List.getElem?_eq_some_iff.mp place).1,
        fun member => (cancelled.mp member).elim subscribed fun closed => opened closed.1⟩
    have still := kept (before ++ .subscribe channel true :: middle) id rest (by simp [split])
      _ different.symm live ⟨channel, found⟩
    rw [after_concat, (sound_after _).tracked_unsubscribe place different.symm,
      opened_after] at still
    exact still.2 named
  · rintro found before id rest rfl other different live tracked
    have below := live.1
    rw [opened_after] at below
    rcases exists_split before below with ⟨first, channel, middle, rfl, rfl⟩
    have place := opened_subscribe first middle channel
    have remembered := ((sound_after _).tracked_iff place).mp tracked
    rw [after_concat, (sound_after _).tracked_unsubscribe place different, opened_after]
    refine ⟨remembered, fun named => ?_⟩
    rcases (fate first middle channel).1.mp remembered with ⟨opened, subscribed, undisturbed⟩
    rcases found first channel middle id rest (by simp) named different.symm with
      closed | unsubscribed | disturbed
    · exact opened closed
    · exact subscribed unsubscribed
    · exact undisturbed disturbed

/-- Of two subscriptions of one channel the first outlives `Close`, and unsubscribing it takes
away what the client remembers of the second. -/
theorem second_subscription_forgotten :
    let client := after [.subscribe "orders" true, .subscribe "orders" true]
    (client.close.cancelled, client.subs.lookup "orders",
      (client.unsubscribe 0).subs.lookup "orders", (client.unsubscribe 0).cancelled,
      (client.unsubscribe 0).close.cancelled) = ([1], some 1, none, [0], [0]) := by
  decide

end TrackingClient

end Parsec.Client
