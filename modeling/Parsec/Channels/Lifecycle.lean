import Parsec.Channels.MemoryStore
import Parsec.Foundation.Delivery

/-! # The lifecycle of channels

The events that a store in memory returns for one channel follow an automaton whose state
is the channel's. -/

namespace Parsec.Channels

open Foundation Registry

namespace Lifecycle

def allows (visibility : Visibility) : Option EventKind → EventKind → Bool
  | none, .opened => true
  | some .opened, .closed | some .opened, .deleted => true
  | some .closed, .opened | some .closed, .deleted => true
  | some .deleted, .opened => visibility = .private
  | _, _ => false

def follows (visibility : Visibility) : Option EventKind → List EventKind → Bool
  | _, [] => true
  | last, kind :: rest => allows visibility last kind && follows visibility (some kind) rest

theorem follows_append (visibility : Visibility) (last : Option EventKind)
    (first second : List EventKind) :
    follows visibility last (first ++ second) =
      (follows visibility last first && follows visibility (first.getLast?.or last) second) := by
  induction first generalizing last with
  | nil => simp [follows]
  | cons kind first induction =>
    rw [List.cons_append, follows, follows, induction, Bool.and_assoc, List.getLast?_cons]
    cases first.getLast? <;> rfl

inductive Transition (visibility : Visibility) :
    Option State → List EventKind → Option State → Prop
  | kept (state : Option State) : Transition visibility state [] state
  | opened : Transition visibility none [.opened] (some .open)
  | reopened : Transition visibility (some .closed) [.opened] (some .open)
  | closed : Transition visibility (some .open) [.closed] (some .closed)
  | removed : visibility = .private → Transition visibility (some .open) [.deleted] none
  | deleted {state} : state ≠ .deleted →
      Transition visibility (some state) [.deleted] (some .deleted)

inductive Tracks (visibility : Visibility) : Option State → Option EventKind → Prop
  | fresh : Tracks visibility none none
  | opened : Tracks visibility (some .open) (some .opened)
  | closed : Tracks visibility (some .closed) (some .closed)
  | deleted : Tracks visibility (some .deleted) (some .deleted)
  | removed : visibility = .private → Tracks visibility none (some .deleted)

variable {visibility : Visibility}

theorem Tracks.step {state next : Option State} {last : Option EventKind} {kinds : List EventKind}
    (tracks : Tracks visibility state last) (transition : Transition visibility state kinds next) :
    follows visibility last kinds = true ∧ Tracks visibility next (kinds.getLast?.or last) := by
  cases transition with
  | kept => exact ⟨rfl, tracks⟩
  | opened =>
    cases tracks with
    | fresh => exact ⟨rfl, .opened⟩
    | removed isPrivate => exact ⟨by simp [follows, allows, isPrivate], .opened⟩
  | reopened =>
    cases tracks
    exact ⟨rfl, .opened⟩
  | closed =>
    cases tracks
    exact ⟨rfl, .closed⟩
  | removed isPrivate =>
    cases tracks
    exact ⟨rfl, .removed isPrivate⟩
  | deleted live =>
    cases tracks with
    | opened | closed => exact ⟨rfl, .deleted⟩
    | deleted => exact absurd rfl live

theorem Tracks.open_iff {state : Option State} {last : Option EventKind}
    (tracks : Tracks visibility state last) : state = some .open ↔ last = some .opened := by
  cases tracks <;> simp

def kinds (name : Name) (events : List Event) : List EventKind :=
  (events.filter fun event => event.name = name).map (·.kind)

theorem kinds_append (name : Name) (first second : List Event) :
    kinds name (first ++ second) = kinds name first ++ kinds name second := by
  simp [kinds]

/-! ## The store in memory -/

open MemoryStore (Keyed Change keyKinds serve)

variable {call : Call}

theorem transition_of_change {key : String} {before after : Option Channel} {kinds : List EventKind}
    (change : Change call key before kinds after)
    (visible : ∀ channel, before = some channel → channel.name.visibility = visibility) :
    Transition visibility (before.map (·.state)) kinds (after.map (·.state)) := by
  cases change with
  | kept => exact .kept _
  | created => exact .opened
  | refreshed _ sameState =>
    rw [Option.map_some, Option.map_some, sameState]
    exact .kept _
  | reopened _ wasClosed isOpen =>
    rw [Option.map_some, Option.map_some, wasClosed, isOpen]
    exact .reopened
  | closed isOpen =>
    rw [Option.map_some, isOpen]
    exact .closed
  | @removed channel isOpen isPrivate =>
    rw [Option.map_some, isOpen]
    apply Transition.removed
    rw [← visible channel rfl]
    exact of_decide_eq_true isPrivate
  | deleted _ _ _ live => exact .deleted live

structure Chronicle (store : MemoryStore) (events : List Event) : Prop where
  keyed : Keyed store
  stored : ∀ key channel, store.lookup key = some channel → channel.name.Accepted
  returned : ∀ event ∈ events, event.name.Accepted
  lawful : ∀ name : Name, name.Accepted → follows name.visibility none (kinds name events) = true
  tracked : ∀ name : Name, name.Accepted →
    Tracks name.visibility ((store.lookup name.text).map (·.state)) (kinds name events).getLast?

theorem chronicle_empty : Chronicle ∅ [] where
  keyed := MemoryStore.keyed_empty
  stored := by simp
  returned := by simp
  lawful := fun _ _ => rfl
  tracked := fun _ _ => .fresh

theorem kinds_eq_keyKinds {name : Name} (accepted : name.Accepted) {events : List Event}
    (returned : ∀ event ∈ events, event.name.Accepted) :
    kinds name events = keyKinds name.text events := by
  unfold kinds keyKinds
  congr 1
  apply List.filter_congr
  intro event member
  rw [decide_eq_decide]
  constructor
  · intro same
    rw [same]
  · exact (returned event member).eq_of_text accepted

theorem Chronicle.serve {store : MemoryStore} {events : List Event}
    (chronicle : Chronicle store events) (accepted : call.Accepted) :
    Chronicle (serve store call).2 (events ++ (serve store call).1.events) := by
  have changes := MemoryStore.changes chronicle.keyed call
  have newEvents : ∀ event ∈ (MemoryStore.serve store call).1.events, event.name.Accepted := by
    intro event member
    rcases MemoryStore.event_name member with named | ⟨key, channel, found, sameName⟩
    · exact accepted event.name named
    · exact sameName ▸ chronicle.stored key channel found
  have step : ∀ name : Name, name.Accepted →
      follows name.visibility (kinds name events).getLast?
          (kinds name (MemoryStore.serve store call).1.events) = true ∧
        Tracks name.visibility
          (((MemoryStore.serve store call).2.lookup name.text).map (·.state))
          ((kinds name (MemoryStore.serve store call).1.events).getLast?.or
            (kinds name events).getLast?) := by
    intro name nameAccepted
    rw [kinds_eq_keyKinds nameAccepted newEvents]
    apply (chronicle.tracked name nameAccepted).step
    apply transition_of_change (changes name.text)
    intro channel found
    have same := (chronicle.stored _ channel found).eq_of_text nameAccepted
      (chronicle.keyed _ channel found)
    rw [same]
  refine ⟨chronicle.keyed.serve call, ?_, ?_, ?_, ?_⟩
  · intro key channel found
    have change := changes key
    rw [found] at change
    rcases change.stored_name with ⟨named, _⟩ | ⟨old, stored, sameName⟩
    · exact accepted channel.name named
    · exact sameName ▸ chronicle.stored key old stored
  · intro event member
    rcases List.mem_append.mp member with earlier | new
    · exact chronicle.returned event earlier
    · exact newEvents event new
  · intro name nameAccepted
    rw [kinds_append, follows_append, chronicle.lawful name nameAccepted, Bool.true_and,
      Option.or_none]
    exact (step name nameAccepted).1
  · intro name nameAccepted
    rw [kinds_append, List.getLast?_append]
    exact (step name nameAccepted).2

theorem refused {store : MemoryStore} {error : CodedError}
    (refusal : (serve store call).1.error? = some error) :
    (serve store call).2 = store ∧ (serve store call).1.events = [] := by
  cases call with
  | get name => exact ⟨rfl, rfl⟩
  | isOpen name | sweep now => cases refusal
  | openPublic name ttl now =>
    simp only [service, MemoryStore.asRegistry, MemoryStore.snapshotted,
      MemoryStore.openPublic] at refusal ⊢
    split_ifs at refusal ⊢
    · exact ⟨rfl, rfl⟩
    · split at refusal
      · split_ifs at refusal ⊢
        all_goals simp_all [Answer.events, Answer.error?, Except.map]
      · cases refusal
  | createPrivate name ttl now =>
    simp only [service, MemoryStore.asRegistry, MemoryStore.snapshotted,
      MemoryStore.createPrivate] at refusal ⊢
    split_ifs at refusal ⊢
    · exact ⟨rfl, rfl⟩
    · split at refusal
      · simp_all [Answer.events, Except.map]
      · cases refusal
  | touch name now =>
    simp only [service, MemoryStore.asRegistry, MemoryStore.touch] at refusal ⊢
    split at refusal
    · exact ⟨rfl, rfl⟩
    · split at refusal
      · simp_all [Answer.events]
      · simp_all [Answer.events]
      · cases refusal
  | delete name now =>
    simp only [service, MemoryStore.asRegistry, MemoryStore.delete] at refusal ⊢
    split at refusal
    · exact ⟨rfl, rfl⟩
    · cases refusal
  | setDelta name enabled =>
    simp only [service, MemoryStore.asRegistry, MemoryStore.setDelta] at refusal ⊢
    split at refusal
    · exact ⟨rfl, rfl⟩
    · split_ifs at refusal ⊢
      · exact ⟨rfl, rfl⟩
      · cases refusal

private theorem isOpen_iff (store : MemoryStore) (name : Name) :
    store.isOpen name = true ↔ (store.lookup name.text).map (·.state) = some .open := by
  unfold MemoryStore.isOpen
  cases store.lookup name.text <;> simp

/-- The events of each channel follow the automaton, a channel is open exactly after an
opening, and refused calls leave no trace. -/
theorem lifecycle_of_calls (calls : List Call) (accepted : ∀ call ∈ calls, call.Accepted) :
    (∀ name : Name, name.Accepted →
        follows name.visibility none
            (kinds name ((serve.answers ∅ calls).flatMap Answer.events)) = true ∧
          ((serve.after ∅ calls).isOpen name = true ↔
            (kinds name ((serve.answers ∅ calls).flatMap Answer.events)).getLast? = some .opened)) ∧
      ∀ call error, (serve (serve.after ∅ calls) call).1.error? = some error →
        (serve (serve.after ∅ calls) call).2 = serve.after ∅ calls ∧
          (serve (serve.after ∅ calls) call).1.events = [] := by
  have chronicle : Chronicle (serve.after ∅ calls)
      ((serve.answers ∅ calls).flatMap Answer.events) := by
    apply serve.history_invariant
      (fun store _ answers => Chronicle store (answers.flatMap Answer.events))
      chronicle_empty ?_ accepted
    intro store call past given chronicle permitted
    simpa [List.flatMap_append] using chronicle.serve permitted
  refine ⟨?_, fun call error => refused⟩
  intro name nameAccepted
  refine ⟨chronicle.lawful name nameAccepted, ?_⟩
  rw [isOpen_iff]
  exact (chronicle.tracked name nameAccepted).open_iff

def prices : Name := { visibility := .public, app := "shop", domain := "prices" }

theorem prices_accepted : prices.Accepted := ⟨"public:shop.prices", by decide +kernel⟩

def pricesCalls : List Call :=
  [.openPublic prices minute 0, .sweep (2 * minute), .openPublic prices minute (3 * minute),
    .delete prices (3 * minute), .openPublic prices minute (4 * minute)]

private theorem pricesCalls_accepted : ∀ call ∈ pricesCalls, call.Accepted := by
  intro call member name named
  have same : name = prices := by
    simp only [pricesCalls, List.mem_cons, List.not_mem_nil, or_false] at member
    rcases member with rfl | rfl | rfl | rfl | rfl <;> simp_all [Call.name?]
  exact same ▸ prices_accepted

theorem lifecycle_of_prices :
    follows .public none
        (kinds prices ((serve.answers ∅ pricesCalls).flatMap Answer.events)) = true ∧
      ((serve.after ∅ pricesCalls).isOpen prices = true ↔
        (kinds prices ((serve.answers ∅ pricesCalls).flatMap Answer.events)).getLast? =
          some .opened) :=
  (lifecycle_of_calls pricesCalls pricesCalls_accepted).1 prices prices_accepted

example : kinds prices ((serve.answers ∅ pricesCalls).flatMap Answer.events) =
    [.opened, .closed, .opened, .deleted] := by
  decide +kernel

end Lifecycle

/-! ## The order of channel events

Goroutines call the manager over one store in memory. The store performs each call atomically;
the manager emits the events afterwards, without a lock. -/

/-! ## Calls of the manager as calls of the store -/

namespace Manager.Call

def stored (now : Int) : Manager.Call → Registry.Call
  | openPublic name ttl => .openPublic name (if ttl = 0 then defaultPublicTTL else ttl) now
  | createPrivate name ttl =>
    if maxPrivateTTL < (if ttl ≤ 0 then 15 * minute else ttl) then .get name
    else .createPrivate name (if ttl ≤ 0 then 15 * minute else ttl) now
  | touch name => .touch name now
  | delete name => .delete name now
  | sweep => .sweep now

def Accepted (call : Manager.Call) : Prop := ∀ now, (call.stored now).Accepted

private theorem perform_eq {Records : Type} (registry : Registry Records) (call : Manager.Call)
    (now : Int) (records : Records) :
    call.perform registry now records =
      ((registry.service records (call.stored now)).1.events,
        (registry.service records (call.stored now)).2) := by
  have emitted : ∀ result : Except CodedError (Option Channel × Option Event) × Records,
      (Manager.emitting result).2 = ((Answer.opened result.1).events, result.2) := by
    rintro ⟨_ | _, _⟩ <;> rfl
  cases call with
  | openPublic name ttl => exact emitted _
  | createPrivate name ttl =>
    simp only [perform, Manager.createPrivate, stored]
    generalize (if ttl ≤ 0 then 15 * minute else ttl) = limited
    split
    · rfl
    · exact emitted _
  | touch name => rfl
  | delete name | sweep =>
    simp only [perform, Manager.delete, Manager.sweep, stored, service]
    split <;> simp_all [Answer.events]

end Manager.Call

structure Feed (Thread : Type) where
  records : MemoryStore
  delivery : Delivery Thread Event

namespace Feed

inductive Action (Thread : Type)
  | call (thread : Thread) (call : Manager.Call) (now : Int)
  | emit (thread : Thread)

def Action.Accepted {Thread : Type} : Action Thread → Prop
  | .call _ request _ => request.Accepted
  | .emit _ => True

variable {Thread : Type}

def initial : Feed Thread where
  records := ∅
  delivery := .start

def move (feed : Feed Thread) : Action Thread → Delivery.Act Thread Event
  | .call thread call now => .append thread (call.perform MemoryStore.asRegistry now feed.records).1
  | .emit thread => .deliver thread

def nextRecords (feed : Feed Thread) : Action Thread → MemoryStore
  | .call _ call now => (call.perform MemoryStore.asRegistry now feed.records).2
  | .emit _ => feed.records

def step [DecidableEq Thread] : Step (Feed Thread) (Action Thread) := fun feed action =>
  (Delivery.step feed.delivery (feed.move action)).map fun delivery =>
    { records := feed.nextRecords action, delivery := delivery }

def Returned (feed : Feed Thread) : Prop := feed.delivery.Complete

def performed (feed : Feed Thread) : List Event := feed.delivery.log

def received (feed : Feed Thread) : List Event := feed.delivery.received.map (·.1)

def InOrder (feed : Feed Thread) : Prop := feed.delivery.InOrder Event.name

def OldestFirst (feed : Feed Thread) (action : Action Thread) : Prop :=
  feed.delivery.OldestFirst Event.name (feed.move action)

section Runs

variable [DecidableEq Thread] {actions : List (Action Thread)} {final : Feed Thread}

theorem step_delivery (feed : Feed Thread) (action : Action Thread) (next : Feed Thread)
    (taken : step feed action = some next) :
    Delivery.step feed.delivery (feed.move action) = some next.delivery := by
  rcases Option.map_eq_some_iff.mp taken with ⟨delivery, moved, rfl⟩
  exact moved

section

variable {feed next : Feed Thread} {action : Action Thread} (taken : step feed action = some next)
include taken

private theorem step_records : next.records = feed.nextRecords action := by
  rcases Option.map_eq_some_iff.mp taken with ⟨delivery, _, rfl⟩
  rfl

theorem performed_step :
    next.performed = feed.performed ++ match action with
      | .call _ call now => (call.perform MemoryStore.asRegistry now feed.records).1
      | .emit _ => [] := by
  have moved := Delivery.moves_of_step (step_delivery feed action next taken)
  generalize after : next.delivery = delivery at moved
  unfold performed
  rw [after]
  cases action with
  | call thread call now =>
    cases moved
    rfl
  | emit thread =>
    cases moved
    exact (List.append_nil _).symm

end

theorem chronicle_of_run (accepted : ∀ action ∈ actions, action.Accepted)
    (run : Run step unrestricted initial actions final) :
    Lifecycle.Chronicle final.records final.performed := by
  have allowed : Run step (fun _ action => action.Accepted) initial actions final :=
    run.weaken fun _ action member _ => accepted action member
  apply allowed.invariant fun feed => Lifecycle.Chronicle feed.records feed.performed
  · intro feed action next chronicle permitted taken
    rw [step_records taken, performed_step taken]
    cases action with
    | call thread call now =>
      simp only [nextRecords, Manager.Call.perform_eq]
      exact chronicle.serve (permitted now)
    | emit thread => simpa [nextRecords] using chronicle
  · exact Lifecycle.chronicle_empty

end Runs

/-- Once all calls have returned, the events of every channel arrived in the order of its
transitions exactly if every emission was of the oldest event of its channel that was still to be
emitted. Then the last event of a channel tells its state. -/
theorem events_in_store_order_iff [DecidableEq Thread] {actions : List (Action Thread)}
    {final : Feed Thread} (accepted : ∀ action ∈ actions, action.Accepted)
    (run : Run step unrestricted initial actions final) (returned : final.Returned) :
    (final.InOrder ↔ Run step OldestFirst initial actions final) ∧
      (final.InOrder → ∀ name : Name, name.Accepted →
        final.received.filter (·.name = name) = final.performed.filter (·.name = name) ∧
          Lifecycle.Tracks name.visibility ((final.records.lookup name.text).map (·.state))
            (Lifecycle.kinds name final.received).getLast?) := by
  rcases run.project Feed.delivery move step_delivery with ⟨moves, deliveries, same⟩
  constructor
  · exact (Delivery.inOrder_iff_oldestFirst deliveries returned).trans (same _).symm
  · intro ordered name nameAccepted
    have arrived : final.received.filter (·.name = name) = final.performed.filter (·.name = name) :=
      Delivery.received_of_inOrder (Delivery.sound_of_run deliveries) returned ordered name
    refine ⟨arrived, ?_⟩
    rw [Lifecycle.kinds, arrived]
    exact (chronicle_of_run accepted run).tracked name nameAccepted

/-! ## An opening and a deletion -/

open Lifecycle (prices prices_accepted kinds)

def openThenDelete : List (Action Bool) :=
  [.call false (.openPublic prices 0) 0, .call true (.delete prices) 1, .emit false, .emit true]

theorem openThenDelete_accepted : ∀ action ∈ openThenDelete, action.Accepted := by
  have named : ∀ call : Registry.Call, call.name? = some prices → call.Accepted := by
    intro call own name isName
    rw [own] at isName
    cases isName
    exact prices_accepted
  simp only [openThenDelete, List.forall_mem_cons]
  exact ⟨fun now => named _ rfl, fun now => named _ rfl, trivial, trivial, by simp⟩

theorem openThenDelete_in_store_order : ∃ final,
    Run step OldestFirst initial openThenDelete final ∧
      final.received.filter (·.name = prices) = final.performed.filter (·.name = prices) := by
  have executed : (execute step unrestricted initial openThenDelete).map
      (fun feed => (feed.delivery.received, feed.delivery.pending false,
        feed.delivery.pending true)) =
      some ([({ kind := .opened, name := prices, «at» := 0 }, 0),
        ({ kind := .deleted, name := prices, «at» := 1 }, 1)], [], []) := by
    decide +kernel
  rcases Run.exists_of_execute _ executed with ⟨final, run, observed⟩
  simp only [Prod.mk.injEq] at observed
  have returned : final.Returned := by
    intro thread
    cases thread with
    | false => exact observed.2.1
    | true => exact observed.2.2
  have ordered : final.InOrder := by
    rw [InOrder, Delivery.InOrder, observed.1]
    decide +kernel
  have result := events_in_store_order_iff openThenDelete_accepted run returned
  exact ⟨final, result.1.mp ordered, (result.2 ordered prices prices_accepted).1⟩

/-- The deletion's event is emitted first: the last event says that the channel was opened,
and it is deleted. -/
theorem opening_arrives_last :
    (execute step unrestricted (initial : Feed Bool)
        [.call false (.openPublic prices 0) 0, .call true (.delete prices) 1, .emit true,
          .emit false]).map
        (fun feed => (kinds prices feed.performed, kinds prices feed.received,
          (feed.records.lookup prices.text).map (·.state))) =
      some ([.opened, .deleted], [.deleted, .opened], some .deleted) := by
  decide +kernel

end Feed

end Parsec.Channels
