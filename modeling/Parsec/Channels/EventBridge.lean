import Parsec.Foundation.Execution
import Parsec.Channels.MemoryStore

/-! # The bridge from the manager to the broker

`Run` subscribes one bounded queue to the manager. Goroutines that call the manager send
their events without blocking, and the bridge takes them out one at a time. A deleted
channel is unsubscribed for all clients when the bridge handles its event; an event that
meets a full queue is gone. -/

namespace Parsec.Channels

open Foundation

def queueCapacity : Nat := 64

/-- What happened to channels: the store reported a deletion, or `UnsubscribeAll` ran. -/
inductive Notice
  | deleted (name : Name)
  | unsubscribed (name : Name)
  deriving DecidableEq

structure World (Thread Records : Type) where
  records : Records
  emitting : Thread → List Event
  queue : List Event
  handling : Option Event
  log : List Notice

/-- `remote`: the event bus hands a goroutine an event of another node. `elsewhere`: another
node changes a shared store. -/
inductive Action (Thread Records : Type)
  | call (thread : Thread) (call : Manager.Call) (now : Int)
  | remote (thread : Thread) (event : Event)
  | emit (thread : Thread)
  | receive
  | handle
  | elsewhere (records : Records)

namespace World

variable {Thread Records : Type} [DecidableEq Thread]

def initial (records : Records) : World Thread Records where
  records := records
  emitting := fun _ => []
  queue := []
  handling := none
  log := []

def reported (event : Event) : Option Notice :=
  if event.kind = .deleted then some (.deleted event.name) else none

def report (world : World Thread Records) (thread : Thread) (events : List Event)
    (records : Records) : Option (World Thread Records) :=
  if world.emitting thread = [] then
    some { world with
      records := records
      emitting := Function.update world.emitting thread events
      log := (events.filterMap reported).reverse ++ world.log }
  else
    none

def send (queue : List Event) (event : Event) : List Event :=
  if queue.length < queueCapacity then queue ++ [event] else queue

def emit (world : World Thread Records) (thread : Thread) : Option (World Thread Records) :=
  match world.emitting thread with
  | [] => none
  | event :: rest =>
    some { world with
      emitting := Function.update world.emitting thread rest
      queue := send world.queue event }

def receive (world : World Thread Records) : Option (World Thread Records) :=
  match world.handling, world.queue with
  | none, event :: rest => some { world with handling := some event, queue := rest }
  | _, _ => none

def handle (world : World Thread Records) : Option (World Thread Records) :=
  match world.handling with
  | none => none
  | some event =>
    match event.kind with
    | .deleted =>
      some { world with handling := none, log := .unsubscribed event.name :: world.log }
    -- Closed channels drain, and opened ones need nothing of the broker.
    | .closed | .opened => some { world with handling := none }

def step (registry : Registry Records) : Step (World Thread Records) (Action Thread Records) :=
  fun world action =>
    match action with
    | .call thread call now =>
      let (events, records) := call.perform registry now world.records
      world.report thread events records
    | .remote thread event => world.report thread [event] world.records
    | .emit thread => world.emit thread
    | .receive => world.receive
    | .handle => world.handle
    | .elsewhere records => some { world with records := records }

def Fits (queue : List Event) : List Event → Prop
  | [] => True
  | event :: _ => event.kind = .deleted → queue.length < queueCapacity

instance (queue : List Event) : ∀ events, Decidable (Fits queue events)
  | [] => isTrue trivial
  | event :: _ => inferInstanceAs (Decidable (event.kind = .deleted → _))

def Roomy (world : World Thread Records) : Action Thread Records → Prop
  | .emit thread => Fits world.queue (world.emitting thread)
  | _ => True

instance (world : World Thread Records) : ∀ action, Decidable (world.Roomy action)
  | .emit thread => inferInstanceAs (Decidable (Fits world.queue (world.emitting thread)))
  | .call _ _ _ | .remote _ _ | .receive | .handle | .elsewhere _ => isTrue trivial

end World

/-! ## Deletions that were answered -/

def Emptied (log : List Notice) (name : Name) : Prop :=
  ∀ after before, log = after ++ .deleted name :: before → .unsubscribed name ∈ after

namespace Emptied

variable {log : List Notice} {name : Name}

private theorem nil : Emptied [] name := by
  intro after before split
  simp at split

theorem unsubscribed : Emptied (.unsubscribed name :: log) name := by
  intro after before split
  cases after with
  | nil => cases split
  | cons notice rest =>
    cases split
    exact List.mem_cons_self

variable (emptied : Emptied log name)
include emptied

theorem cons {notice : Notice} (other : notice ≠ .deleted name) : Emptied (notice :: log) name := by
  intro after before split
  cases after with
  | nil =>
    cases split
    exact absurd rfl other
  | cons first rest =>
    cases split
    exact List.mem_cons_of_mem _ (emptied rest before rfl)

theorem append {notices : List Notice} (others : .deleted name ∉ notices) :
    Emptied (notices ++ log) name := by
  induction notices with
  | nil => exact emptied
  | cons notice notices induction =>
    rw [List.mem_cons, not_or] at others
    exact (induction others.2).cons (Ne.symm others.1)

private theorem unsubscribed_mem (deleted : .deleted name ∈ log) : .unsubscribed name ∈ log := by
  rcases List.append_of_mem deleted with ⟨after, before, split⟩
  rw [split]
  exact List.mem_append_left _ (emptied after before split)

end Emptied

/-! ## Events under way -/

namespace World

variable {Thread Records : Type}

inductive Holds (world : World Thread Records) (event : Event) : Prop
  | emitting (thread : Thread) : event ∈ world.emitting thread → Holds world event
  | queued : event ∈ world.queue → Holds world event
  | handling : world.handling = some event → Holds world event

def InFlight (world : World Thread Records) (name : Name) : Prop :=
  ∃ event, world.Holds event ∧ event.kind = .deleted ∧ event.name = name

def Accounted (world : World Thread Records) : Prop :=
  ∀ name, world.InFlight name ∨ Emptied world.log name

structure Drained (world : World Thread Records) : Prop where
  emitted : ∀ thread, world.emitting thread = []
  queue : world.queue = []
  handling : world.handling = none

theorem Drained.not_inFlight {world : World Thread Records} (drained : world.Drained)
    (name : Name) : ¬ world.InFlight name := by
  rintro ⟨event, held, _⟩
  cases held with
  | emitting thread member =>
    rw [drained.emitted thread] at member
    cases member
  | queued member =>
    rw [drained.queue] at member
    cases member
  | handling found =>
    rw [drained.handling] at found
    cases found

theorem initial_accounted (records : Records) :
    (initial records : World Thread Records).Accounted :=
  fun _ => .inr .nil

private theorem mem_reported {events : List Event} {name : Name}
    (member : .deleted name ∈ (events.filterMap reported).reverse) :
    ∃ event ∈ events, event.kind = .deleted ∧ event.name = name := by
  rcases List.mem_filterMap.mp (List.mem_reverse.mp member) with ⟨event, listed, noticed⟩
  rw [reported] at noticed
  split at noticed
  · rename_i deleted
    cases noticed
    exact ⟨event, listed, deleted, rfl⟩
  · cases noticed

section

variable [DecidableEq Thread] {world next : World Thread Records} {thread : Thread} {event : Event}
  {events : List Event} {records : Records}

theorem Holds.report (held : world.Holds event)
    (taken : world.report thread events records = some next) : next.Holds event := by
  rw [World.report] at taken
  split at taken
  · rename_i idle
    cases taken
    cases held with
    | emitting other member =>
      refine .emitting other ?_
      have distinct : other ≠ thread := by
        intro same
        rw [same, idle] at member
        cases member
      simpa [Function.update_of_ne distinct] using member
    | queued member => exact .queued member
    | handling found => exact .handling found
  · cases taken

theorem Accounted.report (accounted : world.Accounted)
    (taken : world.report thread events records = some next) : next.Accounted := by
  intro name
  rcases accounted name with ⟨event, held, deleted⟩ | emptied
  · exact .inl ⟨event, held.report taken, deleted⟩
  · rw [World.report] at taken
    split at taken
    · cases taken
      by_cases member : .deleted name ∈ (events.filterMap reported).reverse
      · rcases mem_reported member with ⟨event, listed, deleted⟩
        exact .inl ⟨event, .emitting thread (by simpa using listed), deleted⟩
      · exact .inr (emptied.append member)
    · cases taken

variable {queue : List Event}

theorem mem_send (fits : queue.length < queueCapacity) : event ∈ send queue event := by
  simp [send, fits]

variable {other : Event}

theorem send_keeps (member : other ∈ queue) : other ∈ send queue event := by
  rw [send]
  split
  · exact List.mem_append_left _ member
  · exact member

theorem Holds.emit (held : world.Holds event) (deleted : event.kind = .deleted)
    (fits : Fits world.queue (world.emitting thread)) (taken : world.emit thread = some next) :
    next.Holds event := by
  unfold World.emit at taken
  cases pending : world.emitting thread with
  | nil => simp [pending] at taken
  | cons first rest =>
    simp only [pending, Option.some.injEq] at taken
    rw [pending] at fits
    subst taken
    cases held with
    | queued member => exact .queued (send_keeps member)
    | handling found => exact .handling found
    | emitting other member =>
      by_cases same : other = thread
      · subst same
        rw [pending] at member
        rcases List.mem_cons.mp member with rfl | later
        · exact .queued (mem_send (fits deleted))
        · exact .emitting other (by simpa using later)
      · exact .emitting other (by simpa [Function.update_of_ne same] using member)

theorem Accounted.emit (accounted : world.Accounted)
    (fits : Fits world.queue (world.emitting thread))
    (taken : world.emit thread = some next) : next.Accounted := by
  intro name
  rcases accounted name with ⟨event, held, deleted, named⟩ | emptied
  · exact .inl ⟨event, held.emit deleted fits taken, deleted, named⟩
  · unfold World.emit at taken
    split at taken
    · cases taken
    · cases taken
      exact .inr emptied

omit [DecidableEq Thread] in
theorem Accounted.receive (accounted : world.Accounted)
    (taken : world.receive = some next) : next.Accounted := by
  unfold World.receive at taken
  split at taken
  · rename_i event rest idle waiting
    cases taken
    intro name
    rcases accounted name with ⟨other, held, deleted⟩ | emptied
    · refine .inl ⟨other, ?_, deleted⟩
      cases held with
      | emitting thread member => exact .emitting thread member
      | handling found => rw [idle] at found; cases found
      | queued member =>
        rw [waiting] at member
        cases member with
        | head => exact .handling rfl
        | tail _ later => exact .queued later
    · exact .inr emptied
  · cases taken

omit [DecidableEq Thread] in
theorem Holds.of_handling_none {log : List Notice} (held : world.Holds other)
    (busy : world.handling = some event) (different : other ≠ event) :
    ({ world with handling := none, log := log } : World Thread Records).Holds other := by
  cases held with
  | emitting thread member => exact .emitting thread member
  | queued member => exact .queued member
  | handling found =>
    rw [busy] at found
    cases found
    exact absurd rfl different

omit [DecidableEq Thread] in
theorem Accounted.handle (accounted : world.Accounted)
    (taken : world.handle = some next) : next.Accounted := by
  unfold World.handle at taken
  split at taken
  · cases taken
  · rename_i event busy
    intro name
    by_cases answered : event.kind = .deleted ∧ event.name = name
    · rcases answered with ⟨deleted, rfl⟩
      simp only [deleted, Option.some.injEq] at taken
      subst taken
      exact .inr .unsubscribed
    · have kept : world.InFlight name → ∀ log, InFlight
          ({ world with handling := none, log := log } : World Thread Records) name := by
        rintro ⟨other, held, deleted⟩ log
        refine ⟨other, held.of_handling_none busy ?_, deleted⟩
        rintro rfl
        exact answered deleted
      rcases accounted name with inFlight | emptied
      · refine .inl ?_
        split at taken <;> cases taken <;> exact kept inFlight _
      · refine .inr ?_
        split at taken <;> cases taken
        · exact emptied.cons (by simp)
        · exact emptied
        · exact emptied

theorem Accounted.step {registry : Registry Records} {action : Action Thread Records}
    (accounted : world.Accounted) (roomy : world.Roomy action)
    (taken : World.step registry world action = some next) : next.Accounted := by
  cases action with
  | call thread call now | remote thread event => exact accounted.report taken
  | emit thread => exact accounted.emit roomy taken
  | receive => exact accounted.receive taken
  | handle => exact accounted.handle taken
  | elsewhere records =>
    cases taken
    intro name
    rcases accounted name with ⟨event, held, deleted⟩ | emptied
    · refine .inl ⟨event, ?_, deleted⟩
      cases held with
      | emitting thread member => exact .emitting thread member
      | queued member => exact .queued member
      | handling found => exact .handling found
    · exact .inr emptied

end

/-! ## Draining -/

section

variable [DecidableEq Thread] (registry : Registry Records)

def Action.IsBridge : Action Thread Records → Prop
  | .receive | .handle => True
  | _ => False

omit [DecidableEq Thread] in
theorem handle_busy {world : World Thread Records} {event : Event}
    (busy : world.handling = some event) :
    ∃ log, world.handle = some { world with handling := none, log := log } := by
  unfold World.handle
  rw [busy]
  cases kind : event.kind with
  | deleted => exact ⟨.unsubscribed event.name :: world.log, by simp only [kind]⟩
  | closed | opened => exact ⟨world.log, by simp only [kind]⟩

private theorem bridge_drains : ∀ (queue : List Event) (world : World Thread Records),
    (∀ thread, world.emitting thread = []) → world.queue = queue → world.handling = none →
      ∃ actions drained, Run (World.step registry) World.Roomy world actions drained ∧
        (∀ action ∈ actions, Action.IsBridge action) ∧ drained.Drained := by
  intro queue
  induction queue with
  | nil =>
    intro world emitted empty idle
    exact ⟨[], world, .nil _, by simp, emitted, empty, idle⟩
  | cons event rest induction =>
    intro world emitted waiting idle
    let received : World Thread Records := { world with handling := some event, queue := rest }
    have receives : World.step registry world .receive = some received := by
      simp [World.step, World.receive, idle, waiting, received]
    have busy : received.handling = some event := rfl
    rcases handle_busy busy with ⟨log, handles⟩
    rcases induction { received with handling := none, log := log } emitted rfl rfl with
      ⟨actions, drained, run, bridge, done⟩
    refine ⟨.receive :: .handle :: actions, drained, ?_, ?_, done⟩
    · exact .cons trivial receives (.cons trivial handles run)
    · simpa [Action.IsBridge] using bridge

theorem drains {world : World Thread Records} (emitted : ∀ thread, world.emitting thread = []) :
    ∃ actions drained, Run (World.step registry) World.Roomy world actions drained ∧
      (∀ action ∈ actions, Action.IsBridge action) ∧ drained.Drained := by
  cases busy : world.handling with
  | none => exact bridge_drains registry world.queue world emitted rfl busy
  | some event =>
    rcases handle_busy busy with ⟨log, handles⟩
    rcases bridge_drains registry world.queue
      { world with handling := none, log := log } emitted rfl rfl with
      ⟨actions, drained, run, bridge, done⟩
    refine ⟨.handle :: actions, drained, .cons trivial handles run, ?_, done⟩
    simpa [Action.IsBridge] using bridge

end

end World

/-- While deletions find room in the queue, every channel that the store reported as deleted
has been unsubscribed for all clients once the bridge has nothing left to do; and when the
goroutines have emitted their events, the bridge gets there by itself. -/
theorem deleted_channels_emptied {Thread Records : Type} [DecidableEq Thread]
    {registry : Registry Records} {records : Records} {actions : List (Action Thread Records)}
    {final : World Thread Records}
    (run : Run (World.step registry) World.Roomy (World.initial records) actions final) :
    (final.Drained → ∀ name, Emptied final.log name) ∧
    ((∀ thread, final.emitting thread = []) →
      ∃ bridge drained, Run (World.step registry) World.Roomy final bridge drained ∧
        (∀ action ∈ bridge, World.Action.IsBridge action) ∧ drained.Drained ∧
        ∀ name, Emptied drained.log name) := by
  have preserved : ∀ (world : World Thread Records) action next, world.Accounted →
      world.Roomy action → World.step registry world action = some next → next.Accounted :=
    fun _ _ _ accounted roomy taken => accounted.step roomy taken
  have accounted : final.Accounted :=
    run.invariant World.Accounted preserved (World.initial_accounted records)
  have emptied : ∀ {world : World Thread Records}, world.Accounted → world.Drained →
      ∀ name, Emptied world.log name :=
    fun held drained name => (held name).resolve_left (drained.not_inFlight name)
  refine ⟨emptied accounted, fun emitted => ?_⟩
  rcases World.drains registry emitted with ⟨bridge, drained, drains, own, done⟩
  have still := drains.invariant World.Accounted preserved accounted
  exact ⟨bridge, drained, drains, own, done, emptied still done⟩

/-! A sweep of sixty-five private channels, created before the bridge started. -/

def sweptName (number : Nat) : Name where
  visibility := .private
  app := "shop"
  domain := "orders"
  id := String.ofList (List.replicate (number + 1) 'x')

private theorem sweptName_text (number : Nat) :
    (sweptName number).text =
      "private:shop.orders." ++ String.ofList (List.replicate (number + 1) 'x') := by
  have present : String.ofList (List.replicate (number + 1) 'x') ≠ "" := by
    simp [List.replicate_succ]
  have segments : (sweptName number).segments =
      ["shop", "orders", String.ofList (List.replicate (number + 1) 'x')] := by
    simp [Name.segments, sweptName, present]
  have start : "private:shop.orders." = "private" ++ ":" ++ ("shop" ++ "." ++ "orders" ++ ".") := by
    decide
  rw [Name.text, segments, start]
  change "private" ++ ":" ++ ("shop" ++ "." ++ "orders" ++ "." ++ _) = _
  simp only [String.append_assoc]

theorem sweptName_text_injective : Function.Injective fun number => (sweptName number).text := by
  intro left right same
  have lengths := congrArg String.length same
  simpa [sweptName_text] using lengths

def sweptStore (count : Nat) : MemoryStore where
  entries := (List.range count).map fun number =>
    ⟨(sweptName number).text, MemoryStore.freshChannel (sweptName number) minute 0⟩
  nodupKeys := by
    rw [List.NodupKeys, List.keys, List.map_map]
    exact (List.nodup_range).map sweptName_text_injective

def burst (count : Nat) : List (Action Unit MemoryStore) :=
  List.flatten [[.call () .sweep hour], List.replicate count (.emit ()),
    (List.replicate (min count queueCapacity) [.receive, .handle]).flatten]

theorem swept_channel_kept :
    ∃ final, Run (World.step MemoryStore.asRegistry) unrestricted
        (World.initial (sweptStore 65)) (burst 65) final ∧
      final.Drained ∧ .deleted (sweptName 64) ∈ final.log ∧
      .unsubscribed (sweptName 64) ∉ final.log ∧ ¬ Emptied final.log (sweptName 64) := by
  have executed : (execute (World.step MemoryStore.asRegistry) unrestricted
      (World.initial (sweptStore 65)) (burst 65)).map (fun final =>
        (final.emitting () = [] ∧ final.queue = [] ∧ final.handling = none ∧
          .deleted (sweptName 64) ∈ final.log ∧ .unsubscribed (sweptName 64) ∉ final.log : Bool)) =
        some true := by
    decide +kernel
  rcases Run.exists_of_execute _ executed with ⟨final, run, observed⟩
  simp only [decide_eq_true_eq] at observed
  rcases observed with ⟨emitted, queue, handling, deleted, missing⟩
  exact ⟨final, run, ⟨fun _ => emitted, queue, handling⟩, deleted, missing,
    fun emptied => missing (emptied.unsubscribed_mem deleted)⟩

theorem deleted_channels_emptied_of_sweep :
    ∃ final, Run (World.step MemoryStore.asRegistry) World.Roomy
        (World.initial (sweptStore 3)) (burst 3) final ∧
      final.Drained ∧ .deleted (sweptName 2) ∈ final.log ∧
      ∀ name, Emptied final.log name := by
  have executed : (execute (World.step MemoryStore.asRegistry) World.Roomy
      (World.initial (sweptStore 3)) (burst 3)).map (fun final =>
        (final.emitting () = [] ∧ final.queue = [] ∧ final.handling = none ∧
          .deleted (sweptName 2) ∈ final.log : Bool)) = some true := by
    decide +kernel
  rcases Run.exists_of_execute _ executed with ⟨final, run, observed⟩
  simp only [decide_eq_true_eq] at observed
  rcases observed with ⟨emitted, queue, handling, deleted⟩
  have drained : final.Drained := ⟨fun _ => emitted, queue, handling⟩
  exact ⟨final, run, drained, deleted, (deleted_channels_emptied run).1 drained⟩

end Parsec.Channels
