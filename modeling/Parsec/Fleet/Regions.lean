import Parsec.Fleet.Convergence
import Parsec.Auth.Persistence

/-! # Regions joined by the sync daemon

A source and a target region, each a fleet around a Redis of its own, and the daemon that
subscribes to the source's keyring events and publishes their payloads in the target. A
payload is a version number. The target's nodes answer any event by loading the ring from
their own Redis, which the daemon does not write. -/

namespace Parsec.Fleet

open Foundation Auth Codec

/-- `queue` holds the events the daemon has received and not yet forwarded, `inbox` those
that wait at a target node's subscription. -/
structure Regions (Source Target : Type) where
  source : World Source
  target : World Target
  queue : List Int := []
  inbox : Target → List Int := fun _ => []

inductive RegionAction (Source Target : Type)
  | source (action : Source × Action)
  | target (action : Target × Action)
  | forward (delivered : Bool)
  | receive (name : Target)

def published (before after : Redis) : List Int :=
  if after.version = before.version then [] else [after.version]

namespace Regions

variable {Source Target : Type}

def initial (source target : Redis) : Regions Source Target where
  source := { World.initial with redis := source }
  target := { World.initial with redis := target }

variable [DecidableEq Source] [DecidableEq Target]

def step (codec : Codec) : Step (Regions Source Target) (RegionAction Source Target) :=
  fun regions action =>
    match action with
    | .source action =>
      (regions.source.step codec action).map fun next =>
        { regions with
          source := next
          queue := regions.queue ++ published regions.source.redis next.redis }
    | .target action =>
      (regions.target.step codec action).map fun next => { regions with target := next }
    | .forward delivered =>
      match regions.queue with
      | [] => none
      | payload :: rest => some
          { regions with
            queue := rest
            inbox := fun name =>
              if delivered ∧ (regions.target.nodes name).watching then
                regions.inbox name ++ [payload]
              else regions.inbox name }
    | .receive name =>
      match regions.inbox name with
      | [] => none
      | _ :: rest =>
        (regions.target.step codec (name, .wake .subscription)).map fun next =>
          { regions with target := next, inbox := Function.update regions.inbox name rest }

def Paired (codec : Codec) (regions : Regions Source Target) : RegionAction Source Target → Prop
  | .target action => regions.target.Paired codec action
  | _ => True

/-- While `name` runs the deliver that an event woke it for, it does nothing else and nothing
is saved in its region. -/
def Delivering (codec : Codec) (name : Target) (regions : Regions Source Target) :
    RegionAction Source Target → Prop
  | .source _ | .forward _ => True
  | .receive other => other ≠ name
  | .target action =>
    (action.1 = name → action.2 = .deliver .subscription) ∧
      ∀ next, regions.target.step codec action = some next → next.redis = regions.target.redis

end Regions

variable {codec : Codec}

private theorem wake_paired {Target : Type} (world : World Target) (name : Target) :
    world.Paired codec (name, .wake .subscription) := by
  refine ⟨fun _ drawn => ?_, rfl⟩
  cases drawn

section

variable {codec : Codec} {Source Target : Type} [DecidableEq Source] [DecidableEq Target]
  {regions next : Regions Source Target}
  {action : RegionAction Source Target}

theorem Regions.following_step (following : regions.target.Following codec)
    (paired : regions.Paired codec action) (taken : Regions.step codec regions action = some next) :
    next.target.Following codec := by
  cases action with
  | source action =>
    rcases Option.map_eq_some_iff.mp taken with ⟨world, _, rfl⟩
    exact following
  | target action =>
    rcases Option.map_eq_some_iff.mp taken with ⟨world, moved, rfl⟩
    exact following.step paired moved
  | forward delivered =>
    simp only [Regions.step] at taken
    split at taken
    · cases taken
    · cases taken
      exact following
  | receive name =>
    simp only [Regions.step] at taken
    split at taken
    · cases taken
    · rcases Option.map_eq_some_iff.mp taken with ⟨world, moved, rfl⟩
      exact following.step (wake_paired _ _) moved

variable {name : Target}

theorem Regions.delivering_step (delivering : regions.Delivering codec name action)
    (taken : Regions.step codec regions action = some next) :
    next.target.redis = regions.target.redis ∧
      (next.target.nodes name = regions.target.nodes name ∨
        (regions.target.nodes name).deliver codec regions.target.redis .subscription =
          some (next.target.nodes name)) := by
  cases action with
  | source action =>
    rcases Option.map_eq_some_iff.mp taken with ⟨world, _, rfl⟩
    exact ⟨rfl, .inl rfl⟩
  | forward delivered =>
    simp only [Regions.step] at taken
    split at taken
    · cases taken
    · cases taken
      exact ⟨rfl, .inl rfl⟩
  | receive other =>
    simp only [Regions.step] at taken
    split at taken
    · cases taken
    · rcases Option.map_eq_some_iff.mp taken with ⟨world, moved, rfl⟩
      have steps := World.steps_of_step moved
      refine ⟨?_, .inl (steps.other_node (Ne.symm delivering))⟩
      cases steps with
      | wake => rfl
  | target action =>
    rcases Option.map_eq_some_iff.mp taken with ⟨world, moved, rfl⟩
    rcases delivering with ⟨own, unsaved⟩
    refine ⟨unsaved world moved, ?_⟩
    rcases action with ⟨other, action⟩
    have steps := World.steps_of_step moved
    by_cases same : other = name
    · subst same
      cases own rfl
      cases steps with
      | deliver delivered =>
        rw [World.setNode_same]
        exact .inr delivered
    · exact .inl (steps.other_node (Ne.symm same))

theorem Regions.delivering_run {actions : List (RegionAction Source Target)}
    {final : Regions Source Target}
    (run : Run (Regions.step codec) (Regions.Delivering codec name) regions actions final) :
    final.target.redis = regions.target.redis ∧
      ∃ count, (regions.target.nodes name).deliverMany codec regions.target.redis .subscription
        count = some (final.target.nodes name) := by
  induction run with
  | nil => exact ⟨rfl, 0, rfl⟩
  | cons delivering taken _ induction =>
    rcases induction with ⟨unsaved, count, delivered⟩
    rcases Regions.delivering_step delivering taken with ⟨sameRedis, moved⟩
    rw [sameRedis] at unsaved delivered
    refine ⟨unsaved, ?_⟩
    rcases moved with unmoved | moved
    · rw [unmoved] at delivered
      exact ⟨count, delivered⟩
    · refine ⟨count + 1, ?_⟩
      rw [Node.deliverMany, moved]
      exact delivered

end

theorem Node.deliverMany_unique {redis : Redis} {worker : Worker} :
    ∀ {count other : Nat} {node left right : Node},
      node.deliverMany codec redis worker count = some left →
      node.deliverMany codec redis worker other = some right →
      left.deliveries worker = .idle → right.deliveries worker = .idle → left = right
  | 0, 0, node, left, right, first, second, _, _ => by
      cases first
      cases second
      rfl
  | 0, other + 1, node, left, right, first, second, done, _ => by
      cases first
      simp [Node.deliverMany, Node.deliver, done] at second
  | count + 1, 0, node, left, right, first, second, _, done => by
      cases second
      simp [Node.deliverMany, Node.deliver, done] at first
  | count + 1, other + 1, node, left, right, first, second, leftDone, rightDone => by
      rcases Option.bind_eq_some_iff.mp first with ⟨next, moved, rest⟩
      rcases Option.bind_eq_some_iff.mp second with ⟨again, movedAgain, restAgain⟩
      rw [moved] at movedAgain
      cases movedAgain
      exact Node.deliverMany_unique rest restAgain leftDone rightDone

def CanVerify (ring : KeyRing) (id : String) : Prop := ∃ key, ring.get id = .ok key

theorem canVerify_iff {ring : KeyRing} {id : String} :
    CanVerify ring id ↔ ∃ role, ring.HasRole id role := by
  constructor
  · rintro ⟨key, found⟩
    rcases KeyRing.get_eq_ok.mp found with ⟨stored, live⟩
    exact ⟨key.role, live, key, stored, rfl⟩
  · rintro ⟨role, live, key, stored, rfl⟩
    exact ⟨key, KeyRing.get_eq_ok.mpr ⟨stored, live⟩⟩

def Regions.Converged {Source Target : Type} (regions : Regions Source Target)
    (name : Target) : Prop :=
  (∀ id, .retired id ∈ regions.source.log → ¬ CanVerify (regions.target.nodes name).ring id) ∧
  regions.source.redis.value.map Snapshot.activeKeyID = some (regions.target.nodes name).ring.active

def World.ConvergedWith {Source : Type} (source : World Source) (body : Snapshot) : Prop :=
  (∀ id, .retired id ∈ source.log → ∀ role, ¬ body.HasRole id role) ∧
  source.redis.value.map Snapshot.activeKeyID = some body.activeKeyID

/-- A node has received a forwarded event and finished the deliver that it started, while
its region saved nothing. It has converged with the source exactly when the ring that its own
Redis stored before the event had. -/
theorem forwarded_event_converges_iff {codec : Codec} {Source Target : Type}
    [DecidableEq Source] [DecidableEq Target] {source target : Redis}
    (genuine : (exactReading codec).SoundRedis target)
    {before woken final : Regions Source Target}
    {actions since : List (RegionAction Source Target)} {name : Target}
    (run : Run (Regions.step codec) (Regions.Paired codec) (.initial source target) actions before)
    (idle : (before.target.nodes name).main = .idle)
    (finished : ∀ worker, (before.target.nodes name).deliveries worker = .idle)
    (received : Regions.step codec before (.receive name) = some woken)
    (delivered : Run (Regions.step codec) (Regions.Delivering codec name) woken since final)
    (done : (final.target.nodes name).deliveries .subscription = .idle) :
    ∃ body, before.target.redis.value = some body ∧
      (final.Converged name ↔ final.source.ConvergedWith body) := by
  have following : before.target.Following codec :=
    run.invariant (fun regions => regions.target.Following codec)
      (fun _ _ _ following paired taken => Regions.following_step following paired taken)
      (.of_down genuine fun _ => rfl)
  rcases Regions.delivering_run delivered with ⟨_, count, reached⟩
  simp only [Regions.step] at received
  split at received
  · cases received
  · rcases Option.map_eq_some_iff.mp received with ⟨world, moved, rfl⟩
    cases World.steps_of_step moved with
    | wake watching _ =>
      rw [World.setNode_same] at reached
      rcases deliver_converges (following.sound.nodes name) following.sound.redis
        (following.nodes name) idle watching finished with
        ⟨steps, node, completes, ended, storable, stored⟩
      have same : final.target.nodes name = node :=
        Node.deliverMany_unique reached completes done ended
      have agrees := storable.wellFormed.agrees_encodeKeyRing codec
      refine ⟨_, stored, ?_⟩
      rw [Regions.Converged, World.ConvergedWith, same, agrees.active]
      simp only [canVerify_iff, agrees.roles, not_exists]

/-! ## Two regions with one node each

Both start from one exported ring with a single key. -/

def exportedKeys : List (Operation × Int) := [(.add "k1" (List.replicate 32 1), 0)]

def exportedRedis : Redis where
  version := 1
  value := some (encodeKeyRing epoch (KeyRing.empty.performAll exportedKeys))

theorem exportedRedis_sound : (exactReading epoch).SoundRedis exportedRedis where
  nonnegative := by decide
  missing := by simp [exportedRedis]
  genuine := by
    intro body stored
    cases stored
    refine ⟨_, KeyRing.storable_of_operations ?_, rfl⟩
    intro operation member
    simp only [exportedKeys, List.mem_singleton] at member
    subst member
    refine ⟨rfl, fun alg pair brought => ?_⟩
    cases brought with
    | drawn draws _ => cases draws

def inSource (actions : List (Unit × Action)) : List (RegionAction Unit Unit) :=
  actions.map .source

def inTarget (actions : List (Unit × Action)) : List (RegionAction Unit Unit) :=
  actions.map .target

def regionsUp : List (RegionAction Unit Unit) :=
  inSource (((), .boot) :: advances () 1 4) ++
    inTarget (((), .boot) :: advances () 1 4 ++ [((), .startWatch)])

def rotates (mutation : Mutation) (byte : UInt8) : List (RegionAction Unit Unit) :=
  inSource (((), .call mutation) :: advances () byte 6) ++ [.forward true]

def deliversEvent : List (RegionAction Unit Unit) := inTarget (delivers () .subscription 6)

def passingKey : List (RegionAction Unit Unit) :=
  regionsUp ++ rotates (.generate .hs256) 2 ++ .receive () :: deliversEvent ++
    rotates (.retire "k-000000000002") 2

def Regions.paired {Source Target : Type} (regions : Regions Source Target) :
    RegionAction Source Target → Bool
  | .target action => regions.target.paired action
  | _ => true

variable {regions final : Regions Unit Unit}

private theorem passingKey_paired
    (run : Run (Regions.step epoch) (fun regions action => regions.paired action = true)
      regions passingKey final) :
    Run (Regions.step epoch) (Regions.Paired epoch) regions passingKey final := by
  refine run.weaken fun state action member paired => ?_
  cases action with
  | source | forward | receive => trivial
  | target action =>
    refine ⟨fun draw drawn => ?_, paired⟩
    have fromEpoch : action = ((), .advance (.epoch 1)) := by
      simp only [passingKey, regionsUp, rotates, deliversEvent, inSource, inTarget, advances,
        delivers] at member
      rcases action with ⟨name, action⟩
      cases drawn
      simpa using member
    cases fromEpoch
    cases drawn
    exact Draw.epoch_keeps 1

theorem deliversEvent_delivering
    (run : Run (Regions.step epoch) unrestricted regions deliversEvent final) :
    Run (Regions.step epoch) (Regions.Delivering epoch ()) regions deliversEvent
      final := by
  refine run.weaken fun state action member _ => ?_
  rcases List.mem_map.mp member with ⟨step, listed, rfl⟩
  cases List.eq_of_mem_replicate listed
  refine ⟨fun _ => rfl, fun next moved => ?_⟩
  cases World.steps_of_step moved with
  | deliver => rfl

/-- The event of the retired key is received and delivered. The target never had the key, so
the regions have converged. -/
theorem passing_key_converges :
    ∃ before woken final : Regions Unit Unit,
      Run (Regions.step epoch) (Regions.Paired epoch)
          (.initial exportedRedis exportedRedis) passingKey before ∧
        Regions.step epoch before (.receive ()) = some woken ∧
        Run (Regions.step epoch) (Regions.Delivering epoch ()) woken deliversEvent
          final ∧
        .retired "k-000000000002" ∈ final.source.log ∧ final.Converged () := by
  have executed : ((execute (Regions.step epoch)
      (fun regions action => regions.paired action = true)
      (.initial exportedRedis exportedRedis) passingKey).bind fun before =>
        (Regions.step epoch before (.receive ())).bind fun woken =>
          (execute (Regions.step epoch) unrestricted woken deliversEvent).map fun final =>
            decide ((before.target.nodes ()).main = .idle ∧
              (before.target.nodes ()).deliveries .ticker = .idle ∧
              (before.target.nodes ()).deliveries .subscription = .idle ∧
              (final.target.nodes ()).deliveries .subscription = .idle ∧
              before.target.redis.value = exportedRedis.value ∧
              final.source.log = [.retired "k-000000000002", .generated "k-000000000002"] ∧
              final.source.redis.value.map Snapshot.activeKeyID = some "k1")) = some true := by
    decide +kernel
  rcases Option.bind_eq_some_iff.mp executed with ⟨before, reached, executed⟩
  rcases Option.bind_eq_some_iff.mp executed with ⟨woken, received, executed⟩
  rcases Option.map_eq_some_iff.mp executed with ⟨final, ended, observed⟩
  rcases of_decide_eq_true observed with
    ⟨idle, ticker, subscription, done, stored, log, active⟩
  have run := passingKey_paired (.of_execute reached)
  have delivered := deliversEvent_delivering (.of_execute ended)
  have finished : ∀ worker, (before.target.nodes ()).deliveries worker = .idle := by
    intro worker
    cases worker with
    | ticker => exact ticker
    | subscription => exact subscription
  rcases forwarded_event_converges_iff exportedRedis_sound run idle finished received delivered
    done with ⟨body, value, converges⟩
  refine ⟨before, woken, final, run, received, delivered, by simp [log], converges.mpr ?_⟩
  rw [stored] at value
  cases value
  constructor
  · intro id retired role
    have same : id = "k-000000000002" := by simpa [log] using retired
    subst same
    rintro ⟨entry, listed, named, _⟩
    have ids : (encodeKeyRing epoch (KeyRing.empty.performAll exportedKeys)).keys.map
        SnapshotKey.id = ["k1"] := by
      decide +kernel
    have known : entry.id ∈ ["k1"] := ids ▸ List.mem_map_of_mem listed
    simp [named] at known
  · rw [active]
    decide +kernel

def takenOver : List (RegionAction Unit Unit) :=
  regionsUp ++ rotates (.generate .hs256) 2 ++ .receive () :: deliversEvent ++
    rotates (.promote "k-000000000002") 2 ++ .receive () :: deliversEvent ++
    rotates (.retire "k1") 2 ++ .receive () :: deliversEvent

/-- All events were forwarded and all delivers finished. The target verifies with the key
that the source has retired, and signs with it. -/
theorem retired_key_verifies_in_target :
    ∃ final, Run (Regions.step epoch) unrestricted
        (Regions.initial exportedRedis exportedRedis : Regions Unit Unit) takenOver final ∧
      final.queue = [] ∧ final.inbox () = [] ∧ (final.target.nodes ()).watching = true ∧
      (final.target.nodes ()).deliveries .subscription = .idle ∧
      .retired "k1" ∈ final.source.log ∧
      CanVerify (final.target.nodes ()).ring "k1" ∧
      (final.target.nodes ()).ring.active = "k1" ∧
      final.source.redis.value.map Snapshot.activeKeyID = some "k-000000000002" := by
  have executed : (execute (Regions.step epoch) unrestricted
      (Regions.initial exportedRedis exportedRedis : Regions Unit Unit) takenOver).map
        (fun final => decide (final.queue = [] ∧ final.inbox () = [] ∧
          (final.target.nodes ()).watching = true ∧
          (final.target.nodes ()).deliveries .subscription = .idle ∧
          .retired "k1" ∈ final.source.log ∧
          ((final.target.nodes ()).ring.get "k1").isOk = true ∧
          (final.target.nodes ()).ring.active = "k1" ∧
          final.source.redis.value.map Snapshot.activeKeyID = some "k-000000000002")) =
      some true := by
    decide +kernel
  rcases Run.exists_of_execute _ executed with ⟨final, run, observed⟩
  rcases of_decide_eq_true observed with
    ⟨queue, inbox, watching, done, retired, found, active, signing⟩
  refine ⟨final, run, queue, inbox, watching, done, retired, ?_, active, signing⟩
  cases looked : (final.target.nodes ()).ring.get "k1" with
  | ok key => exact ⟨key, looked⟩
  | error message =>
    rw [looked] at found
    cases found

end Parsec.Fleet
