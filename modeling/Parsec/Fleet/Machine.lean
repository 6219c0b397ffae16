import Parsec.Errors
import Parsec.Foundation.Execution
import Parsec.Auth.RedisKeyRingStore

/-! # Key rotation over a shared Redis

Any number of nodes, each with the goroutine that holds `keyMu` (`New`'s bootstrap and
`mutateKeys`) and the two goroutines of `Watch` that run `deliver`. Each action is one
step of one goroutine, so a run is an interleaving. -/

namespace Parsec.Fleet

open Foundation Auth

/-! ## Mutations -/

inductive Mutation
  | generate (alg : Alg)
  | promote (id : String)
  | retire (id : String)
  deriving DecidableEq

inductive Rotation
  | generated (id : String)
  | promoted (id : String)
  | retired (id : String)
  deriving DecidableEq

structure Draw where
  entropy : Entropy
  now : Int

def Draw.epoch (byte : UInt8) : Draw where
  entropy :=
    { keyID := some [0, 0, 0, 0, 0, byte]
      secret := some (List.replicate 32 byte)
      ed25519 := .error "no entropy"
      rsa := fun _ => .error "no entropy"
      ecdsa := fun _ => .error "no entropy" }
  now := 0

def Mutation.apply (draw : Draw) (ring : KeyRing) : Mutation → Except String Rotation × KeyRing
  | .generate alg =>
    match ring.generateAlg alg draw.entropy draw.now with
    | (.ok key, after) => (.ok (.generated key.id), after)
    | (.error message, after) =>
      (.error (wrap .invalidArgument "generate key" message), after)
  | .promote id =>
    match ring.promote id with
    | (.ok (), after) => (.ok (.promoted id), after)
    | (.error message, after) =>
      (.error (wrap .invalidArgument "promote key" message), after)
  | .retire id =>
    match ring.retire id draw.now with
    | (.ok (), after) => (.ok (.retired id), after)
    | (.error message, after) =>
      (.error (wrap .invalidArgument "retire key" message), after)

/-! ## Nodes -/

def maxKeyMutationAttempts : Nat := 5

/-- The goroutine that boots the node and then runs `mutateKeys` calls. From `apply` to
`reload` it holds `keyMu`. -/
inductive MainStage
  | down
  | ensure (stage : LoadStage)
  | mint
  | bootstrap (ring : KeyRing) (stage : SaveStage)
  | adopt (stage : LoadStage)
  | idle
  | apply (mutation : Mutation) (attempt : Nat)
  | persist (mutation : Mutation) (attempt : Nat) (rotation : Rotation) (stage : SaveStage)
  | reload (mutation : Mutation) (attempt : Nat) (stage : LoadStage)
  deriving DecidableEq

/-- The ticker goroutine and the subscription goroutine of `Watch`. -/
inductive Worker
  | ticker
  | subscription
  deriving DecidableEq

/-- A run of `deliver`. The version that a loaded ring was read at is carried along for the
proofs; the source does not keep it. -/
inductive DeliverStage
  | idle
  | load (stage : LoadStage)
  | loaded (version : Int) (ring : KeyRing)
  | compare (version : Int) (ring : KeyRing) (v : Int)
  | swap (version : Int) (ring : KeyRing) (v seen : Int)
  | notify (version : Int) (ring : KeyRing)
  deriving DecidableEq

/-- One process. `ringVersion` exists for the proofs only: the version whose stored ring
`ring` was before the running call changed it, `versionUnknown` once a failed call has
left an unsaved change behind. -/
structure Node where
  ring : KeyRing
  ringVersion : Int
  lastVersion : Int
  notified : Int
  watching : Bool
  main : MainStage
  deliveries : Worker → DeliverStage
  results : List (Except String Rotation)

namespace Node

def initial : Node where
  ring := KeyRing.empty
  ringVersion := versionUnknown
  lastVersion := versionUnknown
  notified := versionUnknown
  watching := false
  main := .down
  deliveries := fun _ => .idle
  results := []

def finish (node : Node) (result : Except String Rotation) : Node :=
  { node with main := .idle, results := result :: node.results }

def abandon (node : Node) (message : String) : Node :=
  { node with ringVersion := versionUnknown }.finish (.error message)

def adoptRing (node : Node) (version : Int) (ring : KeyRing) : Node :=
  { node with ring := ring, ringVersion := version }

def record (node : Node) (version : Int) : Node :=
  { node with lastVersion := version }

def setMain (node : Node) (stage : MainStage) : Node := { node with main := stage }

def setDelivery (node : Node) (worker : Worker) (stage : DeliverStage) : Node :=
  { node with deliveries := Function.update node.deliveries worker stage }

def restart (node : Node) : Node :=
  { initial with main := .ensure (.readVersion 0), results := node.results }

/-- What a step of the main goroutine leads to: Redis, the node, and the rotation if a
transaction of `mutateKeys` went through. -/
structure Advanced where
  redis : Redis
  node : Node
  committed : Option Rotation

def advanceEnsure (codec : Codec) (redis : Redis) (node : Node) (stage : LoadStage) : Node :=
  match stage.step codec redis with
  | .running next => node.setMain (.ensure next)
  | .loaded version ring => ((node.record version).adoptRing version ring).setMain .idle
  | .missing version => (node.record version).setMain .mint
  | .failed _ => node.setMain .down

def advanceMint (codec : Codec) (node : Node) (draw : Draw) : Node :=
  match Mutation.apply draw KeyRing.empty (.generate .hs256) with
  | (.error _, _) => node.setMain .down
  | (.ok _, ring) => node.setMain (.bootstrap ring (.readExpected (encodeKeyRing codec ring)))

/-- `Ensure`: save the first ring unless another node was faster. -/
def advanceBootstrap (redis : Redis) (node : Node) (ring : KeyRing) (stage : SaveStage) :
    Redis × Node :=
  match stage.step redis node.lastVersion with
  | .running next => (redis, node.setMain (.bootstrap ring next))
  | .committed written body =>
    ({ version := written, value := some body }, node.setMain (.bootstrap ring (.record written)))
  | .saved written =>
    (redis, ((node.record written).adoptRing written ring).setMain .idle)
  | .conflict => (redis, node.setMain (.adopt (.readVersion 0)))
  | .failed _ => (redis, node.setMain .down)

def advanceAdopt (codec : Codec) (redis : Redis) (node : Node) (stage : LoadStage) : Node :=
  match stage.step codec redis with
  | .running next => node.setMain (.adopt next)
  | .loaded version ring => ((node.record version).adoptRing version ring).setMain .idle
  | .missing version => (node.record version).setMain .down
  | .failed _ => node.setMain .down

def advanceApply (codec : Codec) (node : Node) (mutation : Mutation) (attempt : Nat)
    (draw : Draw) : Node :=
  match mutation.apply draw node.ring with
  | (.error message, ring) => { node with ring := ring }.finish (.error message)
  | (.ok rotation, ring) =>
    { node with ring := ring }.setMain
      (.persist mutation attempt rotation (.readExpected (encodeKeyRing codec ring)))

def advancePersist (redis : Redis) (node : Node) (mutation : Mutation) (attempt : Nat)
    (rotation : Rotation) (stage : SaveStage) : Advanced :=
  match stage.step redis node.lastVersion with
  | .running next => ⟨redis, node.setMain (.persist mutation attempt rotation next), none⟩
  | .committed written body =>
    ⟨{ version := written, value := some body },
      (node.adoptRing written node.ring).setMain
        (.persist mutation attempt rotation (.record written)), some rotation⟩
  | .saved written => ⟨redis, (node.record written).finish (.ok rotation), none⟩
  | .conflict => ⟨redis, node.setMain (.reload mutation attempt (.readVersion 0)), none⟩
  | .failed message =>
    ⟨redis, node.abandon (wrap .internal "persist keyring" message), none⟩

def reloadError (cause : String) : String :=
  wrap .internal "reload keyring after conflict" cause

def advanceReload (codec : Codec) (redis : Redis) (node : Node) (mutation : Mutation)
    (attempt : Nat) (stage : LoadStage) : Node :=
  match stage.step codec redis with
  | .running next => node.setMain (.reload mutation attempt next)
  | .loaded version fresh =>
    match loadSnapshot codec (fresh.snapshot codec) with
    | .error message => (node.record version).abandon (reloadError message)
    | .ok ring =>
      let reloaded := (node.record version).adoptRing version ring
      if attempt + 1 < maxKeyMutationAttempts then
        reloaded.setMain (.apply mutation (attempt + 1))
      else reloaded.finish (.error (wrap .internal "persist keyring" errKeyRingConflict))
  | .missing version =>
    (node.record version).abandon (reloadError (wrap .internal "reload keyring" errNotExist))
  | .failed message => node.abandon (reloadError (wrap .internal "reload keyring" message))

def advance (codec : Codec) (redis : Redis) (node : Node) (draw : Draw) : Option Advanced :=
  match node.main with
  | .down | .idle => none
  | .ensure stage => some ⟨redis, node.advanceEnsure codec redis stage, none⟩
  | .mint => some ⟨redis, node.advanceMint codec draw, none⟩
  | .bootstrap ring stage =>
    let moved := node.advanceBootstrap redis ring stage
    some ⟨moved.1, moved.2, none⟩
  | .adopt stage => some ⟨redis, node.advanceAdopt codec redis stage, none⟩
  | .apply mutation attempt =>
    some ⟨redis, node.advanceApply codec mutation attempt draw, none⟩
  | .persist mutation attempt rotation stage =>
    some (node.advancePersist redis mutation attempt rotation stage)
  | .reload mutation attempt stage =>
    some ⟨redis, node.advanceReload codec redis mutation attempt stage, none⟩

def onChange (codec : Codec) (node : Node) (version : Int) (fresh : KeyRing) : Node :=
  match loadSnapshot codec (fresh.snapshot codec) with
  | .error _ => node
  | .ok ring => node.adoptRing version ring

def deliver (codec : Codec) (redis : Redis) (node : Node) (worker : Worker) : Option Node :=
  match node.deliveries worker with
  | .idle => none
  | .load stage =>
    match stage.step codec redis with
    | .running next => some (node.setDelivery worker (.load next))
    | .loaded version ring =>
      some ((node.record version).setDelivery worker (.loaded version ring))
    | .missing version => some ((node.record version).setDelivery worker .idle)
    | .failed _ => some (node.setDelivery worker .idle)
  | .loaded version ring =>
    some (node.setDelivery worker (.compare version ring node.lastVersion))
  | .compare version ring v =>
    if v ≤ node.notified then some (node.setDelivery worker .idle)
    else some (node.setDelivery worker (.swap version ring v node.notified))
  | .swap version ring v seen =>
    if node.notified = seen then
      some ({ node with notified := v }.setDelivery worker (.notify version ring))
    else some (node.setDelivery worker (.compare version ring v))
  | .notify version ring =>
    match node.main with
    | .idle => some ((node.onChange codec version ring).setDelivery worker .idle)
    | _ => none

def isUp (node : Node) : Bool :=
  match node.main with
  | .idle | .apply .. | .persist .. | .reload .. => true
  | _ => false

end Node

/-! ## The fleet -/

inductive Action
  | boot
  | startWatch
  | call (mutation : Mutation)
  | advance (draw : Draw)
  | wake (worker : Worker)
  | deliver (worker : Worker)

/-- `log` lists the rotations whose transactions went through, newest first. It exists for
the statements only. -/
structure World (NodeId : Type) where
  redis : Redis
  nodes : NodeId → Node
  log : List Rotation

namespace World

variable {NodeId : Type}

def initial : World NodeId where
  redis := Redis.empty
  nodes := fun _ => Node.initial
  log := []

variable [DecidableEq NodeId]

def setNode (world : World NodeId) (name : NodeId) (node : Node) : World NodeId :=
  { world with nodes := Function.update world.nodes name node }

def step (codec : Codec) (world : World NodeId) (action : NodeId × Action) :
    Option (World NodeId) :=
  let name := action.1
  let node := world.nodes name
  match action.2 with
  | .boot =>
    match node.main with
    | .down => some (world.setNode name node.restart)
    | _ => none
  | .startWatch =>
    if node.isUp ∧ ¬node.watching then
      some (world.setNode name { node with watching := true, notified := node.lastVersion })
    else none
  | .call mutation =>
    match node.main with
    | .idle => some (world.setNode name (node.setMain (.apply mutation 0)))
    | _ => none
  | .advance draw =>
    match node.advance codec world.redis draw with
    | none => none
    | some advanced =>
      some { redis := advanced.redis
             nodes := Function.update world.nodes name advanced.node
             log := advanced.committed.toList ++ world.log }
  | .wake worker =>
    if node.watching then
      match node.deliveries worker with
      | .idle => some (world.setNode name (node.setDelivery worker (.load (.readVersion 0))))
      | _ => none
    else none
  | .deliver worker =>
    match node.deliver codec world.redis worker with
    | none => none
    | some next => some (world.setNode name next)

end World

def advances {NodeId : Type} (name : NodeId) (byte : UInt8) (count : Nat) :
    List (NodeId × Action) :=
  List.replicate count (name, .advance (.epoch byte))

def delivers {NodeId : Type} (name : NodeId) (worker : Worker) (count : Nat) :
    List (NodeId × Action) :=
  List.replicate count (name, .deliver worker)

def followActions : List (Bool × Action) :=
  (false, .boot) :: advances false 1 9 ++
    (true, .boot) :: advances true 1 4 ++ [(true, .startWatch)] ++
    (false, .call (.generate .hs256)) :: advances false 2 6

/-! ## What a step does

The step functions as relations, one constructor for each way a step can go, so that an invariant
is shown case by case without unfolding the functions again. -/

variable {redis : Redis} {lastVersion : Int} {stage : SaveStage} {written : Int}

theorem SaveStage.exec_of_committed {body : Snapshot}
    (moved : stage.step redis lastVersion = .committed written body) :
    ∃ attempt expected watched current, stage = .exec attempt body expected watched current ∧
      redis.version = watched := by
  cases stage with
  | readExpected _ | record _ => cases moved
  | watch _ _ _ | compare _ _ _ _ =>
    simp only [SaveStage.step] at moved
    split at moved <;> cases moved
  | exec attempt other expected watched current =>
    simp only [SaveStage.step] at moved
    split at moved
    · rename_i untouched
      cases moved
      exact ⟨attempt, expected, watched, current, rfl, untouched⟩
    · cases moved

theorem SaveStage.record_of_saved (moved : stage.step redis lastVersion = .saved written) :
    stage = .record written := by
  cases stage with
  | record other =>
    cases moved
    rfl
  | readExpected _ => cases moved
  | watch _ _ _ | compare _ _ _ _ | exec _ _ _ _ _ =>
    simp only [SaveStage.step] at moved
    split at moved <;> cases moved

theorem SaveStage.ne_record_of_running {next : SaveStage}
    (moved : stage.step redis lastVersion = .running next) (written : Int) :
    next ≠ .record written := by
  rintro rfl
  cases stage with
  | readExpected _ | record _ => cases moved
  | watch _ _ _ | compare _ _ _ _ | exec _ _ _ _ _ =>
    simp only [SaveStage.step] at moved
    split at moved <;> cases moved

namespace Node

variable {codec : Codec} {redis : Redis} {node : Node}

/-- Both `Load`s of `Ensure`: they differ in what follows when nothing is stored. -/
def advanceLoad (codec : Codec) (redis : Redis) (node : Node) (again : LoadStage → MainStage)
    (absent : MainStage) (stage : LoadStage) : Node :=
  match stage.step codec redis with
  | .running next => node.setMain (again next)
  | .loaded version ring => ((node.record version).adoptRing version ring).setMain .idle
  | .missing version => (node.record version).setMain absent
  | .failed _ => node.setMain .down

inductive Advances (codec : Codec) (redis : Redis) (node : Node) (draw : Draw) :
    Advanced → Prop
  | ensure {stage : _} : node.main = .ensure stage →
      Advances codec redis node draw ⟨redis, node.advanceLoad codec redis .ensure .mint stage, none⟩
  | mint : node.main = .mint →
      Advances codec redis node draw ⟨redis, node.advanceMint codec draw, none⟩
  | bootstrap {ring stage : _} : node.main = .bootstrap ring stage →
      Advances codec redis node draw ⟨(node.advanceBootstrap redis ring stage).1,
        (node.advanceBootstrap redis ring stage).2, none⟩
  | adopt {stage : _} : node.main = .adopt stage →
      Advances codec redis node draw ⟨redis, node.advanceLoad codec redis .adopt .down stage, none⟩
  | apply {mutation attempt} : node.main = .apply mutation attempt →
      Advances codec redis node draw ⟨redis, node.advanceApply codec mutation attempt draw, none⟩
  | persist {mutation attempt rotation stage : _} :
      node.main = .persist mutation attempt rotation stage →
      Advances codec redis node draw (node.advancePersist redis mutation attempt rotation stage)
  | reload {mutation attempt stage : _} :
      node.main = .reload mutation attempt stage →
      Advances codec redis node draw
        ⟨redis, node.advanceReload codec redis mutation attempt stage, none⟩

theorem advances_of_advance {draw : Draw} {advanced : Advanced}
    (taken : node.advance codec redis draw = some advanced) :
    Advances codec redis node draw advanced := by
  unfold advance at taken
  cases main : node.main with
  | down | idle => simp [main] at taken
  | ensure stage =>
    simp only [main, Option.some.injEq] at taken
    exact taken ▸ .ensure main
  | mint =>
    simp only [main, Option.some.injEq] at taken
    exact taken ▸ .mint main
  | bootstrap ring stage =>
    simp only [main, Option.some.injEq] at taken
    exact taken ▸ .bootstrap main
  | adopt stage =>
    simp only [main, Option.some.injEq] at taken
    exact taken ▸ .adopt main
  | apply mutation attempt =>
    simp only [main, Option.some.injEq] at taken
    exact taken ▸ .apply main
  | persist mutation attempt rotation stage =>
    simp only [main, Option.some.injEq] at taken
    exact taken ▸ .persist main
  | reload mutation attempt stage =>
    simp only [main, Option.some.injEq] at taken
    exact taken ▸ .reload main

inductive Delivers (codec : Codec) (redis : Redis) (node : Node) (worker : Worker) :
    Node → Prop
  | running {stage next : _} : node.deliveries worker = .load stage →
      stage.step codec redis = .running next →
      Delivers codec redis node worker (node.setDelivery worker (.load next))
  | loaded {stage version ring : _} :
      node.deliveries worker = .load stage → stage.step codec redis = .loaded version ring →
      Delivers codec redis node worker
        ((node.record version).setDelivery worker (.loaded version ring))
  | missing {stage version : _} : node.deliveries worker = .load stage →
      stage.step codec redis = .missing version →
      Delivers codec redis node worker ((node.record version).setDelivery worker .idle)
  | failed {stage : _} : node.deliveries worker = .load stage →
      Delivers codec redis node worker (node.setDelivery worker .idle)
  | readVersion {version ring} :
      node.deliveries worker = .loaded version ring →
      Delivers codec redis node worker
        (node.setDelivery worker (.compare version ring node.lastVersion))
  | old {version v ring} : node.deliveries worker = .compare version ring v →
      Delivers codec redis node worker (node.setDelivery worker .idle)
  | newer {version v ring} :
      node.deliveries worker = .compare version ring v →
      Delivers codec redis node worker
        (node.setDelivery worker (.swap version ring v node.notified))
  | swapped {version v ring} :
      node.deliveries worker = .swap version ring v node.notified →
      Delivers codec redis node worker
        ({ node with notified := v }.setDelivery worker (.notify version ring))
  | overtaken {version v seen ring} :
      node.deliveries worker = .swap version ring v seen →
      Delivers codec redis node worker (node.setDelivery worker (.compare version ring v))
  | notified {version ring} : node.deliveries worker = .notify version ring →
      node.main = .idle →
      Delivers codec redis node worker ((node.onChange codec version ring).setDelivery worker .idle)

variable {worker : Worker} {next : Node} (taken : node.deliver codec redis worker = some next)
include taken

theorem delivers_of_deliver : Delivers codec redis node worker next := by
  unfold deliver at taken
  cases stage : node.deliveries worker with
  | idle => simp [stage] at taken
  | load running =>
    simp only [stage] at taken
    split at taken <;> cases taken
    · exact .running stage (by assumption)
    · exact .loaded stage (by assumption)
    · exact .missing stage (by assumption)
    · exact .failed stage
  | loaded version ring =>
    simp only [stage, Option.some.injEq] at taken
    exact taken ▸ .readVersion stage
  | compare version ring v =>
    simp only [stage] at taken
    split at taken <;> cases taken
    · exact .old stage
    · exact .newer stage
  | swap version ring v seen =>
    simp only [stage] at taken
    split at taken
    · rename_i unmoved
      subst unmoved
      cases taken
      exact .swapped stage
    · cases taken
      exact .overtaken stage
  | notify version ring =>
    simp only [stage] at taken
    split at taken
    · rename_i idle
      cases taken
      exact .notified stage idle
    · cases taken

theorem deliver_frame :
    next.main = node.main ∧ next.results = node.results ∧
      (node.main = .idle ∨ next.ring = node.ring ∧ next.ringVersion = node.ringVersion) := by
  cases delivers_of_deliver taken with
  | notified _ idle =>
    unfold onChange
    split <;> exact ⟨rfl, rfl, .inl idle⟩
  | running _ _ | loaded _ _ | missing _ _ | failed _ | readVersion _ | old _ | newer _
  | swapped _ | overtaken _ => exact ⟨rfl, rfl, .inr ⟨rfl, rfl⟩⟩

end Node

namespace World

variable {NodeId : Type} [DecidableEq NodeId]

inductive Steps (codec : Codec) (world : World NodeId) (name : NodeId) :
    Action → World NodeId → Prop
  | boot : (world.nodes name).main = .down →
      Steps codec world name .boot (world.setNode name (world.nodes name).restart)
  | startWatch : (world.nodes name).isUp = true → (world.nodes name).watching = false →
      Steps codec world name .startWatch (world.setNode name
        { world.nodes name with
          watching := true, notified := (world.nodes name).lastVersion })
  | call {mutation} : (world.nodes name).main = .idle →
      Steps codec world name (.call mutation)
        (world.setNode name ((world.nodes name).setMain (.apply mutation 0)))
  | advance {draw advanced} :
      (world.nodes name).advance codec world.redis draw = some advanced →
      Steps codec world name (.advance draw)
        { redis := advanced.redis
          nodes := Function.update world.nodes name advanced.node
          log := advanced.committed.toList ++ world.log }
  | wake {worker} : (world.nodes name).watching = true →
      (world.nodes name).deliveries worker = .idle →
      Steps codec world name (.wake worker) (world.setNode name
        ((world.nodes name).setDelivery worker (.load (.readVersion 0))))
  | deliver {worker node} :
      (world.nodes name).deliver codec world.redis worker = some node →
      Steps codec world name (.deliver worker) (world.setNode name node)

variable {world : World NodeId} {name : NodeId}
  {codec : Codec} {next : World NodeId} {action : Action}

theorem steps_of_step (taken : world.step codec (name, action) = some next) :
    Steps codec world name action next := by
  cases action with
  | boot =>
    simp only [step] at taken
    split at taken <;> cases taken
    rename_i down
    exact .boot down
  | startWatch =>
    simp only [step] at taken
    split at taken <;> cases taken
    rename_i off
    exact .startWatch off.1 (by simpa using off.2)
  | call mutation =>
    simp only [step] at taken
    split at taken <;> cases taken
    rename_i idle
    exact .call idle
  | advance draw =>
    simp only [step] at taken
    split at taken <;> cases taken
    rename_i moved
    exact .advance moved
  | wake worker =>
    simp only [step] at taken
    split at taken
    · rename_i watching
      split at taken <;> cases taken
      rename_i idle
      exact .wake watching idle
    · cases taken
  | deliver worker =>
    simp only [step] at taken
    split at taken <;> cases taken
    rename_i moved
    exact .deliver moved

@[simp] theorem setNode_same (world : World NodeId) (name : NodeId) (node : Node) :
    (world.setNode name node).nodes name = node := by
  simp [setNode]

variable {other : NodeId}

private theorem setNode_other (world : World NodeId) (node : Node) (different : other ≠ name) :
    (world.setNode name node).nodes other = world.nodes other := by
  simp [setNode, different]

theorem Steps.other_node (steps : Steps codec world name action next) (different : other ≠ name) :
    next.nodes other = world.nodes other := by
  cases steps with
  | boot | startWatch | call | wake | deliver => exact world.setNode_other _ different
  | advance => exact Function.update_of_ne different _ _

theorem forall_setNode {holds : Node → Prop} {node : Node}
    (before : ∀ other, holds (world.nodes other)) (after : holds node) :
    ∀ other, holds ((world.setNode name node).nodes other) :=
  (Function.forall_update_iff world.nodes fun _ => holds).mpr ⟨after, fun other _ => before other⟩

end World

end Parsec.Fleet
