import Parsec.Fleet.Machine

/-! # What a node remembers is sound

In every run, whatever the interleaving: the counters of a node never exceed the
version in Redis, and every ring that a goroutine holds together with a version is
the stored ring if that version is still the current one. -/

namespace Parsec.Fleet

open Foundation Auth

inductive Applied (draw : Draw) (ring : KeyRing) : Rotation → KeyRing → Prop
  | generated {key} : ring.Accepts key →
      KeyRing.Generated draw.entropy draw.now key →
      Applied draw ring (.generated key.id) (ring.installed key)
  | promoted {id key} : ring.byID[id]? = some key → key.role ≠ .retired →
      Applied draw ring (.promoted id) (ring.promoted id)
  | retired {id key} : ring.byID[id]? = some key → id ≠ ring.active →
      Applied draw ring (.retired id) (ring.retired id draw.now)
  | retiredBefore {id key} : ring.byID[id]? = some key →
      key.role = .retired → Applied draw ring (.retired id) ring

theorem Mutation.apply_cases (mutation : Mutation) (draw : Draw) (ring : KeyRing) :
    (∃ message, mutation.apply draw ring = (.error message, ring)) ∨
      ∃ rotation after, mutation.apply draw ring = (.ok rotation, after) ∧
        Applied draw ring rotation after := by
  cases mutation with
  | generate alg =>
    simp only [Mutation.apply]
    rcases ring.generateAlg_adds alg draw.entropy draw.now with
      ⟨text, equal⟩ | ⟨key, accepted, made, equal⟩
    · exact .inl ⟨_, by rw [equal]⟩
    · exact .inr ⟨_, _, by rw [equal], .generated accepted made⟩
  | promote id =>
    simp only [Mutation.apply]
    rcases ring.promote_cases id with ⟨text, equal⟩ | ⟨key, known, live, equal⟩
    · exact .inl ⟨_, by rw [equal]⟩
    · exact .inr ⟨_, _, by rw [equal], .promoted known live⟩
  | retire id =>
    simp only [Mutation.apply]
    rcases ring.retire_cases id draw.now with
      ⟨text, equal⟩ | ⟨key, known, ⟨gone, equal⟩ | ⟨_, idle, equal⟩⟩
    · exact .inl ⟨_, by rw [equal]⟩
    · exact .inr ⟨_, _, by rw [equal], .retiredBefore known gone⟩
    · exact .inr ⟨_, _, by rw [equal], .retired known idle⟩

variable {draw : Draw} {ring after : KeyRing} {rotation : Rotation}

theorem Mutation.applied_of_ok {mutation : Mutation}
    (succeeded : mutation.apply draw ring = (.ok rotation, after)) :
    Applied draw ring rotation after := by
  rcases mutation.apply_cases draw ring with ⟨message, equal⟩ | ⟨_, _, equal, applied⟩
  · rw [equal] at succeeded
    cases succeeded
  · rw [equal] at succeeded
    cases succeeded
    exact applied

theorem Mutation.eq_of_error {mutation : Mutation} {message : String}
    (failed : mutation.apply draw ring = (.error message, after)) : after = ring := by
  rcases mutation.apply_cases draw ring with ⟨message, equal⟩ | ⟨_, _, equal, _⟩
  · rw [equal] at failed
    cases failed
    rfl
  · rw [equal] at failed
    cases failed

theorem Applied.change (applied : Applied draw ring rotation after) : ring.Change after := by
  cases applied with
  | generated accepted made => exact .installed accepted
  | promoted known live => exact .promoted known live
  | retired known idle => exact .retired _ known idle
  | retiredBefore known gone => exact .unchanged

section

variable {codec : Codec} (reading : Reading codec)

structure Closed (admits : Draw → Prop) : Prop where
  empty : reading.Valid KeyRing.empty
  applied : ∀ {draw : Draw} {ring after : KeyRing} {rotation : Rotation}, admits draw →
    reading.Valid ring → Applied draw ring rotation after → reading.Valid after

def SoundDelivery (redis : Redis) : DeliverStage → Prop
  | .idle => True
  | .load stage => reading.SoundLoad redis stage
  | .loaded version ring | .notify version ring => reading.Current redis version ring
  | .compare version ring v | .swap version ring v _ =>
    reading.Current redis version ring ∧ v ≤ redis.version

/-- Before `New` returns nothing watches; afterwards the store knows a version. -/
def SoundMain (redis : Redis) (node : Node) : MainStage → Prop
  | .down => node.watching = false
  | .ensure stage | .adopt stage => node.watching = false ∧ reading.SoundLoad redis stage
  | .mint => node.watching = false ∧ node.lastVersion = 0
  | .bootstrap ring stage => node.watching = false ∧ node.lastVersion = 0 ∧
      reading.Valid ring ∧ reading.SoundSave redis ring stage
  | .idle | .apply _ _ => 0 ≤ node.lastVersion ∧
      reading.Current redis node.ringVersion node.ring
  | .persist _ _ _ stage => 0 ≤ node.lastVersion ∧ reading.Valid node.ring ∧
      reading.SoundSave redis node.ring stage ∧
      ∀ written, stage = .record written → node.ringVersion = written
  | .reload _ _ stage => 0 ≤ node.lastVersion ∧ reading.Valid node.ring ∧
      reading.SoundLoad redis stage

structure Node.Sound (redis : Redis) (node : Node) : Prop where
  lastVersion : node.lastVersion ≤ redis.version
  notified : node.notified ≤ redis.version
  main : SoundMain reading redis node node.main
  deliveries : ∀ worker, SoundDelivery reading redis (node.deliveries worker)
  unwatched : node.watching = false → ∀ worker, node.deliveries worker = .idle

structure World.Sound {NodeId : Type} (world : World NodeId) : Prop where
  redis : reading.SoundRedis world.redis
  nodes : ∀ name, (world.nodes name).Sound reading world.redis

variable {reading} {redis : Redis} {node : Node}

variable {stage : DeliverStage}

theorem SoundDelivery.write (sound : SoundDelivery reading redis stage) (value : Option Snapshot) :
    SoundDelivery reading (redis.write value) stage := by
  cases stage with
  | idle => trivial
  | load stage => exact Reading.SoundLoad.write sound value
  | loaded version ring | notify version ring => exact Reading.Current.write sound value
  | compare version ring v | swap version ring v seen =>
    exact ⟨sound.1.write value, by simp only [Versioned.write_version]; have := sound.2; omega⟩

theorem SoundMain.write {stage : MainStage} (sound : SoundMain reading redis node stage)
    (value : Option Snapshot) : SoundMain reading (redis.write value) node stage := by
  cases stage with
  | down | mint => exact sound
  | ensure stage | adopt stage | idle | apply mutation attempt =>
    exact ⟨sound.1, sound.2.write value⟩
  | bootstrap ring stage =>
    exact ⟨sound.1, sound.2.1, sound.2.2.1, sound.2.2.2.write value⟩
  | persist mutation attempt rotation stage =>
    exact ⟨sound.1, sound.2.1, sound.2.2.1.write value, sound.2.2.2⟩
  | reload mutation attempt stage => exact ⟨sound.1, sound.2.1, sound.2.2.write value⟩

theorem Node.Sound.write (sound : node.Sound reading redis) (value : Option Snapshot) :
    node.Sound reading (redis.write value) where
  lastVersion := by
    have bound := sound.lastVersion
    simp only [Versioned.write_version]
    omega
  notified := by
    have bound := sound.notified
    simp only [Versioned.write_version]
    omega
  main := sound.main.write value
  deliveries := fun worker => (sound.deliveries worker).write value
  unwatched := sound.unwatched

/-! ## Steps of the main goroutine -/

variable {next : Node}

section

variable (sound : node.Sound reading redis)
include sound

theorem Node.Sound.main_at {stage : MainStage} (at_ : node.main = stage) :
    SoundMain reading redis node stage :=
  at_ ▸ sound.main

theorem Node.Sound.of_main
    (same : next.deliveries = node.deliveries ∧ next.watching = node.watching ∧
      next.notified = node.notified) (bound : next.lastVersion ≤ redis.version)
    (main : SoundMain reading redis next next.main) : next.Sound reading redis where
  lastVersion := bound
  notified := same.2.2 ▸ sound.notified
  main := main
  deliveries := same.1 ▸ sound.deliveries
  unwatched := by
    rw [same.1, same.2.1]
    exact sound.unwatched

theorem Node.Sound.advanceLoad {again : LoadStage → MainStage} {absent : MainStage}
    {stage : LoadStage} (store : reading.SoundRedis redis) (unwatched : node.watching = false)
    (running : reading.SoundLoad redis stage)
    (resumes : ∀ next, reading.SoundLoad redis next →
      SoundMain reading redis (node.setMain (again next)) (again next))
    (gives : SoundMain reading redis ((node.record 0).setMain absent) absent) :
    (node.advanceLoad codec redis again absent stage).Sound reading redis := by
  have progress := running.step store
  unfold Node.advanceLoad
  cases moved : stage.step codec redis with
  | running next =>
    rw [moved] at progress
    exact sound.of_main ⟨rfl, rfl, rfl⟩ sound.lastVersion (resumes next progress)
  | loaded version ring =>
    rw [moved] at progress
    exact sound.of_main ⟨rfl, rfl, rfl⟩ progress.2.seen ⟨progress.1.le, progress.2⟩
  | missing version =>
    rw [moved] at progress
    have zero : version = 0 := progress
    subst zero
    exact sound.of_main ⟨rfl, rfl, rfl⟩ store.nonnegative gives
  | failed message =>
    exact sound.of_main ⟨rfl, rfl, rfl⟩ sound.lastVersion unwatched

end

variable {draw : Draw}

theorem Node.Sound.advanceMint {admits : Draw → Prop} (closed : Closed reading admits)
    (admitted : admits draw) (sound : node.Sound reading redis) (at_ : node.main = .mint) :
    (node.advanceMint codec draw).Sound reading redis := by
  rcases sound.main_at at_ with ⟨unwatched, zero⟩
  unfold Node.advanceMint
  rcases minted : Mutation.apply draw KeyRing.empty (.generate .hs256) with ⟨result, ring⟩
  cases result with
  | error message => exact sound.of_main ⟨rfl, rfl, rfl⟩ sound.lastVersion unwatched
  | ok rotation =>
    have valid := closed.applied admitted closed.empty (Mutation.applied_of_ok minted)
    exact sound.of_main ⟨rfl, rfl, rfl⟩ sound.lastVersion ⟨unwatched, zero, valid, rfl⟩

def Written (reading : Reading codec) (redis after : Redis) (committed : Option Rotation) : Prop :=
  (after = redis ∧ committed = none) ∨ ∃ ring, reading.Valid ring ∧
    after = redis.write (some (encodeKeyRing codec ring))

variable {ring : KeyRing}

theorem redis_eq_write {written : Int} {body : Snapshot}
    (progress : written = redis.version + 1 ∧ body = encodeKeyRing codec ring) :
    ({ version := written, value := some body } : Redis) =
      redis.write (some (encodeKeyRing codec ring)) := by
  rcases progress with ⟨rfl, rfl⟩
  rfl

theorem Node.Sound.advanceBootstrap {stage : SaveStage} (sound : node.Sound reading redis)
    (at_ : node.main = .bootstrap ring stage) :
    Written reading redis (node.advanceBootstrap redis ring stage).1 none ∧
      (node.advanceBootstrap redis ring stage).2.Sound reading
        (node.advanceBootstrap redis ring stage).1 := by
  rcases sound.main_at at_ with ⟨unwatched, zero, valid, running⟩
  have progress := running.step node.lastVersion
  unfold Node.advanceBootstrap
  cases moved : stage.step redis node.lastVersion with
  | running next =>
    rw [moved] at progress
    exact ⟨.inl ⟨rfl, rfl⟩, sound.of_main ⟨rfl, rfl, rfl⟩ sound.lastVersion
      ⟨unwatched, zero, valid, progress⟩⟩
  | committed written body =>
    rw [moved] at progress
    have nonnegative := zero ▸ sound.lastVersion
    simp only [redis_eq_write progress]
    refine ⟨.inr ⟨ring, valid, rfl⟩, ?_⟩
    refine (sound.write _).of_main ⟨rfl, rfl, rfl⟩ (sound.write _).lastVersion
      ⟨unwatched, zero, valid, ?_⟩
    rw [progress.1]
    exact ⟨.of_write valid, by omega⟩
  | saved written =>
    rw [moved] at progress
    exact ⟨.inl ⟨rfl, rfl⟩, sound.of_main ⟨rfl, rfl, rfl⟩ progress.1.seen
      ⟨progress.2.le, progress.1⟩⟩
  | conflict =>
    exact ⟨.inl ⟨rfl, rfl⟩, sound.of_main ⟨rfl, rfl, rfl⟩ sound.lastVersion ⟨unwatched, trivial⟩⟩
  | failed message =>
    exact ⟨.inl ⟨rfl, rfl⟩, sound.of_main ⟨rfl, rfl, rfl⟩ sound.lastVersion unwatched⟩

variable {mutation : Mutation} {attempt : Nat}

theorem Node.Sound.advanceApply {admits : Draw → Prop} (closed : Closed reading admits)
    (admitted : admits draw) (sound : node.Sound reading redis)
    (at_ : node.main = .apply mutation attempt) :
    (node.advanceApply codec mutation attempt draw).Sound reading redis := by
  rcases sound.main_at at_ with ⟨known, current⟩
  unfold Node.advanceApply
  rcases applied : mutation.apply draw node.ring with ⟨result, ring⟩
  cases result with
  | error message =>
    rw [Mutation.eq_of_error applied]
    exact sound.of_main ⟨rfl, rfl, rfl⟩ sound.lastVersion ⟨known, current⟩
  | ok rotation =>
    have valid := closed.applied admitted current.valid (Mutation.applied_of_ok applied)
    refine sound.of_main ⟨rfl, rfl, rfl⟩ sound.lastVersion ⟨known, valid, rfl, ?_⟩
    intro written same
    cases same

theorem Node.Sound.advancePersist {rotation : Rotation} {stage : SaveStage}
    (sound : node.Sound reading redis) (store : reading.SoundRedis redis)
    (at_ : node.main = .persist mutation attempt rotation stage) :
    Written reading redis (node.advancePersist redis mutation attempt rotation stage).redis
        (node.advancePersist redis mutation attempt rotation stage).committed ∧
      (node.advancePersist redis mutation attempt rotation stage).node.Sound reading
        (node.advancePersist redis mutation attempt rotation stage).redis := by
  rcases sound.main_at at_ with ⟨known, valid, running, recorded⟩
  have progress := running.step node.lastVersion
  unfold Node.advancePersist
  cases moved : stage.step redis node.lastVersion with
  | running next =>
    rw [moved] at progress
    exact ⟨.inl ⟨rfl, rfl⟩, sound.of_main ⟨rfl, rfl, rfl⟩ sound.lastVersion
      ⟨known, valid, progress, fun written same =>
        absurd same (SaveStage.ne_record_of_running moved written)⟩⟩
  | committed written body =>
    rw [moved] at progress
    have nonnegative := store.nonnegative
    simp only [redis_eq_write progress]
    refine ⟨.inr ⟨node.ring, valid, rfl⟩, ?_⟩
    refine (sound.write _).of_main ⟨rfl, rfl, rfl⟩ (sound.write _).lastVersion
      ⟨known, valid, ?_, ?_⟩
    · rw [progress.1]
      exact ⟨.of_write valid, by omega⟩
    · intro other same
      cases same
      rfl
  | saved written =>
    rw [moved] at progress
    have version : node.ringVersion = written :=
      recorded written (SaveStage.record_of_saved moved)
    refine ⟨.inl ⟨rfl, rfl⟩, sound.of_main ⟨rfl, rfl, rfl⟩ progress.1.seen ⟨progress.2.le, ?_⟩⟩
    change reading.Current redis node.ringVersion node.ring
    rw [version]
    exact progress.1
  | conflict =>
    exact ⟨.inl ⟨rfl, rfl⟩, sound.of_main ⟨rfl, rfl, rfl⟩ sound.lastVersion ⟨known, valid, trivial⟩⟩
  | failed message =>
    exact ⟨.inl ⟨rfl, rfl⟩, sound.of_main ⟨rfl, rfl, rfl⟩ sound.lastVersion
      ⟨known, .unknown store valid⟩⟩

theorem Node.Sound.advanceReload {stage : LoadStage} (sound : node.Sound reading redis)
    (store : reading.SoundRedis redis) (at_ : node.main = .reload mutation attempt stage) :
    (node.advanceReload codec redis mutation attempt stage).Sound reading redis := by
  rcases sound.main_at at_ with ⟨known, valid, running⟩
  have progress := running.step store
  unfold Node.advanceReload
  cases moved : stage.step codec redis with
  | running next =>
    rw [moved] at progress
    exact sound.of_main ⟨rfl, rfl, rfl⟩ sound.lastVersion ⟨known, valid, progress⟩
  | loaded version fresh =>
    rw [moved] at progress
    rcases progress with ⟨positive, current⟩
    have nonnegative := positive.le
    simp only
    cases loaded : loadSnapshot codec (fresh.snapshot codec) with
    | error message =>
      exact sound.of_main ⟨rfl, rfl, rfl⟩ current.seen ⟨nonnegative, .unknown store valid⟩
    | ok ring =>
      have reloaded := current.reload loaded
      simp only
      split <;> exact sound.of_main ⟨rfl, rfl, rfl⟩ current.seen ⟨nonnegative, reloaded⟩
  | missing version =>
    rw [moved] at progress
    have zero : version = 0 := progress
    exact sound.of_main ⟨rfl, rfl, rfl⟩ (zero ▸ store.nonnegative)
      ⟨zero.symm.le, .unknown store valid⟩
  | failed message =>
    exact sound.of_main ⟨rfl, rfl, rfl⟩ sound.lastVersion ⟨known, .unknown store valid⟩

theorem Node.Sound.advance {admits : Draw → Prop} {advanced : Node.Advanced}
    (closed : Closed reading admits) (admitted : admits draw) (sound : node.Sound reading redis)
    (store : reading.SoundRedis redis) (taken : node.advance codec redis draw = some advanced) :
    Written reading redis advanced.redis advanced.committed ∧
      advanced.node.Sound reading advanced.redis := by
  cases Node.advances_of_advance taken with
  | ensure at_ =>
    have main := sound.main_at at_
    exact ⟨.inl ⟨rfl, rfl⟩, sound.advanceLoad store main.1 main.2
      (fun _ load => ⟨main.1, load⟩) ⟨main.1, rfl⟩⟩
  | mint at_ => exact ⟨.inl ⟨rfl, rfl⟩, sound.advanceMint closed admitted at_⟩
  | bootstrap at_ => exact sound.advanceBootstrap at_
  | adopt at_ =>
    have main := sound.main_at at_
    exact ⟨.inl ⟨rfl, rfl⟩, sound.advanceLoad store main.1 main.2
      (fun _ load => ⟨main.1, load⟩) main.1⟩
  | apply at_ => exact ⟨.inl ⟨rfl, rfl⟩, sound.advanceApply closed admitted at_⟩
  | persist at_ => exact sound.advancePersist store at_
  | reload at_ => exact ⟨.inl ⟨rfl, rfl⟩, sound.advanceReload store at_⟩

/-! ## Steps of a watcher -/

variable {worker : Worker}

section

variable (sound : node.Sound reading redis)
include sound

theorem Node.Sound.watching_of_deliver (taken : node.deliver codec redis worker = some next) :
    node.watching = true := by
  by_contra unwatched
  have idle := sound.unwatched (by simpa using unwatched) worker
  simp [Node.deliver, idle] at taken

theorem Node.Sound.setDelivery (watching : node.watching = true) {stage : DeliverStage}
    (delivery : SoundDelivery reading redis stage) :
    (node.setDelivery worker stage).Sound reading redis where
  lastVersion := sound.lastVersion
  notified := sound.notified
  main := sound.main
  deliveries := by
    intro other
    by_cases same : other = worker
    · subst same
      simpa [Node.setDelivery] using delivery
    · simpa [Node.setDelivery, same] using sound.deliveries other
  unwatched := by
    intro unwatched
    exact absurd (watching.symm.trans unwatched) (by decide)

variable {version : Int}

theorem Node.Sound.record (watching : node.watching = true) (known : 0 ≤ version)
    (seen : version ≤ redis.version) : (node.record version).Sound reading redis where
  lastVersion := seen
  notified := sound.notified
  main := by
    change SoundMain reading redis (node.record version) node.main
    cases stage : node.main with
    | down | ensure _ | mint | bootstrap _ _ | adopt _ =>
      simpa [SoundMain, watching] using sound.main_at stage
    | idle | apply _ _ | persist _ _ _ _ | reload _ _ _ =>
      exact ⟨known, (sound.main_at stage).2⟩
  deliveries := sound.deliveries
  unwatched := sound.unwatched

theorem Node.Sound.onChange {fresh : KeyRing} (idle : node.main = .idle)
    (current : reading.Current redis version fresh) :
    (node.onChange codec version fresh).Sound reading redis := by
  unfold Node.onChange
  cases loaded : loadSnapshot codec (fresh.snapshot codec) with
  | error message => exact sound
  | ok ring =>
    have main := sound.main_at idle
    refine sound.of_main ⟨rfl, rfl, rfl⟩ sound.lastVersion ?_
    change SoundMain reading redis _ node.main
    rw [idle]
    exact ⟨main.1, current.reload loaded⟩

end

theorem Node.onChange_watching (codec : Codec) (node : Node) (version : Int) (fresh : KeyRing) :
    (node.onChange codec version fresh).watching = node.watching := by
  unfold Node.onChange
  split <;> rfl

theorem Node.Sound.delivery_at (sound : node.Sound reading redis)
    (at_ : node.deliveries worker = stage) : SoundDelivery reading redis stage :=
  at_ ▸ sound.deliveries worker

theorem Node.Sound.deliver (sound : node.Sound reading redis) (store : reading.SoundRedis redis)
    (taken : node.deliver codec redis worker = some next) : next.Sound reading redis := by
  have watching := sound.watching_of_deliver taken
  cases Node.delivers_of_deliver taken with
  | running stage moved =>
    have progress := Reading.SoundLoad.step store (sound.delivery_at stage)
    rw [moved] at progress
    exact sound.setDelivery watching progress
  | loaded stage moved =>
    have progress := Reading.SoundLoad.step store (sound.delivery_at stage)
    rw [moved] at progress
    exact (sound.record watching progress.1.le progress.2.seen).setDelivery watching progress.2
  | @missing _ version stage moved =>
    have progress := Reading.SoundLoad.step store (sound.delivery_at stage)
    rw [moved] at progress
    have zero : version = 0 := progress
    exact (sound.record watching zero.symm.le (zero ▸ store.nonnegative)).setDelivery
      watching trivial
  | failed stage | old stage => exact sound.setDelivery watching trivial
  | readVersion stage =>
    exact sound.setDelivery watching ⟨sound.delivery_at stage, sound.lastVersion⟩
  | newer stage | overtaken stage =>
    have delivery := sound.delivery_at stage
    exact sound.setDelivery watching delivery
  | @swapped _ v _ stage =>
    have delivery := sound.delivery_at stage
    have advanced : ({ node with notified := v } : Node).Sound reading redis :=
      { sound with notified := delivery.2 }
    exact advanced.setDelivery watching delivery.1
  | @notified version ring stage idle =>
    exact (sound.onChange idle (sound.delivery_at stage)).setDelivery
      ((Node.onChange_watching codec node version ring).trans watching) trivial

/-! ## Runs -/

theorem Node.Sound.initial (store : reading.SoundRedis redis) :
    Node.initial.Sound reading redis := by
  have nonnegative := store.nonnegative
  constructor
  · change (-1 : Int) ≤ _
    omega
  · change (-1 : Int) ≤ _
    omega
  · exact rfl
  · exact fun _ => trivial
  · exact fun _ _ => rfl

theorem Node.Sound.restart (store : reading.SoundRedis redis) (node : Node) :
    node.restart.Sound reading redis :=
  { Node.Sound.initial store with main := ⟨rfl, trivial⟩ }

end

section Runs

variable {codec : Codec} {reading : Reading codec} {NodeId : Type}

theorem World.initial_sound : (World.initial : World NodeId).Sound reading :=
  ⟨Reading.soundRedis_empty, fun _ => Node.Sound.initial Reading.soundRedis_empty⟩

variable [DecidableEq NodeId] {world : World NodeId}

theorem World.Sound.setNode (sound : world.Sound reading) {name : NodeId} {node : Node}
    (nodeSound : node.Sound reading world.redis) : (world.setNode name node).Sound reading where
  redis := sound.redis
  nodes := World.forall_setNode sound.nodes nodeSound

def Admissible (admits : Draw → Prop) (_ : World NodeId) (action : NodeId × Action) : Prop :=
  ∀ draw, action.2 = .advance draw → admits draw

theorem World.Sound.step {admits : Draw → Prop} (closed : Closed reading admits)
    {next : World NodeId} {action : NodeId × Action} (admitted : Admissible admits world action)
    (sound : world.Sound reading) (taken : world.step codec action = some next) :
    next.Sound reading := by
  rcases action with ⟨name, action⟩
  have nodeSound := sound.nodes name
  cases World.steps_of_step taken with
  | boot => exact sound.setNode (.restart sound.redis _)
  | startWatch up =>
    refine sound.setNode { nodeSound with
      notified := nodeSound.lastVersion, main := ?_, unwatched := ?_ }
    · cases stage : (world.nodes name).main with
      | down | ensure _ | mint | bootstrap _ _ | adopt _ => simp [Node.isUp, stage] at up
      | idle | apply _ _ | persist _ _ _ _ | reload _ _ _ => exact nodeSound.main_at stage
    · intro unwatched
      cases unwatched
  | call idle =>
    exact sound.setNode
      (nodeSound.of_main ⟨rfl, rfl, rfl⟩ nodeSound.lastVersion (nodeSound.main_at idle))
  | advance moved =>
    rcases nodeSound.advance closed (admitted _ rfl) sound.redis moved with
      ⟨written, advancedSound⟩
    constructor
    · rcases written with ⟨same, _⟩ | ⟨ring, valid, same⟩
      · simpa [same] using sound.redis
      · simpa [same] using sound.redis.write valid
    · intro other
      by_cases same : other = name
      · subst same
        simpa using advancedSound
      · rcases written with ⟨unchanged, _⟩ | ⟨ring, valid, changed⟩
        · simpa [same, unchanged] using sound.nodes other
        · simpa [same, changed] using (sound.nodes other).write _
  | wake watching => exact sound.setNode (nodeSound.setDelivery watching trivial)
  | deliver moved => exact sound.setNode (nodeSound.deliver sound.redis moved)

end Runs

end Parsec.Fleet
