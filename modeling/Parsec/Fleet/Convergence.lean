import Parsec.Fleet.Soundness

/-! # Convergence of a watching node

Once nothing is saved any more, one `deliver` brings a node's ring in step with Redis,
provided that every ring handed to `onChange` was loaded at the version `notified` holds
at that moment. `deliver` reads that version after the load, so two delivers may pair a
ring with another one's version. -/

namespace Parsec.Fleet

open Foundation Auth KeyRing.Storable

/-! ## Rings that survive the formats -/

/-- The clock reading and the generated key pairs can be written and read back, and a pair
is of the kind that was asked for. -/
structure Draw.Keeps (codec : Codec) (draw : Draw) : Prop where
  time : codec.KeepsTime draw.now
  pairs : ∀ {alg : Alg} {pair : PrivateKey}, KeyRing.Drawn draw.entropy alg pair →
    pair.Suits alg ∧ codec.KeepsKey pair

theorem Applied.storable {codec : Codec} {draw : Draw} {ring after : KeyRing}
    {rotation : Rotation} (applied : Applied draw ring rotation after)
    (keeps : draw.Keeps codec) (storable : ring.Storable codec) : after.Storable codec := by
  have live : ring.LiveKeys (Key.Storable codec) := fun _ _ => storable.keys
  have fresh : ∀ {id : String} {key : Key}, ring.byID[id]? = none →
      after.byID[id]? = some key → key.Storable codec := by
    intro id key absent stored
    cases applied with
    | generated accepted generated =>
      rw [KeyRing.installed_lookup, absent] at stored
      split at stored <;> cases stored
      have made : Operation.Makes (.generateAlg .hs256 draw.entropy) draw.now key :=
        generated.makes rfl
      refine made.storable keeps.time (fun alg pair brought => ?_) accepted
      cases brought with
      | drawn drew drawn =>
        cases drew
        exact keeps.pairs drawn
    | promoted => simp [KeyRing.promoted_absent absent] at stored
    | retired => simp [KeyRing.retired_absent absent] at stored
    | retiredBefore => simp [absent] at stored
  exact ⟨applied.change.wellFormed storable.wellFormed, fun {id key} =>
    live.change Key.Storable.roleFree storable.wellFormed applied.change fresh id key⟩

theorem exactReading_closed (codec : Codec) : Closed (exactReading codec) (Draw.Keeps codec) where
  empty := ⟨KeyRing.empty_wellFormed, fun stored => by simp [KeyRing.empty] at stored⟩
  applied := fun keeps storable applied => applied.storable keeps storable

variable {codec : Codec}

theorem decode_genuine {body : Snapshot} (genuine : (exactReading codec).Genuine body) :
    ∃ ring, decodeKeyRing codec body = .ok ring ∧ encodeKeyRing codec ring = body := by
  rcases genuine with ⟨origin, storable, rfl⟩
  have decoded := decode_encode storable
  exact ⟨_, decoded, ((exactReading codec).decoded storable rfl decoded).2⟩

variable {ring : KeyRing}

theorem reload_valid (valid : (exactReading codec).Valid ring) :
    ∃ next, loadSnapshot codec (ring.snapshot codec) = .ok next :=
  ⟨_, loadSnapshot valid⟩

/-! ## Stages of a node that is up -/

/-- With a known version `Save` retries at most once: the retry finds the version moved. -/
def SaveBounded (redis : Redis) : SaveStage → Prop
  | .readExpected _ | .record _ => True
  | .watch attempt _ expected => 0 ≤ expected ∧ expected ≤ redis.version ∧
      (attempt = 0 ∨ attempt = 1 ∧ expected < redis.version)
  | .compare attempt _ expected watched => 0 ≤ expected ∧ expected ≤ watched ∧
      watched ≤ redis.version ∧ (attempt = 0 ∨ attempt = 1 ∧ expected < redis.version)
  | .exec attempt _ expected watched _ => 0 ≤ expected ∧ expected ≤ watched ∧ attempt = 0

def LoadSince (version : Int) : LoadStage → Prop
  | .readVersion _ => True
  | .readBody _ before | .readAgain _ before _ => version ≤ before
  | .record read _ => version ≤ read
  | .recordMissing _ => False

variable {redis : Redis} {stage : SaveStage}

theorem SaveBounded.write (bounded : SaveBounded redis stage) (value : Option Snapshot) :
    SaveBounded (redis.write value) stage := by
  cases stage with
  | readExpected body | record written => trivial
  | watch attempt body expected | compare attempt body expected watched =>
    simp only [SaveBounded, Versioned.write_version] at bounded ⊢
    omega
  | exec attempt body expected watched current => exact bounded

def SaveBoundedProgress (redis : Redis) : SaveProgress → Prop
  | .running stage => SaveBounded redis stage
  | .failed _ => False
  | .committed _ _ | .saved _ | .conflict => True

theorem SaveBounded.step {reading : Reading codec} {lastVersion : Int}
    (bounded : SaveBounded redis stage) (running : reading.SoundSave redis ring stage)
    (known : 0 ≤ lastVersion) (seen : lastVersion ≤ redis.version) :
    SaveBoundedProgress redis (stage.step redis lastVersion) := by
  cases stage with
  | readExpected body => exact ⟨known, seen, .inl rfl⟩
  | record written => trivial
  | watch attempt body expected =>
    rcases bounded with ⟨nonnegative, below, first⟩
    have few : attempt < maxSaveAttempts := by
      simp only [maxSaveAttempts]
      omega
    simp only [SaveStage.step, if_pos few]
    exact ⟨nonnegative, below, le_refl _, first⟩
  | compare attempt body expected watched =>
    rcases bounded with ⟨nonnegative, below, ordered, first⟩
    simp only [SaveStage.step]
    split
    · trivial
    · rename_i unchanged
      have same : redis.version = expected := by
        by_contra moved
        exact unchanged ⟨by simp only [versionUnknown]; omega, moved⟩
      exact ⟨nonnegative, below, by omega⟩
  | exec attempt body expected watched current =>
    rcases bounded with ⟨nonnegative, below, first⟩
    rcases running with ⟨_, ordered, newest, compared⟩
    simp only [SaveStage.step]
    split
    · trivial
    · exact ⟨nonnegative, by omega, .inr ⟨by omega, by omega⟩⟩

def LoadStage.exhausted : LoadStage → Bool
  | .readVersion attempt => decide (maxSaveAttempts ≤ attempt)
  | _ => false

/-- A `Load` that started at `since` and has attempts left comes back with a ring. -/
def LoadSinceProgress (since : Int) : LoadProgress → Prop
  | .running stage => LoadSince since stage
  | .loaded version _ => since ≤ version
  | .missing _ | .failed _ => False

theorem LoadSince.step {since : Int} {stage : LoadStage} (load : LoadSince since stage)
    (store : (exactReading codec).SoundRedis redis)
    (running : (exactReading codec).SoundLoad redis stage) (positive : 0 < redis.version)
    (seen : since ≤ redis.version) (attempts : LoadStage.exhausted stage = false) :
    LoadSinceProgress since (stage.step codec redis) := by
  cases stage with
  | readVersion attempt =>
    have few : attempt < maxSaveAttempts := by simpa [LoadStage.exhausted] using attempts
    simp only [LoadStage.step, if_pos few]
    exact seen
  | readBody attempt before =>
    simp only [LoadStage.step]
    cases value : redis.value with
    | none =>
      have zero := store.missing.mp value
      omega
    | some body => exact load
  | readAgain attempt before body =>
    simp only [LoadStage.step]
    split
    · trivial
    · rcases decode_genuine running.1 with ⟨ring, decoded, _⟩
      simp only [decoded]
      exact seen
  | record version ring | recordMissing version => exact load

/-! ## The invariant -/

def FollowingMain (redis : Redis) (ringVersion : Int) : MainStage → Prop
  | .idle | .apply _ _ => 0 < redis.version
  | .persist _ _ _ stage => 0 < redis.version ∧ SaveBounded redis stage
  | .reload _ _ stage => 0 < redis.version ∧ LoadSince ringVersion stage
  | .down | .ensure _ | .mint | .bootstrap _ _ | .adopt _ => True

def Node.Notifying (node : Node) : Prop :=
  ∃ worker version ring, node.deliveries worker = .notify version ring

structure Node.Following (redis : Redis) (node : Node) : Prop where
  main : FollowingMain redis node.ringVersion node.main
  seen : node.ringVersion ≤ redis.version
  watched : node.watching = true → node.notified ≤ node.ringVersion ∨ node.Notifying
  unwatched : node.watching = false → node.isUp = true → node.lastVersion ≤ node.ringVersion

/-- What a step must find: a reload with attempts left, and for a ring that is handed over
that it was loaded at the announced version. -/
def World.paired {NodeId : Type} (world : World NodeId) (action : NodeId × Action) : Bool :=
  match action.2 with
  | .advance _ =>
    match (world.nodes action.1).main with
    | .reload _ _ stage => !LoadStage.exhausted stage
    | _ => true
  | .deliver worker =>
    match (world.nodes action.1).deliveries worker with
    | .notify version _ => decide (version = (world.nodes action.1).notified)
    | _ => true
  | _ => true

def World.Paired (codec : Codec) {NodeId : Type} (world : World NodeId)
    (action : NodeId × Action) : Prop :=
  Admissible (Draw.Keeps codec) world action ∧ world.paired action = true

section Steps

variable {codec : Codec} {redis : Redis} {node : Node}

theorem Node.Following.write (following : node.Following redis) (value : Option Snapshot) :
    node.Following (redis.write value) := by
  have seen := following.seen
  refine ⟨?_, by simp only [Versioned.write_version]; omega, following.watched,
    following.unwatched⟩
  have main := following.main
  cases stage : node.main with
  | idle | apply _ _ =>
    rw [stage] at main
    simp only [FollowingMain, Versioned.write_version] at main ⊢
    omega
  | persist mutation attempt rotation save =>
    rw [stage] at main
    refine ⟨?_, main.2.write value⟩
    have positive := main.1
    simp only [Versioned.write_version]
    omega
  | reload mutation attempt load =>
    rw [stage] at main
    refine ⟨?_, main.2⟩
    have positive := main.1
    simp only [Versioned.write_version]
    omega
  | down | ensure _ | mint | bootstrap _ _ | adopt _ => trivial

variable {next : Node}

theorem Node.Following.of_starting (unwatched : next.watching = false)
    (starting : next.isUp = false) (main : FollowingMain redis next.ringVersion next.main)
    (seen : next.ringVersion ≤ redis.version) : next.Following redis where
  main := main
  seen := seen
  watched := fun watching => absurd (watching.symm.trans unwatched) (by decide)
  unwatched := fun _ up => absurd (up.symm.trans starting) (by decide)

theorem Node.Following.of_started (unwatched : next.watching = false) (main : next.main = .idle)
    (positive : 0 < next.ringVersion) (seen : next.ringVersion ≤ redis.version)
    (same : next.lastVersion = next.ringVersion) : next.Following redis where
  main := by
    rw [main]
    exact lt_of_lt_of_le positive seen
  seen := seen
  watched := fun watching => absurd (watching.symm.trans unwatched) (by decide)
  unwatched := fun _ _ => same.le

theorem following_advanceLoad {again : LoadStage → MainStage} {absent : MainStage}
    {stage : LoadStage} (store : (exactReading codec).SoundRedis redis)
    (following : node.Following redis) (unwatched : node.watching = false)
    (running : (exactReading codec).SoundLoad redis stage)
    (resumes : ∀ next, (node.setMain (again next)).isUp = false ∧
      FollowingMain redis node.ringVersion (again next))
    (gives : (node.setMain absent).isUp = false ∧ FollowingMain redis node.ringVersion absent) :
    (node.advanceLoad codec redis again absent stage).Following redis := by
  have progress := running.step store
  unfold Node.advanceLoad
  cases moved : stage.step codec redis with
  | running next =>
    exact .of_starting unwatched (resumes next).1 (resumes next).2 following.seen
  | loaded version ring =>
    rw [moved] at progress
    exact .of_started unwatched rfl progress.1 progress.2.seen rfl
  | missing version => exact .of_starting unwatched gives.1 gives.2 following.seen
  | failed message => exact .of_starting unwatched rfl trivial following.seen

variable {draw : Draw}

section

variable (sound : node.Sound (exactReading codec) redis) (following : node.Following redis)
include sound following

private theorem following_advanceMint (at_ : node.main = .mint) :
    (node.advanceMint codec draw).Following redis := by
  have main := sound.main
  rw [at_] at main
  unfold Node.advanceMint
  split <;> exact .of_starting main.1 rfl trivial following.seen

private theorem following_advanceBootstrap {ring : KeyRing} {stage : SaveStage}
    (at_ : node.main = .bootstrap ring stage) :
    (node.advanceBootstrap redis ring stage).2.Following
      (node.advanceBootstrap redis ring stage).1 := by
  have main := sound.main
  rw [at_] at main
  rcases main with ⟨unwatched, _, _, running⟩
  have progress := running.step node.lastVersion
  have seen := following.seen
  unfold Node.advanceBootstrap
  cases moved : stage.step redis node.lastVersion with
  | running next | conflict | failed message => exact .of_starting unwatched rfl trivial seen
  | committed written body =>
    rw [moved] at progress
    rcases progress with ⟨rfl, _⟩
    refine .of_starting unwatched rfl trivial ?_
    change node.ringVersion ≤ redis.version + 1
    omega
  | saved written =>
    rw [moved] at progress
    exact .of_started unwatched rfl progress.2 progress.1.seen rfl

end

variable {mutation : Mutation} {attempt : Nat}

theorem following_advanceApply (following : node.Following redis)
    (at_ : node.main = .apply mutation attempt) :
    (node.advanceApply codec mutation attempt draw).Following redis := by
  have main := following.main
  have unwatched := fun off => following.unwatched off (by simp [Node.isUp, at_])
  rw [at_] at main
  unfold Node.advanceApply
  split
  · exact ⟨main, following.seen, following.watched, fun off _ => unwatched off⟩
  · exact ⟨⟨main, trivial⟩, following.seen, following.watched, fun off _ => unwatched off⟩

section

variable (sound : node.Sound (exactReading codec) redis)
include sound

theorem following_advancePersist {rotation : Rotation} {stage : SaveStage}
    (following : node.Following redis)
    (at_ : node.main = .persist mutation attempt rotation stage) :
    (node.advancePersist redis mutation attempt rotation stage).node.Following
      (node.advancePersist redis mutation attempt rotation stage).redis := by
  have main := following.main
  have unwatched := fun off => following.unwatched off (by simp [Node.isUp, at_])
  have soundMain := sound.main
  rw [at_] at main soundMain
  rcases main with ⟨positive, bounded⟩
  rcases soundMain with ⟨known, valid, running, recorded⟩
  have progress := running.step node.lastVersion
  have bound := bounded.step running known sound.lastVersion
  unfold Node.advancePersist
  cases moved : stage.step redis node.lastVersion with
  | running next =>
    rw [moved] at bound
    exact ⟨⟨positive, bound⟩, following.seen, following.watched, fun off _ => unwatched off⟩
  | committed written body =>
    rw [moved] at progress
    rcases progress with ⟨rfl, _⟩
    have lastSeen := sound.lastVersion
    have announced := sound.notified
    refine ⟨⟨?_, trivial⟩, le_refl _, fun _ => .inl ?_, fun _ _ => ?_⟩
    · change 0 < redis.version + 1
      omega
    · change node.notified ≤ redis.version + 1
      omega
    · change node.lastVersion ≤ redis.version + 1
      omega
  | saved written =>
    have version : node.ringVersion = written :=
      recorded written (SaveStage.record_of_saved moved)
    exact ⟨positive, following.seen, following.watched, fun _ _ => version.symm.le⟩
  | conflict => exact ⟨⟨positive, trivial⟩, following.seen, following.watched,
        fun off _ => unwatched off⟩
  | failed message =>
    rw [moved] at bound
    exact bound.elim

variable (store : (exactReading codec).SoundRedis redis) (following : node.Following redis)
include store following

theorem following_advanceReload {stage : LoadStage} (attempts : LoadStage.exhausted stage = false)
    (at_ : node.main = .reload mutation attempt stage) :
    (node.advanceReload codec redis mutation attempt stage).Following redis := by
  have main := following.main
  have unwatched := fun off => following.unwatched off (by simp [Node.isUp, at_])
  have soundMain := sound.main
  rw [at_] at main soundMain
  rcases main with ⟨positive, since⟩
  rcases soundMain with ⟨known, valid, running⟩
  have progress := running.step store
  have loads := since.step store running positive following.seen attempts
  unfold Node.advanceReload
  cases moved : stage.step codec redis with
  | running next =>
    rw [moved] at loads
    exact ⟨⟨positive, loads⟩, following.seen, following.watched, fun off _ => unwatched off⟩
  | loaded version fresh =>
    rw [moved] at loads progress
    have newer : node.ringVersion ≤ version := loads
    rcases reload_valid progress.2.valid with ⟨ring, reloaded⟩
    have watched : node.watching = true → node.notified ≤ version ∨ node.Notifying := by
      intro watching
      rcases following.watched watching with announced | notifying
      · exact .inl (announced.trans newer)
      · exact .inr notifying
    simp only [reloaded]
    split <;> exact ⟨positive, progress.2.seen, watched, fun _ _ => le_refl _⟩
  | missing version | failed message =>
    rw [moved] at loads
    exact loads.elim

theorem following_advance {advanced : Node.Advanced}
    (attempts : ∀ mutation attempt stage, node.main = .reload mutation attempt stage →
      LoadStage.exhausted stage = false) (taken : node.advance codec redis draw = some advanced) :
    advanced.node.Following advanced.redis := by
  have main := sound.main
  cases Node.advances_of_advance taken with
  | ensure at_ | adopt at_ =>
    rw [at_] at main
    exact following_advanceLoad store following main.1 main.2 (fun _ => ⟨rfl, trivial⟩)
      ⟨rfl, trivial⟩
  | mint at_ => exact following_advanceMint sound following at_
  | bootstrap at_ => exact following_advanceBootstrap sound following at_
  | apply at_ => exact following_advanceApply following at_
  | persist at_ => exact following_advancePersist sound following at_
  | reload at_ => exact following_advanceReload sound store following (attempts _ _ _ at_) at_

end

variable {worker : Worker}

theorem Node.Following.setDelivery {stage : DeliverStage} (following : node.Following redis)
    (silent : ∀ version ring, node.deliveries worker ≠ .notify version ring) :
    (node.setDelivery worker stage).Following redis where
  main := following.main
  seen := following.seen
  watched := by
    intro watching
    rcases following.watched watching with announced | ⟨other, version, ring, notifying⟩
    · exact .inl announced
    · have different : other ≠ worker := by
        rintro rfl
        exact silent version ring notifying
      exact .inr ⟨other, version, ring, by simpa [Node.setDelivery, different] using notifying⟩
  unwatched := following.unwatched

theorem Node.Following.record (following : node.Following redis)
    (watching : node.watching = true) (version : Int) :
    (node.record version).Following redis where
  main := following.main
  seen := following.seen
  watched := following.watched
  unwatched := fun off => absurd (watching.symm.trans off) (by decide)

theorem following_deliver (sound : node.Sound (exactReading codec) redis)
    (following : node.Following redis)
    (paired : ∀ version ring, node.deliveries worker = .notify version ring →
      version = node.notified) (taken : node.deliver codec redis worker = some next) :
    next.Following redis := by
  have watching := sound.watching_of_deliver taken
  have delivery := sound.deliveries worker
  cases Node.delivers_of_deliver taken with
  | loaded stage _ | missing stage _ =>
    exact (following.record watching _).setDelivery (by simp [Node.record, stage])
  | running stage _ | failed stage | readVersion stage | old stage | newer stage
  | overtaken stage => exact following.setDelivery (by simp [stage])
  | @swapped version _ ring stage =>
    exact ⟨following.main, following.seen,
      fun _ => .inr ⟨worker, version, ring, by simp [Node.setDelivery]⟩, following.unwatched⟩
  | @notified version ring stage idle =>
    have announced := paired version ring stage
    rw [stage] at delivery
    have current : (exactReading codec).Current redis version ring := delivery
    rcases reload_valid current.valid with ⟨reloaded, loaded⟩
    have main := following.main
    rw [idle] at main
    simp only [Node.onChange, loaded]
    refine ⟨?_, current.seen, fun _ => .inl announced.symm.le, fun off => ?_⟩
    · change FollowingMain redis version node.main
      rw [idle]
      exact main
    · exact absurd (watching.symm.trans off) (by decide)

end Steps

section Runs

variable {codec : Codec} {NodeId : Type}

structure World.Following (codec : Codec) (world : World NodeId) : Prop where
  sound : world.Sound (exactReading codec)
  nodes : ∀ name, (world.nodes name).Following world.redis

variable {world : World NodeId}

theorem World.Following.of_down (store : (exactReading codec).SoundRedis world.redis)
    (down : ∀ name, world.nodes name = Node.initial) : world.Following codec where
  sound := ⟨store, fun name => by
    rw [down name]
    exact Node.Sound.initial store⟩
  nodes := by
    intro name
    rw [down name]
    refine .of_starting rfl rfl trivial ?_
    have nonnegative := store.nonnegative
    change (-1 : Int) ≤ _
    omega

theorem World.initial_following : (World.initial : World NodeId).Following codec :=
  .of_down Reading.soundRedis_empty fun _ => rfl

variable [DecidableEq NodeId]

theorem World.Following.setNode (following : world.Following codec) {name : NodeId} {node : Node}
    (sound : (world.setNode name node).Sound (exactReading codec))
    (nodeFollowing : node.Following world.redis) :
    (world.setNode name node).Following codec where
  sound := sound
  nodes := World.forall_setNode following.nodes nodeFollowing

theorem World.Following.step {next : World NodeId} {action : NodeId × Action}
    (paired : world.Paired codec action) (following : world.Following codec)
    (taken : world.step codec action = some next) : next.Following codec := by
  rcases paired with ⟨admitted, paired⟩
  have sound := following.sound.step (exactReading_closed codec) admitted taken
  rcases action with ⟨name, action⟩
  have node := following.nodes name
  have nodeSound := following.sound.nodes name
  cases World.steps_of_step taken with
  | boot =>
    refine following.setNode sound (.of_starting rfl rfl trivial ?_)
    have nonnegative := following.sound.redis.nonnegative
    change (-1 : Int) ≤ _
    omega
  | startWatch up unwatched =>
    refine following.setNode sound ⟨node.main, node.seen, fun _ => .inl ?_, ?_⟩
    · exact node.unwatched unwatched up
    · intro off
      cases off
  | call idle =>
    have main := node.main
    rw [idle] at main
    exact following.setNode sound ⟨main, node.seen, node.watched,
      fun off _ => node.unwatched off (by simp [Node.isUp, idle])⟩
  | advance moved =>
    have attempts : ∀ mutation attempt stage,
        (world.nodes name).main = .reload mutation attempt stage →
          LoadStage.exhausted stage = false := by
      intro mutation attempt stage main
      simpa [World.paired, main] using paired
    have advancedFollowing :=
      following_advance nodeSound following.sound.redis node attempts moved
    have written := (nodeSound.advance (exactReading_closed codec) (admitted _ rfl)
      following.sound.redis moved).1
    refine ⟨sound, fun other => ?_⟩
    by_cases same : other = name
    · subst same
      simpa using advancedFollowing
    · rcases written with ⟨unchanged, _⟩ | ⟨ring, valid, changed⟩
      · simpa [same, unchanged] using following.nodes other
      · simpa [same, changed] using (following.nodes other).write _
  | wake _ idle => exact following.setNode sound (node.setDelivery (by simp [idle]))
  | deliver moved =>
    refine following.setNode sound (following_deliver nodeSound node ?_ moved)
    intro version ring notifying
    simpa [World.paired, notifying] using paired

end Runs

/-! ## One more deliver -/

def Node.deliverMany (codec : Codec) (redis : Redis) (worker : Worker) : Nat → Node → Option Node
  | 0, node => some node
  | count + 1, node =>
    (node.deliver codec redis worker).bind (deliverMany codec redis worker count)

theorem run_deliverMany {codec : Codec} {NodeId : Type} [DecidableEq NodeId]
    {world : World NodeId} {name : NodeId} {worker : Worker} {final : Node} :
    ∀ {count : Nat} {node : Node},
      node.deliverMany codec world.redis worker count = some final →
      Run (World.step codec) unrestricted (world.setNode name node)
        (List.replicate count (name, .deliver worker)) (world.setNode name final)
  | 0, node, delivered => by
      cases delivered
      exact .nil _
  | count + 1, node, delivered => by
      rcases Option.bind_eq_some_iff.mp delivered with ⟨next, taken, rest⟩
      have current : (world.setNode name node).nodes name = node := by simp [World.setNode]
      have again : (world.setNode name node).setNode name next = world.setNode name next := by
        simp [World.setNode]
      refine .cons trivial ?_ (run_deliverMany rest)
      have shared : (world.setNode name node).redis = world.redis := rfl
      simp only [World.step, current, shared, taken, again]

section Final

variable {codec : Codec} {redis : Redis} {node : Node} {worker : Worker}

private theorem deliverMany_load {body : Snapshot} {fresh : KeyRing} {final : Node} {count : Nat}
    (stored : redis.value = some body) (decoded : decodeKeyRing codec body = .ok fresh)
    (rest : ((node.record redis.version).setDelivery worker
      (.loaded redis.version fresh)).deliverMany codec redis worker count = some final) :
    (node.setDelivery worker (.load (.readVersion 0))).deliverMany codec redis worker
      (count + 4) = some final := by
  simpa [Node.deliverMany, Node.deliver, Node.setDelivery, Node.record, LoadStage.step,
    maxSaveAttempts, stored, decoded] using rest

theorem deliver_converges (sound : node.Sound (exactReading codec) redis)
    (store : (exactReading codec).SoundRedis redis) (following : node.Following redis)
    (idle : node.main = .idle) (watching : node.watching = true)
    (finished : ∀ other, node.deliveries other = .idle) :
    ∃ count final, (node.setDelivery worker (.load (.readVersion 0))).deliverMany codec redis
        worker count = some final ∧
      final.deliveries worker = .idle ∧ final.ring.Storable codec ∧
      redis.value = some (encodeKeyRing codec final.ring) := by
  have main := following.main
  have soundMain := sound.main
  rw [idle] at main soundMain
  have positive : 0 < redis.version := main
  cases stored : redis.value with
  | none =>
    have zero := store.missing.mp stored
    omega
  | some body =>
    rcases decode_genuine (store.genuine stored) with ⟨fresh, decoded, same⟩
    have freshValid : (exactReading codec).Valid fresh := by
      rcases store.genuine stored with ⟨origin, valid, agrees⟩
      exact ((exactReading codec).decoded valid agrees decoded).1
    by_cases announced : redis.version ≤ node.notified
    · -- nothing new: what was announced is already in memory
      have kept : node.notified ≤ node.ringVersion := by
        rcases following.watched watching with below | ⟨other, version, ring, notifying⟩
        · exact below
        · rw [finished other] at notifying
          cases notifying
      rcases soundMain.2.tracks.describes_of_le (announced.trans kept) with
        ⟨other, value, agrees⟩
      refine ⟨6, (node.record redis.version).setDelivery worker .idle,
        deliverMany_load stored decoded ?_, ?_, soundMain.2.valid, ?_⟩
      · simp [Node.deliverMany, Node.deliver, Node.setDelivery, Node.record, announced]
      · simp [Node.setDelivery]
      · rw [stored] at value
        cases value
        exact congrArg some agrees.symm
    · rcases reload_valid freshValid with ⟨next, reloaded⟩
      have readBack := (exactReading codec).reloaded freshValid reloaded
      refine ⟨8, (({ node.record redis.version with notified := redis.version }).adoptRing
        redis.version next).setDelivery worker .idle,
        deliverMany_load stored decoded ?_, ?_, ?_, ?_⟩
      · simp [Node.deliverMany, Node.deliver, Node.setDelivery, Node.record, announced,
          Node.onChange, reloaded, Node.adoptRing, idle]
      · simp [Node.setDelivery]
      · exact readBack.1
      · exact congrArg some (readBack.2 same).symm

end Final

/-- In every run of paired steps, once a node's calls and delivers have finished, one more
deliver with no save in between runs to completion and leaves the node with the ring that
Redis stores. -/
theorem watcher_converges {NodeId : Type} [DecidableEq NodeId] (codec : Codec)
    {actions : List (NodeId × Action)} {world : World NodeId}
    (run : Run (World.step codec) (World.Paired codec) World.initial actions world)
    (name : NodeId) (idle : (world.nodes name).main = .idle)
    (watching : (world.nodes name).watching = true)
    (finished : ∀ worker, (world.nodes name).deliveries worker = .idle) (worker : Worker) :
    ∃ count final, Run (World.step codec) unrestricted world
        ((name, .wake worker) :: List.replicate count (name, .deliver worker)) final ∧
      (final.nodes name).deliveries worker = .idle ∧
      final.redis = world.redis ∧
      final.redis.value = some (encodeKeyRing codec (final.nodes name).ring) := by
  have following : world.Following codec :=
    run.invariant (World.Following codec)
      (fun _ _ _ following paired taken => World.Following.step paired following taken)
      World.initial_following
  rcases deliver_converges (following.sound.nodes name) following.sound.redis
      (following.nodes name) idle watching finished with
    ⟨count, final, delivered, done, _, stored⟩
  refine ⟨count, world.setNode name final, .cons trivial ?_ (run_deliverMany delivered),
    ?_, rfl, ?_⟩
  · simp [World.step, watching, finished worker]
  · simpa [World.setNode] using done
  · simpa [World.setNode] using stored

/-- In every interleaving the body in Redis loads, every node that is up holds a well-formed ring,
no node has recorded a version that Redis has not reached, and where the ring of a node at rest is
of the current version, Redis stores that ring. -/
theorem current_ring_stored {NodeId : Type} [DecidableEq NodeId] (codec : Codec)
    {actions : List (NodeId × Action)} {world : World NodeId}
    (run : Run (World.step codec) (Admissible (Draw.Keeps codec)) World.initial actions world) :
    (∀ body, world.redis.value = some body → ∃ ring, ring.WellFormed ∧
      decodeKeyRing codec body = .ok ring ∧ encodeKeyRing codec ring = body) ∧
    ∀ name, (world.nodes name).lastVersion ≤ world.redis.version ∧
      ((world.nodes name).isUp = true → (world.nodes name).ring.WellFormed) ∧
      ((world.nodes name).main = .idle → (world.nodes name).ringVersion = world.redis.version →
        ∃ body, world.redis.value = some body ∧
          encodeKeyRing codec (world.nodes name).ring = body ∧
          decodeKeyRing codec body = .ok (world.nodes name).ring.withoutRetired) := by
  have sound : world.Sound (exactReading codec) :=
    run.invariant (World.Sound (exactReading codec))
      (fun _ _ _ sound admitted taken => sound.step (exactReading_closed codec) admitted taken)
      World.initial_sound
  refine ⟨fun body stored => ?_, fun name => ?_⟩
  · rcases sound.redis.genuine stored with ⟨origin, storable, rfl⟩
    have decoded := decode_encode storable
    rcases (exactReading codec).decoded storable rfl decoded with ⟨valid, written⟩
    exact ⟨_, wellFormed valid, decoded, written⟩
  · have node := sound.nodes name
    refine ⟨node.lastVersion, fun up => ?_, fun idle same => ?_⟩
    · cases stage : (world.nodes name).main with
      | down | ensure _ | mint | bootstrap _ _ | adopt _ => simp [Node.isUp, stage] at up
      | idle | apply _ _ => exact wellFormed (node.main_at stage).2.valid
      | persist _ _ _ _ | reload _ _ _ =>
        exact wellFormed (node.main_at stage).2.1
    · rcases node.main_at idle with ⟨_, current⟩
      rcases current.tracks.current same with ⟨body, stored, written⟩
      exact ⟨body, stored, written, written ▸ decode_encode current.valid⟩

theorem Draw.epoch_keeps (byte : UInt8) : (Draw.epoch byte).Keeps Codec.epoch where
  time := rfl
  pairs := by
    intro alg pair drawn
    cases drawn with
    | ed25519 drew | rsa drew | ecdsa suited drew => cases drew

/-- Node `false` generates two keys. Both watchers of node `true` load, one ring each,
before either looks at the version. -/
def mispairedActions : List (Bool × Action) :=
  followActions ++
    (true, .wake .ticker) :: delivers true .ticker 4 ++
    (false, .call (.generate .hs256)) :: advances false 3 6 ++
    (true, .wake .subscription) :: delivers true .subscription 4 ++
    delivers true .ticker 4 ++ delivers true .subscription 2

theorem mispaired_admissible {action : Bool × Action} (member : action ∈ mispairedActions)
    (world : World Bool) : Admissible (Draw.Keeps Codec.epoch) world action := by
  intro draw advance
  have drawn : ∃ byte, draw = .epoch byte := by
    simp only [mispairedActions, followActions, advances, delivers, List.append_assoc,
      List.cons_append, List.nil_append, List.mem_cons, List.mem_append,
      List.mem_replicate] at member
    rcases member with rfl | ⟨_, rfl⟩ | rfl | ⟨_, rfl⟩ | rfl | rfl | ⟨_, rfl⟩ | rfl | ⟨_, rfl⟩ |
      rfl | ⟨_, rfl⟩ | rfl | ⟨_, rfl⟩ | ⟨_, rfl⟩ | ⟨_, rfl⟩ <;>
      cases advance <;> exact ⟨_, rfl⟩
  rcases drawn with ⟨byte, rfl⟩
  exact Draw.epoch_keeps byte

theorem watcher_converges_of_generate :
    ∃ world, Run (World.step Codec.epoch) (World.Paired Codec.epoch)
        (World.initial : World Bool) followActions world ∧
      ∃ count final, Run (World.step Codec.epoch) unrestricted world
          ((true, .wake .ticker) :: List.replicate count (true, .deliver .ticker)) final ∧
        (final.nodes true).deliveries .ticker = .idle ∧
        final.redis = world.redis ∧
        final.redis.value = some (encodeKeyRing Codec.epoch (final.nodes true).ring) := by
  let observe (world : World Bool) := decide ((world.nodes true).main = .idle ∧
    (world.nodes true).watching = true ∧ (world.nodes true).deliveries .ticker = .idle ∧
    (world.nodes true).deliveries .subscription = .idle)
  rcases Run.exists_of_execute observe
      (show (execute (World.step Codec.epoch) (fun world action => world.paired action = true)
        (World.initial : World Bool) followActions).map observe = some true by decide +kernel)
    with ⟨world, run, observed⟩
  rcases of_decide_eq_true observed with ⟨idle, watching, ticker, subscription⟩
  have paired : Run (World.step Codec.epoch) (World.Paired Codec.epoch) World.initial
      followActions world := by
    refine run.weaken fun state action member paired => ⟨mispaired_admissible ?_ state, paired⟩
    simp only [mispairedActions, List.mem_append, member, true_or]
  refine ⟨world, paired, watcher_converges Codec.epoch paired true idle watching ?_ .ticker⟩
  intro worker
  cases worker with
  | ticker => exact ticker
  | subscription => exact subscription

/-- The older ring is handed over under the newer version: all calls and delivers finish,
and one more deliver changes nothing although Redis stores another ring. -/
theorem watcher_stuck_on_older_ring :
    ∃ world final, Run (World.step Codec.epoch) unrestricted (World.initial : World Bool)
        mispairedActions world ∧
      (world.nodes false).main = .idle ∧ (world.nodes true).main = .idle ∧
      (world.nodes true).watching = true ∧ (world.nodes true).deliveries .ticker = .idle ∧
      (world.nodes true).deliveries .subscription = .idle ∧
      Run (World.step Codec.epoch) unrestricted world
        ((true, .wake .ticker) :: delivers true .ticker 6) final ∧
      (final.nodes true).deliveries .ticker = .idle ∧ final.redis = world.redis ∧
      final.redis.value ≠ some (encodeKeyRing Codec.epoch (final.nodes true).ring) := by
  have evaluated : ((execute (World.step Codec.epoch) unrestricted
      (World.initial : World Bool) mispairedActions).bind fun world =>
        (execute (World.step Codec.epoch) unrestricted world
          ((true, .wake .ticker) :: delivers true .ticker 6)).map fun final =>
            decide ((world.nodes false).main = .idle ∧ (world.nodes true).main = .idle ∧
              (world.nodes true).watching = true ∧
              (world.nodes true).deliveries .ticker = .idle ∧
              (world.nodes true).deliveries .subscription = .idle ∧
              (final.nodes true).deliveries .ticker = .idle ∧ final.redis = world.redis ∧
              final.redis.value ≠
                some (encodeKeyRing Codec.epoch (final.nodes true).ring))) = some true := by
    decide +kernel
  rcases Option.bind_eq_some_iff.mp evaluated with ⟨world, reached, rest⟩
  rcases Option.map_eq_some_iff.mp rest with ⟨final, delivered, observed⟩
  rcases of_decide_eq_true observed with
    ⟨otherIdle, idle, watching, ticker, subscription, done, same, different⟩
  exact ⟨world, final, .of_execute reached, otherIdle, idle, watching, ticker, subscription,
    .of_execute delivered, done, same, different⟩

/-- Also in that run node `false`, which is of the current version, holds the stored ring. -/
theorem writer_ring_stored :
    ∃ world, Run (World.step Codec.epoch) (Admissible (Draw.Keeps Codec.epoch))
        (World.initial : World Bool) mispairedActions world ∧
      ∃ body, world.redis.value = some body ∧
        encodeKeyRing Codec.epoch (world.nodes false).ring = body ∧
        decodeKeyRing Codec.epoch body = .ok (world.nodes false).ring.withoutRetired := by
  let observe (world : World Bool) := decide ((world.nodes false).main = .idle ∧
    (world.nodes false).ringVersion = world.redis.version)
  rcases Run.exists_of_execute observe
      (show (execute (World.step Codec.epoch) unrestricted (World.initial : World Bool)
        mispairedActions).map observe = some true by decide +kernel) with ⟨world, run, observed⟩
  rcases of_decide_eq_true observed with ⟨idle, same⟩
  have admissible := run.weaken fun state _ member _ => mispaired_admissible member state
  exact ⟨world, admissible, ((current_ring_stored Codec.epoch admissible).2 false).2.2 idle same⟩

end Parsec.Fleet
