import Parsec.Fleet.Soundness

/-! # Rotations that are kept

A rotation is kept when the stored ring shows it until a later one overrides it. The
compare-and-set of `Save` guarantees that only as long as `lastVersion` does not run
ahead of the ring in memory, which `Watch` does not ensure. -/

namespace Parsec.Fleet

open Foundation Auth

namespace Rotation

def ShownBy (body : Snapshot) : Rotation → Prop
  | .generated id => ∃ role, body.HasRole id role
  | .promoted id => body.activeKeyID = id ∧ body.HasRole id .active
  | .retired id => ∀ role, ¬ body.HasRole id role

def Overrides : Rotation → Rotation → Prop
  | .retired later, .generated earlier => later = earlier
  | .promoted later, .promoted earlier => later ≠ earlier
  | _, _ => False

def ShownIn (ring : KeyRing) : Rotation → Prop
  | .generated id => ∃ role, ring.HasRole id role
  | .promoted id => ring.active = id ∧ ring.HasRole id .active
  | .retired id => ∀ role, ¬ ring.HasRole id role

theorem shownBy_iff {ring : KeyRing} {body : Snapshot} (agrees : Agrees ring body)
    (rotation : Rotation) : rotation.ShownBy body ↔ rotation.ShownIn ring := by
  cases rotation <;> simp [ShownBy, ShownIn, agrees.roles, agrees.active]

/-- The id was not retired before: `newKeyID` draws no id twice. -/
def Fresh (log : List Rotation) : Rotation → Prop
  | .generated id => Rotation.retired id ∉ log
  | _ => True

end Rotation

/-! ## What an effect shows -/

section Effects

variable {ring : KeyRing} {key : Key}

theorem hasRole_installed (accepted : ring.Accepts key) (id : String) (role : Role) :
    (ring.installed key).HasRole id role ↔
      (key.id = id ∧ key.role = role) ∨ (key.id ≠ id ∧ ring.HasRole id role) := by
  have live : key.role ≠ .retired := by
    rw [accepted.role, KeyRing.nextRole]
    split <;> decide
  unfold KeyRing.HasRole
  rw [KeyRing.installed_lookup]
  by_cases same : key.id = id
  · simp only [same, if_true, Option.some.injEq, exists_eq_left', true_and, ne_eq,
      not_true_eq_false, false_and, or_false]
    constructor
    · exact And.right
    · rintro rfl
      exact ⟨live, rfl⟩
  · simp [same]

theorem hasRole_promoted_self {id : String} (known : ring.byID[id]? = some key) :
    (ring.promoted id).HasRole id .active := by
  refine ⟨by decide, { key with role := .active }, ?_, rfl⟩
  rw [KeyRing.promoted_lookup_self, known]
  rfl

theorem holds_promoted {target : String} (known : ring.byID[target]? = some key)
    (live : key.role ≠ .retired) (valid : ring.WellFormed) (id : String) :
    (∃ role, (ring.promoted target).HasRole id role) ↔ ∃ role, ring.HasRole id role := by
  by_cases same : id = target
  · subst same
    exact ⟨fun _ => ⟨key.role, live, key, known, rfl⟩, fun _ => ⟨_, hasRole_promoted_self known⟩⟩
  · unfold KeyRing.HasRole
    rw [KeyRing.promoted_lookup_other ring same]
    split
    · rename_i demoted
      rcases valid.signing demoted.1 with ⟨signer, found, signs⟩
      rw [demoted.2] at found
      rw [found]
      constructor
      · intro _
        exact ⟨.active, by decide, signer, rfl, signs⟩
      · intro _
        exact ⟨.verifyOnly, by decide, { signer with role := .verifyOnly }, rfl, rfl⟩
    · rfl

theorem hasRole_retired (target : String) (now : Int) (id : String) (role : Role) :
    (ring.retired target now).HasRole id role ↔ target ≠ id ∧ ring.HasRole id role := by
  unfold KeyRing.HasRole
  rw [KeyRing.retired_lookup]
  by_cases same : target = id
  · subst same
    cases ring.byID[target]? with
    | none => simp
    | some key =>
      simp only [if_true, Option.map_some, Option.some.injEq, exists_eq_left', ne_eq,
        not_true_eq_false, false_and, iff_false, not_and]
      intro live gone
      exact live gone.symm
  · simp [same]

variable {draw : Draw} {after : KeyRing} {rotation : Rotation}
  (applied : Applied draw ring rotation after)
include applied

theorem Applied.shown : rotation.ShownIn after := by
  cases applied with
  | @generated key accepted made =>
    exact ⟨key.role, (hasRole_installed accepted _ _).mpr (.inl ⟨rfl, rfl⟩)⟩
  | promoted known live => exact ⟨rfl, hasRole_promoted_self known⟩
  | retired known idle =>
    intro role held
    exact ((hasRole_retired _ _ _ _).mp held).1 rfl
  | @retiredBefore id key known gone =>
    rintro role ⟨live, other, found, same⟩
    rw [known] at found
    cases found
    exact live (same.symm.trans gone)

theorem Applied.shown_of_shown {earlier : Rotation} {log : List Rotation} (valid : ring.WellFormed)
    (fresh : rotation.Fresh log) (member : earlier ∈ log) (shown : earlier.ShownIn ring)
    (kept : ¬ rotation.Overrides earlier) : earlier.ShownIn after := by
  cases applied with
  | @generated key accepted made =>
    cases earlier with
    | generated id =>
      rcases shown with ⟨role, held⟩
      by_cases same : key.id = id
      · exact ⟨key.role, (hasRole_installed accepted _ _).mpr (.inl ⟨same, rfl⟩)⟩
      · exact ⟨role, (hasRole_installed accepted _ _).mpr (.inr ⟨same, held⟩)⟩
    | promoted id =>
      rcases shown with ⟨rfl, held⟩
      rcases held with ⟨live, signer, found, signs⟩
      have nonempty : ring.byID.size ≠ 0 := by
        intro none_
        rw [KeyRing.lookup_none_of_size_zero none_] at found
        cases found
      have different : key.id ≠ ring.active := by
        intro same
        rw [← same, accepted.fresh] at found
        cases found
      refine ⟨by simp [KeyRing.installed, nonempty], ?_⟩
      exact (hasRole_installed accepted _ _).mpr (.inr ⟨different, live, signer, found, signs⟩)
    | retired id =>
      intro role held
      rcases (hasRole_installed accepted _ _).mp held with ⟨rfl, _⟩ | ⟨_, before⟩
      · exact fresh member
      · exact shown role before
  | @promoted target key known live =>
    cases earlier with
    | generated id => exact (holds_promoted known live valid id).mpr shown
    | promoted id =>
      have same : target = id := by
        by_contra different
        exact kept different
      subst same
      exact ⟨rfl, hasRole_promoted_self known⟩
    | retired id =>
      intro role held
      rcases (holds_promoted known live valid id).mp ⟨role, held⟩ with ⟨before, present⟩
      exact shown before present
  | @retired target key known idle =>
    cases earlier with
    | generated id =>
      rcases shown with ⟨role, held⟩
      exact ⟨role, (hasRole_retired _ _ _ _).mpr ⟨fun same => kept same, held⟩⟩
    | promoted id =>
      rcases shown with ⟨rfl, held⟩
      exact ⟨rfl, (hasRole_retired _ _ _ _).mpr ⟨idle, held⟩⟩
    | retired id =>
      intro role held
      exact shown role ((hasRole_retired _ _ _ _).mp held).2
  | retiredBefore known gone => exact shown

end Effects

/-! ## The log -/

def Kept (log : List Rotation) (value : Option Snapshot) : Prop :=
  ∀ later rotation earlier, log = later ++ rotation :: earlier →
    (∀ other ∈ later, ¬ other.Overrides rotation) →
      ∃ body, value = some body ∧ rotation.ShownBy body

variable {log : List Rotation}

theorem Kept.log_empty (kept : Kept log none) : log = [] := by
  cases log with
  | nil => rfl
  | cons rotation earlier =>
    rcases kept [] rotation earlier rfl (by simp) with ⟨body, stored, _⟩
    cases stored

theorem kept_nil (value : Option Snapshot) : Kept [] value := by
  intro later rotation earlier split
  simp at split

theorem Kept.cons {log : List Rotation} {old new : Snapshot} {base after : KeyRing}
    {draw : Draw} {rotation : Rotation} (kept : Kept log (some old)) (valid : base.WellFormed)
    (based : Agrees base old) (applied : Applied draw base rotation after)
    (fresh : rotation.Fresh log) (written : Agrees after new) :
    Kept (rotation :: log) (some new) := by
  intro later earlier rest split notOverridden
  refine ⟨new, rfl, (Rotation.shownBy_iff written earlier).mpr ?_⟩
  cases later with
  | nil =>
    cases split
    exact applied.shown
  | cons head others =>
    cases split
    have before : ∀ other ∈ others, ¬ other.Overrides earlier := fun other member =>
      notOverridden other (List.mem_cons_of_mem _ member)
    rcases kept others earlier rest rfl before with ⟨body, stored, shown⟩
    cases stored
    exact applied.shown_of_shown valid fresh (by simp)
      ((Rotation.shownBy_iff based earlier).mp shown)
      (notOverridden rotation List.mem_cons_self)

def Expects (bound : Int → Prop) : SaveStage → Prop
  | .readExpected _ | .record _ => True
  | .watch _ _ expected | .compare _ _ expected _ | .exec _ _ expected _ _ => bound expected

/-- The ring in memory is the effect of a mutation on a ring that tracks Redis under
`ringVersion`, and `Save` compares with no later version. -/
structure Pending (codec : Codec) (redis : Redis) (log : List Rotation) (ring : KeyRing)
    (ringVersion : Int) (rotation : Rotation) (stage : SaveStage) : Prop where
  based : ∃ base draw, (roleReading codec).Current redis ringVersion base ∧
    Applied draw base rotation ring
  fresh : ringVersion = redis.version → rotation.Fresh log
  expects : Expects (fun expected => 0 ≤ expected ∧ expected ≤ ringVersion) stage

def Traced (codec : Codec) (redis : Redis) (log : List Rotation) (ring : KeyRing)
    (ringVersion : Int) : MainStage → Prop
  | .bootstrap _ stage => Expects (fun expected => expected = 0) stage
  | .persist _ _ _ (.record _) => True
  | .persist _ _ rotation stage => Pending codec redis log ring ringVersion rotation stage
  | _ => True

def MainStage.owed : MainStage → List Rotation
  | .persist _ _ rotation (.record _) => [rotation]
  | _ => []

/-- The rotations whose calls returned nil, the last one first. -/
def Node.confirmed (node : Node) : List Rotation := node.results.filterMap Except.toOption

def Node.IsTraced (codec : Codec) (redis : Redis) (log : List Rotation) (node : Node) : Prop :=
  Traced codec redis log node.ring node.ringVersion node.main ∧
    (MainStage.owed node.main ++ node.confirmed).Sublist log

variable {redis : Redis} {codec : Codec} {ring : KeyRing}

theorem Node.IsTraced.confirmed_sublist {node : Node} (traced : node.IsTraced codec redis log) :
    node.confirmed.Sublist log :=
  (List.sublist_append_right _ _).trans traced.2

theorem Traced.write {ringVersion : Int} {stage : MainStage}
    (traced : Traced codec redis log ring ringVersion stage) (value : Option Snapshot)
    (committed : List Rotation) :
    Traced codec (redis.write value) (committed ++ log) ring ringVersion stage := by
  have pending : ∀ {rotation save}, Pending codec redis log ring ringVersion rotation save →
      Pending codec (redis.write value) (committed ++ log) ring ringVersion rotation save := by
    intro rotation save pending
    rcases pending with ⟨⟨base, draw, current, applied⟩, fresh, expects⟩
    refine ⟨⟨base, draw, current.write value, applied⟩, ?_, expects⟩
    intro same
    have seen := current.seen
    simp only [Versioned.write_version] at same
    omega
  cases stage with
  | bootstrap _ save => exact traced
  | persist mutation attempt rotation save =>
    cases save with
    | record written => trivial
    | readExpected _ | watch _ _ _ | compare _ _ _ _ | exec _ _ _ _ _ => exact pending traced
  | down | ensure _ | mint | adopt _ | idle | apply _ _ | reload _ _ _ => trivial

/-! ## Synchronised steps -/

/-- What a step of the main goroutine must find: a generated id that was not retired
before, and at the moment `Save` reads `lastVersion` a counter that has not run ahead of
the ring in memory. -/
def Node.synchronised (log : List Rotation) (node : Node) (draw : Draw) : Bool :=
  match node.main with
  | .apply (.generate _) _ =>
    match newKeyID draw.entropy.keyID with
    | .ok id => decide (Rotation.retired id ∉ log)
    | .error _ => true
  | .persist _ _ _ (.readExpected _) => decide (node.lastVersion ≤ node.ringVersion)
  | _ => true

def World.synchronised {NodeId : Type} (world : World NodeId) (action : NodeId × Action) : Bool :=
  match action.2 with
  | .advance draw => (world.nodes action.1).synchronised world.log draw
  | _ => true

variable {bound : Int → Prop} {lastVersion : Int} {stage : SaveStage}

theorem Expects.step {next : SaveStage} (expects : Expects bound stage)
    (reads : ∀ body, stage = .readExpected body → bound lastVersion)
    (moved : stage.step redis lastVersion = .running next) : Expects bound next := by
  cases stage with
  | readExpected body =>
    cases moved
    exact reads body rfl
  | record written => cases moved
  | watch attempt body expected | compare attempt body expected watched
  | exec attempt body expected watched current =>
    simp only [SaveStage.step] at moved
    split at moved <;> cases moved
    all_goals exact expects

variable {body : Snapshot}

theorem version_eq_expected {reading : Reading codec} {written : Int}
    (running : reading.SoundSave redis ring stage) (expects : Expects bound stage)
    (known : ∀ expected, bound expected → 0 ≤ expected)
    (moved : stage.step redis lastVersion = .committed written body) : bound redis.version := by
  rcases SaveStage.exec_of_committed moved with
    ⟨attempt, expected, watched, current, rfl, untouched⟩
  rcases running with ⟨_, ordered, seen, compared⟩
  have nonnegative := known expected expects
  have same : current = expected := compared (by simp only [versionUnknown]; omega)
  have equal : redis.version = expected := by omega
  rw [equal]
  exact expects

section Steps

variable {codec : Codec} {redis : Redis} {log : List Rotation} {node : Node}

def Keeps (codec : Codec) (log : List Rotation) (advanced : Node.Advanced) : Prop :=
  advanced.node.IsTraced codec advanced.redis (advanced.committed.toList ++ log) ∧
    Kept (advanced.committed.toList ++ log) advanced.redis.value

private theorem keeps_bootstrap {ring : KeyRing} {stage : SaveStage}
    (sound : node.Sound (roleReading codec) redis) (store : (roleReading codec).SoundRedis redis)
    (traced : node.IsTraced codec redis log) (kept : Kept log redis.value)
    (at_ : node.main = .bootstrap ring stage) :
    Keeps codec log ⟨(node.advanceBootstrap redis ring stage).1,
      (node.advanceBootstrap redis ring stage).2, none⟩ := by
  have results := traced.confirmed_sublist
  have main := traced.1
  have soundMain := sound.main
  rw [at_] at main soundMain
  rcases soundMain with ⟨_, zero, _, running⟩
  unfold Node.advanceBootstrap
  cases moved : stage.step redis node.lastVersion with
  | running next => exact ⟨⟨Expects.step main (fun _ _ => zero) moved, results⟩, kept⟩
  | committed written body =>
    have empty : redis.version = 0 :=
      version_eq_expected running main (fun _ same => same.symm.le) moved
    have none_ : log = [] := by
      rw [store.missing.mpr empty] at kept
      exact kept.log_empty
    subst none_
    exact ⟨⟨trivial, results⟩, kept_nil _⟩
  | saved written | conflict | failed message => exact ⟨⟨trivial, results⟩, kept⟩

variable {mutation : Mutation} {attempt : Nat} {draw : Draw}

section

variable (sound : node.Sound (roleReading codec) redis) (traced : node.IsTraced codec redis log)
  (kept : Kept log redis.value) (allowed : node.synchronised log draw)
include sound traced kept allowed

private theorem keeps_apply (at_ : node.main = .apply mutation attempt) :
    Keeps codec log ⟨redis, node.advanceApply codec mutation attempt draw, none⟩ := by
  have soundMain := sound.main
  rw [at_] at soundMain
  unfold Node.advanceApply
  rcases applied : mutation.apply draw node.ring with ⟨result, ring⟩
  cases result with
  | error message => exact ⟨⟨trivial, traced.confirmed_sublist⟩, kept⟩
  | ok rotation =>
    have effect := Mutation.applied_of_ok applied
    refine ⟨⟨⟨⟨node.ring, draw, soundMain.2, effect⟩, fun _ => ?_, trivial⟩,
      traced.confirmed_sublist⟩, kept⟩
    cases effect with
    | @generated key accepted made =>
      cases mutation with
      | generate alg =>
        simp only [Node.synchronised, at_, made.1, decide_eq_true_eq] at allowed
        simpa [Rotation.Fresh] using allowed
      | promote id =>
        rcases node.ring.promote_cases id with ⟨_, equal⟩ | ⟨_, _, _, equal⟩ <;>
          simp [Mutation.apply, equal] at applied
      | retire id =>
        rcases node.ring.retire_cases id draw.now with
          ⟨_, equal⟩ | ⟨_, _, ⟨_, equal⟩ | ⟨_, _, equal⟩⟩ <;>
          simp [Mutation.apply, equal] at applied
    | promoted known live | retired known idle | retiredBefore known gone => trivial

private theorem keeps_persist {rotation : Rotation} {stage : SaveStage}
    (at_ : node.main = .persist mutation attempt rotation stage) :
    Keeps codec log (node.advancePersist redis mutation attempt rotation stage) := by
  have results := traced.confirmed_sublist
  rcases traced with ⟨main, owed⟩
  have soundMain := sound.main
  rw [at_] at main soundMain owed
  rcases soundMain with ⟨known, valid, running, _⟩
  have pending : (∀ written, stage ≠ .record written) →
      Pending codec redis log node.ring node.ringVersion rotation stage := by
    intro unwritten
    cases stage with
    | record written => exact absurd rfl (unwritten written)
    | readExpected _ | watch _ _ _ | compare _ _ _ _ | exec _ _ _ _ _ => exact main
  unfold Node.advancePersist
  cases moved : stage.step redis node.lastVersion with
  | running next =>
    have waiting := pending (by rintro written rfl; cases moved)
    have expects := waiting.expects.step (fun body same => by
      subst same
      simp only [Node.synchronised, at_, decide_eq_true_eq] at allowed
      exact ⟨known, allowed⟩) moved
    refine ⟨?_, kept⟩
    have advanced : Pending codec redis log node.ring node.ringVersion rotation next :=
      ⟨waiting.based, waiting.fresh, expects⟩
    cases next with
    | record written => exact absurd rfl (SaveStage.ne_record_of_running moved written)
    | readExpected _ | watch _ _ _ | compare _ _ _ _ | exec _ _ _ _ _ =>
      exact ⟨advanced, results⟩
  | committed written body =>
    have waiting := pending (by rintro other rfl; cases moved)
    rcases waiting.based with ⟨base, draw, current, applied⟩
    have newest := version_eq_expected running waiting.expects (fun _ bounds => bounds.1) moved
    rcases current.tracks.describes_of_le newest.2 with ⟨old, stored, based⟩
    rw [stored] at kept
    have progress := running.step node.lastVersion
    rw [moved] at progress
    have fresh := waiting.fresh (Int.le_antisymm current.seen newest.2)
    refine ⟨⟨trivial, results.cons_cons rotation⟩, ?_⟩
    rw [progress.2]
    exact kept.cons current.valid based applied fresh
      (KeyRing.WellFormed.agrees_encodeKeyRing valid codec)
  | saved written =>
    rw [SaveStage.record_of_saved moved] at owed
    exact ⟨⟨trivial, owed⟩, kept⟩
  | conflict | failed message => exact ⟨⟨trivial, results⟩, kept⟩

end

section

variable (traced : node.IsTraced codec redis log)
include traced

variable {stage : LoadStage}

theorem isTraced_advanceLoad {again : LoadStage → MainStage} {absent : MainStage}
    (resumes : ∀ next, (node.setMain (again next)).IsTraced codec redis log)
    (gives : ∀ version, ((node.record version).setMain absent).IsTraced codec redis log) :
    (node.advanceLoad codec redis again absent stage).IsTraced codec redis log := by
  have results := traced.confirmed_sublist
  unfold Node.advanceLoad
  split
  · exact resumes _
  · exact ⟨trivial, results⟩
  · exact gives _
  · exact ⟨trivial, results⟩

theorem isTraced_advanceMint : (node.advanceMint codec draw).IsTraced codec redis log := by
  unfold Node.advanceMint
  split <;> exact ⟨trivial, traced.confirmed_sublist⟩

theorem isTraced_advanceReload :
    (node.advanceReload codec redis mutation attempt stage).IsTraced codec redis log := by
  have results := traced.confirmed_sublist
  unfold Node.advanceReload
  split
  · exact ⟨trivial, results⟩
  · split
    · exact ⟨trivial, results⟩
    · split <;> exact ⟨trivial, results⟩
  · exact ⟨trivial, results⟩
  · exact ⟨trivial, results⟩

end

theorem keeps_advance {advanced : Node.Advanced} (sound : node.Sound (roleReading codec) redis)
    (store : (roleReading codec).SoundRedis redis) (traced : node.IsTraced codec redis log)
    (kept : Kept log redis.value) (allowed : node.synchronised log draw)
    (taken : node.advance codec redis draw = some advanced) : Keeps codec log advanced := by
  cases Node.advances_of_advance taken with
  | ensure _ | adopt _ =>
    have results := traced.confirmed_sublist
    exact ⟨isTraced_advanceLoad traced (fun _ => ⟨trivial, results⟩) fun _ => ⟨trivial, results⟩,
      kept⟩
  | mint _ => exact ⟨isTraced_advanceMint traced, kept⟩
  | bootstrap main => exact keeps_bootstrap sound store traced kept main
  | apply main => exact keeps_apply sound traced kept allowed main
  | persist main => exact keeps_persist sound traced kept allowed main
  | reload _ => exact ⟨isTraced_advanceReload traced, kept⟩

private theorem isTraced_deliver {worker : Worker} {next : Node}
    (traced : node.IsTraced codec redis log)
    (taken : node.deliver codec redis worker = some next) : next.IsTraced codec redis log := by
  rcases Node.deliver_frame taken with ⟨main, results, idle | ⟨ring, ringVersion⟩⟩
  · rw [Node.IsTraced, Node.confirmed, main, results, idle]
    exact ⟨trivial, traced.confirmed_sublist⟩
  · rw [Node.IsTraced, Node.confirmed, main, results, ring, ringVersion]
    exact traced

end Steps

/-! ## Runs -/

section Runs

variable {codec : Codec} {NodeId : Type}

theorem roleReading_closed (codec : Codec) : Closed (roleReading codec) fun _ => True where
  empty := KeyRing.empty_wellFormed
  applied := fun _ valid applied => applied.change.wellFormed valid

structure World.Keeping (codec : Codec) (world : World NodeId) : Prop where
  sound : world.Sound (roleReading codec)
  traced : ∀ name, (world.nodes name).IsTraced codec world.redis world.log
  kept : Kept world.log world.redis.value

theorem World.initial_keeping : (World.initial : World NodeId).Keeping codec where
  sound := World.initial_sound
  traced := fun _ => ⟨trivial, List.Sublist.refl []⟩
  kept := kept_nil _

variable [DecidableEq NodeId] {world : World NodeId}

theorem World.Keeping.setNode (keeping : world.Keeping codec) {name : NodeId} {node : Node}
    (sound : (world.setNode name node).Sound (roleReading codec))
    (traced : node.IsTraced codec world.redis world.log) :
    (world.setNode name node).Keeping codec where
  sound := sound
  traced := World.forall_setNode keeping.traced traced
  kept := keeping.kept

theorem World.Keeping.step {next : World NodeId} {action : NodeId × Action}
    (allowed : world.synchronised action) (keeping : world.Keeping codec)
    (taken : world.step codec action = some next) : next.Keeping codec := by
  have sound := keeping.sound.step (roleReading_closed codec) (fun _ _ => trivial) taken
  rcases action with ⟨name, action⟩
  have traced := keeping.traced name
  cases World.steps_of_step taken with
  | boot | call => exact keeping.setNode sound ⟨trivial, traced.confirmed_sublist⟩
  | startWatch => exact keeping.setNode sound traced
  | @advance draw advanced moved =>
    have nodeSound := keeping.sound.nodes name
    rcases keeps_advance nodeSound keeping.sound.redis traced keeping.kept allowed moved with
      ⟨advancedTraced, kept⟩
    have written := (nodeSound.advance (roleReading_closed codec) trivial
      keeping.sound.redis moved).1
    refine ⟨sound, fun other => ?_, kept⟩
    by_cases same : other = name
    · subst same
      simpa using advancedTraced
    · have before := keeping.traced other
      have unchanged : Function.update world.nodes name advanced.node other =
          world.nodes other := by simp [same]
      simp only [unchanged]
      rcases written with ⟨equal, uncommitted⟩ | ⟨ring, valid, equal⟩
      · rw [equal, uncommitted]
        exact before
      · rw [equal]
        exact ⟨before.1.write _ _, before.2.trans (List.sublist_append_right _ _)⟩
  | wake => exact keeping.setNode sound traced
  | deliver moved => exact keeping.setNode sound (isTraced_deliver traced moved)

/-- In every run of synchronised steps, at every moment, the mutations whose calls returned
nil are logged in the order of the calls, and every logged rotation is shown by the ring in Redis
unless a later one overrides it. -/
theorem rotations_kept (codec : Codec) {actions : List (NodeId × Action)}
    {world : World NodeId}
    (run : Run (World.step codec) (fun world action => world.synchronised action)
      World.initial actions world) :
    (∀ name, (world.nodes name).confirmed.Sublist world.log) ∧
    ∀ later rotation earlier, world.log = later ++ rotation :: earlier →
      (∀ other ∈ later, ¬ other.Overrides rotation) →
        ∃ body, world.redis.value = some body ∧ rotation.ShownBy body := by
  have keeping : world.Keeping codec :=
    run.invariant (World.Keeping codec)
      (fun _ _ _ keeping allowed taken => World.Keeping.step allowed keeping taken)
      World.initial_keeping
  exact ⟨fun name => (keeping.traced name).confirmed_sublist, keeping.kept⟩

end Runs

def generateActions : List (Bool × Action) :=
  (false, .boot) :: advances false 1 9 ++ (false, .call (.generate .hs256)) :: advances false 2 6

theorem rotations_kept_of_generate :
    ∃ world, Run (World.step Codec.epoch) (fun world action => world.synchronised action)
        (World.initial : World Bool) generateActions world ∧
      world.log = [.generated "k-000000000002"] ∧
      ∃ body, world.redis.value = some body ∧
        (Rotation.generated "k-000000000002").ShownBy body := by
  rcases Run.exists_of_execute World.log
      (show (execute (World.step Codec.epoch) (fun world action => world.synchronised action)
        (World.initial : World Bool) generateActions).map World.log =
          some [.generated "k-000000000002"] by decide +kernel) with ⟨world, run, log⟩
  exact ⟨world, run, log, (rotations_kept Codec.epoch run).2 [] _ [] log (by simp)⟩

/-- The ticker of node `true` has recorded the version that node `false` wrote; the node then
generates a key of its own before the ticker hands over the ring it loaded. -/
def staleSaveActions : List (Bool × Action) :=
  followActions ++ (true, .wake .ticker) :: delivers true .ticker 4 ++
    (true, .call (.generate .hs256)) :: advances true 3 6 ++ delivers true .ticker 4

theorem Rotation.id_of_shownBy {id : String} (shown : (Rotation.generated id).ShownBy body) :
    id ∈ body.keys.map SnapshotKey.id := by
  rcases shown with ⟨_, entry, member, named, _⟩
  exact List.mem_map.mpr ⟨entry, member, named⟩

/-- The version that `Watch` records ahead of the ring makes a stale ring look current: both
calls return nil, and the key that node `false` generated is gone although nobody retired it. -/
theorem rotation_lost_to_stale_save :
    ∃ world, Run (World.step Codec.epoch) unrestricted (World.initial : World Bool)
        staleSaveActions world ∧
      .ok (Rotation.generated "k-000000000002") ∈ (world.nodes false).results ∧
      .ok (Rotation.generated "k-000000000003") ∈ (world.nodes true).results ∧
      world.log = [.generated "k-000000000003", .generated "k-000000000002"] ∧
      ∃ body, world.redis.value = some body ∧
        ¬ (Rotation.generated "k-000000000002").ShownBy body := by
  let observe (world : World Bool) :=
    (world.log, (world.nodes false).results, (world.nodes true).results,
      world.redis.value.map fun body => body.keys.map SnapshotKey.id)
  rcases Run.exists_of_execute observe
      (show (execute (World.step Codec.epoch) unrestricted (World.initial : World Bool)
        staleSaveActions).map observe =
          some ([.generated "k-000000000003", .generated "k-000000000002"],
            [.ok (.generated "k-000000000002")], [.ok (.generated "k-000000000003")],
            some ["k-000000000001", "k-000000000003"])
        by decide +kernel) with ⟨world, run, observed⟩
  simp only [observe, Prod.mk.injEq, Option.map_eq_some_iff] at observed
  rcases observed with ⟨log, first, second, body, stored, ids⟩
  refine ⟨world, run, by simp [first], by simp [second], log, body, stored, fun shown => ?_⟩
  have member := Rotation.id_of_shownBy shown
  rw [ids] at member
  exact absurd member (by decide)

end Parsec.Fleet
