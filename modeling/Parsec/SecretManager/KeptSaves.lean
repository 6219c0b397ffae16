import Parsec.SecretManager.Machine

/-! # Saves under a lease

A save that had loaded a version is appended right after it, provided that no one has updated
the secret between the writing of the save's lease and its append. The code does not check
this: a lease that runs out while its holder is slow lets another save through. -/

namespace Parsec.SecretManager

open Foundation Auth

/-! ## What a step can do -/

def Stage.lease : Stage → Option Nat
  | readLatest _ lease => some lease
  | addVersion _ lease _ => some lease
  | _ => none

def Stage.result : Stage → Option Saved
  | readRelease result => result.toOption
  | writeRelease result _ => result.toOption
  | _ => none

def Advanced.Reports (advanced : Advanced) (saved : Saved) : Prop :=
  advanced.node.stage.result = some saved ∨ advanced.returned = some (.ok saved)

inductive Transition (secret : Secret) (stage : Stage) (advanced : Advanced) : Prop
  | quiet (same : advanced.secret = secret) (dropped : advanced.node.stage.lease = none)
      (reports : ∀ saved, advanced.Reports saved → stage.result = some saved)
  | updated (etag : advanced.secret.etag = secret.etag + 1)
      (versions : advanced.secret.versions = secret.versions)
      (lease : advanced.node.stage.lease = none ∨
        ∃ save, advanced.node.stage = .readLatest save (secret.etag + 1))
      (reports : ∀ saved, advanced.Reports saved → stage.result = some saved)
  | compared (save : Save) (lease : Nat) (before : stage = .readLatest save lease)
      (same : advanced.secret = secret)
      (after : advanced.node.stage = .addVersion save lease secret.latest)
      (equal : save.expected ≠ versionUnknown → secret.latest = save.expected)
      (silent : advanced.returned = none)
  | appended (save : Save) (lease : Nat) (current : Int)
      (before : stage = .addVersion save lease current)
      (added : advanced.secret = secret.add save.body)
      (dropped : advanced.node.stage.lease = none)
      (reports : ∀ saved, advanced.Reports saved →
        saved = { save with written := (secret.add save.body).latest })

def Moves (before after : Secret) : Prop :=
  after = before ∨ after.etag = before.etag + 1 ∧ after.versions = before.versions

theorem Secret.create_moves (secret : Secret) : Moves secret secret.create := by
  unfold Secret.create
  split
  · exact .inl rfl
  · exact .inr ⟨rfl, rfl⟩

variable {secret : Secret}

theorem Secret.update_eq_some {updated : Secret} {etag : Nat} {lock : Text}
    (done : secret.update etag lock = some updated) :
    updated.etag = secret.etag + 1 ∧ updated.versions = secret.versions := by
  unfold Secret.update at done
  split at done
  · cases done
    exact ⟨rfl, rfl⟩
  · cases done

theorem settleUpdate_moves (secret : Secret) (moment : Moment) (etag : Nat) (lock : Text) :
    Moves secret (settleUpdate secret moment etag lock) := by
  unfold settleUpdate
  split
  · cases done : secret.update etag lock with
    | none => exact .inl rfl
    | some updated => exact .inr (Secret.update_eq_some done)
  · exact .inl rfl

variable {stage : Stage} {advanced : Advanced}

theorem Transition.of_moves (moves : Moves secret advanced.secret)
    (dropped : advanced.node.stage.lease = none)
    (reports : ∀ saved, advanced.Reports saved → stage.result = some saved) :
    Transition secret stage advanced := by
  rcases moves with same | ⟨etag, versions⟩
  · exact .quiet same dropped reports
  · exact .updated etag versions (.inl dropped) reports

theorem Transition.grows (transition : Transition secret stage advanced) :
    ∃ more, advanced.secret.versions = secret.versions ++ more := by
  cases transition with
  | quiet same _ _ | compared _ _ _ same _ _ _ => exact ⟨[], by simp [same]⟩
  | updated _ versions _ _ => exact ⟨[], by simp [versions]⟩
  | appended save _ _ _ added _ _ => exact ⟨[save.body], by simp [added, Secret.add]⟩

section

variable {setting : Setting} {config : Config} {secret after : Secret} {node : Node}
  {moment : Moment} {stage : Stage} {save : Save} {giveUp : Int}

section

variable (moves : Moves secret after)
include moves

theorem finish_transition {result : Except String Saved}
    (known : ∀ saved, result = .ok saved → stage.result = some saved) :
    Transition secret stage (finish after node result) := by
  refine .of_moves moves rfl ?_
  rintro saved (pending | returned)
  · cases pending
  · exact known saved (Option.some.inj returned)

theorem failure_transition {text : String} :
    Transition secret stage (finish after node (.error text)) :=
  finish_transition moves fun _ impossible => nomatch impossible

variable {next : Stage}

theorem proceed_transition (dropped : next.lease = none)
    (reports : ∀ saved, next.result = some saved → stage.result = some saved) :
    Transition secret stage (proceed after node next) := by
  refine .of_moves moves dropped ?_
  rintro saved (pending | returned)
  · exact reports saved pending
  · cases returned

theorem silent_transition (dropped : next.lease = none) (silent : next.result = none) :
    Transition secret stage (proceed after node next) := by
  refine proceed_transition moves dropped ?_
  intro saved pending
  rw [silent] at pending
  cases pending

theorem retry_transition {problem : String} :
    Transition secret stage (retry setting config after node moment save giveUp problem) := by
  unfold retry
  split
  · exact failure_transition moves
  · exact silent_transition moves rfl rfl

end

private theorem advanceReadLease_transition :
    Transition secret stage (advanceReadLease setting config secret node moment save giveUp) := by
  have same : Moves secret secret := .inl rfl
  unfold advanceReadLease
  split
  · exact failure_transition same
  · split
    · exact failure_transition same
    · split
      · exact retry_transition same
      · exact silent_transition same rfl rfl

theorem advanceWriteLease_transition {etag : Nat} {mine : Lease} :
    Transition secret stage
      (advanceWriteLease setting config secret node moment save giveUp etag mine) := by
  have settled := settleUpdate_moves secret moment etag mine.encode
  unfold advanceWriteLease
  split
  · split
    · rename_i updated done
      rcases Secret.update_eq_some done with ⟨next, versions⟩
      refine .updated next versions (.inr ⟨save, ?_⟩) ?_
      · change Stage.readLatest save updated.etag = _
        rw [next]
      · rintro saved (pending | returned)
        · cases pending
        · cases returned
    · exact retry_transition (.inl rfl)
  · exact retry_transition settled
  · exact failure_transition settled

variable {lease : Nat}

theorem advanceReadLatest_transition :
    Transition secret (.readLatest save lease)
      (advanceReadLatest setting secret node moment save lease) := by
  have same : Moves secret secret := .inl rfl
  unfold advanceReadLatest
  split
  · exact silent_transition same rfl rfl
  · split
    · exact silent_transition same rfl rfl
    · rename_i passed
      refine .compared save lease rfl rfl rfl ?_ rfl
      intro known
      by_contra different
      exact passed ⟨known, different⟩

variable {current : Int}

theorem advanceAddVersion_transition :
    Transition secret (.addVersion save lease current)
      (advanceAddVersion setting secret node moment save) := by
  unfold advanceAddVersion
  split
  · rename_i applied _ _ _
    cases applied with
    | false => exact silent_transition (.inl rfl) rfl rfl
    | true =>
      refine .appended save lease current rfl rfl rfl ?_
      rintro saved (pending | returned)
      · cases pending
      · cases returned
  · refine .appended save lease current rfl rfl rfl ?_
    rintro saved (pending | returned)
    · exact (Option.some.inj pending).symm
    · cases returned

private theorem advanceReadRelease_transition {result : Except String Saved} :
    Transition secret (.readRelease result)
      (advanceReadRelease config secret node moment result) := by
  have same : Moves secret secret := .inl rfl
  have returning : Transition secret (.readRelease result) (finish secret node result) := by
    refine finish_transition same ?_
    rintro saved rfl
    rfl
  unfold advanceReadRelease
  split
  · exact returning
  · split
    · exact returning
    · split
      · exact returning
      · exact proceed_transition same rfl fun saved pending => pending

theorem beginSave_transition {body : Snapshot} (moves : Moves secret after) :
    Transition secret stage (beginSave config after node moment body) :=
  silent_transition moves rfl rfl

theorem startSave_transition {ring : KeyRing} :
    Transition secret stage (startSave setting config secret node moment ring) := by
  have same : Moves secret secret := .inl rfl
  simp only [startSave]
  split
  · exact failure_transition same
  · split
    · exact beginSave_transition same
    · exact silent_transition same rfl rfl

variable {advanced : Advanced}

theorem advance_transition (taken : advance setting config secret node moment = some advanced) :
    Transition secret node.stage advanced := by
  have same : Moves secret secret := .inl rfl
  unfold advance at taken
  split at taken
  · cases taken
  · split at taken
    · cases taken
      exact failure_transition same
    · split at taken
      · cases taken
        exact beginSave_transition same
      · cases taken
        exact silent_transition same rfl rfl
  · split at taken
    · rename_i applied _ _ _
      cases taken
      cases applied with
      | false => exact failure_transition same
      | true => exact failure_transition secret.create_moves
    · cases taken
      exact beginSave_transition secret.create_moves
  · cases taken
    exact advanceReadLease_transition
  · cases taken
    exact advanceWriteLease_transition
  · rename_i stage
    rw [stage]
    cases taken
    exact advanceReadLatest_transition
  · rename_i stage
    rw [stage]
    cases taken
    exact advanceAddVersion_transition
  · rename_i stage
    rw [stage]
    cases taken
    exact advanceReadRelease_transition
  · rename_i result etag stage
    rw [stage]
    cases taken
    refine finish_transition (settleUpdate_moves secret moment etag []) ?_
    rintro saved rfl
    rfl

theorem Secret.add_ne (secret : Secret) (body : Snapshot) : secret ≠ secret.add body := by
  intro same
  have lengths := congrArg (fun secret => secret.versions.length) same
  simp [Secret.add] at lengths

private theorem advance_applies (stage : node.stage = .addVersion save lease current)
    (taken : advance setting config secret node moment = some advanced)
    (added : advanced.secret = secret.add save.body) : moment.answer.applies = true := by
  simp only [advance, stage, advanceAddVersion] at taken
  cases answer : moment.answer with
  | delivered => rfl
  | failed applied contention text =>
    cases applied with
    | true => rfl
    | false =>
      rw [answer] at taken
      cases taken
      exact absurd added (secret.add_ne save.body)

end

/-! ## Fenced runs -/

structure Extends (versions : List Snapshot) (saved : Saved) : Prop where
  next : saved.expected ≠ versionUnknown → saved.written = saved.expected + 1
  present : ∃ position : Nat, saved.written = (position : Int) + 1 ∧
    versions[position]? = some saved.body

theorem Extends.append {versions : List Snapshot} {saved : Saved}
    (extended : Extends versions saved) (more : List Snapshot) :
    Extends (versions ++ more) saved := by
  rcases extended.present with ⟨position, written, found⟩
  refine ⟨extended.next, position, written, ?_⟩
  have inside : position < versions.length := (List.getElem?_eq_some_iff.mp found).1
  rw [List.getElem?_append_left inside, found]

theorem Extends.of_add {save : Save}
    (based : save.expected ≠ versionUnknown → secret.latest = save.expected) :
    Extends (secret.add save.body).versions
      { save with written := (secret.add save.body).latest } := by
  have written : (secret.add save.body).latest = secret.latest + 1 := by
    simp [Secret.add, Secret.latest]
  constructor
  · intro known
    rw [written, based known]
  · refine ⟨secret.versions.length, written, ?_⟩
    simp [Secret.add]

namespace World

variable {NodeId : Type}

def held (world : World NodeId) (name : NodeId) : Option Nat := (world.nodes name).stage.lease

def addsUnder (world : World NodeId) (action : NodeId × Action) : Option Nat :=
  match action.2, (world.nodes action.1).stage with
  | .advance moment, .addVersion _ lease _ => if moment.answer.applies then some lease else none
  | _, _ => none

def Fenced (world : World NodeId) (action : NodeId × Action) : Prop :=
  ∀ lease ∈ world.addsUnder action, lease = world.secret.etag

instance (world : World NodeId) (action : NodeId × Action) : Decidable (world.Fenced action) :=
  inferInstanceAs (Decidable (∀ lease ∈ world.addsUnder action, lease = world.secret.etag))

structure Orderly (world : World NodeId) : Prop where
  exclusive : Exclusive world.secret.etag world.held
  latest : ∀ name save current,
    (world.nodes name).stage = .addVersion save world.secret.etag current →
      current = world.secret.latest
  compared : ∀ name save lease current,
    (world.nodes name).stage = .addVersion save lease current →
      save.expected ≠ versionUnknown → current = save.expected
  pending : ∀ name saved, (world.nodes name).stage.result = some saved →
    Extends world.secret.versions saved
  returned : ∀ saved, .ok saved ∈ world.returns → Extends world.secret.versions saved

theorem initial_orderly (secret : Secret) : (initial secret : World NodeId).Orderly where
  exclusive := Exclusive.unheld secret.etag
  latest := by
    intro name save current stage
    cases stage
  compared := by
    intro name save lease current stage
    cases stage
  pending := by
    intro name saved result
    cases result
  returned := by
    intro saved member
    cases member

variable {world : World NodeId} {name : NodeId} {advanced : Advanced}

def Fences (world : World NodeId) (name : NodeId) (advanced : Advanced) : Prop :=
  ∀ save lease current, (world.nodes name).stage = .addVersion save lease current →
    advanced.secret = world.secret.add save.body → lease = world.secret.etag

theorem Orderly.extends_of_reports (orderly : world.Orderly)
    (transition : Transition world.secret (world.nodes name).stage advanced)
    (fences : world.Fences name advanced) {saved : Saved} (reported : advanced.Reports saved) :
    Extends advanced.secret.versions saved := by
  cases transition with
  | quiet same _ reports | updated _ same _ reports =>
    rw [same]
    exact orderly.pending name saved (reports saved reported)
  | compared save lease _ _ after _ silent =>
    rcases reported with pending | returned
    · rw [after] at pending
      cases pending
    · rw [silent] at returned
      cases returned
  | appended save lease current before added _ reports =>
    rw [reports saved reported, added]
    have fenced := fences save lease current before added
    rw [fenced] at before
    refine Extends.of_add fun known => ?_
    rw [← orderly.latest name save current before]
    exact orderly.compared name save _ current before known

private theorem outside_orderly (orderly : world.Orderly) (lock : Text) :
    ({ world with secret := { world.secret with
        etag := world.secret.etag + 1, lock := lock } } : World NodeId).Orderly where
  exclusive := orderly.exclusive.renew
  latest := by
    intro other save current stage
    have holds : world.held other = some (world.secret.etag + 1) := by
      change (world.nodes other).stage.lease = _
      rw [stage]
      rfl
    have bound := orderly.exclusive.issued other _ holds
    omega
  compared := orderly.compared
  pending := orderly.pending
  returned := orderly.returned

variable [DecidableEq NodeId]

private theorem held_settle (world : World NodeId) (name : NodeId) (advanced : Advanced) :
    (world.settle name advanced).held =
      Function.update world.held name advanced.node.stage.lease := by
  funext other
  by_cases same : other = name
  · subst same
    simp [held, settle]
  · simp [held, settle, same]

theorem settle_exclusive (exclusive : Exclusive world.secret.etag world.held)
    (transition : Transition world.secret (world.nodes name).stage advanced) :
    Exclusive (world.settle name advanced).secret.etag (world.settle name advanced).held := by
  rw [held_settle]
  change Exclusive advanced.secret.etag _
  cases transition with
  | quiet same dropped _ | appended _ _ _ _ same dropped _ =>
    rw [same, dropped]
    exact exclusive.drop name
  | updated etag _ lease _ =>
    rw [etag]
    rcases lease with dropped | ⟨save, taken⟩
    · rw [dropped]
      exact exclusive.renew.drop name
    · rw [taken]
      exact exclusive.take name
  | compared save lease before same after _ _ =>
    rw [same, after]
    refine exclusive.keep ?_
    simp [held, before, Stage.lease]

theorem settle_stage {other : NodeId} {stage : Stage}
    (found : ((world.settle name advanced).nodes other).stage = stage) :
    other = name ∧ advanced.node.stage = stage ∨
      other ≠ name ∧ (world.nodes other).stage = stage := by
  by_cases same : other = name
  · subst same
    simp only [settle, Function.update_self] at found
    exact .inl ⟨rfl, found⟩
  · simp only [settle, Function.update_of_ne same] at found
    exact .inr ⟨same, found⟩

section

variable (orderly : world.Orderly)
include orderly

section

variable (transition : Transition world.secret (world.nodes name).stage advanced)
include transition

private theorem settle_latest (fences : world.Fences name advanced) :
    ∀ other save current, ((world.settle name advanced).nodes other).stage =
        .addVersion save (world.settle name advanced).secret.etag current →
      current = (world.settle name advanced).secret.latest := by
  intro other save current found
  change current = advanced.secret.latest
  change _ = Stage.addVersion save advanced.secret.etag current at found
  have leased : ∀ {stage : Stage} {etag : Nat},
      stage = .addVersion save etag current → stage.lease = some etag := by
    rintro _ _ rfl
    rfl
  rcases settle_stage found with ⟨rfl, stage⟩ | ⟨different, stage⟩
  · cases transition with
    | quiet _ dropped _ | appended _ _ _ _ _ dropped _ =>
      exact absurd (dropped.symm.trans (leased stage)) (by simp)
    | updated _ _ lease _ =>
      rcases lease with dropped | ⟨_, taken⟩
      · exact absurd (dropped.symm.trans (leased stage)) (by simp)
      · exact absurd (taken.symm.trans stage) (by simp)
    | compared _ _ _ same after _ _ =>
      rw [after] at stage
      cases stage
      rw [same]
  · cases transition with
    | quiet same _ _ | compared _ _ _ same _ _ _ =>
      rw [same] at stage ⊢
      exact orderly.latest other save current stage
    | updated etag _ _ _ =>
      have bound := orderly.exclusive.issued other _ (leased stage)
      omega
    | appended mine lease _ before added _ _ =>
      -- the other save would be a second one under the current etag
      have current := fences mine lease _ before added
      have holds : world.held name = some world.secret.etag := by
        simp [held, before, Stage.lease, current]
      rw [added] at stage
      exact absurd (orderly.exclusive.single other name (leased stage) holds) different

theorem settle_compared :
    ∀ other save lease current,
      ((world.settle name advanced).nodes other).stage = .addVersion save lease current →
        save.expected ≠ versionUnknown → current = save.expected := by
  intro other save lease current found known
  rcases settle_stage found with ⟨rfl, stage⟩ | ⟨_, stage⟩
  · have leased : advanced.node.stage.lease = some lease := by
      rw [stage]
      rfl
    cases transition with
    | quiet _ dropped _ | appended _ _ _ _ _ dropped _ =>
      exact absurd (dropped.symm.trans leased) (by simp)
    | updated _ _ possible _ =>
      rcases possible with dropped | ⟨_, taken⟩
      · exact absurd (dropped.symm.trans leased) (by simp)
      · exact absurd (taken.symm.trans stage) (by simp)
    | compared _ _ _ _ after equal _ =>
      rw [after] at stage
      cases stage
      exact equal known
  · exact orderly.compared other save lease current stage known

theorem settle_orderly (fences : world.Fences name advanced) :
    (world.settle name advanced).Orderly := by
  rcases transition.grows with ⟨more, grown⟩
  have kept : ∀ {saved}, Extends world.secret.versions saved →
      Extends (world.settle name advanced).secret.versions saved := by
    intro saved extended
    change Extends advanced.secret.versions saved
    rw [grown]
    exact extended.append more
  refine ⟨settle_exclusive orderly.exclusive transition, settle_latest orderly transition fences,
    settle_compared orderly transition, ?_, ?_⟩
  · intro other saved result
    rcases settle_stage (Eq.refl ((world.settle name advanced).nodes other).stage) with
      ⟨_, stage⟩ | ⟨_, stage⟩
    · rw [← stage] at result
      exact orderly.extends_of_reports transition fences (.inl result)
    · rw [← stage] at result
      exact kept (orderly.pending other saved result)
  · intro saved member
    rcases List.mem_append.mp member with new | old
    · exact orderly.extends_of_reports transition fences (.inr (Option.mem_toList.mp new))
    · exact kept (orderly.returned saved old)

end

theorem setNode_orderly {node : Node}
    (stage : node.stage = (world.nodes name).stage ∨ node.stage = .idle) :
    (world.setNode name node).Orderly := by
  have settled : world.setNode name node =
      world.settle name { node := node, secret := world.secret } := rfl
  rcases stage with same | idle
  · have stages : ∀ other, ((world.setNode name node).nodes other).stage =
        (world.nodes other).stage := by
      intro other
      by_cases equal : other = name
      · subst equal
        simp [setNode, same]
      · simp [setNode, equal]
    have held : (world.setNode name node).held = world.held := by
      funext other
      simp only [World.held, stages]
    constructor
    · rw [held]
      exact orderly.exclusive
    · simp only [stages]
      exact orderly.latest
    · simp only [stages]
      exact orderly.compared
    · simp only [stages]
      exact orderly.pending
    · exact orderly.returned
  · rw [settled]
    refine settle_orderly orderly (.quiet rfl ?_ ?_) ?_
    · simp [idle, Stage.lease]
    · rintro saved (pending | returned)
      · simp [idle, Stage.result] at pending
      · cases returned
    · intro save lease current _ added
      exact absurd added (world.secret.add_ne save.body)

end

private theorem step_orderly {setting : Setting} {config : NodeId → Config} (world : World NodeId)
    (action : NodeId × Action) (next : World NodeId) (orderly : world.Orderly)
    (fenced : world.Fenced action) (taken : step setting config world action = some next) :
    next.Orderly := by
  rcases action with ⟨name, action⟩
  cases action with
  | save ring moment =>
    simp only [step] at taken
    split at taken
    · rename_i idle
      cases taken
      refine settle_orderly orderly startSave_transition ?_
      intro save lease current stage
      rw [idle] at stage
      cases stage
    · cases taken
  | advance moment =>
    rcases Option.map_eq_some_iff.mp taken with ⟨advanced, done, rfl⟩
    refine settle_orderly orderly (advance_transition done) ?_
    intro save lease current stage added
    have applies := advance_applies stage done added
    exact fenced lease (by simp [addsUnder, stage, applies])
  | access =>
    cases taken
    exact setNode_orderly orderly (.inl rfl)
  | record position =>
    simp only [step] at taken
    split at taken
    · cases taken
    · cases taken
      exact setNode_orderly orderly (.inl rfl)
  | restart =>
    cases taken
    exact setNode_orderly orderly (.inr rfl)
  | outside lock =>
    cases taken
    exact outside_orderly orderly lock

end World

/-- In a run in which every version is added under an etag that has not moved since the
save's lease was written, every successful save that had loaded a version stands right after
that version, and every other successful save that stands before it had been loaded. -/
theorem saves_follow_loaded_version {NodeId : Type} [DecidableEq NodeId] (setting : Setting)
    (config : NodeId → Config) (secret : Secret) {actions : List (NodeId × Action)}
    {final : World NodeId}
    (run : Run (World.step setting config) World.Fenced (World.initial secret) actions final)
    {saved : Saved} (returned : .ok saved ∈ final.returns)
    (loaded : saved.expected ≠ versionUnknown) :
    saved.written = saved.expected + 1 ∧
      (∃ position : Nat, saved.written = (position : Int) + 1 ∧
        final.secret.versions[position]? = some saved.body) ∧
      ∀ other : Saved, .ok other ∈ final.returns → other.written < saved.written →
        other.written ≤ saved.expected := by
  have orderly := run.invariant World.Orderly World.step_orderly (World.initial_orderly secret)
  have extended := orderly.returned saved returned
  have next := extended.next loaded
  refine ⟨next, extended.present, ?_⟩
  intro other _ earlier
  omega

/-! Two nodes with the default lease of half a minute, which both have loaded version 1. -/

def pairSetting : Setting where
  codec := Codec.epoch
  size := fun _ => 512
  showDuration := fun _ => "10s"
  secretName := "projects/p/secrets/parsec-keyring"

def pairConfig (name : Bool) : Config where
  nodeID := if name then ['b'] else ['a']
  lockTTL := 30 * second
  lockWait := 10 * second

def pairRing (id : String) : KeyRing := (KeyRing.empty.add id (List.replicate 32 7) 0).2

def pairSecret : Secret where
  created := true
  etag := 1
  lock := []
  versions := [encodeKeyRing Codec.epoch (pairRing "k1")]

def loading (name : Bool) : List (Bool × Action) := [(name, .access), (name, .record 0)]

def saving (name : Bool) (id : String) (now : Int) (count : Nat) : List (Bool × Action) :=
  (name, .save (pairRing id) { now := now, later := now }) ::
    List.replicate count (name, .advance { now := now, later := now })

def successes (world : World Bool) : List (Int × Int) :=
  world.returns.filterMap fun result =>
    result.toOption.map fun saved => (saved.expected, saved.written)

/-- The first node stops before its append. A minute later the second one takes the expired
lease and saves, and then the first one goes on. -/
def overtaken : List (Bool × Action) :=
  loading false ++ loading true ++ saving false "k2" 0 4 ++
    saving true "k3" minute 7 ++
    List.replicate 2 (false, .advance { now := 2 * minute, later := 2 * minute })

theorem slow_save_supersedes_unloaded :
    ∃ final, Run (World.step pairSetting pairConfig) unrestricted (World.initial pairSecret)
        overtaken final ∧
      successes final = [(1, 3), (1, 2)] :=
  Run.exists_of_execute successes (by decide +kernel)

def inTurn : List (Bool × Action) :=
  loading false ++ saving false "k2" 0 7 ++ loading true ++ saving true "k3" minute 7

theorem saves_follow_loaded_version_of_turns :
    ∃ final, Run (World.step pairSetting pairConfig) World.Fenced (World.initial pairSecret)
        inTurn final ∧
      successes final = [(2, 3), (1, 2)] ∧
      ∀ saved : Saved, .ok saved ∈ final.returns → saved.expected ≠ versionUnknown →
        saved.written = saved.expected + 1 := by
  rcases Run.exists_of_execute successes (show (execute (World.step pairSetting pairConfig)
      World.Fenced (World.initial pairSecret) inTurn).map successes = some [(2, 3), (1, 2)] by
    decide +kernel) with ⟨final, run, observed⟩
  refine ⟨final, run, observed, ?_⟩
  intro saved returned loaded
  exact (saves_follow_loaded_version pairSetting pairConfig pairSecret run returned loaded).1

end Parsec.SecretManager
