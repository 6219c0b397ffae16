import Parsec.Foundation.Execution
import Parsec.Auth.RedisKeyRingStore

/-! # Loads among saves

One store runs `Load` while any number of other stores run `Save` on the same Redis. -/

namespace Parsec.KeyRingStore

open Foundation Auth

/-- A store that saves: its `lastVersion` and the running `Save` with its ring. -/
structure Saver where
  lastVersion : Int := versionUnknown
  save : Option (KeyRing × SaveStage) := none

inductive Loader
  | idle
  | running (stage : LoadStage)
  | returned (result : Except String KeyRing)
  deriving DecidableEq

/-- `log` lists the saves whose transactions went through, newest first, each with the
version it set. It exists for the statements only. -/
structure World (StoreId : Type) where
  redis : Redis
  lastVersion : Int
  loader : Loader
  savers : StoreId → Saver
  log : List (Int × KeyRing)

/-- A `Save` starts with whatever `lastVersion` the store's earlier calls left behind. -/
inductive Action (StoreId : Type)
  | load
  | advanceLoad
  | save (store : StoreId) (lastVersion : Int) (ring : KeyRing)
  | advanceSave (store : StoreId)

namespace World

variable {StoreId : Type}

def initial : World StoreId where
  redis := Redis.empty
  lastVersion := versionUnknown
  loader := .idle
  savers := fun _ => {}
  log := []

def advanceLoad (codec : Codec) (world : World StoreId) (stage : LoadStage) : World StoreId :=
  match stage.step codec world.redis with
  | .running next => { world with loader := .running next }
  | .loaded version ring =>
    { world with lastVersion := version, loader := .returned (.ok ring) }
  | .missing version =>
    { world with lastVersion := version, loader := .returned (.error errNotExist) }
  | .failed message => { world with loader := .returned (.error message) }

variable [DecidableEq StoreId]

def setSaver (world : World StoreId) (store : StoreId) (saver : Saver) : World StoreId :=
  { world with savers := Function.update world.savers store saver }

def advanceSave (world : World StoreId) (store : StoreId) (ring : KeyRing) (stage : SaveStage) :
    World StoreId :=
  let saver := world.savers store
  match stage.step world.redis saver.lastVersion with
  | .running next => world.setSaver store { saver with save := some (ring, next) }
  | .committed written body =>
    { world with
      redis := { version := written, value := some body },
      log := (written, ring) :: world.log }.setSaver store
        { saver with save := some (ring, .record written) }
  | .saved written => world.setSaver store { lastVersion := written, save := none }
  | .conflict | .failed _ => world.setSaver store { saver with save := none }

def step (codec : Codec) (world : World StoreId) : Action StoreId → Option (World StoreId)
  | .load =>
    match world.loader with
    | .running _ => none
    | _ => some { world with loader := .running (.readVersion 0) }
  | .advanceLoad =>
    match world.loader with
    | .running stage => some (world.advanceLoad codec stage)
    | _ => none
  | .save store lastVersion ring =>
    match (world.savers store).save with
    | some _ => none
    | none => some (world.setSaver store
        { lastVersion := lastVersion,
          save := some (ring, .readExpected (encodeKeyRing codec ring)) })
  | .advanceSave store =>
    match (world.savers store).save with
    | some (ring, stage) => some (world.advanceSave store ring stage)
    | none => none

end World

section

variable (codec : Codec)

/-- `ring` is what the save reads back as that set `version`. -/
def Matched (log : List (Int × KeyRing)) (version : Int) (ring : KeyRing) : Prop :=
  ∃ saved, (version, saved) ∈ log ∧ decodeKeyRing codec (encodeKeyRing codec saved) = .ok ring

def MatchedStage (redis : Redis) (log : List (Int × KeyRing)) : LoadStage → Prop
  | .readBody _ before => before ≤ redis.version
  | .readAgain _ before body =>
    Versioned.Tracks (fun body value => value = some body) redis before body
  | .record version ring => Matched codec log version ring
  | .readVersion _ | .recordMissing _ => True

/-- The outcome of a step of `Load` is as well matched as the stage it leads to. -/
def MatchedProgress (redis : Redis) (log : List (Int × KeyRing)) : LoadProgress → Prop
  | .running stage => MatchedStage codec redis log stage
  | .loaded version ring => Matched codec log version ring
  | .missing _ | .failed _ => True

def MatchedLoader (redis : Redis) (log : List (Int × KeyRing)) (lastVersion : Int) : Loader → Prop
  | .running stage => MatchedStage codec redis log stage
  | .returned (.ok ring) => Matched codec log lastVersion ring
  | .idle | .returned (.error _) => True

def SaveAhead (redis : Redis) (ring : KeyRing) : SaveStage → Prop
  | .readExpected body | .watch _ body _ => body = encodeKeyRing codec ring
  | .compare _ body _ watched => body = encodeKeyRing codec ring ∧ watched ≤ redis.version
  | .exec _ body _ watched current => body = encodeKeyRing codec ring ∧ watched ≤ current ∧
      current ≤ redis.version
  | .record _ => True

structure World.Recorded {StoreId : Type} (world : World StoreId) : Prop where
  redis : Versioned.Recorded (encodeKeyRing codec) world.redis world.log
  loader : MatchedLoader codec world.redis world.log world.lastVersion world.loader
  savers : ∀ store ring stage, (world.savers store).save = some (ring, stage) →
    SaveAhead codec world.redis ring stage

end

variable {codec : Codec} {redis : Redis} {log : List (Int × KeyRing)}

variable {ring : KeyRing}

theorem matched_of_tracks {body : Snapshot} {before : Int}
    (recorded : Versioned.Recorded (encodeKeyRing codec) redis log)
    (tracks : Versioned.Tracks (fun body value => value = some body) redis before body)
    (unchanged : before = redis.version) (decoded : decodeKeyRing codec body = .ok ring) :
    Matched codec log redis.version ring := by
  rcases recorded.stored (tracks.current unchanged) with ⟨saved, logged, rfl⟩
  exact ⟨saved, logged, decoded⟩

theorem MatchedStage.step {stage : LoadStage}
    (recorded : Versioned.Recorded (encodeKeyRing codec) redis log)
    (matched : MatchedStage codec redis log stage) :
    MatchedProgress codec redis log (stage.step codec redis) := by
  cases stage with
  | readVersion attempt =>
    simp only [LoadStage.step]
    split
    · exact Int.le_refl _
    · trivial
  | readBody attempt before =>
    simp only [LoadStage.step]
    cases stored : redis.value with
    | none => trivial
    | some body => exact ⟨matched, fun _ => stored⟩
  | readAgain attempt before body =>
    simp only [LoadStage.step]
    split
    · trivial
    · rename_i unchanged
      cases decoded : decodeKeyRing codec body with
      | error message => trivial
      | ok ring => exact matched_of_tracks recorded matched (by simpa using unchanged) decoded
  | record version ring => exact matched
  | recordMissing version => trivial

def SaveAheadProgress (codec : Codec) (redis : Redis) (ring : KeyRing) : SaveProgress → Prop
  | .running stage => SaveAhead codec redis ring stage
  | .committed written body => written = redis.version + 1 ∧ body = encodeKeyRing codec ring
  | .saved _ | .conflict | .failed _ => True

variable {stage : SaveStage}

theorem SaveAhead.step (lastVersion : Int) (ahead : SaveAhead codec redis ring stage) :
    SaveAheadProgress codec redis ring (stage.step redis lastVersion) := by
  cases stage with
  | readExpected body => exact ahead
  | watch attempt body expected =>
    simp only [SaveStage.step]
    split
    · exact ⟨ahead, Int.le_refl _⟩
    · trivial
  | compare attempt body expected watched =>
    simp only [SaveStage.step]
    split
    · trivial
    · exact ⟨ahead.1, ahead.2, Int.le_refl _⟩
  | exec attempt body expected watched current =>
    rcases ahead with ⟨written, ordered, seen⟩
    simp only [SaveStage.step]
    split
    · refine ⟨?_, written⟩
      omega
    · exact written
  | record written => trivial

theorem Matched.mono {version : Int} (matched : Matched codec log version ring)
    (entry : Int × KeyRing) : Matched codec (entry :: log) version ring := by
  rcases matched with ⟨saved, logged, decoded⟩
  exact ⟨saved, List.mem_cons_of_mem entry logged, decoded⟩

theorem MatchedLoader.write {lastVersion : Int} {loader : Loader}
    (matched : MatchedLoader codec redis log lastVersion loader) (value : Option Snapshot)
    (entry : Int × KeyRing) :
    MatchedLoader codec (redis.write value) (entry :: log) lastVersion loader := by
  cases loader with
  | idle => trivial
  | running stage =>
    cases stage with
    | readVersion attempt | recordMissing version => trivial
    | readBody attempt before =>
      have seen : before ≤ redis.version := matched
      change before ≤ redis.version + 1
      omega
    | readAgain attempt before body => exact Versioned.Tracks.write matched value
    | record version ring => exact Matched.mono matched entry
  | returned result =>
    cases result with
    | error message => trivial
    | ok ring => exact Matched.mono matched entry

theorem SaveAhead.write (ahead : SaveAhead codec redis ring stage) (value : Option Snapshot) :
    SaveAhead codec (redis.write value) ring stage := by
  cases stage with
  | readExpected body | watch attempt body expected => exact ahead
  | compare attempt body expected watched =>
    exact ⟨ahead.1, Int.le_trans ahead.2 (Int.le_of_lt (Int.lt_succ _))⟩
  | exec attempt body expected watched current =>
    exact ⟨ahead.1, ahead.2.1, Int.le_trans ahead.2.2 (Int.le_of_lt (Int.lt_succ _))⟩
  | record written => trivial

namespace World

variable {StoreId : Type} {world : World StoreId}

private theorem initial_recorded : (initial : World StoreId).Recorded codec where
  redis := by
    constructor
    · intro value stored
      cases stored
    · intro version entry member
      cases member
    · intro version left right member
      cases member
  loader := trivial
  savers := fun _ _ _ running => by cases running

theorem Recorded.advanceLoad {stage : LoadStage} (recorded : world.Recorded codec)
    (running : world.loader = .running stage) : (world.advanceLoad codec stage).Recorded codec := by
  have matched : MatchedStage codec world.redis world.log stage := by
    have loader := recorded.loader
    rwa [running] at loader
  have progress := matched.step recorded.redis
  unfold World.advanceLoad
  cases next : stage.step codec world.redis with
  | running after | loaded version ring =>
    rw [next] at progress
    exact ⟨recorded.redis, progress, recorded.savers⟩
  | missing version | failed message => exact ⟨recorded.redis, trivial, recorded.savers⟩

theorem Recorded.commit (recorded : world.Recorded codec) (ring : KeyRing) :
    { world with
      redis := world.redis.write (some (encodeKeyRing codec ring)),
      log := (world.redis.version + 1, ring) :: world.log }.Recorded codec where
  redis := recorded.redis.write ring
  loader := recorded.loader.write _ _
  savers := fun store other stage running => (recorded.savers store other stage running).write _

variable [DecidableEq StoreId]

variable (recorded : world.Recorded codec)
include recorded

variable {store : StoreId}

theorem Recorded.setSaver {saver : Saver}
    (ahead : ∀ ring stage, saver.save = some (ring, stage) →
      SaveAhead codec world.redis ring stage) : (world.setSaver store saver).Recorded codec := by
  refine ⟨recorded.redis, recorded.loader, ?_⟩
  intro other ring stage running
  simp only [World.setSaver, Function.update_apply] at running
  split at running
  · exact ahead ring stage running
  · exact recorded.savers other ring stage running

theorem Recorded.advanceSave {ring : KeyRing} {stage : SaveStage}
    (running : (world.savers store).save = some (ring, stage)) :
    (world.advanceSave store ring stage).Recorded codec := by
  have progress := (recorded.savers store ring stage running).step (world.savers store).lastVersion
  cases next : stage.step world.redis (world.savers store).lastVersion with
  | running after =>
    rw [next] at progress
    simp only [World.advanceSave, next]
    refine recorded.setSaver ?_
    rintro _ _ ⟨⟩
    exact progress
  | committed written body =>
    rw [next] at progress
    rcases progress with ⟨rfl, rfl⟩
    simp only [World.advanceSave, next]
    refine (recorded.commit ring).setSaver ?_
    rintro _ _ ⟨⟩
    trivial
  | saved written | conflict | failed message =>
    simp only [World.advanceSave, next]
    exact recorded.setSaver (fun _ _ finished => by cases finished)

theorem Recorded.step {next : World StoreId} {action : Action StoreId}
    (taken : world.step codec action = some next) : next.Recorded codec := by
  cases action with
  | load =>
    simp only [World.step] at taken
    split at taken
    · cases taken
    · cases taken
      exact ⟨recorded.redis, trivial, recorded.savers⟩
  | advanceLoad =>
    simp only [World.step] at taken
    split at taken
    · rename_i stage running
      cases taken
      exact recorded.advanceLoad running
    · cases taken
  | save store lastVersion ring =>
    simp only [World.step] at taken
    split at taken
    · cases taken
    · cases taken
      refine recorded.setSaver ?_
      rintro _ _ ⟨⟩
      rfl
  | advanceSave store =>
    simp only [World.step] at taken
    split at taken
    · rename_i ring stage running
      cases taken
      exact recorded.advanceSave running
    · cases taken

end World

/-- Whenever `Load` has returned a ring, exactly one save set the version it recorded, and
the ring is what that save wrote: its keys without the retired ones, if they survive the
formats. -/
theorem load_matches_save {StoreId : Type} [DecidableEq StoreId] (codec : Codec)
    {actions : List (Action StoreId)} {world : World StoreId}
    (run : Run (World.step codec) unrestricted World.initial actions world)
    {ring : KeyRing} (returned : world.loader = .returned (.ok ring)) :
    ∃ saved, (world.lastVersion, saved) ∈ world.log ∧
      (∀ other, (world.lastVersion, other) ∈ world.log → other = saved) ∧
      decodeKeyRing codec (encodeKeyRing codec saved) = .ok ring ∧
      (saved.Storable codec → ring = saved.withoutRetired) := by
  have recorded : world.Recorded codec :=
    run.invariant (World.Recorded codec) (fun _ _ _ recorded _ taken => recorded.step taken)
      World.initial_recorded
  have matched := recorded.loader
  rw [returned] at matched
  rcases matched with ⟨saved, logged, decoded⟩
  refine ⟨saved, logged, fun other also => recorded.redis.unique also logged, decoded, ?_⟩
  intro storable
  rw [storable.decode_encode] at decoded
  exact (Except.ok.inj decoded).symm

def ringOfSecret (id : String) (byte : UInt8) : KeyRing :=
  KeyRing.empty.performAll [(.add id (List.replicate 32 byte), 0)]

def overtakenLoad : List (Action Bool) :=
  List.flatten
    [[.save false versionUnknown (ringOfSecret "k1" 1)], List.replicate 5 (.advanceSave false),
      [.load], List.replicate 2 .advanceLoad,
      [.save true versionUnknown (ringOfSecret "k2" 2)], List.replicate 5 (.advanceSave true),
      List.replicate 5 .advanceLoad]

theorem load_matches_save_of_overtaken :
    ∃ world, Run (World.step Codec.epoch) unrestricted (World.initial : World Bool)
        overtakenLoad world ∧
      world.loader = .returned (.ok (ringOfSecret "k2" 2)) ∧ world.lastVersion = 2 ∧
      ∃ saved, (2, saved) ∈ world.log ∧ (∀ other, (2, other) ∈ world.log → other = saved) ∧
        decodeKeyRing Codec.epoch (encodeKeyRing Codec.epoch saved) =
          .ok (ringOfSecret "k2" 2) := by
  let observe (world : World Bool) := decide (world.lastVersion = 2 ∧
    world.loader = .returned (.ok (ringOfSecret "k2" 2)))
  rcases Run.exists_of_execute observe
      (show (execute (World.step Codec.epoch) unrestricted (World.initial : World Bool)
        overtakenLoad).map observe = some true by decide +kernel) with ⟨world, run, observed⟩
  rcases of_decide_eq_true observed with ⟨recorded, returned⟩
  rcases load_matches_save Codec.epoch run returned with ⟨saved, logged, only, decoded, _⟩
  rw [recorded] at logged only
  exact ⟨world, run, returned, recorded, saved, logged, only, decoded⟩

end Parsec.KeyRingStore
