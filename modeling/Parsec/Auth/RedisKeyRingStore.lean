import Parsec.Foundation.Versioned
import Parsec.Auth.Snapshot

/-! # The Redis key-ring store

`Load` and `Save` broken into the steps other goroutines and other nodes can
interleave with: every read of Redis, the transaction, and every access to the
store's `lastVersion` counter is a step of its own. -/

namespace Parsec.Auth

open Foundation

abbrev Redis := Versioned (Option Snapshot)

def Redis.empty : Redis := { version := 0, value := none }

def versionUnknown : Int := -1

def maxSaveAttempts : Nat := 5

def errKeyRingConflict : String := "auth: keyring changed since it was loaded"

def errNotExist : String := "file does not exist"

/-- Where a running `Load` stands. The two `record` stages are about to store into
`lastVersion`. -/
inductive LoadStage
  | readVersion (attempt : Nat)
  | readBody (attempt : Nat) (before : Int)
  | readAgain (attempt : Nat) (before : Int) (body : Snapshot)
  | record (version : Int) (ring : KeyRing)
  | recordMissing (version : Int)
  deriving DecidableEq

/-- What one step of `Load` leads to. `loaded` and `missing` come with the value stored
into `lastVersion` at that step. -/
inductive LoadProgress
  | running (stage : LoadStage)
  | loaded (version : Int) (ring : KeyRing)
  | missing (version : Int)
  | failed (message : String)

def LoadStage.step (codec : Codec) (redis : Redis) : LoadStage → LoadProgress
  | .readVersion attempt =>
    if attempt < maxSaveAttempts then .running (.readBody attempt redis.version)
    else .failed ("load keyring: version kept changing after " ++
      toString maxSaveAttempts ++ " attempts")
  | .readBody attempt before =>
    match redis.value with
    | none => .running (.recordMissing before)
    | some body => .running (.readAgain attempt before body)
  | .readAgain attempt before body =>
    if before ≠ redis.version then .running (.readVersion (attempt + 1))
    else match decodeKeyRing codec body with
      | .error message => .failed message
      | .ok ring => .running (.record redis.version ring)
  | .record version ring => .loaded version ring
  | .recordMissing version => .missing version

inductive SaveStage
  | readExpected (body : Snapshot)
  | watch (attempt : Nat) (body : Snapshot) (expected : Int)
  | compare (attempt : Nat) (body : Snapshot) (expected watched : Int)
  | exec (attempt : Nat) (body : Snapshot) (expected watched current : Int)
  | record (written : Int)
  deriving DecidableEq

/-- What one step of `Save` leads to. `committed` is the transaction going through, `saved`
the return that stores `written` into `lastVersion`. -/
inductive SaveProgress
  | running (stage : SaveStage)
  | committed (written : Int) (body : Snapshot)
  | saved (written : Int)
  | conflict
  | failed (message : String)

def SaveStage.step (redis : Redis) (lastVersion : Int) : SaveStage → SaveProgress
  | .readExpected body => .running (.watch 0 body lastVersion)
  | .watch attempt body expected =>
    if attempt < maxSaveAttempts then
      .running (.compare attempt body expected redis.version)
    else .failed ("save keyring: contention after " ++ toString maxSaveAttempts ++ " attempts")
  | .compare attempt body expected watched =>
    if expected ≠ versionUnknown ∧ redis.version ≠ expected then .conflict
    else .running (.exec attempt body expected watched redis.version)
  | .exec attempt body expected watched current =>
    -- the version key changes with every write, so the watch fires exactly when it moved
    if redis.version = watched then .committed (current + 1) body
    else .running (.watch (attempt + 1) body expected)
  | .record written => .saved written

/-! ## Readings

What a proof knows about the rings a store handles: which rings it may hold, when a
ring and a stored body are the same, and that neither is lost by writing and
reading. -/

structure Reading (codec : Codec) where
  Valid : KeyRing → Prop
  Same : KeyRing → Snapshot → Prop
  encoded : ∀ {ring}, Valid ring → Same ring (encodeKeyRing codec ring)
  decoded : ∀ {origin ring body}, Valid origin → Same origin body →
    decodeKeyRing codec body = .ok ring → Valid ring ∧ Same ring body
  reloaded : ∀ {fresh ring}, Valid fresh →
    loadSnapshot codec (fresh.snapshot codec) = .ok ring →
    Valid ring ∧ ∀ {body}, Same fresh body → Same ring body

private theorem decodeKeyRing_inversion {codec : Codec} {body : Snapshot} {ring : KeyRing}
    (succeeded : decodeKeyRing codec body = .ok ring) : loadSnapshot codec body = .ok ring := by
  unfold decodeKeyRing at succeeded
  split at succeeded
  · exact succeeded
  · cases succeeded

def roleReading (codec : Codec) : Reading codec where
  Valid := KeyRing.WellFormed
  Same := Agrees
  encoded := fun valid => valid.agrees_encodeKeyRing codec
  decoded := fun valid same succeeded =>
    loadSnapshot_agrees valid same (decodeKeyRing_inversion succeeded)
  reloaded := by
    intro fresh ring valid succeeded
    have written := valid.agrees_snapshot codec
    rcases loadSnapshot_agrees valid written succeeded with ⟨next, read⟩
    refine ⟨next, fun same => ⟨?_, fun id role => ?_⟩⟩
    · rw [read.active, ← written.active, same.active]
    · rw [read.roles, ← written.roles, same.roles]

def exactReading (codec : Codec) : Reading codec where
  Valid := KeyRing.Storable codec
  Same := fun ring body => encodeKeyRing codec ring = body
  encoded := fun _ => rfl
  decoded := by
    rintro origin ring _ storable rfl succeeded
    rw [storable.decode_encode] at succeeded
    cases succeeded
    exact ⟨storable.withoutRetired, by simp [encodeKeyRing, KeyRing.snapshot_withoutRetired]⟩
  reloaded := by
    intro fresh ring storable succeeded
    rw [storable.loadSnapshot] at succeeded
    cases succeeded
    refine ⟨storable.withoutRetired, fun same => ?_⟩
    rw [← same]
    simp [encodeKeyRing, KeyRing.snapshot_withoutRetired]

namespace Reading

variable {codec : Codec} (reading : Reading codec)

def Stores (ring : KeyRing) (value : Option Snapshot) : Prop :=
  ∃ body, value = some body ∧ reading.Same ring body

/-- A valid ring that is the stored one if `version` is the current version. -/
structure Current (redis : Redis) (version : Int) (ring : KeyRing) : Prop where
  valid : reading.Valid ring
  tracks : Versioned.Tracks reading.Stores redis version ring

def Genuine (body : Snapshot) : Prop :=
  ∃ origin, reading.Valid origin ∧ reading.Same origin body

structure SoundRedis (redis : Redis) : Prop where
  nonnegative : 0 ≤ redis.version
  missing : redis.value = none ↔ redis.version = 0
  genuine : ∀ {body}, redis.value = some body → reading.Genuine body

def SoundLoad (redis : Redis) : LoadStage → Prop
  | .readVersion _ => True
  | .readBody _ before => 0 ≤ before ∧ before ≤ redis.version
  | .readAgain _ before body => reading.Genuine body ∧ 0 ≤ before ∧
      Versioned.Tracks (fun body value => value = some body) redis before body
  | .record version ring => 0 < version ∧ reading.Current redis version ring
  | .recordMissing version => version = 0

/-- The outcome of a step of `Load` is as sound as the stage it leads to. -/
def SoundLoadProgress (redis : Redis) : LoadProgress → Prop
  | .running stage => reading.SoundLoad redis stage
  | .loaded version ring => 0 < version ∧ reading.Current redis version ring
  | .missing version => version = 0
  | .failed _ => True

def SoundSave (redis : Redis) (ring : KeyRing) : SaveStage → Prop
  | .readExpected body | .watch _ body _ => body = encodeKeyRing codec ring
  | .compare _ body _ watched => body = encodeKeyRing codec ring ∧ watched ≤ redis.version
  | .exec _ body expected watched current => body = encodeKeyRing codec ring ∧
      watched ≤ current ∧ current ≤ redis.version ∧
      (expected ≠ versionUnknown → current = expected)
  | .record written => reading.Current redis written ring ∧ 0 < written

def SoundSaveProgress (redis : Redis) (ring : KeyRing) : SaveProgress → Prop
  | .running stage => reading.SoundSave redis ring stage
  | .committed written body =>
    written = redis.version + 1 ∧ body = encodeKeyRing codec ring
  | .saved written => reading.Current redis written ring ∧ 0 < written
  | .conflict | .failed _ => True

variable {reading}

variable {redis : Redis} {stage : LoadStage}

theorem SoundLoad.step (sound : reading.SoundRedis redis)
    (running : reading.SoundLoad redis stage) :
    reading.SoundLoadProgress redis (stage.step codec redis) := by
  have nonnegative := sound.nonnegative
  cases stage with
  | readVersion attempt =>
    simp only [LoadStage.step]
    split
    · exact ⟨nonnegative, Int.le_refl _⟩
    · trivial
  | readBody attempt before =>
    rcases running with ⟨known, seen⟩
    simp only [LoadStage.step]
    cases body : redis.value with
    | none =>
      have zero := sound.missing.mp body
      change before = 0
      omega
    | some body => exact ⟨sound.genuine ‹_›, known, seen, fun _ => ‹_›⟩
  | readAgain attempt before body =>
    rcases running with ⟨⟨origin, valid, same⟩, known, tracks⟩
    simp only [LoadStage.step]
    split
    · trivial
    · rename_i unchanged
      have value := tracks.current (by simpa using unchanged)
      cases decoded : decodeKeyRing codec body with
      | error message => trivial
      | ok ring =>
        rcases reading.decoded valid same decoded with ⟨ringValid, ringSame⟩
        have written : redis.version ≠ 0 := fun zero => by
          rw [sound.missing.mpr zero] at value
          cases value
        exact ⟨by omega, ringValid, .of_describes ⟨body, value, ringSame⟩⟩
  | record version ring | recordMissing version => exact running

variable {ring : KeyRing}

theorem SoundSave.step {stage : SaveStage} (lastVersion : Int)
    (running : reading.SoundSave redis ring stage) :
    reading.SoundSaveProgress redis ring (stage.step redis lastVersion) := by
  cases stage with
  | readExpected body | record written => exact running
  | watch attempt body expected =>
    simp only [SaveStage.step]
    split
    · exact ⟨running, Int.le_refl _⟩
    · trivial
  | compare attempt body expected watched =>
    rcases running with ⟨written, seen⟩
    simp only [SaveStage.step]
    split
    · trivial
    · rename_i unchanged
      refine ⟨written, seen, Int.le_refl _, fun known => ?_⟩
      by_contra moved
      exact unchanged ⟨known, moved⟩
  | exec attempt body expected watched current =>
    rcases running with ⟨written, ordered, seen, _⟩
    simp only [SaveStage.step]
    split
    · refine ⟨?_, written⟩
      omega
    · exact written

variable {version : Int}

theorem Current.write (current : reading.Current redis version ring) (value : Option Snapshot) :
    reading.Current (redis.write value) version ring :=
  ⟨current.valid, current.tracks.write value⟩

theorem SoundLoad.write (running : reading.SoundLoad redis stage) (value : Option Snapshot) :
    reading.SoundLoad (redis.write value) stage := by
  cases stage with
  | readVersion attempt => trivial
  | readBody attempt before =>
    rcases running with ⟨known, seen⟩
    exact ⟨known, by simp only [Versioned.write_version]; omega⟩
  | readAgain attempt before body =>
    exact ⟨running.1, running.2.1, running.2.2.write value⟩
  | record version ring => exact ⟨running.1, running.2.write value⟩
  | recordMissing version => exact running

theorem SoundSave.write {stage : SaveStage} (running : reading.SoundSave redis ring stage)
    (value : Option Snapshot) : reading.SoundSave (redis.write value) ring stage := by
  cases stage with
  | readExpected body | watch attempt body expected => exact running
  | compare attempt body expected watched =>
    rcases running with ⟨written, seen⟩
    exact ⟨written, by simp only [Versioned.write_version]; omega⟩
  | exec attempt body expected watched current =>
    rcases running with ⟨written, ordered, seen, known⟩
    exact ⟨written, ordered, by simp only [Versioned.write_version]; omega, known⟩
  | record written => exact ⟨running.1.write value, running.2⟩

theorem SoundRedis.write (sound : reading.SoundRedis redis) (valid : reading.Valid ring) :
    reading.SoundRedis (redis.write (some (encodeKeyRing codec ring))) := by
  have nonnegative := sound.nonnegative
  constructor
  · simp only [Versioned.write_version]
    omega
  · simp only [Versioned.write_version, Versioned.write_value, reduceCtorEq, false_iff]
    omega
  · intro body written
    cases written
    exact ⟨ring, valid, reading.encoded valid⟩

theorem Current.of_write (valid : reading.Valid ring) :
    reading.Current (redis.write (some (encodeKeyRing codec ring))) (redis.version + 1) ring :=
  ⟨valid, .of_describes ⟨_, rfl, reading.encoded valid⟩⟩

theorem Current.seen (current : reading.Current redis version ring) : version ≤ redis.version :=
  current.tracks.seen

theorem Current.reload {fresh : KeyRing} (current : reading.Current redis version fresh)
    (succeeded : loadSnapshot codec (fresh.snapshot codec) = .ok ring) :
    reading.Current redis version ring := by
  rcases reading.reloaded current.valid succeeded with ⟨valid, same⟩
  refine ⟨valid, current.seen, fun newest => ?_⟩
  rcases current.tracks.current newest with ⟨body, value, agrees⟩
  exact ⟨body, value, same agrees⟩

theorem Current.unknown (sound : reading.SoundRedis redis) (valid : reading.Valid ring) :
    reading.Current redis versionUnknown ring := by
  refine ⟨valid, .of_lt ?_⟩
  have nonnegative := sound.nonnegative
  simp only [versionUnknown]
  omega

theorem soundRedis_empty : reading.SoundRedis Redis.empty := by
  constructor
  · exact Int.le_refl _
  · simp [Redis.empty]
  · intro body stored
    cases stored

end Reading

end Parsec.Auth
