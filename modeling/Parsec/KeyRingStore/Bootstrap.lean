import Parsec.Fleet.Machine

/-! # Bootstrapping an empty Redis

Any number of nodes run `Ensure`, each on its own store, against a Redis that is empty at
first. A node that finds no ring mints one and saves it; the version it recorded while
loading makes that save a compare-and-set, so one ring wins and all nodes return it. -/

namespace Parsec.KeyRingStore

open Foundation Auth

/-! ## Ensure -/

/-- Where a call of `Ensure` stands. The last stage carries the ring and whether this call
bootstrapped it. -/
inductive EnsureStage
  | load (stage : LoadStage)
  | generate
  | save (ring : KeyRing) (stage : SaveStage)
  | adopt (stage : LoadStage)
  | returned (result : Except String (KeyRing × Bool))
  deriving DecidableEq

def EnsureStage.step (codec : Codec) (redis : Redis) (lastVersion : Int) (entropy : Entropy)
    (now : Int) : EnsureStage → Option (Redis × Int × EnsureStage)
  | .load stage =>
    match stage.step codec redis with
    | .running next => some (redis, lastVersion, .load next)
    | .loaded version ring => some (redis, version, .returned (.ok (ring, false)))
    | .missing version => some (redis, version, .generate)
    | .failed message => some (redis, lastVersion, .returned (.error message))
  | .generate =>
    match KeyRing.empty.generateAlg .hs256 entropy now with
    | (.error message, _) => some (redis, lastVersion, .returned (.error message))
    | (.ok _, ring) =>
      some (redis, lastVersion, .save ring (.readExpected (encodeKeyRing codec ring)))
  | .save ring stage =>
    match stage.step redis lastVersion with
    | .running next => some (redis, lastVersion, .save ring next)
    | .committed written body =>
      some ({ version := written, value := some body }, lastVersion, .save ring (.record written))
    | .saved written => some (redis, written, .returned (.ok (ring, true)))
    | .conflict => some (redis, lastVersion, .adopt (.readVersion 0))
    | .failed message => some (redis, lastVersion, .returned (.error message))
  | .adopt stage =>
    match stage.step codec redis with
    | .running next => some (redis, lastVersion, .adopt next)
    | .loaded version ring => some (redis, version, .returned (.ok (ring, false)))
    | .missing version => some (redis, version, .returned (.error errNotExist))
    | .failed message => some (redis, lastVersion, .returned (.error message))
  | .returned _ => none

structure Caller where
  lastVersion : Int := versionUnknown
  stage : Option EnsureStage := none

structure Nodes (NodeId : Type) where
  redis : Redis
  callers : NodeId → Caller

/-- A call starts with whatever `lastVersion` its store holds. A step comes with the random
material and the clock reading it may use. -/
inductive Turn (NodeId : Type)
  | call (node : NodeId) (lastVersion : Int)
  | advance (node : NodeId) (entropy : Entropy) (now : Int)

namespace Nodes

variable {NodeId : Type}

def initial : Nodes NodeId where
  redis := Redis.empty
  callers := fun _ => {}

variable [DecidableEq NodeId]

def step (codec : Codec) (nodes : Nodes NodeId) : Turn NodeId → Option (Nodes NodeId)
  | .call node lastVersion =>
    match (nodes.callers node).stage with
    | some _ => none
    | none => some { nodes with
        callers := Function.update nodes.callers node
          { lastVersion := lastVersion, stage := some (.load (.readVersion 0)) } }
  | .advance node entropy now =>
    match (nodes.callers node).stage with
    | none => none
    | some stage =>
      match stage.step codec nodes.redis (nodes.callers node).lastVersion entropy now with
      | none => none
      | some (redis, lastVersion, next) => some
          { redis := redis
            callers := Function.update nodes.callers node
              { lastVersion := lastVersion, stage := some next } }

def Returned (nodes : Nodes NodeId) (node : NodeId) (ring : KeyRing) (bootstrapped : Bool) : Prop :=
  (nodes.callers node).stage = some (.returned (.ok (ring, bootstrapped)))

end Nodes

def Timely (codec : Codec) {NodeId : Type} (_ : Nodes NodeId) : Turn NodeId → Prop
  | .call _ _ => True
  | .advance _ _ now => codec.KeepsTime now

instance (codec : Codec) {NodeId : Type} (nodes : Nodes NodeId) (turn : Turn NodeId) :
    Decidable (Timely codec nodes turn) :=
  match turn with
  | .call _ _ => isTrue trivial
  | .advance _ _ now =>
    inferInstanceAs (Decidable (codec.parseTime (codec.formatTime now) = .ok now))

/-! ## Minted rings -/

def Settled (codec : Codec) (ring : KeyRing) : Prop :=
  decodeKeyRing codec (encodeKeyRing codec ring) = .ok ring

variable {ring : KeyRing}

private theorem withoutRetired_eq_self
    (live : ∀ (id : String) (key : Key), ring.byID[id]? = some key → key.role ≠ .retired) :
    ring.withoutRetired = ring := by
  have same : ring.live = ring.byID := by
    apply Std.ExtTreeMap.ext_getElem?
    intro id
    apply Option.ext
    intro key
    rw [ring.live_lookup]
    exact ⟨And.left, fun stored => ⟨stored, live id key stored⟩⟩
  rw [KeyRing.withoutRetired, same]

theorem settled_of_generate {codec : Codec} {entropy : Entropy} {now : Int} {key : Key}
    (keepsTime : codec.KeepsTime now)
    (generated : KeyRing.empty.generateAlg .hs256 entropy now = (.ok key, ring)) :
    Settled codec ring := by
  rcases KeyRing.empty.generate_adds entropy now with
    ⟨message, failed⟩ | ⟨made, accepted, ⟨_, symmetric⟩, equal⟩
  · rw [generated] at failed
    cases failed
  · rw [generated] at equal
    cases equal
    have only : ∀ (id : String) (other : Key),
        (KeyRing.empty.installed key).byID[id]? = some other → other = key := by
      intro id other stored
      rw [KeyRing.installed_lookup] at stored
      split at stored
      · exact (Option.some.inj stored).symm
      · simp [KeyRing.empty] at stored
    have storable : (KeyRing.empty.installed key).Storable codec := by
      refine ⟨KeyRing.installed_wellFormed KeyRing.empty_wellFormed accepted, ?_⟩
      intro id other stored _
      rw [only id other stored]
      exact symmetric.storable keepsTime accepted
    have live : (KeyRing.empty.installed key).withoutRetired = KeyRing.empty.installed key := by
      apply withoutRetired_eq_self
      intro id other stored
      rw [only id other stored, accepted.role]
      decide
    rw [Settled, storable.decode_encode, live]

/-! ## The invariant -/

section

variable (codec : Codec) (redis : Redis)

/-- Redis holds `ring`, as the first ring it ever held. -/
def Stored (ring : KeyRing) : Prop :=
  redis = { version := 1, value := some (encodeKeyRing codec ring) } ∧ Settled codec ring

def AtMostOnce : Prop := redis = Redis.empty ∨ ∃ ring, Stored codec redis ring

def AgreeingLoad : LoadStage → Prop
  | .readVersion _ => True
  | .readBody _ before => 0 ≤ before ∧ before ≤ redis.version
  | .readAgain _ _ body => redis.value = some body
  | .record _ ring => Stored codec redis ring
  | .recordMissing version => version = 0

def AgreeingSave (lastVersion : Int) (ring : KeyRing) : SaveStage → Prop
  | .readExpected body => lastVersion = 0 ∧ body = encodeKeyRing codec ring
  | .watch _ body expected => expected = 0 ∧ body = encodeKeyRing codec ring
  | .compare _ body expected watched => expected = 0 ∧ body = encodeKeyRing codec ring ∧
      watched ≤ redis.version
  | .exec _ body expected watched current => expected = 0 ∧ body = encodeKeyRing codec ring ∧
      watched ≤ 0 ∧ current = 0
  | .record _ => Stored codec redis ring

def AgreeingStage (lastVersion : Int) : EnsureStage → Prop
  | .load stage | .adopt stage => AgreeingLoad codec redis stage
  | .generate => lastVersion = 0
  | .save ring stage => Settled codec ring ∧ AgreeingSave codec redis lastVersion ring stage
  | .returned (.ok (ring, _)) => Stored codec redis ring
  | .returned (.error _) => True

end

def EnsureStage.won : EnsureStage → Bool
  | .save _ (.record _) | .returned (.ok (_, true)) => true
  | _ => false

structure Agreeing (codec : Codec) {NodeId : Type} (nodes : Nodes NodeId) : Prop where
  redis : AtMostOnce codec nodes.redis
  stages : ∀ node stage, (nodes.callers node).stage = some stage →
    AgreeingStage codec nodes.redis (nodes.callers node).lastVersion stage
  winner : ∀ left right leftStage rightStage, (nodes.callers left).stage = some leftStage →
    (nodes.callers right).stage = some rightStage → leftStage.won = true →
    rightStage.won = true → left = right

variable {codec : Codec} {redis : Redis}

theorem Stored.not_empty (stored : Stored codec redis ring) : redis ≠ Redis.empty := by
  rw [stored.1]
  simp [Redis.empty]

theorem Stored.unique {left right : KeyRing} (first : Stored codec redis left)
    (second : Stored codec redis right) : left = right := by
  have body : encodeKeyRing codec left = encodeKeyRing codec right := by
    have same := first.1.symm.trans second.1
    injection same with _ value
    exact Option.some.inj value
  have read := first.2
  rw [Settled, body, second.2] at read
  exact (Except.ok.inj read).symm

section

variable (once : AtMostOnce codec redis)
include once

theorem AtMostOnce.version_nonneg : 0 ≤ redis.version := by
  rcases once with rfl | ⟨ring, stored⟩
  · exact Int.le_refl _
  · rw [stored.1]
    exact Int.zero_le_ofNat 1

theorem AtMostOnce.empty_of_version (zero : redis.version = 0) : redis = Redis.empty := by
  rcases once with empty | ⟨ring, stored⟩
  · exact empty
  · rw [stored.1] at zero
    cases zero

theorem AtMostOnce.version_of_missing (missing : redis.value = none) : redis.version = 0 := by
  rcases once with rfl | ⟨ring, stored⟩
  · rfl
  · rw [stored.1] at missing
    cases missing

end

def AgreeingProgress (codec : Codec) (redis : Redis) : LoadProgress → Prop
  | .running stage => AgreeingLoad codec redis stage
  | .loaded _ ring => Stored codec redis ring
  | .missing version => version = 0
  | .failed _ => True

theorem AgreeingLoad.step {stage : LoadStage} (once : AtMostOnce codec redis)
    (agreeing : AgreeingLoad codec redis stage) :
    AgreeingProgress codec redis (stage.step codec redis) := by
  cases stage with
  | readVersion attempt =>
    simp only [LoadStage.step]
    split
    · exact ⟨once.version_nonneg, Int.le_refl _⟩
    · trivial
  | readBody attempt before =>
    rcases agreeing with ⟨nonnegative, seen⟩
    simp only [LoadStage.step]
    cases stored : redis.value with
    | none =>
      have zero := once.version_of_missing stored
      change before = 0
      omega
    | some body => exact stored
  | readAgain attempt before body =>
    simp only [LoadStage.step]
    split
    · trivial
    · have value : redis.value = some body := agreeing
      cases decoded : decodeKeyRing codec body with
      | error message => trivial
      | ok ring =>
        rcases once with rfl | ⟨first, stored⟩
        · cases value
        · have same : encodeKeyRing codec first = body := by
            rw [stored.1] at value
            exact Option.some.inj value
          have settled := stored.2
          rw [Settled, same, decoded] at settled
          cases settled
          exact stored
  | record version ring | recordMissing version => exact agreeing

def AgreeingSaveProgress (codec : Codec) (redis : Redis) (lastVersion : Int) (ring : KeyRing) :
    SaveProgress → Prop
  | .running stage => AgreeingSave codec redis lastVersion ring stage ∧
      (EnsureStage.save ring stage).won = false
  | .committed written body => redis = Redis.empty ∧ written = 1 ∧
      body = encodeKeyRing codec ring
  | .saved _ => Stored codec redis ring
  | .conflict | .failed _ => True

variable {lastVersion : Int} {stage : SaveStage}

theorem AgreeingSave.step (once : AtMostOnce codec redis)
    (agreeing : AgreeingSave codec redis lastVersion ring stage) :
    AgreeingSaveProgress codec redis lastVersion ring (stage.step redis lastVersion) := by
  cases stage with
  | readExpected body => exact ⟨agreeing, rfl⟩
  | watch attempt body expected =>
    simp only [SaveStage.step]
    split
    · exact ⟨⟨agreeing.1, agreeing.2, Int.le_refl _⟩, rfl⟩
    · trivial
  | compare attempt body expected watched =>
    rcases agreeing with ⟨rfl, written, seen⟩
    simp only [SaveStage.step]
    split
    · trivial
    · rename_i unchanged
      have zero : redis.version = 0 := by
        by_contra moved
        exact unchanged ⟨by decide, moved⟩
      refine ⟨⟨rfl, written, ?_, zero⟩, rfl⟩
      omega
  | exec attempt body expected watched current =>
    rcases agreeing with ⟨zero, written, unseen, rfl⟩
    simp only [SaveStage.step]
    split
    · have nonnegative := once.version_nonneg
      exact ⟨once.empty_of_version (by omega), rfl, written⟩
    · exact ⟨⟨zero, written⟩, rfl⟩
  | record written => exact agreeing

inductive EnsureStep (codec : Codec) (redis : Redis) (stage : EnsureStage) :
    Redis → Int → EnsureStage → Prop
  | quiet {lastVersion next} :
      AgreeingStage codec redis lastVersion next → (next.won = true → stage.won = true) →
      EnsureStep codec redis stage redis lastVersion next
  | commit {after lastVersion ring next} :
      redis = Redis.empty → Stored codec after ring →
      AgreeingStage codec after lastVersion next →
      EnsureStep codec redis stage after lastVersion next

section

variable {lastVersion version : Int} {entropy : Entropy} {now : Int} {after : Redis}
  {next : EnsureStage} (once : AtMostOnce codec redis)

include once

theorem ensureStep_of_save {ring : KeyRing} {stage : SaveStage} (settled : Settled codec ring)
    (agreeing : AgreeingSave codec redis lastVersion ring stage)
    (taken : EnsureStage.step codec redis lastVersion entropy now (.save ring stage) =
      some (after, version, next)) :
    EnsureStep codec redis (.save ring stage) after version next := by
  have progress := agreeing.step once
  simp only [EnsureStage.step] at taken
  cases reached : stage.step redis lastVersion with
  | running following =>
    rw [reached] at progress taken
    cases taken
    exact .quiet ⟨settled, progress.1⟩ (fun won => by rw [progress.2] at won; cases won)
  | committed written body =>
    rw [reached] at progress taken
    cases taken
    rcases progress with ⟨empty, rfl, rfl⟩
    exact .commit empty ⟨rfl, settled⟩ ⟨settled, rfl, settled⟩
  | saved written =>
    rw [reached] at progress taken
    cases taken
    refine .quiet progress fun _ => ?_
    rw [Fleet.SaveStage.record_of_saved reached]
    rfl
  | conflict | failed message =>
    rw [reached] at taken
    cases taken
    exact .quiet trivial (fun won => by cases won)

private theorem ensureStep_of_step {stage : EnsureStage} (keepsTime : codec.KeepsTime now)
    (agreeing : AgreeingStage codec redis lastVersion stage)
    (taken : stage.step codec redis lastVersion entropy now = some (after, version, next)) :
    EnsureStep codec redis stage after version next := by
  cases stage with
  | load stage | adopt stage =>
    have progress := AgreeingLoad.step once agreeing
    simp only [EnsureStage.step] at taken
    cases reached : stage.step codec redis <;> rw [reached] at progress taken <;> cases taken <;>
      exact .quiet (by first | exact progress | trivial) (fun won => by cases won)
  | generate =>
    simp only [EnsureStage.step] at taken
    split at taken
    · cases taken
      exact .quiet trivial (fun won => by cases won)
    · rename_i key ring generated
      cases taken
      have settled := settled_of_generate keepsTime generated
      exact .quiet ⟨settled, agreeing, rfl⟩ (fun won => by cases won)
  | save ring stage => exact ensureStep_of_save once agreeing.1 agreeing.2 taken
  | returned result => cases taken

end

variable {stage : EnsureStage} {after : Redis}

theorem AgreeingStage.commit (agreeing : AgreeingStage codec Redis.empty lastVersion stage)
    (stored : Stored codec after ring) : AgreeingStage codec after lastVersion stage := by
  have newer : Redis.empty.version ≤ after.version := by
    rw [stored.1]
    exact Int.zero_le_ofNat 1
  have load : ∀ {stage : LoadStage}, AgreeingLoad codec Redis.empty stage →
      AgreeingLoad codec after stage := by
    intro stage before
    cases stage with
    | readVersion attempt => trivial
    | readBody attempt version => exact ⟨before.1, Int.le_trans before.2 newer⟩
    | readAgain attempt version body => cases before
    | record version other => exact absurd rfl before.not_empty
    | recordMissing version => exact before
  cases stage with
  | load stage | adopt stage => exact load agreeing
  | generate => exact agreeing
  | save other stage =>
    rcases agreeing with ⟨settled, before⟩
    refine ⟨settled, ?_⟩
    cases stage with
    | readExpected body | watch attempt body expected
    | exec attempt body expected watched current => exact before
    | compare attempt body expected watched =>
      exact ⟨before.1, before.2.1, Int.le_trans before.2.2 newer⟩
    | record written => exact absurd rfl before.not_empty
  | returned result =>
    cases result with
    | error message => trivial
    | ok pair => exact absurd rfl (Stored.not_empty agreeing)

theorem AgreeingStage.stored_of_won (agreeing : AgreeingStage codec redis lastVersion stage)
    (won : stage.won = true) : ∃ ring, Stored codec redis ring := by
  unfold EnsureStage.won at won
  split at won
  · rename_i ring written
    exact ⟨ring, agreeing.2⟩
  · rename_i ring
    exact ⟨ring, agreeing⟩
  · cases won

variable {NodeId : Type} {nodes : Nodes NodeId}

theorem initial_agreeing : Agreeing codec (Nodes.initial : Nodes NodeId) where
  redis := .inl rfl
  stages := fun _ _ running => by cases running
  winner := fun _ _ _ _ running => by cases running

variable {node : NodeId}

theorem Agreeing.not_won_of_empty (agreeing : Agreeing codec nodes)
    (empty : nodes.redis = Redis.empty) (running : (nodes.callers node).stage = some stage) :
    stage.won ≠ true := by
  intro won
  rcases (agreeing.stages node stage running).stored_of_won won with ⟨ring, stored⟩
  exact stored.not_empty empty

variable [DecidableEq NodeId]

theorem Agreeing.update (agreeing : Agreeing codec nodes) {version : Int} {next : EnsureStage}
    (once : AtMostOnce codec after) (moved : AgreeingStage codec after version next)
    (others : ∀ other stage, other ≠ node → (nodes.callers other).stage = some stage →
      AgreeingStage codec after (nodes.callers other).lastVersion stage)
    (alone : next.won = true → ∀ other stage, other ≠ node →
      (nodes.callers other).stage = some stage → stage.won ≠ true) :
    Agreeing codec
      { redis := after
        callers := Function.update nodes.callers node
          { lastVersion := version, stage := some next } } := by
  refine ⟨once, ?_, ?_⟩
  · intro other stage running
    by_cases same : other = node
    · subst same
      simp only [Function.update_self, Option.some.injEq] at running ⊢
      subst running
      exact moved
    · simp only [Function.update_of_ne same] at running ⊢
      exact others other stage same running
  · intro left right leftStage rightStage leftRuns rightRuns leftWon rightWon
    by_cases leftSame : left = node <;> by_cases rightSame : right = node
    · rw [leftSame, rightSame]
    · subst leftSame
      simp only [Function.update_self, Option.some.injEq] at leftRuns
      subst leftRuns
      simp only [Function.update_of_ne rightSame] at rightRuns
      exact absurd rightWon (alone leftWon right rightStage rightSame rightRuns)
    · subst rightSame
      simp only [Function.update_self, Option.some.injEq] at rightRuns
      subst rightRuns
      simp only [Function.update_of_ne leftSame] at leftRuns
      exact absurd leftWon (alone rightWon left leftStage leftSame leftRuns)
    · simp only [Function.update_of_ne leftSame] at leftRuns
      simp only [Function.update_of_ne rightSame] at rightRuns
      exact agreeing.winner left right leftStage rightStage leftRuns rightRuns leftWon rightWon

theorem Agreeing.step {next : Nodes NodeId} {turn : Turn NodeId} (agreeing : Agreeing codec nodes)
    (timely : Timely codec nodes turn) (taken : nodes.step codec turn = some next) :
    Agreeing codec next := by
  cases turn with
  | call node lastVersion =>
    simp only [Nodes.step] at taken
    split at taken
    · cases taken
    · cases taken
      exact agreeing.update agreeing.redis trivial
        (fun other stage _ running => agreeing.stages other stage running)
        (fun won => by cases won)
  | advance node entropy now =>
    simp only [Nodes.step] at taken
    split at taken
    · cases taken
    · rename_i stage running
      split at taken
      · cases taken
      · rename_i after version following moved
        cases taken
        cases ensureStep_of_step agreeing.redis timely (agreeing.stages node stage running)
            moved with
        | quiet ahead wins =>
          refine agreeing.update agreeing.redis ahead
            (fun other stage _ running => agreeing.stages other stage running) ?_
          intro won other otherStage different otherRuns otherWon
          exact different (agreeing.winner other node otherStage stage otherRuns running
            otherWon (wins won))
        | @commit _ _ ring _ empty stored ahead =>
          refine agreeing.update (.inr ⟨ring, stored⟩) ahead ?_ ?_
          · intro other otherStage _ otherRuns
            exact (empty ▸ agreeing.stages other otherStage otherRuns).commit stored
          · intro _ other otherStage _ otherRuns
            exact agreeing.not_won_of_empty empty otherRuns

/-- All calls that return a ring return the one that Redis holds, and at most one of them
bootstrapped it. -/
theorem ensure_agrees (codec : Codec) {turns : List (Turn NodeId)} {final : Nodes NodeId}
    (run : Run (Nodes.step codec) (Timely codec) Nodes.initial turns final) :
    (∀ node ring bootstrapped, final.Returned node ring bootstrapped →
      final.redis.value = some (encodeKeyRing codec ring) ∧
        decodeKeyRing codec (encodeKeyRing codec ring) = .ok ring) ∧
    (∀ left right leftRing rightRing leftFirst rightFirst,
      final.Returned left leftRing leftFirst → final.Returned right rightRing rightFirst →
        leftRing = rightRing) ∧
    ∀ left right leftRing rightRing, final.Returned left leftRing true →
      final.Returned right rightRing true → left = right := by
  have agreeing : Agreeing codec final :=
    run.invariant (Agreeing codec) (fun _ _ _ agreeing timely taken => agreeing.step timely taken)
      initial_agreeing
  have stored : ∀ node ring bootstrapped, final.Returned node ring bootstrapped →
      Stored codec final.redis ring :=
    fun node ring bootstrapped returned => agreeing.stages node _ returned
  refine ⟨?_, ?_, ?_⟩
  · intro node ring bootstrapped returned
    have held := stored node ring bootstrapped returned
    exact ⟨congrArg Versioned.value held.1, held.2⟩
  · intro left right leftRing rightRing leftFirst rightFirst leftReturned rightReturned
    exact (stored _ _ _ leftReturned).unique (stored _ _ _ rightReturned)
  · intro left right leftRing rightRing leftReturned rightReturned
    exact agreeing.winner left right _ _ leftReturned rightReturned rfl rfl

/-- Both nodes find Redis empty; node `true` saves first and node `false` adopts its ring. -/
def racingTurns : List (Turn Bool) :=
  List.flatten
    [[.call false versionUnknown, .call true versionUnknown], steps false 1 4, steps true 2 9,
      steps false 1 7]
where
  steps (node : Bool) (byte : UInt8) (count : Nat) : List (Turn Bool) :=
    let draw := Fleet.Draw.epoch byte
    List.replicate count (.advance node draw.entropy draw.now)

def racingResults (nodes : Nodes Bool) : Option (Bool × Bool) :=
  match (nodes.callers false).stage, (nodes.callers true).stage with
  | some (.returned (.ok (_, left))), some (.returned (.ok (_, right))) => some (left, right)
  | _, _ => none

theorem ensure_agrees_of_race :
    ∃ (final : Nodes Bool) (ring : KeyRing),
      Run (Nodes.step Codec.epoch) (Timely Codec.epoch) Nodes.initial racingTurns final ∧
        final.Returned false ring false ∧ final.Returned true ring true ∧
        final.redis.value = some (encodeKeyRing Codec.epoch ring) := by
  rcases Run.exists_of_execute racingResults
      (show (execute (Nodes.step Codec.epoch) (Timely Codec.epoch) Nodes.initial racingTurns).map
        racingResults = some (some (false, true)) by decide +kernel) with ⟨final, run, observed⟩
  unfold racingResults at observed
  split at observed
  · rename_i leftRing left rightRing right adopted won
    cases observed
    rcases ensure_agrees Codec.epoch run with ⟨held, same, _⟩
    have equal := same false true leftRing rightRing false true adopted won
    subst equal
    exact ⟨final, leftRing, run, adopted, won, (held false leftRing false adopted).1⟩
  · cases observed

end Parsec.KeyRingStore
