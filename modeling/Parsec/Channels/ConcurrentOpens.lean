import Parsec.Foundation.Execution
import Parsec.Channels.Listing

/-! # Concurrent opens in Redis

Callers on several nodes open public channels of one hash. Each open watches the hash, reads
the record, commits its own and reads the record back; other calls run between any two of
these steps. -/

namespace Parsec.Channels.ConcurrentOpens

open Foundation Registry RedisStore

structure Request where
  name : Name
  ttl : Int
  now : Int
  accepted : name.Accepted

/-- How far an open has come. Attempts are counted from zero, writes to the hash by the
number seen when the watch began. -/
inductive Stage
  | idle
  | begun (request : Request) (attempt : Nat)
  | watching (request : Request) (attempt seen : Nat)
  | read (request : Request) (attempt seen : Nat) (existing : Option ChannelRecord)
  | committed (request : Request) (record : ChannelRecord) (transition : Bool)

structure Return where
  request : Request
  committed : Option ChannelRecord := none
  outcome : Except CodedError (Option Channel × Option Event)

structure World (Caller : Type) where
  hash : RedisStore
  writes : Nat
  stages : Caller → Stage
  returns : List Return

inductive Action (Caller : Type)
  | «open» (caller : Caller) (request : Request)
  | watch (caller : Caller)
  | read (caller : Caller)
  | exec (caller : Caller)
  | readBack (caller : Caller)
  -- a call that Redis runs in one step
  | call (made : Call)

def attempts : Nat := 3

def dirties (before after : RedisStore) : Answer → Bool
  | .opened (.ok _) | .done (.ok _) | .deleted (.ok (some _)) => true
  | _ => before.entries ≠ after.entries

namespace World

variable {Caller : Type} [DecidableEq Caller]

def initial : World Caller where
  hash := ∅
  writes := 0
  stages := fun _ => .idle
  returns := []

def enter (world : World Caller) (caller : Caller) (stage : Stage) : World Caller :=
  { world with stages := Function.update world.stages caller stage }

def finish (world : World Caller) (caller : Caller) (returned : Return) : World Caller :=
  { world with
    stages := Function.update world.stages caller .idle
    returns := world.returns ++ [returned] }

/-- The transaction of one attempt. A deleted channel ends the open before it, a write to the
hash since the watch makes it fail. -/
def commit (world : World Caller) (caller : Caller) (request : Request) (attempt seen : Nat)
    (existing : Option ChannelRecord) : World Caller :=
  match openedRecord request.name request.ttl request.now existing with
  | .error error => world.finish caller { request := request, outcome := .error error }
  | .ok (record, transition) =>
    if world.writes = seen then
      { world with
        hash := world.hash.insert request.name.text record
        writes := world.writes + 1
        stages := Function.update world.stages caller (.committed request record transition) }
    else if attempt + 1 < attempts then world.enter caller (.begun request (attempt + 1))
    else
      world.finish caller
        { request := request
          outcome := .error { code := .internal, message := "redis OpenPublic contention" } }

def step : Step (World Caller) (Action Caller) := fun world action =>
  match action with
  | .open caller request =>
    match world.stages caller with
    | .idle =>
      if request.name.visibility ≠ .public then
        some (world.finish caller
          { request := request
            outcome := .error (invalidChannel "OpenPublic requires a public channel name") })
      else some (world.enter caller (.begun request 0))
    | _ => none
  | .watch caller =>
    match world.stages caller with
    | .begun request attempt =>
      some (world.enter caller (.watching request attempt world.writes))
    | _ => none
  | .read caller =>
    match world.stages caller with
    | .watching request attempt seen =>
      some (world.enter caller (.read request attempt seen (world.hash.lookup request.name.text)))
    | _ => none
  | .exec caller =>
    match world.stages caller with
    | .read request attempt seen existing =>
      some (world.commit caller request attempt seen existing)
    | _ => none
  | .readBack caller =>
    match world.stages caller with
    | .committed request record transition =>
      let event :=
        if transition then
          some { kind := .opened, name := request.name, «at» := request.now }
        else none
      some (world.finish caller
        { request := request
          committed := some record
          outcome := .ok ((get request.name world.hash).toOption, event) })
    | _ => none
  | .call (.openPublic _ _ _) => none
  | .call made =>
    let (answer, hash) := serve world.hash made
    some { world with
      hash := hash
      writes := if dirties world.hash hash answer then world.writes + 1 else world.writes }

end World

/-- The open returned the record its transaction committed: open, with the requested time
limit and last active when the open was made. -/
def Promised (returned : Return) (snapshot : Option Channel) : Prop :=
  ∃ record channel, returned.committed = some record ∧
    fromRecord record = .ok channel ∧ snapshot = some channel ∧
    channel.name = returned.request.name ∧ channel.state = .open ∧
    channel.ttl = returned.request.ttl ∧ channel.lastActive = returned.request.now

def Stage.pending? : Stage → Option Name
  | .committed request _ _ => some request.name
  | _ => none

def Action.WholeTTL {Caller : Type} : Action Caller → Prop
  | .open _ request => second ∣ request.ttl
  | _ => True

section Invariant

variable {Caller : Type} [DecidableEq Caller]

def World.hashAfter (world : World Caller) (action : Action Caller) : RedisStore :=
  ((World.step world action).map (·.hash)).getD world.hash

def Undisturbed (world : World Caller) (action : Action Caller) : Prop :=
  action.WholeTTL ∧
    ∀ caller, ∀ name ∈ (world.stages caller).pending?,
      (world.hashAfter action).lookup name.text = world.hash.lookup name.text

instance (action : Action Caller) : Decidable action.WholeTTL :=
  match action with
  | .open _ request => inferInstanceAs (Decidable (second ∣ request.ttl))
  | .watch _ | .read _ | .exec _ | .readBack _ | .call _ => isTrue trivial

instance [Fintype Caller] (world : World Caller) (action : Action Caller) :
    Decidable (Undisturbed world action) :=
  inferInstanceAs (Decidable (_ ∧ ∀ caller, ∀ name ∈ (world.stages caller).pending?, _))

structure WrittenFor (request : Request) (record : ChannelRecord) : Prop where
  name : record.name = request.name.text
  isOpen : record.state = .open
  ttl : record.ttlSeconds = wholeSeconds request.ttl
  lastActive : record.lastActive = request.now

def Stage.Sound (hash : RedisStore) : Stage → Prop
  | .idle => True
  | .begun request _ | .watching request _ _ => second ∣ request.ttl
  | .read request _ _ existing =>
    second ∣ request.ttl ∧ ∀ record ∈ existing, record.name = request.name.text
  | .committed request record _ =>
    second ∣ request.ttl ∧ WrittenFor request record ∧ hash.lookup request.name.text = some record

structure Sound (world : World Caller) : Prop where
  named : Named world.hash
  staged : ∀ caller, (world.stages caller).Sound world.hash
  promised : ∀ returned ∈ world.returns, ∀ snapshot event,
    returned.outcome = .ok (snapshot, event) → Promised returned snapshot

omit [DecidableEq Caller] in
private theorem sound_initial : Sound (World.initial : World Caller) where
  named := by simp [World.initial, Named]
  staged := fun _ => trivial
  promised := by simp [World.initial]

variable {request : Request}
  {existing : Option ChannelRecord} {record : ChannelRecord} {transition : Bool}

theorem openedRecord_writtenFor (named : ∀ old ∈ existing, old.name = request.name.text)
    (opened : openedRecord request.name request.ttl request.now existing =
      .ok (record, transition)) : WrittenFor request record := by
  cases existing with
  | none =>
    cases opened
    exact ⟨rfl, rfl, rfl, rfl⟩
  | some old =>
    simp only [openedRecord] at opened
    split_ifs at opened
    cases opened
    exact ⟨named old rfl, rfl, rfl, rfl⟩

variable {hash : RedisStore} {stage : Stage} {changed : RedisStore}

theorem Stage.Sound.frame (sound : stage.Sound hash)
    (same : ∀ name ∈ stage.pending?, changed.lookup name.text = hash.lookup name.text) :
    stage.Sound changed := by
  cases stage with
  | idle => trivial
  | begun request attempt | watching request attempt seen | read request attempt seen existing =>
    exact sound
  | committed request record transition =>
    exact ⟨sound.1, sound.2.1, (same request.name rfl).trans sound.2.2⟩

variable {caller : Caller}

theorem staged_update {stages : Caller → Stage} (sound : ∀ other, (stages other).Sound hash)
    (own : stage.Sound changed)
    (same : ∀ other, ∀ name ∈ (stages other).pending?,
      changed.lookup name.text = hash.lookup name.text) :
    ∀ other, (Function.update stages caller stage other).Sound changed := by
  intro other
  by_cases isCaller : other = caller
  · rw [isCaller, Function.update_self]
    exact own
  · rw [Function.update_of_ne isCaller]
    exact (sound other).frame (same other)

variable {world : World Caller}

theorem Sound.enter (sound : Sound world) (own : stage.Sound world.hash) :
    Sound (world.enter caller stage) where
  named := sound.named
  staged := staged_update sound.staged own fun _ _ _ => rfl
  promised := sound.promised

theorem Sound.finish (sound : Sound world) {returned : Return}
    (kept : ∀ snapshot event, returned.outcome = .ok (snapshot, event) →
      Promised returned snapshot) : Sound (world.finish caller returned) where
  named := sound.named
  staged := staged_update sound.staged trivial fun _ _ _ => rfl
  promised := by
    intro other member
    rcases List.mem_append.mp member with earlier | last
    · exact sound.promised other earlier
    · rw [List.mem_singleton.mp last]
      exact kept

theorem Sound.finish_error (sound : Sound world) {error : CodedError} :
    Sound (world.finish caller { request := request, outcome := .error error }) := by
  apply sound.finish
  intro snapshot event impossible
  cases impossible

theorem promised_of_committed (sound : (Stage.committed request record transition).Sound hash)
    (event : Option Event) :
    Promised
      { request := request, committed := some record,
        outcome := .ok ((get request.name hash).toOption, event) }
      (get request.name hash).toOption := by
  obtain ⟨whole, written, stored⟩ := sound
  have read : fromRecord record = .ok
      { name := request.name, state := .open, ttl := request.ttl, createdAt := record.createdAt,
        lastActive := request.now, deltaEnabled := record.deltaEnabled } := by
    rw [fromRecord, written.name, request.accepted.parseName_text, written.isOpen, written.ttl,
      wholeSeconds_mul whole, written.lastActive]
    rfl
  have found : get request.name hash = fromRecord record := by
    simp [RedisStore.get, stored, written.isOpen]
  refine ⟨record, _, rfl, read, ?_, rfl, rfl, rfl, rfl⟩
  rw [found, read]
  rfl

theorem Sound.commit (sound : Sound world) {attempt seen : Nat}
    (own : (Stage.read request attempt seen existing).Sound world.hash)
    (same : ∀ other, ∀ name ∈ (world.stages other).pending?,
      (world.commit caller request attempt seen existing).hash.lookup name.text =
        world.hash.lookup name.text) :
    Sound (world.commit caller request attempt seen existing) := by
  unfold World.commit at same ⊢
  cases opened : openedRecord request.name request.ttl request.now existing with
  | error error => exact sound.finish_error
  | ok result =>
    obtain ⟨record, transition⟩ := result
    have written := openedRecord_writtenFor own.2 opened
    simp only [opened] at same ⊢
    by_cases unwritten : world.writes = seen
    · simp only [unwritten, if_true] at same ⊢
      exact {
        named := sound.named.insert written.name
        staged := staged_update sound.staged ⟨own.1, written, AList.lookup_insert world.hash⟩ same
        promised := sound.promised }
    · split_ifs
      · exact sound.enter own.1
      · exact sound.finish_error

theorem Sound.step {next : World Caller} {action : Action Caller} (sound : Sound world)
    (undisturbed : Undisturbed world action) (taken : World.step world action = some next) :
    Sound next := by
  obtain ⟨whole, same⟩ := undisturbed
  rw [World.hashAfter, taken] at same
  cases action with
  | «open» caller request =>
    simp only [World.step] at taken
    split at taken
    · split_ifs at taken
      · cases taken
        exact sound.finish_error
      · cases taken
        exact sound.enter whole
    · cases taken
  | watch caller =>
    simp only [World.step] at taken
    split at taken
    · next request attempt stage =>
        have own := sound.staged caller
        rw [stage] at own
        cases taken
        exact sound.enter own
    · cases taken
  | read caller =>
    simp only [World.step] at taken
    split at taken
    · next request attempt seen stage =>
        have own := sound.staged caller
        rw [stage] at own
        cases taken
        exact sound.enter ⟨own, fun record found => sound.named _ record found⟩
    · cases taken
  | exec caller =>
    simp only [World.step] at taken
    split at taken
    · next request attempt seen existing stage =>
        have own := sound.staged caller
        rw [stage] at own
        cases taken
        exact sound.commit own same
    · cases taken
  | readBack caller =>
    simp only [World.step] at taken
    split at taken
    · next request record transition stage =>
        have own := sound.staged caller
        rw [stage] at own
        cases taken
        apply sound.finish
        intro snapshot event returned
        cases returned
        exact promised_of_committed own _
    · cases taken
  | call made =>
    have served : next.hash = (serve world.hash made).2 ∧ next.stages = world.stages ∧
        next.returns = world.returns := by
      cases made <;> cases taken <;> exact ⟨rfl, rfl, rfl⟩
    obtain ⟨hash, stages, returns⟩ := served
    constructor
    · rw [hash]
      exact sound.named.serve made
    · intro caller
      rw [stages]
      exact (sound.staged caller).frame (same caller)
    · rw [returns]
      exact sound.promised

/-- In every run in which no record changes between a commit and its reading back, every
open that succeeds returns what it opened. -/
theorem opens_return_own_record {actions : List (Action Caller)} {final : World Caller}
    (run : Run World.step Undisturbed World.initial actions final) :
    ∀ returned ∈ final.returns, ∀ snapshot event,
      returned.outcome = .ok (snapshot, event) → Promised returned snapshot :=
  (run.invariant Sound (fun _ _ _ sound undisturbed taken => sound.step undisturbed taken)
    sound_initial).promised

end Invariant

def headlines : Request where
  name := { visibility := .public, app := "shop", domain := "headlines" }
  ttl := minute
  now := second
  accepted := ⟨"public:shop.headlines", by decide +kernel⟩

def openedInTurn : List (Action Bool) :=
  [.open false headlines, .watch false, .read false, .exec false, .open true headlines,
    .watch true, .readBack false, .read true, .exec true, .readBack true]

theorem openedInTurn_promised :
    ∃ final, Run World.step Undisturbed World.initial openedInTurn final ∧
      final.returns.length = 2 ∧
      ∀ returned ∈ final.returns, ∀ snapshot event,
        returned.outcome = .ok (snapshot, event) → Promised returned snapshot := by
  have executed : (execute World.step Undisturbed World.initial openedInTurn).map
      (·.returns.length) = some 2 := by decide +kernel
  obtain ⟨final, run, returns⟩ := Run.exists_of_execute _ executed
  exact ⟨final, run, returns, opens_return_own_record run⟩

def deletedBeforeReadBack : List (Action Unit) :=
  [.open () headlines, .watch (), .read (), .exec (), .call (.delete headlines.name second),
    .readBack ()]

/-- The open succeeds and returns no channel. -/
theorem deletedBeforeReadBack_returns_nil :
    ∃ final, Run World.step unrestricted World.initial deletedBeforeReadBack final ∧
      final.returns.map (fun returned => returned.outcome.toOption) =
        [some (none, some { kind := .opened, name := headlines.name, «at» := second })] := by
  apply Run.exists_of_execute
    (fun final : World Unit => final.returns.map fun returned => returned.outcome.toOption)
  decide +kernel

end Parsec.Channels.ConcurrentOpens
