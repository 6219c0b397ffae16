import Parsec.Channels.RedisStore
import Parsec.Management.Service

/-! # Creating private channels

An instance creates the channel first, then issues the tokens, and deletes the channel again if
that fails. On both stores a deleted private name stays taken. -/

namespace Parsec.Instance

open Foundation Channels Auth
open Management (Credentials)
open Channels.MemoryStore (notFound)

inductive Backend
  | memory
  | redis

namespace Backend

abbrev Stored : Backend → Type
  | memory => MemoryStore
  | redis => RedisStore

def registry : (backend : Backend) → Registry backend.Stored
  | memory => MemoryStore.asRegistry
  | redis => RedisStore.asRegistry

def recorded (name : Name) : (backend : Backend) → backend.Stored → Option State
  | memory, store => (AList.lookup name.text store).map (·.state)
  | redis, hash => (AList.lookup name.text hash).map (·.state)

variable {backend : Backend} {stored : backend.Stored} {name : Name}

private theorem get_eq_notFound
    (hidden : backend.recorded name stored = none ∨ backend.recorded name stored = some .deleted) :
    backend.registry.get name stored = .error (notFound "no such channel") := by
  cases backend with
  | memory =>
    change MemoryStore.get name stored = _
    unfold MemoryStore.get
    cases found : AList.lookup name.text stored with
    | none => rfl
    | some channel =>
      have deleted : channel.state = .deleted := by simpa [recorded, found] using hidden
      exact if_pos deleted
  | redis =>
    change RedisStore.get name stored = _
    unfold RedisStore.get
    cases found : AList.lookup name.text stored with
    | none => rfl
    | some record =>
      have deleted : record.state = .deleted := by simpa [recorded, found] using hidden
      exact if_pos deleted

theorem createPrivate_unknown (accepted : name.Accepted) (isPrivate : name.visibility = .private)
    (unknown : backend.recorded name stored = none) (ttl now : Int) :
    ∃ channel event after,
      backend.registry.createPrivate name ttl now stored = (.ok (some channel, event), after) ∧
        backend.recorded name after = some .open := by
  cases backend with
  | memory =>
    have absent : AList.lookup name.text stored = none := by simpa [recorded] using unknown
    refine ⟨MemoryStore.freshChannel name ttl now,
      some { kind := .opened, name := name, «at» := now },
      AList.insert name.text (MemoryStore.freshChannel name ttl now) stored, ?_, ?_⟩
    · change MemoryStore.snapshotted (MemoryStore.createPrivate name ttl now stored) = _
      simp only [MemoryStore.createPrivate, isPrivate, ne_eq, not_true, if_false, absent]
      rfl
    · simp [recorded, MemoryStore.freshChannel]
  | redis =>
    have absent : AList.lookup name.text stored = none := by simpa [recorded] using unknown
    have read : fromRecord (RedisStore.freshRecord name ttl now) =
        .ok (MemoryStore.freshChannel name (wholeSeconds ttl * second) now) := by
      unfold fromRecord
      rw [show (RedisStore.freshRecord name ttl now).name = name.text from rfl,
        accepted.parseName_text]
      rfl
    refine ⟨MemoryStore.freshChannel name (wholeSeconds ttl * second) now,
      some { kind := .opened, name := name, «at» := now },
      AList.insert name.text (RedisStore.freshRecord name ttl now) stored, ?_, ?_⟩
    · change RedisStore.createPrivate name ttl now stored = _
      simp only [RedisStore.createPrivate, isPrivate, ne_eq, not_true, if_false, absent, read]
      rfl
    · simp [recorded, RedisStore.freshRecord]

variable {state : State}

theorem createPrivate_known (isPrivate : name.visibility = .private)
    (known : backend.recorded name stored = some state) (ttl now : Int) :
    backend.registry.createPrivate name ttl now stored =
      (.error { code := .channelExists, message := "channel already exists" }, stored) := by
  cases backend with
  | memory =>
    rcases Option.map_eq_some_iff.mp known with ⟨channel, found, _⟩
    change MemoryStore.snapshotted (MemoryStore.createPrivate name ttl now stored) = _
    simp only [MemoryStore.createPrivate, isPrivate, ne_eq, not_true, if_false, found]
    rfl
  | redis =>
    rcases Option.map_eq_some_iff.mp known with ⟨record, found, _⟩
    change RedisStore.createPrivate name ttl now stored = _
    simp only [RedisStore.createPrivate, isPrivate, ne_eq, not_true, if_false, found]

private theorem recorded_delete (known : backend.recorded name stored = some state) (now : Int) :
    backend.recorded name (backend.registry.delete name now stored).2 = some .deleted := by
  cases backend with
  | memory =>
    rcases Option.map_eq_some_iff.mp known with ⟨channel, found, _⟩
    change recorded name .memory (MemoryStore.delete name now stored).2 = _
    simp [recorded, MemoryStore.delete, found]
  | redis =>
    rcases Option.map_eq_some_iff.mp known with ⟨record, found, _⟩
    change recorded name .redis (RedisStore.delete name now stored).2 = _
    by_cases deleted : record.state = .deleted <;>
      simp [recorded, RedisStore.delete, RedisStore.deleteScript, found, deleted]

end Backend

structure CreateCall where
  subjectID : String
  name : String
  ttl : Int
  scopes : List Scope
  createdAt : Int
  issuedAt : Int
  deletedAt : Int
  ring : KeyRing
  draws : Issuer.PairDraws

section

variable {Stored : Type} (registry : Registry Stored)

def issueFailed (error : String) : CodedError :=
  { code := .invalidArgument, message := "issue token pair with scopes", cause := some error }

/-- `CreatePrivate`: what it returns, the events it emits and the records it leaves. There is
no answer where it dereferences a nil snapshot. -/
def createPrivate (issuer : Issuer) (jwt : Jwt) (call : CreateCall) (stored : Stored) :
    Option (Except CodedError Credentials) × List Event × Stored :=
  match parseName call.name with
  | .error error => (some (.error error), [], stored)
  | .ok name =>
    match Manager.createPrivate registry call.createdAt stored name call.ttl with
    | (.error error, events, stored) => (some (.error error), events, stored)
    | (.ok none, events, stored) => (none, events, stored)
    | (.ok (some channel), events, stored) =>
      match issuer.issuePair jwt call.ring call.issuedAt call.subjectID name.text channel.ttl
          call.scopes call.draws with
      | .error error =>
        let (_, undone, stored) := Manager.delete registry call.deletedAt stored name
        (some (.error (issueFailed error)), events ++ undone, stored)
      | .ok pair =>
        (some (.ok
          { name := name, accessToken := pair.accessToken,
            refreshToken := pair.refreshToken, accessExpires := pair.accessExpires,
            refreshExpires := pair.refreshExpires }), events, stored)

end

section

variable {backend : Backend} {stored : backend.Stored} {name : Name}

private theorem manager_createPrivate_unknown (accepted : name.Accepted)
    (isPrivate : name.visibility = .private) (unknown : backend.recorded name stored = none)
    (now ttl : Int) :
    (Manager.maxPrivateTTL < ttl ∧ ∃ error,
        Manager.createPrivate backend.registry now stored name ttl = (.error error, [], stored)) ∨
      ttl ≤ Manager.maxPrivateTTL ∧ ∃ channel events after,
        Manager.createPrivate backend.registry now stored name ttl =
          (.ok (some channel), events, after) ∧ backend.recorded name after = some .open := by
  have limit : Manager.maxPrivateTTL < (if ttl ≤ 0 then 15 * minute else ttl) ↔
      Manager.maxPrivateTTL < ttl := by
    have quarter : ¬ Manager.maxPrivateTTL < 15 * minute := by decide
    have positive : 0 < Manager.maxPrivateTTL := by decide
    split
    · constructor
      · intro exceeded
        exact absurd exceeded quarter
      · omega
    · exact Iff.rfl
  unfold Manager.createPrivate
  by_cases exceeded : Manager.maxPrivateTTL < ttl
  · rw [if_pos (limit.mpr exceeded)]
    exact .inl ⟨exceeded, _, rfl⟩
  · rcases Backend.createPrivate_unknown accepted isPrivate unknown
      (if ttl ≤ 0 then 15 * minute else ttl) now with ⟨channel, event, after, created, isOpen⟩
    rw [if_neg (mt limit.mp exceeded), created]
    exact .inr ⟨not_lt.mp exceeded, channel, event.toList, after, rfl, isOpen⟩

variable {state : State}

private theorem manager_createPrivate_known (isPrivate : name.visibility = .private)
    (known : backend.recorded name stored = some state) (now ttl : Int) :
    ∃ error, Manager.createPrivate backend.registry now stored name ttl =
      (.error error, [], stored) := by
  unfold Manager.createPrivate
  generalize (if ttl ≤ 0 then 15 * minute else ttl) = limited
  dsimp only
  split
  · exact ⟨_, rfl⟩
  · rw [Backend.createPrivate_known isPrivate known]
    exact ⟨_, rfl⟩

theorem recorded_manager_delete (known : backend.recorded name stored = some state) (now : Int) :
    backend.recorded name (Manager.delete backend.registry now stored name).2.2 =
      some .deleted := by
  have deleted := Backend.recorded_delete known now
  unfold Manager.delete
  split <;> simp_all

variable {call : CreateCall} (named : parseName call.name = .ok name)
  (isPrivate : name.visibility = .private)
include named isPrivate

variable {issuer : Issuer} {jwt : Jwt}

/-- A call that fails on an unknown name was refused for its lifetime and left the store alone,
or it leaves the name deleted. -/
theorem createPrivate_failed {after : backend.Stored} {events : List Event} {error : CodedError}
    (unknown : backend.recorded name stored = none)
    (failed : createPrivate backend.registry issuer jwt call stored =
      (some (.error error), events, after)) :
    (Manager.maxPrivateTTL < call.ttl ∧ after = stored) ∨
      call.ttl ≤ Manager.maxPrivateTTL ∧ backend.recorded name after = some .deleted := by
  simp only [createPrivate, named] at failed
  rcases manager_createPrivate_unknown ⟨_, named⟩ isPrivate unknown call.createdAt call.ttl with
    ⟨exceeded, refusal, refused⟩ | ⟨within, channel, opened, created, creates, isOpen⟩
  · simp only [refused, Prod.mk.injEq] at failed
    exact .inl ⟨exceeded, failed.2.2.symm⟩
  · refine .inr ⟨within, ?_⟩
    simp only [creates] at failed
    split at failed
    · simp only [Prod.mk.injEq] at failed
      rw [← failed.2.2]
      exact recorded_manager_delete isOpen call.deletedAt
    · simp at failed

theorem createPrivate_known (known : backend.recorded name stored = some state)
    (credentials : Credentials) :
    (createPrivate backend.registry issuer jwt call stored).1 ≠ some (.ok credentials) := by
  rcases manager_createPrivate_known isPrivate known call.createdAt call.ttl with ⟨error, refused⟩
  simp [createPrivate, named, refused]

end

/-- A call that would have succeeded before a failed one succeeds after it exactly if the failed
call was refused for its lifetime: any other failure leaves the name taken. -/
theorem failed_create_leaves_name_iff {backend : Backend} {issuer : Issuer} {jwt : Jwt}
    {call : CreateCall} {stored after : backend.Stored} {name : Name} {events : List Event}
    {error : CodedError} (named : parseName call.name = .ok name)
    (isPrivate : name.visibility = .private) (unknown : backend.recorded name stored = none)
    (failed : createPrivate backend.registry issuer jwt call stored =
      (some (.error error), events, after)) :
    backend.registry.get name stored = .error (notFound "no such channel") ∧
      backend.registry.get name after = .error (notFound "no such channel") ∧
      ∀ later : CreateCall, later.name = call.name →
        (∃ credentials,
          (createPrivate backend.registry issuer jwt later stored).1 = some (.ok credentials)) →
        ((∃ credentials,
          (createPrivate backend.registry issuer jwt later after).1 = some (.ok credentials)) ↔
            Manager.maxPrivateTTL < call.ttl) := by
  refine ⟨Backend.get_eq_notFound (.inl unknown), ?_, ?_⟩
  · rcases createPrivate_failed named isPrivate unknown failed with ⟨_, rfl⟩ | ⟨_, deleted⟩
    · exact Backend.get_eq_notFound (.inl unknown)
    · exact Backend.get_eq_notFound (.inr deleted)
  · intro later sameName acceptable
    rw [← sameName] at named
    rcases createPrivate_failed (sameName ▸ named) isPrivate unknown failed with
      ⟨exceeded, rfl⟩ | ⟨within, deleted⟩
    · exact iff_of_true acceptable exceeded
    · apply iff_of_false
      · intro ⟨credentials, succeeded⟩
        exact createPrivate_known named isPrivate deleted credentials succeeded
      · omega

def createJwt : Jwt := lifetimeJwt

def createCall (ttl : Int) (scopes : List Scope) : CreateCall where
  subjectID := "u1"
  name := "private:shop.orders.o1"
  ttl := ttl
  scopes := scopes
  createdAt := ofUnix 1735300000
  issuedAt := ofUnix 1735300000
  deletedAt := ofUnix 1735300000
  ring := lifetimeRing
  draws :=
    { jti := some (.replicate 16 1), fid := some (.replicate 16 2),
      access := some (.replicate 16 3) }

def createdName : Name :=
  { visibility := .private, app := "shop", domain := "orders", id := "o1" }

private theorem createCall_succeeds : ∃ credentials,
    (createPrivate Backend.memory.registry {} createJwt (createCall minute []) ∅).1 =
      some (.ok credentials) := by
  have named : ((createPrivate Backend.memory.registry {} createJwt (createCall minute []) ∅).1.map
      (·.map (·.name))) = some (.ok createdName) := by
    decide +kernel
  rcases Option.map_eq_some_iff.mp named with ⟨answer, answered, read⟩
  cases answer with
  | error error => cases read
  | ok credentials => exact ⟨credentials, answered⟩

/-- A lifetime of two hours is refused, and the name can be taken after that. -/
theorem refused_lifetime_leaves_name : ∃ credentials,
    (createPrivate Backend.memory.registry {} createJwt (createCall minute [])
      (createPrivate Backend.memory.registry {} createJwt (createCall (2 * hour) []) ∅).2.2).1 =
        some (.ok credentials) := by
  have named : parseName (createCall (2 * hour) []).name = .ok createdName := by decide +kernel
  have left := failed_create_leaves_name_iff named rfl rfl
    (show createPrivate Backend.memory.registry {} createJwt (createCall (2 * hour) []) ∅ =
      (some (.error { code := .channelTTLExceeds,
                      message := "private channel TTL must be <= 1h" }), [], ∅) by
        simp only [createPrivate, named]
        rfl)
  exact (left.2.2 (createCall minute []) rfl createCall_succeeds).mpr (by decide)

def createTwice (backend : Backend) (empty : backend.Stored) (first second : CreateCall) :
    List (Option (Except CodedError Name)) :=
  let (answer, _, stored) := createPrivate backend.registry {} createJwt first empty
  let (next, _, _) := createPrivate backend.registry {} createJwt second stored
  [answer.map (·.map (·.name)), next.map (·.map (·.name))]

/-- A scope without a pattern, or over Redis a lifetime of half a second, uses up the name. -/
theorem failed_create_takes_name :
    createTwice .memory ∅ (createCall minute [{ pattern := "", verbs := [.subscribe] }])
        (createCall minute []) =
      [some (.error (issueFailed "auth: scope pattern required")),
        some (.error { code := .channelExists, message := "channel already exists" })] ∧
      createTwice .redis ∅ (createCall (second / 2) []) (createCall minute []) =
        [some (.error (issueFailed "auth: channelTTL must be positive")),
          some (.error { code := .channelExists, message := "channel already exists" })] ∧
      ((createPrivate Backend.memory.registry {} createJwt (createCall minute []) ∅).1.map
        (·.map (·.name))) = some (.ok createdName) := by
  decide +kernel

end Parsec.Instance
