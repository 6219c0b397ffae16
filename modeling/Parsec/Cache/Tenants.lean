import Parsec.Cache.Backends

/-! # Tenants of a cache

The tenant-scoped calls put the tenant's id and a colon before the key. Two runs are compared: all
calls, and those of one tenant alone. -/

namespace Parsec.Cache

open Foundation Auth

/-! ## Calls -/

inductive Request (Envelope : Type)
  | get
  | put (env : Envelope) (ttl : Int)
  | delete

structure Call (Envelope : Type) where
  tenant : String
  key : String
  request : Request Envelope
  now : Int
  reply : Reply := .delivered

def Call.scopedKey {Envelope : Type} (call : Call Envelope) : String :=
  Cache.scopedKey call.tenant call.key

inductive MemoryEvent (Envelope : Type)
  | call (call : Call Envelope)
  | sweep (now : Int)

inductive RedisEvent (Envelope : Type)
  | call (call : Call Envelope)
  | evict (key : String)

namespace MemoryCache

variable {Envelope : Type} (cache : MemoryCache Envelope) (now : Int) (tenantID key : String)

def getForTenant : Option Envelope × MemoryCache Envelope × (String → Bool) :=
  cache.get now (scopedKey tenantID key)

def putForTenant (env : Envelope) (ttl : Int) : MemoryCache Envelope × (String → Bool) :=
  cache.put now (scopedKey tenantID key) env ttl

def deleteForTenant : MemoryCache Envelope := cache.delete (scopedKey tenantID key)

def step : MemoryEvent Envelope → MemoryCache Envelope × (String → Bool)
  | .sweep now => cache.sweepOnce now
  | .call call =>
    match call.request with
    | .get => (cache.getForTenant call.now call.tenant call.key).2
    | .put env ttl => cache.putForTenant call.now call.tenant call.key env ttl
    | .delete => (cache.deleteForTenant call.tenant call.key, fun _ => false)

end MemoryCache

namespace RedisCache

variable {Envelope : Type} (cache : RedisCache) (codec : EnvelopeCodec Envelope) (now : Int)
  (reply : Reply) (tenantID key : String)

def getForTenant : Except String (Option Envelope) × RedisCache :=
  cache.get codec now reply (scopedKey tenantID key)

def putForTenant (env : Envelope) (ttl : Int) : Except String Unit × RedisCache :=
  cache.put codec now reply (scopedKey tenantID key) env ttl

def deleteForTenant : Except String Unit × RedisCache :=
  cache.delete now reply (scopedKey tenantID key)

def step : RedisEvent Envelope → RedisCache × (String → Bool)
  | .evict key => (cache.update key none, fun other => other = key)
  | .call call =>
    let next :=
      match call.request with
      | .get => (cache.getForTenant codec call.now call.reply call.tenant call.key).2
      | .put env ttl =>
        (cache.putForTenant codec call.now call.reply call.tenant call.key env ttl).2
      | .delete => (cache.deleteForTenant call.now call.reply call.tenant call.key).2
    (next, cache.expired call.now)

end RedisCache

/-! ## Both caches are lossy stores -/

namespace MemoryCache

variable {Envelope : Type}

def writes : MemoryEvent Envelope → Option (String × Option Envelope)
  | .sweep _ => none
  | .call call =>
    match call.request with
    | .get => none
    | .put env _ => some (call.scopedKey, some env)
    | .delete => some (call.scopedKey, none)

section

variable {cache : MemoryCache Envelope} {key : String} (now : Int) (target : String)

private theorem get_sound :
    (cache.get now target).2.1.lookup key = cache.lookup key ∨
      (cache.get now target).2.1.lookup key = none ∧ (cache.get now target).2.2 key = true := by
  unfold get
  cases first : cache.entry target with
  | none => exact .inl rfl
  | some found =>
    by_cases late : found.expired now = true
    · simp only [late, if_true]
      by_cases same : key = target
      · exact .inr ⟨(lookup_remove target).trans (if_pos same), by simp [same]⟩
      · exact .inl ((lookup_remove target).trans (if_neg same))
    · simp only [late]
      refine .inl ((lookup_pushFront found).trans ?_)
      rcases entry_eq_some.mp first with ⟨member, named⟩
      split
      · rename_i same
        exact (lookup_eq_some.mpr ⟨found, member, same.symm, rfl⟩).symm
      · rfl

theorem get_answer : (cache.get now key).1 = (cache.get now key).2.1.lookup key := by
  unfold get
  cases first : cache.entry key with
  | none => simp [lookup, entry] at first ⊢; simpa using first
  | some found =>
    by_cases late : found.expired now = true
    · simp only [late, if_true]
      exact ((lookup_remove key).trans (if_pos rfl)).symm
    · simp only [late]
      exact ((lookup_pushFront found).trans (if_pos (entry_eq_some.mp first).2.symm)).symm

theorem put_sound (env : Envelope) (ttl : Int) :
    (cache.put now target env ttl).1.lookup key =
        (if key = target then some env else cache.lookup key) ∨
      (cache.put now target env ttl).1.lookup key = none ∧
        (cache.put now target env ttl).2 key = true := by
  unfold put
  cases first : cache.entry target with
  | some found =>
    refine .inl ((lookup_pushFront _).trans ?_)
    rw [(entry_eq_some.mp first).2]
    rfl
  | none =>
    rcases lookup_evict with kept | gone
    · exact .inl (kept.trans (lookup_pushFront _))
    · exact .inr gone

private theorem sweepOnce_sound :
    (cache.sweepOnce now).1.lookup key = cache.lookup key ∨
      (cache.sweepOnce now).1.lookup key = none ∧ (cache.sweepOnce now).2 key = true := by
  rcases lookup_keep (fun entry => !entry.expired now) with
    kept | ⟨gone, found, member, named, late⟩
  · exact .inl kept
  · refine .inr ⟨gone, List.any_eq_true.mpr ⟨found, ?_, by simp [named]⟩⟩
    exact List.mem_filter.mpr ⟨member, by simpa using late⟩

end

def store : LossyStore (MemoryCache Envelope) String Envelope (MemoryEvent Envelope) where
  lookup := lookup
  writes := writes
  step := step
  sound := by
    intro cache event key
    cases event with
    | sweep now => exact sweepOnce_sound now
    | call call =>
      rcases call with ⟨tenant, target, request, now, reply⟩
      cases request with
      | get => exact get_sound now _
      | put env ttl => exact put_sound now _ env ttl
      | delete => exact .inl (lookup_remove _)

end MemoryCache

namespace RedisCache

variable {Envelope : Type}

def writes (codec : EnvelopeCodec Envelope) : RedisEvent Envelope → Option (String × Option Bytes)
  | .evict _ => none
  | .call call =>
    match call.request with
    | .get => none
    | .put env _ =>
      match codec.marshal env with
      | .error _ => none
      | .ok value => if applied call.reply then some (call.scopedKey, some value) else none
    | .delete => if applied call.reply then some (call.scopedKey, none) else none

section

variable {cache : RedisCache} {codec : EnvelopeCodec Envelope} {key : String}
  (now : Int) (reply : Reply) (target : String)

theorem get_lookup :
    (cache.get codec now reply target).2.lookup key = (cache.expire now).lookup key := by
  unfold get
  cases reply with
  | failed _ cause => rfl
  | delivered =>
    simp only
    split
    · rfl
    · split <;> rfl

theorem sound_of_expire {next : RedisCache} {now : Int} {write : Option (String × Option Bytes)}
    (done : next.lookup key = written write (cache.expire now).lookup key) :
    next.lookup key = written write cache.lookup key ∨
      next.lookup key = none ∧ cache.expired now key = true := by
  rw [done]
  cases write with
  | none => exact lookup_expire now
  | some pair =>
    by_cases same : key = pair.1
    · exact .inl (by simp [written, same])
    · simpa [written, same] using lookup_expire now

theorem put_lookup (env : Envelope) (ttl : Int) :
    (cache.put codec now reply target env ttl).2.lookup key =
      written (match codec.marshal env with
        | .error _ => none
        | .ok value => if applied reply then some (target, some value) else none)
        (cache.expire now).lookup key := by
  unfold put
  cases codec.marshal env with
  | error error => rfl
  | ok value =>
    cases carried : applied reply with
    | true =>
      change ((cache.expire now).set now target value ttl).lookup key = _
      rw [lookup_set]
      rfl
    | false => rfl

theorem delete_lookup :
    (cache.delete now reply target).2.lookup key =
      written (if applied reply then some (target, none) else none)
        (cache.expire now).lookup key := by
  unfold delete
  cases carried : applied reply with
  | true => exact lookup_update target none
  | false => rfl

theorem evict_sound :
    (cache.update target none).lookup key = cache.lookup key ∨
      (cache.update target none).lookup key = none ∧ decide (key = target) = true := by
  rw [lookup_update]
  split
  · rename_i same
    exact .inr ⟨rfl, by simp [same]⟩
  · exact .inl rfl

end

def store (codec : EnvelopeCodec Envelope) :
    LossyStore RedisCache String Bytes (RedisEvent Envelope) where
  lookup := lookup
  writes := writes codec
  step := fun cache => cache.step codec
  sound := by
    intro cache event key
    cases event with
    | evict target => exact evict_sound target
    | call call =>
      rcases call with ⟨tenant, target, request, now, reply⟩
      cases request with
      | get => exact sound_of_expire (get_lookup now reply _)
      | put env ttl => exact sound_of_expire (put_lookup now reply _ env ttl)
      | delete => exact sound_of_expire (delete_lookup now reply _)

end RedisCache

/-! ## Isolation -/

def Foreign (tenant stored : String) : Prop := ¬ (tenant ++ ":").toList <+: stored.toList

instance (tenant stored : String) : Decidable (Foreign tenant stored) :=
  inferInstanceAs (Decidable (¬ _))

theorem Foreign.ne_scopedKey {tenant stored : String} (foreign : Foreign tenant stored)
    (key : String) : scopedKey tenant key ≠ stored := by
  intro same
  apply foreign
  rw [← same, scopedKey, String.toList_append]
  simp

section

variable {Envelope : Type}

def Call.Spares (call : Call Envelope) (tenant : String) : Prop :=
  match call.request with
  | .get => True
  | .put _ _ | .delete => call.tenant = tenant ∨ Foreign tenant call.scopedKey

def MemoryEvent.Spares (tenant : String) : MemoryEvent Envelope → Prop
  | .call made => made.Spares tenant
  | .sweep _ => True

def RedisEvent.Spares (tenant : String) : RedisEvent Envelope → Prop
  | .call made => made.Spares tenant
  | .evict _ => True

/-- The calls of the other tenants are left out, the background is not. -/
def MemoryEvent.concerns (tenant : String) : MemoryEvent Envelope → Bool
  | .call made => made.tenant = tenant
  | .sweep _ => true

def RedisEvent.concerns (tenant : String) : RedisEvent Envelope → Bool
  | .call made => made.tenant = tenant
  | .evict _ => true

def Call.reading (tenant key : String) (now : Int) (reply : Reply) : Call Envelope where
  tenant := tenant
  key := key
  request := .get
  now := now
  reply := reply

structure Reading (Envelope : Type) where
  answer : Except String (Option Envelope)
  lost : Bool

def Reading.Agrees (left right : Reading Envelope) : Prop :=
  left.answer = right.answer ∨ left.answer = .ok none ∧ left.lost = true ∨
    right.answer = .ok none ∧ right.lost = true

instance [DecidableEq Envelope] (left right : Reading Envelope) : Decidable (left.Agrees right) :=
  inferInstanceAs (Decidable (_ = _ ∨ _ ∧ _ ∨ _ ∧ _))

theorem Reading.Agrees.of_lookups {Value : Type} {left right : Reading Envelope}
    (answer : Option Value → Except String (Option Envelope)) (missing : answer none = .ok none)
    {first second : Option Value} (here : left.answer = answer first)
    (there : right.answer = answer second)
    (compared : first = second ∨ first = none ∧ left.lost = true ∨
      second = none ∧ right.lost = true) : left.Agrees right := by
  rcases compared with rfl | ⟨rfl, lost⟩ | ⟨rfl, lost⟩
  · exact .inl (here.trans there.symm)
  · exact .inr (.inl ⟨here.trans missing, lost⟩)
  · exact .inr (.inr ⟨there.trans missing, lost⟩)

end

namespace MemoryCache

variable {Envelope : Type}

def readAfter (maxEntries : Int) (events : List (MemoryEvent Envelope)) (tenant key : String)
    (now : Int) : Reading Envelope :=
  let before := store.run (new maxEntries) events
  { answer := .ok (before.state.getForTenant now tenant key).1
    lost := (store.track before (.call (.reading tenant key now .delivered))).lost
      (scopedKey tenant key) }

variable {tenant : String}

theorem writesKey_of_spares {event : MemoryEvent Envelope} (key : String)
    (spares : event.Spares tenant) (other : event.concerns tenant = false) :
    store.writesKey event (scopedKey tenant key) = false := by
  cases event with
  | sweep now => rfl
  | call made =>
    have different : made.tenant ≠ tenant := by simpa [MemoryEvent.concerns] using other
    rcases made with ⟨made, target, request, now, reply⟩
    cases request with
    | get => rfl
    | put env ttl | delete =>
      exact decide_eq_false ((spares.resolve_left different).ne_scopedKey key)

theorem readAfter_agrees (maxEntries : Int) {events : List (MemoryEvent Envelope)} (key : String)
    (now : Int) (spares : ∀ event ∈ events, event.Spares tenant) :
    (readAfter maxEntries events tenant key now).Agrees
      (readAfter maxEntries (events.filter (MemoryEvent.concerns tenant)) tenant key now) := by
  -- The read itself is the last event of both runs.
  let read : MemoryEvent Envelope := .call (.reading tenant key now .delivered)
  have empty : ∀ key, store.lookup (new maxEntries : MemoryCache Envelope) key = none :=
    fun _ => rfl
  have own : read.concerns tenant = true := decide_eq_true rfl
  have compared := LossyStore.lookup_filter_concat empty
    (fun event member => writesKey_of_spares key (spares event member)) own
  exact .of_lookups Except.ok rfl (congrArg _ (get_answer now)) (congrArg _ (get_answer now))
    compared

end MemoryCache

namespace RedisCache

variable {Envelope : Type} (codec : EnvelopeCodec Envelope)

def readAfter (keyPrefix : String) (events : List (RedisEvent Envelope)) (tenant key : String)
    (now : Int) (reply : Reply) : Reading Envelope :=
  let before := (store codec).run (new keyPrefix) events
  { answer := (before.state.getForTenant codec now reply tenant key).1
    lost := ((store codec).track before (.call (.reading tenant key now reply))).lost
      (scopedKey tenant key) }

def answerOf (reply : Reply) (value : Option Bytes) : Except String (Option Envelope) :=
  match reply, value with
  | .failed _ cause, _ => .error cause
  | .delivered, none => .ok none
  | .delivered, some value => (codec.unmarshal value).map some

variable {codec}

theorem get_answer {cache : RedisCache} (now : Int) (reply : Reply) (key : String) :
    (cache.get codec now reply key).1 =
      answerOf codec reply ((cache.get codec now reply key).2.lookup key) := by
  rw [get_lookup]
  unfold get
  cases reply with
  | failed _ cause => rfl
  | delivered =>
    simp only [lookup]
    cases (cache.expire now).values ((cache.expire now).k key) with
    | none => rfl
    | some entry =>
      simp only [Option.map_some, answerOf]
      cases codec.unmarshal entry.value with
      | error error | ok env => rfl

variable {tenant : String}

theorem writesKey_of_spares {event : RedisEvent Envelope} (key : String)
    (spares : event.Spares tenant) (other : event.concerns tenant = false) :
    (store codec).writesKey event (scopedKey tenant key) = false := by
  cases event with
  | evict target => rfl
  | call made =>
    have different : made.tenant ≠ tenant := by simpa [RedisEvent.concerns] using other
    rcases made with ⟨made, target, request, now, reply⟩
    cases request with
    | get => rfl
    | put env ttl =>
      have distinct := (spares.resolve_left different).ne_scopedKey key
      cases marshalled : codec.marshal env with
      | error error => simp [LossyStore.writesKey, store, writes, marshalled]
      | ok value =>
        cases carried : applied reply with
        | true => simpa [LossyStore.writesKey, store, writes, marshalled, carried]
        | false => simp [LossyStore.writesKey, store, writes, marshalled, carried]
    | delete =>
      have distinct := (spares.resolve_left different).ne_scopedKey key
      cases carried : applied reply with
      | true => simpa [LossyStore.writesKey, store, writes, carried]
      | false => simp [LossyStore.writesKey, store, writes, carried]

theorem readAfter_agrees (keyPrefix : String) {events : List (RedisEvent Envelope)} (key : String)
    (now : Int) (reply : Reply) (spares : ∀ event ∈ events, event.Spares tenant) :
    (readAfter codec keyPrefix events tenant key now reply).Agrees
      (readAfter codec keyPrefix (events.filter (RedisEvent.concerns tenant)) tenant key now
        reply) := by
  let read : RedisEvent Envelope := .call (.reading tenant key now reply)
  have empty : ∀ key, (store codec).lookup (new keyPrefix) key = none := fun _ => rfl
  have own : read.concerns tenant = true := decide_eq_true rfl
  have compared := LossyStore.lookup_filter_concat empty
    (fun event member => writesKey_of_spares key (spares event member)) own
  cases reply with
  | failed applied cause => exact .inl rfl
  | delivered =>
    exact .of_lookups (answerOf codec .delivered) rfl (get_answer now .delivered _)
      (get_answer now .delivered _) compared

end RedisCache

/-- In both caches, what a tenant reads is what it reads without the calls of the others, up
to evictions and expiry, when these write no storage key that begins with the tenant's id
and a colon. -/
theorem tenants_isolated {Envelope : Type} (codec : EnvelopeCodec Envelope)
    (tenant key : String) (now : Int) (reply : Reply) :
    (∀ (maxEntries : Int) (events : List (MemoryEvent Envelope)),
      (∀ event ∈ events, event.Spares tenant) →
      (MemoryCache.readAfter maxEntries events tenant key now).Agrees
        (MemoryCache.readAfter maxEntries (events.filter (MemoryEvent.concerns tenant)) tenant
          key now)) ∧
    ∀ (keyPrefix : String) (events : List (RedisEvent Envelope)),
      (∀ event ∈ events, event.Spares tenant) →
      (RedisCache.readAfter codec keyPrefix events tenant key now reply).Agrees
        (RedisCache.readAfter codec keyPrefix (events.filter (RedisEvent.concerns tenant)) tenant
          key now reply) := by
  constructor
  · intro maxEntries events spares
    exact MemoryCache.readAfter_agrees maxEntries key now spares
  · intro keyPrefix events spares
    exact RedisCache.readAfter_agrees keyPrefix key now reply spares

/-! An envelope stands for its JSON. -/

def cachedQuote : String :=
  "\x7b\"channel\":\"public:shop.prices\",\"sequence\":1," ++
    "\"producer\":\x7b\"id\":\"p1\",\"kind\":\"agent\"\x7d,\"aspect\":\"quote\"," ++
    "\"produced_at\":\"2026-01-01T00:00:00.000Z\"\x7d"

def quoteCodec : EnvelopeCodec String where
  marshal := fun text => .ok text.toByteArray.data.toList
  unmarshal := fun bytes =>
    if bytes = cachedQuote.toByteArray.data.toList then .ok cachedQuote
    else .error "invalid character"

def quoting (tenant key : String) : Call String where
  tenant := tenant
  key := key
  request := .put cachedQuote 0
  now := 0

def memoryQuote (calls : List (Call String)) (tenant key : String) : Reading String :=
  MemoryCache.readAfter 16 (calls.map .call) tenant key 1

def redisQuote (calls : List (Call String)) (tenant key : String) : Reading String :=
  RedisCache.readAfter quoteCodec "" (calls.map .call) tenant key 1 .delivered

/-- The tenant `a:b` writes what the tenant `a` then reads. -/
theorem tenant_reads_foreign_entry :
    let calls := [quoting "a:b" "c"]
    calls.filter (·.tenant = "a") = [] ∧
      (memoryQuote calls "a" "b:c").answer = .ok (some cachedQuote) ∧
      (memoryQuote [] "a" "b:c").answer = .ok none ∧
      ¬ (memoryQuote calls "a" "b:c").Agrees (memoryQuote [] "a" "b:c") ∧
      (redisQuote calls "a" "b:c").answer = .ok (some cachedQuote) ∧
      (redisQuote [] "a" "b:c").answer = .ok none ∧
      ¬ (redisQuote calls "a" "b:c").Agrees (redisQuote [] "a" "b:c") := by
  decide +kernel

theorem tenants_isolated_of_plain_ids :
    let calls := [quoting "acme" "k", quoting "globex" "k",
      { quoting "globex" "k" with request := .delete }]
    (memoryQuote calls "acme" "k").answer = .ok (some cachedQuote) ∧
      (memoryQuote calls "acme" "k").Agrees (MemoryCache.readAfter 16
        ((calls.map .call).filter (MemoryEvent.concerns "acme")) "acme" "k" 1) ∧
      (redisQuote calls "acme" "k").Agrees (RedisCache.readAfter quoteCodec ""
        ((calls.map .call).filter (RedisEvent.concerns "acme")) "acme" "k" 1 .delivered) := by
  have foreign : Foreign "acme" (scopedKey "globex" "k") := by decide +kernel
  have isolated := tenants_isolated quoteCodec "acme" "k" 1 .delivered
  refine ⟨by decide +kernel, isolated.1 16 _ ?_, isolated.2 "" _ ?_⟩
  · simp [quoting, MemoryEvent.Spares, Call.Spares, Call.scopedKey, foreign]
  · simp [quoting, RedisEvent.Spares, Call.Spares, Call.scopedKey, foreign]

end Parsec.Cache
