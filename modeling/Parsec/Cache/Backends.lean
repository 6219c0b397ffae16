import Parsec.Foundation.LossyStore
import Parsec.Auth.RefreshStore
import Parsec.Foundation.Encoding

/-! # The cache of a single process

A bounded list of entries, the most recently used first, in which every key occurs once.
Entries leave it when they are deleted, when a new one needs their place, and when they are
found to have expired. -/

namespace Parsec.Cache

open Foundation

def scopedKey (tenantID key : String) : String := tenantID ++ ":" ++ key

structure Stats where
  hits : Nat := 0
  misses : Nat := 0
  puts : Nat := 0
  evictions : Nat := 0
  deriving DecidableEq

structure MemEntry (Envelope : Type) where
  key : String
  env : Envelope
  expires : Option Int

def MemEntry.expired {Envelope : Type} (entry : MemEntry Envelope) (now : Int) : Bool :=
  match entry.expires with
  | none => false
  | some expires => expires < now

structure MemoryCache (Envelope : Type) where
  maxEntries : Nat
  order : List (MemEntry Envelope)
  distinct : (order.map MemEntry.key).Nodup
  stats : Stats := {}

namespace MemoryCache

variable {Envelope : Type}

def new (maxEntries : Int) : MemoryCache Envelope where
  maxEntries := if maxEntries ≤ 0 then 4096 else maxEntries.toNat
  order := []
  distinct := List.nodup_nil

section

variable (cache : MemoryCache Envelope)

def entry (key : String) : Option (MemEntry Envelope) := cache.order.find? (·.key = key)

def keep (kept : MemEntry Envelope → Bool) : MemoryCache Envelope :=
  { cache with
    order := cache.order.filter kept
    distinct := cache.distinct.sublist ((List.filter_sublist).map _) }

def remove (key : String) : MemoryCache Envelope := cache.keep (·.key ≠ key)

def pushFront (entry : MemEntry Envelope) : MemoryCache Envelope :=
  { cache with
    order := entry :: (cache.remove entry.key).order
    distinct := by
      rw [List.map_cons, List.nodup_cons]
      exact ⟨by simp [remove, keep], (cache.remove entry.key).distinct⟩ }

def evict : MemoryCache Envelope :=
  { cache with
    order := cache.order.take cache.maxEntries
    distinct := cache.distinct.sublist ((List.take_sublist _ _).map _)
    stats := { cache.stats with
      evictions := cache.stats.evictions + (cache.order.drop cache.maxEntries).length } }

def evicted : List (MemEntry Envelope) := cache.order.drop cache.maxEntries

def get (now : Int) (key : String) : Option Envelope × MemoryCache Envelope × (String → Bool) :=
  match cache.entry key with
  | none =>
    (none, { cache with stats := { cache.stats with misses := cache.stats.misses + 1 } },
      fun _ => false)
  | some found =>
    if found.expired now then
      (none, { cache.remove key with
        stats := { cache.stats with
          evictions := cache.stats.evictions + 1, misses := cache.stats.misses + 1 } },
        fun other => other = key)
    else
      (some found.env, { cache.pushFront found with
        stats := { cache.stats with hits := cache.stats.hits + 1 } }, fun _ => false)

def put (now : Int) (key : String) (env : Envelope) (ttl : Int) :
    MemoryCache Envelope × (String → Bool) :=
  let expires := if 0 < ttl then some (now + ttl) else none
  let counted := { cache with stats := { cache.stats with puts := cache.stats.puts + 1 } }
  match cache.entry key with
  | some found => (counted.pushFront { found with env := env, expires := expires }, fun _ => false)
  | none =>
    let pushed := counted.pushFront { key := key, env := env, expires := expires }
    (pushed.evict, fun other => pushed.evicted.any (·.key = other))

def delete (key : String) : MemoryCache Envelope := cache.remove key

def sweepOnce (now : Int) : MemoryCache Envelope × (String → Bool) :=
  let expired := cache.order.filter (·.expired now)
  ({ cache.keep (fun entry => !entry.expired now) with
      stats := { cache.stats with evictions := cache.stats.evictions + expired.length } },
    fun other => expired.any (·.key = other))

def lookup (key : String) : Option Envelope := (cache.entry key).map MemEntry.env

end

section

variable {cache : MemoryCache Envelope} {key : String}

theorem entry_eq_some {found : MemEntry Envelope} :
    cache.entry key = some found ↔ found ∈ cache.order ∧ found.key = key := by
  constructor
  · intro first
    exact ⟨List.mem_of_find?_eq_some first, by simpa using List.find?_some first⟩
  · rintro ⟨member, named⟩
    cases first : cache.entry key with
    | none =>
      have missing := List.find?_eq_none.mp first found member
      simp [named] at missing
    | some other =>
      have otherKey : other.key = key := by simpa using List.find?_some first
      rw [List.inj_on_of_nodup_map cache.distinct (List.mem_of_find?_eq_some first) member
        (otherKey.trans named.symm)]

theorem lookup_eq_some {env : Envelope} :
    cache.lookup key = some env ↔ ∃ found ∈ cache.order, found.key = key ∧ found.env = env := by
  simp only [lookup, Option.map_eq_some_iff, entry_eq_some, and_assoc]

theorem lookup_eq_none : cache.lookup key = none ↔ ∀ found ∈ cache.order, found.key ≠ key := by
  simp [lookup, entry, List.find?_eq_none]

theorem lookup_congr {other : MemoryCache Envelope}
    (same : ∀ found : MemEntry Envelope, found.key = key →
      (found ∈ cache.order ↔ found ∈ other.order)) : cache.lookup key = other.lookup key := by
  apply Option.ext
  intro env
  rw [lookup_eq_some, lookup_eq_some]
  constructor
  · rintro ⟨found, member, named, held⟩
    exact ⟨found, (same found named).mp member, named, held⟩
  · rintro ⟨found, member, named, held⟩
    exact ⟨found, (same found named).mpr member, named, held⟩

theorem lookup_keep (kept : MemEntry Envelope → Bool) :
    (cache.keep kept).lookup key = cache.lookup key ∨
      (cache.keep kept).lookup key = none ∧
        ∃ found ∈ cache.order, found.key = key ∧ kept found = false := by
  by_cases dropped : ∃ found ∈ cache.order, found.key = key ∧ kept found = false
  · refine .inr ⟨lookup_eq_none.mpr ?_, dropped⟩
    rcases dropped with ⟨found, member, named, gone⟩
    intro other stays otherNamed
    rcases List.mem_filter.mp stays with ⟨otherMember, otherKept⟩
    rw [List.inj_on_of_nodup_map cache.distinct otherMember member (otherNamed.trans named.symm),
      gone] at otherKept
    cases otherKept
  · refine .inl (lookup_congr fun found named => ?_)
    constructor
    · exact fun stays => (List.mem_filter.mp stays).1
    · intro member
      refine List.mem_filter.mpr ⟨member, ?_⟩
      by_contra gone
      exact dropped ⟨found, member, named, by simpa using gone⟩

theorem lookup_remove (removed : String) :
    (cache.remove removed).lookup key = if key = removed then none else cache.lookup key := by
  split
  · rename_i same
    refine lookup_eq_none.mpr fun found stays => ?_
    rw [same]
    simpa using (List.mem_filter.mp stays).2
  · rename_i other
    refine lookup_congr fun found named => ?_
    simp [remove, keep, named, other]

theorem lookup_pushFront (entry : MemEntry Envelope) :
    (cache.pushFront entry).lookup key = if key = entry.key then some entry.env
      else cache.lookup key := by
  split
  · rename_i same
    exact lookup_eq_some.mpr ⟨entry, List.mem_cons_self, same.symm, rfl⟩
  · rename_i other
    refine lookup_congr fun found named => ?_
    have different : found ≠ entry := by
      rintro rfl
      exact other named.symm
    simp [pushFront, remove, keep, different, named, other]

theorem lookup_evict :
    cache.evict.lookup key = cache.lookup key ∨
      cache.evict.lookup key = none ∧ (cache.evicted.any (·.key = key)) = true := by
  have split : ∀ found, found ∈ cache.order ↔
      found ∈ cache.evict.order ∨ found ∈ cache.evicted := by
    intro found
    rw [← List.mem_append, evict, evicted, List.take_append_drop]
  by_cases gone : cache.evicted.any (·.key = key) = true
  · by_cases stays : ∃ found ∈ cache.evict.order, found.key = key
    · -- An entry that stays is the only one with its key.
      rcases stays with ⟨found, member, named⟩
      refine .inl ?_
      rw [lookup_eq_some.mpr ⟨found, member, named, rfl⟩, eq_comm]
      exact lookup_eq_some.mpr ⟨found, (split found).mpr (.inl member), named, rfl⟩
    · refine .inr ⟨lookup_eq_none.mpr fun found member named => stays ⟨found, member, named⟩, gone⟩
  · refine .inl (lookup_congr fun found named => ?_)
    rw [split found, or_iff_left]
    intro member
    exact gone (List.any_eq_true.mpr ⟨found, member, by simp [named]⟩)

end

end MemoryCache

/-! ## The cache in Redis

Envelopes are stored as JSON under prefixed keys. Redis drops a key at its deadline, and any
key when it is short of memory. -/

open Auth

structure EnvelopeCodec (Envelope : Type) where
  marshal : Envelope → Except String Bytes
  unmarshal : Bytes → Except String Envelope

structure RedisEntry where
  value : Bytes
  deadline : Option Int

def RedisEntry.alive (entry : RedisEntry) (now : Int) : Bool :=
  match entry.deadline with
  | none => true
  | some deadline => now < deadline

structure RedisCache where
  keyPrefix : String
  values : String → Option RedisEntry
  stats : Stats := {}

def millisecond : Int := 1000000

def redisTTL (ttl : Int) : Int :=
  if ttl < millisecond then millisecond else ttl / millisecond * millisecond

def applied : Reply → Bool
  | .delivered => true
  | .failed applied _ => applied

def acknowledged : Reply → Except String Unit
  | .delivered => .ok ()
  | .failed _ cause => .error cause

namespace RedisCache

def new (keyPrefix : String) : RedisCache where
  keyPrefix := if keyPrefix = "" then "parsec:cache" else keyPrefix
  values := fun _ => none

section

variable (cache : RedisCache)

def k (key : String) : String := cache.keyPrefix ++ ":" ++ key

def expired (now : Int) (key : String) : Bool :=
  ((cache.values (cache.k key)).map fun entry => !entry.alive now).getD false

def expire (now : Int) : RedisCache :=
  { cache with values := fun stored => (cache.values stored).filter (·.alive now) }

def update (key : String) (entry : Option RedisEntry) : RedisCache :=
  { cache with values := Function.update cache.values (cache.k key) entry }

def set (now : Int) (key : String) (value : Bytes) (ttl : Int) : RedisCache :=
  let deadline :=
    if 0 < ttl then some (now + redisTTL ttl)
    else if ttl = -1 then (cache.values (cache.k key)).bind RedisEntry.deadline
    else none
  cache.update key (some { value := value, deadline := deadline })

section

variable {Envelope : Type} (codec : EnvelopeCodec Envelope) (now : Int) (reply : Reply)
  (key : String)

def get : Except String (Option Envelope) × RedisCache :=
  let cache := cache.expire now
  match reply with
  | .failed _ cause => (.error cause, cache)
  | .delivered =>
    match cache.values (cache.k key) with
    | none =>
      (.ok none, { cache with stats := { cache.stats with misses := cache.stats.misses + 1 } })
    | some entry =>
      match codec.unmarshal entry.value with
      | .error error => (.error error, cache)
      | .ok env =>
        (.ok (some env), { cache with stats := { cache.stats with hits := cache.stats.hits + 1 } })

def put (env : Envelope) (ttl : Int) : Except String Unit × RedisCache :=
  let cache := cache.expire now
  match codec.marshal env with
  | .error error => (.error error, cache)
  | .ok value =>
    let stored := if applied reply then cache.set now key value ttl else cache
    let puts := if reply = .delivered then cache.stats.puts + 1 else cache.stats.puts
    (acknowledged reply, { stored with stats := { cache.stats with puts := puts } })

def delete : Except String Unit × RedisCache :=
  let cache := cache.expire now
  (acknowledged reply, if applied reply then cache.update key none else cache)

end

def lookup (key : String) : Option Bytes := (cache.values (cache.k key)).map RedisEntry.value

end

section

variable {cache : RedisCache} {key : String}

theorem k_injective {other : String} (same : cache.k key = cache.k other) : key = other := by
  simpa [k] using same

theorem lookup_expire (now : Int) :
    (cache.expire now).lookup key = cache.lookup key ∨
      (cache.expire now).lookup key = none ∧ cache.expired now key = true := by
  simp only [lookup, expire, expired, k]
  cases cache.values (cache.keyPrefix ++ ":" ++ key) with
  | none => exact .inl rfl
  | some entry =>
    cases alive : entry.alive now with
    | true => exact .inl (by simp [Option.filter, alive])
    | false => exact .inr ⟨by simp [Option.filter, alive], by simp [alive]⟩

theorem lookup_update (target : String) (entry : Option RedisEntry) :
    (cache.update target entry).lookup key =
      if key = target then entry.map RedisEntry.value else cache.lookup key := by
  split
  · rename_i same
    rw [same, lookup]
    exact congrArg _ (Function.update_self ..)
  · rename_i other
    have distinct : cache.k key ≠ cache.k target := fun same => other (k_injective same)
    exact congrArg _ (Function.update_of_ne distinct ..)

theorem lookup_set (now : Int) (target : String) (value : Bytes) (ttl : Int) :
    (cache.set now target value ttl).lookup key =
      if key = target then some value else cache.lookup key := by
  rw [set, lookup_update]
  rfl

end

end RedisCache

end Parsec.Cache
