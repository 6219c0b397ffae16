import Parsec.RateLimit.ExactWindow
import Parsec.RateLimit.RedisLimiter

/-! # The two limiters compared

`Allow` under one limit, with times and window in whole milliseconds, asked of the limiter in
memory and of the limiter in Redis. -/

namespace Parsec.RateLimit

open Foundation SlidingWindow Auth MemoryLimiter
open RateLimit.RedisLimiter (fullKey unixMilli millisecond windowMs)

/-- The arguments of `Allow`, and what the call meets in Redis. -/
structure Attempt where
  charge : Charge
  key : String
  n : Int
  exchange : RedisLimiter.Exchange

namespace Attempt

def now (attempt : Attempt) : Int := attempt.charge.now

def onMemory (attempt : Attempt) : MemoryLimiter.Call :=
  .allow attempt.charge attempt.key attempt.n

def onRedis (attempt : Attempt) : RedisLimiter.Call :=
  .allow attempt.charge attempt.key attempt.n attempt.exchange

def request (limit : Limit) (attempt : Attempt) : Request where
  charge := attempt.charge
  key := attempt.key
  n := attempt.n
  limit := limit.normalize

end Attempt

def memoryAllow (limit : Limit) : Service MemoryLimiter.Table Attempt MemoryLimiter.Answer :=
  (serve limit).through Attempt.onMemory

def redisAllow (keyPrefix : String) (limit : Limit) :
    Service RedisLimiter.Keyspace Attempt RedisLimiter.Answer :=
  (RedisLimiter.serve keyPrefix limit).through Attempt.onRedis

def shown (outcome : Except String Decision) : Except String (Bool × Int) :=
  outcome.map fun decision => (decision.allowed, decision.remaining)

def shownByMemory (answer : MemoryLimiter.Answer) : Option (Except String (Bool × Int)) :=
  answer.outcome?.map shown

def shownByRedis (answer : RedisLimiter.Answer) : Option (Except String (Bool × Int)) :=
  some (shown answer)

def shownAt (ceiling units : Int) (count : Nat) : Bool × Int :=
  if count + units ≤ ceiling then (true, ceiling - count - units) else (false, 0)

theorem shownAt_eq_iff {ceiling units : Int} {count other : Nat} :
    shownAt ceiling units count = shownAt ceiling units other ↔
      count = other ∨ (ceiling < count + units ∧ ceiling < other + units) := by
  unfold shownAt
  split_ifs <;>
    simp only [Prod.mk.injEq, true_and, Bool.false_eq_true, Bool.true_eq_false, false_and,
      false_iff, true_iff] <;>
    omega

variable (request : Request)

theorem shown_memory (events : List Int) :
    shown (.ok (verdict request events)) =
      .ok (shownAt (ceiling request.limit) request.units events.length) := by
  have positive := request.one_le_units
  simp only [shown, Except.map, verdict, shownAt]
  split_ifs with full room room
  · omega
  · rfl
  · have left : max (ceiling request.limit -
        ((events ++ List.replicate request.units.toNat request.now).length : Int)) 0 =
          ceiling request.limit - events.length - request.units := by
      simp only [List.length_append, List.length_replicate]
      omega
    rw [left]
  · omega

private theorem shown_redis (scores : List Int) :
    shown (.ok (RedisLimiter.verdict request scores)) =
      .ok (shownAt (ceiling request.limit) request.units scores.length) := by
  simp only [shown, Except.map, RedisLimiter.verdict, RedisLimiter.parseLuaResult,
    RedisLimiter.replyTo, shownAt]
  split_ifs <;> simp

/-! ## Where the two agree -/

def admittedBy (limit : Limit) (chosen : String → Bool) (attempts : List Attempt) : List Int :=
  admitted chosen (ledger limit
    ((serve limit).past .empty (attempts.map Attempt.onMemory)))

def recentOwn (limit : Limit) (before : List Attempt) (attempt : Attempt) : Nat :=
  (admittedBy limit (· = attempt.key) before).countP (attempt.now - limit.normalize.per < ·)

def edgeOwn (limit : Limit) (before : List Attempt) (attempt : Attempt) : Nat :=
  (admittedBy limit (· = attempt.key) before).countP (attempt.now - limit.normalize.per = ·)

def recentTwin (limit : Limit) (before : List Attempt) (attempt : Attempt) : Nat :=
  (admittedBy limit (RedisLimiter.twins · attempt.key) before).countP
    (attempt.now - limit.normalize.per < ·)

/-- As many events of the key are at the edge of the window as events of its other spelling are
in it, or the call is too many with either. -/
def Aligned (limit : Limit) (before : List Attempt) (attempt : Attempt) : Prop :=
  (attempt.request limit).counted = true →
    edgeOwn limit before attempt = recentTwin limit before attempt ∨
      (ceiling limit < recentOwn limit before attempt + edgeOwn limit before attempt +
          (attempt.request limit).units ∧
        ceiling limit < recentOwn limit before attempt + recentTwin limit before attempt +
          (attempt.request limit).units)

instance (limit : Limit) (before : List Attempt) (attempt : Attempt) :
    Decidable (Aligned limit before attempt) :=
  inferInstanceAs (Decidable (_ → _ ∨ _))

structure Regular (attempts : List Attempt) : Prop where
  whole : ∀ attempt ∈ attempts, millisecond ∣ attempt.now
  ordered : attempts.Pairwise fun earlier later => earlier.now ≤ later.now
  distinct : (attempts.map (·.exchange.nonce)).Nodup

instance (attempts : List Attempt) : Decidable (Regular attempts) :=
  decidable_of_iff
    ((∀ attempt ∈ attempts, millisecond ∣ attempt.now) ∧
      (attempts.Pairwise fun earlier later => earlier.now ≤ later.now) ∧
      (attempts.map (·.exchange.nonce)).Nodup)
    ⟨fun ⟨whole, ordered, distinct⟩ => ⟨whole, ordered, distinct⟩,
      fun regular => ⟨regular.whole, regular.ordered, regular.distinct⟩⟩

section

variable {keyPrefix : String} {limit : Limit} {before attempts : List Attempt} {attempt : Attempt}

namespace Regular

variable (regular : Regular attempts)
include regular

theorem sublist (part : before.Sublist attempts) : Regular before where
  whole := fun attempt member => regular.whole attempt (part.subset member)
  ordered := regular.ordered.sublist part
  distinct := regular.distinct.sublist (part.map _)

private theorem memory_ordered : MemoryLimiter.Ordered (attempts.map Attempt.onMemory) :=
  List.pairwise_map.mpr regular.ordered

private theorem redis_ordered : RedisLimiter.Ordered (attempts.map Attempt.onRedis) :=
  List.pairwise_map.mpr regular.ordered

theorem redis_distinct : RedisLimiter.DistinctNonces (attempts.map Attempt.onRedis) := by
  unfold RedisLimiter.DistinctNonces
  rw [List.map_map]
  exact regular.distinct

end Regular

private theorem windowMs_mul (whole : millisecond ∣ limit.per) (limited : limit.unlimited = false) :
    windowMs limit * millisecond = limit.normalize.per := by
  have positive := Limit.per_pos limited
  have wholePer : millisecond ∣ limit.normalize.per := by
    have seconds : millisecond ∣ second := by decide
    simp only [Limit.normalize]
    split_ifs <;> first | exact seconds | exact whole | exact dvd_zero _
  obtain ⟨count, equal⟩ := wholePer
  have counted : 0 < count := by
    unfold millisecond at equal
    omega
  have quotient : limit.normalize.per.tdiv millisecond = count := by
    rw [equal, Int.mul_tdiv_cancel_left _ (by decide)]
  simp only [windowMs, quotient, if_neg (not_le.mpr counted)]
  rw [equal, mul_comm]

variable {event : Int}

private theorem inWindow_iff (window : millisecond ∣ limit.per) (limited : limit.unlimited = false)
    {now : Int} (wholeNow : millisecond ∣ now) (wholeEvent : millisecond ∣ event) :
    unixMilli now - windowMs limit + 1 ≤ unixMilli event ↔ now - limit.normalize.per < event := by
  have exact := windowMs_mul window limited
  unfold unixMilli
  unfold millisecond at exact wholeNow wholeEvent ⊢
  omega

private theorem whole_of_mem_admittedBy (regular : Regular before) {chosen : String → Bool}
    (member : event ∈ admittedBy limit chosen before) : millisecond ∣ event := by
  obtain ⟨call, called, rfl⟩ := exists_of_mem_admitted_past member
  obtain ⟨attempt, tried, rfl⟩ := List.mem_map.mp called
  exact regular.whole attempt tried

theorem length_since_own :
    (since (attempt.now - limit.normalize.per) (admittedBy limit (· = attempt.key) before)).length =
      recentOwn limit before attempt + edgeOwn limit before attempt := by
  rw [since, ← List.countP_eq_length_filter, recentOwn, edgeOwn]
  induction admittedBy limit (· = attempt.key) before with
  | nil => rfl
  | cons event events induction =>
    simp only [List.countP_cons, decide_eq_true_eq, induction]
    split_ifs <;> omega

theorem length_since_stored (window : millisecond ∣ limit.per) (limited : limit.unlimited = false)
    (regular : Regular before) (whole : millisecond ∣ attempt.now) :
    (since (unixMilli attempt.now - windowMs limit + 1)
        ((admittedBy limit (fullKey keyPrefix · = fullKey keyPrefix attempt.key) before).map
          unixMilli)).length =
      recentOwn limit before attempt + recentTwin limit before attempt := by
  rw [since, ← List.countP_eq_length_filter, List.countP_map, recentOwn, recentTwin]
  unfold admittedBy
  rw [← countP_admitted_or (RedisLimiter.not_own_and_twin attempt.key),
    ← RedisLimiter.own_or_twin keyPrefix]
  apply List.countP_congr
  intro event member
  have wholeEvent := whole_of_mem_admittedBy regular member
  simpa using inWindow_iff window limited whole wholeEvent

/-! ## One limit in Redis -/

namespace RedisLimiter

variable {past : List (Call × Answer)} {full : String} {window : Int}

variable (fixed : ∀ step ∈ past, windowMs (step.1.request limit).limit = window)
include fixed

theorem lastGrant?_fixed {time last : Int}
    (found : lastGrant? keyPrefix limit full past = some (time, last)) : last = window := by
  induction past with
  | nil => cases found
  | cons step earlier induction =>
    unfold lastGrant? at found
    split at found
    · cases found
      exact fixed step List.mem_cons_self
    · exact induction (fun step member => fixed step (List.mem_cons_of_mem _ member)) found

variable {bound : Int}

theorem Call.lapseBounds_fixed {call : Call}
    (member : bound ∈ call.lapseBounds (lastGrant? keyPrefix limit full past)) :
    bound ≤ unixMilli call.now - window + 1 := by
  unfold Call.lapseBounds at member
  cases found : lastGrant? keyPrefix limit full past with
  | none => simp [found] at member
  | some grant =>
    have same : grant.2 = window := lastGrant?_fixed fixed found
    simp only [found] at member
    split at member
    · next dropped =>
        simp only [Bool.and_eq_true, decide_eq_true_eq] at dropped
        rw [List.mem_singleton.mp member]
        omega
    · cases member

private theorem bounds_fixed {now : Int} (later : ∀ step ∈ past, step.1.now ≤ now)
    (member : bound ∈ bounds keyPrefix limit full past) : bound ≤ unixMilli now - window + 1 := by
  induction past with
  | nil => cases member
  | cons step earlier induction =>
    have fixedEarlier : ∀ step ∈ earlier, windowMs (step.1.request limit).limit = window :=
      fun step member => fixed step (List.mem_cons_of_mem _ member)
    have time := unixMilli_mono (later step List.mem_cons_self)
    rcases List.mem_append.mp member with old | own
    · exact induction fixedEarlier (fun step member => later step (List.mem_cons_of_mem _ member))
        old
    · unfold Call.bounds at own
      split at own
      · rcases List.mem_append.mp own with lapse | prune
        · have early := Call.lapseBounds_fixed fixedEarlier lapse
          omega
        · rw [List.mem_singleton.mp prune, fixed step List.mem_cons_self]
          omega
      · cases own

end RedisLimiter

@[simp] theorem windowMs_normalize (limit : Limit) : windowMs limit.normalize = windowMs limit := by
  simp [windowMs]

theorem left_of_regular (regular : Regular (before ++ [attempt])) :
    RedisLimiter.left keyPrefix limit (fullKey keyPrefix attempt.key) attempt.onRedis
        ((RedisLimiter.serve keyPrefix limit).past (fun _ => {}) (before.map Attempt.onRedis)) =
      since (unixMilli attempt.now - windowMs limit + 1)
        (RedisLimiter.admittedUnder keyPrefix limit (fullKey keyPrefix attempt.key)
          ((RedisLimiter.serve keyPrefix limit).past (fun _ => {})
            (before.map Attempt.onRedis))) := by
  have fixed : ∀ step ∈ (RedisLimiter.serve keyPrefix limit).past (fun _ => {})
      (before.map Attempt.onRedis), windowMs (step.1.request limit).limit = windowMs limit := by
    intro step answered
    have called := (RedisLimiter.serve keyPrefix limit).mem_of_mem_past answered
    obtain ⟨earlier, _, same⟩ := List.mem_map.mp called
    rw [← same]
    exact windowMs_normalize limit
  have later : ∀ step ∈ (RedisLimiter.serve keyPrefix limit).past (fun _ => {})
      (before.map Attempt.onRedis), step.1.now ≤ attempt.now := by
    intro step answered
    have called := (RedisLimiter.serve keyPrefix limit).mem_of_mem_past answered
    obtain ⟨earlier, tried, same⟩ := List.mem_map.mp called
    rw [← same]
    exact (List.pairwise_append.mp regular.ordered).2.2 earlier tried attempt (by simp)
  have request : (attempt.onRedis.request limit).limit = limit.normalize := rfl
  have time : attempt.onRedis.now = attempt.now := rfl
  rw [RedisLimiter.left, request, time, windowMs_normalize]
  apply since_kept_eq_iff.mpr
  intro event _ inside bound member
  rcases List.mem_append.mp member with old | own
  · exact le_trans (RedisLimiter.bounds_fixed fixed later old) inside
  · exact le_trans (RedisLimiter.Call.lapseBounds_fixed fixed own) inside

theorem allowed_of_shown {answer : MemoryLimiter.Answer} {other : RedisLimiter.Answer}
    (same : shownByMemory answer = shownByRedis other) :
    answer.allowed = RedisLimiter.granted other := by
  cases answer with
  | swept removed => cases same
  | decided outcome =>
    cases outcome <;> cases other <;>
      simp_all [shownByMemory, shownByRedis, shown, MemoryLimiter.Answer.outcome?,
        MemoryLimiter.Answer.allowed, RedisLimiter.granted, Except.map]

theorem ledger_onMemory (answer : MemoryLimiter.Answer)
    (past : List (MemoryLimiter.Call × MemoryLimiter.Answer)) :
    ledger limit ((attempt.onMemory, answer) :: past) =
      (attempt.request limit, answer.allowed) :: ledger limit past := rfl

theorem ledger_onRedis (answer : RedisLimiter.Answer)
    (past : List (RedisLimiter.Call × RedisLimiter.Answer)) :
    RedisLimiter.ledger limit ((attempt.onRedis, answer) :: past) =
      (attempt.request limit, RedisLimiter.granted answer) :: RedisLimiter.ledger limit past := rfl

theorem ledgers_agree
    (same : ((memoryAllow limit).answers .empty before).map shownByMemory =
      ((redisAllow keyPrefix limit).answers (fun _ => {}) before).map shownByRedis) :
    ledger limit
        ((serve limit).past .empty (before.map Attempt.onMemory)) =
      RedisLimiter.ledger limit ((RedisLimiter.serve keyPrefix limit).past (fun _ => {})
        (before.map Attempt.onRedis)) := by
  induction before using List.reverseRecOn with
  | nil => rfl
  | append_singleton before attempt induction =>
    rw [Service.answers_concat, Service.answers_concat, List.map_append, List.map_append,
      List.map_singleton, List.map_singleton, List.append_singleton_inj] at same
    have earlier := induction same.1
    have last := allowed_of_shown same.2
    rw [memoryAllow, redisAllow, Service.after_through, Service.after_through] at last
    rw [List.map_append, List.map_append, List.map_singleton, List.map_singleton,
      Service.past_concat, Service.past_concat, ledger_onMemory, ledger_onRedis, earlier]
    exact congrArg (fun granted => (attempt.request limit, granted) :: _) last

/-! ## One call -/

theorem asked_onMemory : attempt.onMemory.request? limit = some (attempt.request limit) := rfl

private theorem shown_uncounted (uncounted : (attempt.request limit).counted = false)
    (table : MemoryLimiter.Table) (keyspace : RedisLimiter.Keyspace) :
    shownByMemory (memoryAllow limit table attempt).1 =
      shownByRedis (redisAllow keyPrefix limit keyspace attempt).1 := by
  have memory : (memoryAllow limit table attempt).1 = .decided _ :=
    answer_uncounted asked_onMemory uncounted table
  have redis : (redisAllow keyPrefix limit keyspace attempt).1 = _ :=
    congrArg Prod.fst (RedisLimiter.allowWithLimit_uncounted uncounted)
  rw [memory, redis]
  rfl

theorem shown_by_memory (regular : Regular (before ++ [attempt]))
    (counted : (attempt.request limit).counted = true) :
    shownByMemory (memoryAllow limit ((memoryAllow limit).after .empty before) attempt).1 =
      some (.ok (shownAt (ceiling limit) (attempt.request limit).units
        (recentOwn limit before attempt + edgeOwn limit before attempt))) := by
  have plain : ∀ call ∈ before.map Attempt.onMemory, call.isPlain = true := by
    intro call member
    obtain ⟨earlier, _, rfl⟩ := List.mem_map.mp member
    rfl
  have ordered : MemoryLimiter.Ordered (before.map Attempt.onMemory ++ [attempt.onMemory]) := by
    simpa using regular.memory_ordered
  have answer : (memoryAllow limit ((memoryAllow limit).after .empty before) attempt).1 =
      .decided (.ok (verdict (attempt.request limit)
        (since (attempt.now - limit.normalize.per)
          (admittedBy limit (· = attempt.key) before)))) := by
    rw [memoryAllow, Service.after_through]
    exact answer_of_plain plain attempt.charge attempt.key attempt.n ordered counted
  rw [answer, ← length_since_own, ← ceiling_normalize]
  exact congrArg some (shown_memory (attempt.request limit) _)

theorem shown_by_redis (window : millisecond ∣ limit.per) (regular : Regular (before ++ [attempt]))
    (counted : (attempt.request limit).counted = true)
    (same : ((memoryAllow limit).answers .empty before).map shownByMemory =
      ((redisAllow keyPrefix limit).answers (fun _ => {}) before).map shownByRedis) :
    shownByRedis (redisAllow keyPrefix limit
        ((redisAllow keyPrefix limit).after (fun _ => {}) before) attempt).1 =
      some (.ok (shownAt (ceiling limit) (attempt.request limit).units
        (recentOwn limit before attempt + recentTwin limit before attempt))) := by
  have limited : limit.unlimited = false := by
    simpa [Attempt.request] using (Request.counted_iff.mp counted).2
  have regularBefore := regular.sublist (List.sublist_append_left before [attempt])
  have ordered : RedisLimiter.Ordered (before.map Attempt.onRedis ++ [attempt.onRedis]) := by
    simpa using regular.redis_ordered
  have distinct :
      RedisLimiter.DistinctNonces (before.map Attempt.onRedis ++ [attempt.onRedis]) := by
    simpa using regular.redis_distinct
  have answer : (redisAllow keyPrefix limit
      ((redisAllow keyPrefix limit).after (fun _ => {}) before) attempt).1 =
        .ok (RedisLimiter.verdict (attempt.request limit)
          (RedisLimiter.left keyPrefix limit (fullKey keyPrefix attempt.key) attempt.onRedis
            ((RedisLimiter.serve keyPrefix limit).past (fun _ => {})
              (before.map Attempt.onRedis)))) := by
    rw [redisAllow, Service.after_through]
    exact RedisLimiter.answer_of_tracks counted
      (RedisLimiter.tracks_after regularBefore.redis_ordered regularBefore.redis_distinct _)
      (RedisLimiter.recent_past regularBefore.redis_ordered)
      (RedisLimiter.fits_past ordered distinct)
  rw [answer, left_of_regular regular, RedisLimiter.admittedUnder, ← ledgers_agree same]
  rw [← length_since_stored window limited regularBefore (regular.whole attempt (by simp)),
    ← ceiling_normalize]
  exact congrArg some (shown_redis (attempt.request limit) _)

end

/-- The limiters show the same throughout exactly when every call is aligned with the events
admitted before it. -/
theorem limiters_agree_iff {limit : Limit} {attempts : List Attempt} (keyPrefix : String)
    (window : millisecond ∣ limit.per) (regular : Regular attempts) :
    ((memoryAllow limit).answers .empty attempts).map shownByMemory =
        ((redisAllow keyPrefix limit).answers (fun _ => {}) attempts).map shownByRedis ↔
      ∀ before attempt after, attempts = before ++ attempt :: after →
        Aligned limit before attempt := by
  apply Service.answers_eq_iff
  intro before attempt after split same
  have sofar : Regular (before ++ [attempt]) := by
    apply regular.sublist
    rw [split]
    exact List.Sublist.append_left (by simp) before
  cases counted : (attempt.request limit).counted with
  | false =>
    simp only [Aligned, counted, Bool.false_eq_true, false_implies, iff_true]
    exact shown_uncounted counted _ _
  | true =>
    rw [shown_by_memory sofar counted, shown_by_redis window sofar counted same, Option.some_inj,
      Except.ok.injEq, shownAt_eq_iff]
    simp only [Aligned, counted, true_implies, Nat.cast_add, add_right_inj]

def onceASecond : Limit := { rate := 1, per := second }

def attemptAt (milliseconds : Int) (key nonce : String) : Attempt where
  charge := { now := milliseconds * millisecond }
  key := key
  n := 1
  exchange := { nonce, lapsed := true }

def pastTheEdge : List Attempt :=
  [attemptAt 0 "publish:alice" "n1", attemptAt 1001 "publish:alice" "n2"]

theorem limiters_agree_pastTheEdge :
    ((memoryAllow onceASecond).answers .empty pastTheEdge).map shownByMemory =
      ((redisAllow "parsec" onceASecond).answers (fun _ => {}) pastTheEdge).map shownByRedis := by
  apply (limiters_agree_iff "parsec" (by decide) (by decide)).mpr
  intro before attempt after split
  match before, split with
  | [], split =>
    obtain ⟨rfl, rfl⟩ := List.cons_eq_cons.mp split
    decide +kernel
  | [first], split =>
    obtain ⟨rfl, rest⟩ := List.cons_eq_cons.mp split
    obtain ⟨rfl, rfl⟩ := List.cons_eq_cons.mp rest
    decide +kernel
  | first :: second :: before, split =>
    have length := congrArg List.length split
    simp [pastTheEdge] at length

def onTheEdge : List Attempt :=
  [attemptAt 0 "publish:alice" "n1", attemptAt 1000 "publish:alice" "n2"]

def twoSpellings : List Attempt :=
  [attemptAt 0 "alice" "n1", attemptAt 500 "default:alice" "n2"]

/-- At the edge only Redis grants, and of the two spellings only the limiter in memory grants
both. -/
theorem limiters_differ :
    Regular onTheEdge ∧ Regular twoSpellings ∧
      ((memoryAllow onceASecond).answers .empty onTheEdge).map shownByMemory =
        [some (.ok (true, 0)), some (.ok (false, 0))] ∧
      ((redisAllow "parsec" onceASecond).answers (fun _ => {}) onTheEdge).map shownByRedis =
        [some (.ok (true, 0)), some (.ok (true, 0))] ∧
      ((memoryAllow onceASecond).answers .empty twoSpellings).map shownByMemory =
        [some (.ok (true, 0)), some (.ok (true, 0))] ∧
      ((redisAllow "parsec" onceASecond).answers (fun _ => {}) twoSpellings).map shownByRedis =
        [some (.ok (true, 0)), some (.ok (false, 0))] := by
  decide +kernel

end Parsec.RateLimit
