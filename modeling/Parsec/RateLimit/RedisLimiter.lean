import Parsec.Foundation.Delimited
import Parsec.Foundation.SortedSet
import Parsec.RateLimit.Ledger

/-! # The limiter in Redis

One sorted set for each stored key, with the times of the admitted events in milliseconds as
scores. The script prunes, counts and adds in one step. -/

namespace Parsec.RateLimit.RedisLimiter

open Foundation SlidingWindow Auth

def splitBucketKey (key : String) : String × String :=
  match key.toList.span (· ≠ ':') with
  | (bucket, _ :: subject) => (String.ofList bucket, String.ofList subject)
  | (_, []) => ("default", key)

def fullKey (keyPrefix key : String) : String :=
  keyPrefix ++ ":rl:" ++ (splitBucketKey key).1 ++ ":" ++ (splitBucketKey key).2

/-- Two spellings of one stored key: without a bucket, and with the bucket `default`. -/
def twins (first second : String) : Bool :=
  (':' ∉ first.toList && second = "default:" ++ first) ||
    (':' ∉ second.toList && first = "default:" ++ second)

variable (keyPrefix key : String)

private theorem fullKey_eq :
    fullKey keyPrefix key =
      keyPrefix ++ ":rl:" ++ if ':' ∈ key.toList then key else "default:" ++ key := by
  apply String.toList_injective
  unfold fullKey splitBucketKey
  rcases delimited_cases ':' key.toList with absent | ⟨bucket, subject, split, absent⟩
  · rw [span_undelimited absent, if_neg absent]
    simp
  · have present : ':' ∈ key.toList := by simp [split]
    rw [if_pos present, split, span_delimited absent]
    simp [split]

theorem fullKey_eq_iff {keyPrefix first second : String} :
    fullKey keyPrefix first = fullKey keyPrefix second ↔
      first = second ∨ twins first second = true := by
  have colon (key : String) : ':' ∈ ("default:" ++ key).toList := by simp
  simp only [twins, Bool.or_eq_true, Bool.and_eq_true, decide_eq_true_eq]
  rw [fullKey_eq, fullKey_eq, String.append_right_inj]
  split_ifs with one two two
  · simp [one, two]
  · constructor
    · intro same
      exact .inr (.inr ⟨two, same⟩)
    · rintro (rfl | ⟨absent, -⟩ | ⟨-, same⟩)
      · exact absurd one two
      · exact absurd one absent
      · exact same
  · constructor
    · intro same
      exact .inr (.inl ⟨one, same.symm⟩)
    · rintro (rfl | ⟨-, same⟩ | ⟨absent, -⟩)
      · exact absurd two one
      · exact same.symm
      · exact absurd two absent
  · rw [String.append_right_inj]
    constructor
    · intro same
      exact .inl same
    · rintro (same | ⟨-, rfl⟩ | ⟨-, rfl⟩)
      · exact same
      · exact absurd (colon first) two
      · exact absurd (colon second) one

theorem own_or_twin :
    (fun other => decide (fullKey keyPrefix other = fullKey keyPrefix key)) =
      fun other => decide (other = key) || twins other key := by
  funext other
  rw [Bool.eq_iff_iff, decide_eq_true_iff, fullKey_eq_iff, Bool.or_eq_true, decide_eq_true_iff]

theorem not_own_and_twin (other : String) : (decide (other = key) && twins other key) = false := by
  have longer (text : String) : text ≠ "default:" ++ text := by
    intro same
    have length := congrArg String.length same
    simp [String.length_append] at length
  by_cases own : other = key
  · simp [twins, own, longer key]
  · simp [own]

/-! ## The script -/

def millisecond : Int := 1000000

def unixMilli (instant : Int) : Int := instant / millisecond

def windowMs (limit : Limit) : Int :=
  let window := limit.normalize.per.tdiv millisecond
  if window ≤ 0 then second.tdiv millisecond else window

structure Member where
  nonce : String
  index : Nat
  deriving DecidableEq

/-- The set under a key, and the time from which on Redis may drop it. A key that does not
exist has the empty set. -/
structure Entry where
  set : SortedSet Member Int := .empty
  deadline : Option Int := none

structure Reply where
  allowed : Int
  remaining : Int
  resetMs : Int

def resetMs (windowMs nowMs : Int) (oldest : Option Int) : Int :=
  match oldest with
  | none => windowMs
  | some oldest =>
    let reset := windowMs - (nowMs - oldest)
    if reset < 0 then 0 else reset

def newMembers (nonce : String) (n : Int) : List Member :=
  (List.range n.toNat).map fun index => { nonce, index := index + 1 }

def slidingWindow (maxCount windowMs nowMs n : Int) (nonce : String) (entry : Entry) :
    Reply × Entry :=
  let left := entry.set.removeUpTo (nowMs - windowMs)
  if left.card + n ≤ maxCount then
    let set := left.addAll (newMembers nonce n) nowMs
    ({ allowed := 1, remaining := maxCount - left.card - n,
       resetMs := resetMs windowMs nowMs set.lowest? },
      { set, deadline := some (nowMs + (windowMs + 10000)) })
  else
    ({ allowed := 0, remaining := 0, resetMs := resetMs windowMs nowMs left.lowest? },
      { entry with set := left })

def parseLuaResult (reply : Reply) (windowMs : Int) : Decision :=
  let reset := reply.resetMs * millisecond
  let reset := if reset < 0 then 0 else reset
  { allowed := reply.allowed = 1
    remaining := reply.remaining
    reset := if reset = 0 ∧ reply.allowed = 0 then windowMs * millisecond else reset }

/-- What the call meets besides the clock: the nonce it draws, and whether Redis has dropped
the key if its time has come. -/
structure Exchange where
  nonce : String
  lapsed : Bool := false

def Entry.visible (entry : Entry) (lapsed : Bool) (nowMs : Int) : Entry :=
  if lapsed && entry.deadline.any (· ≤ nowMs) then { entry with set := .empty } else entry

abbrev Keyspace := String → Entry

def allowWithLimit (keyPrefix : String) (request : Request) (exchange : Exchange)
    (keyspace : Keyspace) : Except String Decision × Keyspace :=
  match request.charge.cancelled with
  | some error => (.error error, keyspace)
  | none =>
    if request.limit.normalize.unlimited then (.ok .unlimited, keyspace)
    else
      let full := fullKey keyPrefix request.key
      let now := unixMilli request.now
      let window := windowMs request.limit
      let (reply, entry) := slidingWindow (ceiling request.limit) window now request.units
        exchange.nonce ((keyspace full).visible exchange.lapsed now)
      (.ok (parseLuaResult reply window), Function.update keyspace full entry)

inductive Call where
  | allow (charge : Charge) (key : String) (n : Int) (exchange : Exchange)
  | allowWithLimit (charge : Charge) (key : String) (n : Int) (limit : Limit)
      (exchange : Exchange)

namespace Call

def now : Call → Int
  | .allow charge _ _ _ | .allowWithLimit charge _ _ _ _ => charge.now

def exchange : Call → Exchange
  | .allow _ _ _ exchange | .allowWithLimit _ _ _ _ exchange => exchange

def request (configured : Limit) : Call → Request
  | .allow charge key n _ => { charge, key, n, limit := configured.normalize }
  | .allowWithLimit charge key n limit _ => { charge, key, n, limit }

@[simp] theorem now_request (configured : Limit) (call : Call) :
    (call.request configured).now = call.now := by
  cases call <;> rfl

end Call

abbrev Answer := Except String Decision

def granted : Answer → Bool
  | .ok decision => decision.allowed
  | .error _ => false

def serve (keyPrefix : String) (configured : Limit) : Service Keyspace Call Answer :=
  fun keyspace call => allowWithLimit keyPrefix (call.request configured) call.exchange keyspace

def Ordered (calls : List Call) : Prop :=
  calls.Pairwise fun earlier later => earlier.now ≤ later.now

def DistinctNonces (calls : List Call) : Prop :=
  (calls.map (·.exchange.nonce)).Nodup

instance (calls : List Call) : Decidable (Ordered calls) :=
  inferInstanceAs (Decidable (calls.Pairwise _))

instance (calls : List Call) : Decidable (DistinctNonces calls) :=
  inferInstanceAs (Decidable (calls.map _).Nodup)

theorem DistinctNonces.before {calls later : List Call}
    (distinct : DistinctNonces (calls ++ later)) : DistinctNonces calls := by
  rw [DistinctNonces, List.map_append] at distinct
  exact distinct.of_append_left

/-! ## What one call does -/

theorem windowMs_pos (limit : Limit) : 0 < windowMs limit := by
  have fallback : 0 < second.tdiv millisecond := by decide
  simp only [windowMs]
  split_ifs <;> omega

theorem unixMilli_mono {first second : Int} (order : first ≤ second) :
    unixMilli first ≤ unixMilli second :=
  Int.ediv_le_ediv (by decide) order

def replyTo (maxCount windowMs nowMs n : Int) (scores : List Int) : Reply :=
  if scores.length + n ≤ maxCount then
    { allowed := 1, remaining := maxCount - scores.length - n,
      resetMs := resetMs windowMs nowMs (scores ++ List.replicate n.toNat nowMs).head? }
  else { allowed := 0, remaining := 0, resetMs := resetMs windowMs nowMs scores.head? }

def verdict (request : Request) (scores : List Int) : Decision :=
  parseLuaResult (replyTo (ceiling request.limit) (windowMs request.limit)
    (unixMilli request.now) request.units scores) (windowMs request.limit)

theorem verdict_allowed_iff {request : Request} {scores : List Int} :
    (verdict request scores).allowed = true ↔
      request.units + scores.length ≤ ceiling request.limit := by
  unfold verdict replyTo parseLuaResult
  split_ifs with room
  · simp only [decide_true, true_iff]
    omega
  · simp only [zero_ne_one, decide_false, Bool.false_eq_true, false_iff]
    omega

private theorem filter_lt_eq_since (bound : Int) (scores : List Int) :
    scores.filter (bound < ·) = since (bound + 1) scores := by
  apply List.filter_congr
  intro score _
  exact decide_eq_decide.mpr Int.lt_iff_add_one_le

theorem newMembers_nodup (nonce : String) (n : Int) : (newMembers nonce n).Nodup := by
  apply List.nodup_range.map
  intro first second same
  simpa using same

section Script

variable (maxCount windowMs n : Int) {nowMs : Int} {nonce : String} {entry : Entry}

theorem slidingWindow_scores (fresh : ∀ member ∈ entry.set.members, member.nonce ≠ nonce)
    (latest : ∀ score ∈ entry.set.scores, score ≤ nowMs) :
    let left := since (nowMs - windowMs + 1) entry.set.scores
    let result := slidingWindow maxCount windowMs nowMs n nonce entry
    result.1 = replyTo maxCount windowMs nowMs n left ∧
      result.2.set.scores =
        left ++ (if left.length + n ≤ maxCount then List.replicate n.toNat nowMs else []) ∧
      result.2.deadline =
        if left.length + n ≤ maxCount then some (nowMs + (windowMs + 10000))
        else entry.deadline := by
  intro left result
  have scores : (entry.set.removeUpTo (nowMs - windowMs)).scores = left := by
    rw [SortedSet.scores_removeUpTo, filter_lt_eq_since]
  have card : (entry.set.removeUpTo (nowMs - windowMs)).card = left.length := by
    rw [SortedSet.card_eq, scores]
  have added :
      ((entry.set.removeUpTo (nowMs - windowMs)).addAll (newMembers nonce n) nowMs).scores =
        left ++ List.replicate n.toNat nowMs := by
    rw [SortedSet.scores_addAll (newMembers_nodup nonce n), scores]
    · simp [newMembers]
    · intro member listed present
      obtain ⟨index, -, rfl⟩ := List.mem_map.mp listed
      exact fresh _ (SortedSet.mem_members_removeUpTo present) rfl
    · intro score present
      rw [scores] at present
      exact latest score (mem_since.mp present).1
  simp only [result, slidingWindow, replyTo, card, SortedSet.lowest?_eq]
  split_ifs with room
  · simp [added]
  · simp [scores]

variable {maxCount windowMs n}

theorem members_slidingWindow {member : Member}
    (present : member ∈ (slidingWindow maxCount windowMs nowMs n nonce entry).2.set.members) :
    member.nonce = nonce ∨ member ∈ entry.set.members := by
  unfold slidingWindow at present
  dsimp only at present
  split_ifs at present
  · rcases SortedSet.mem_members_addAll present with listed | old
    · obtain ⟨index, -, rfl⟩ := List.mem_map.mp listed
      exact .inl rfl
    · exact .inr (SortedSet.mem_members_removeUpTo old)
  · exact .inr (SortedSet.mem_members_removeUpTo present)

end Script

section Requests

variable {keyPrefix : String} {request : Request} {exchange : Exchange} {keyspace : Keyspace}

theorem allowWithLimit_uncounted (uncounted : request.counted = false) :
    allowWithLimit keyPrefix request exchange keyspace = (request.uncountedOutcome, keyspace) := by
  unfold allowWithLimit Request.uncountedOutcome
  cases live : request.charge.cancelled with
  | some error => rfl
  | none =>
    have free : request.limit.unlimited = true := by simpa [Request.counted, live] using uncounted
    simp [free]

theorem allowWithLimit_counted (counted : request.counted = true) :
    allowWithLimit keyPrefix request exchange keyspace =
      let result := slidingWindow (ceiling request.limit) (windowMs request.limit)
        (unixMilli request.now) request.units exchange.nonce
        ((keyspace (fullKey keyPrefix request.key)).visible exchange.lapsed (unixMilli request.now))
      (.ok (parseLuaResult result.1 (windowMs request.limit)),
        Function.update keyspace (fullKey keyPrefix request.key) result.2) := by
  obtain ⟨live, limited⟩ := Request.counted_iff.mp counted
  simp [allowWithLimit, live, limited]

end Requests

/-! ## Histories -/

section History

variable (keyPrefix : String) (configured : Limit)

def ledger (past : List (Call × Answer)) : Ledger :=
  past.map fun step => (step.1.request configured, granted step.2)

def admittedUnder (full : String) (past : List (Call × Answer)) : List Int :=
  (admitted (fullKey keyPrefix · = full) (ledger configured past)).map unixMilli

def Call.touches (full : String) (call : Call) : Bool :=
  (call.request configured).counted && fullKey keyPrefix (call.request configured).key = full

def lastGrant? (full : String) : List (Call × Answer) → Option (Int × Int)
  | [] => none
  | (call, answer) :: earlier =>
    if granted answer && call.touches keyPrefix configured full then
      some (unixMilli call.now, windowMs (call.request configured).limit)
    else lastGrant? full earlier

def Call.lapseBounds (last : Option (Int × Int)) (call : Call) : List Int :=
  match last with
  | none => []
  | some (time, window) =>
    if call.exchange.lapsed && time + (window + 10000) ≤ unixMilli call.now then [time + 1]
    else []

def Call.bounds (full : String) (last : Option (Int × Int)) (call : Call) : List Int :=
  if call.touches keyPrefix configured full then
    call.lapseBounds last ++ [unixMilli call.now - windowMs (call.request configured).limit + 1]
  else []

def bounds (full : String) : List (Call × Answer) → List Int
  | [] => []
  | (call, _) :: earlier =>
    bounds full earlier ++
      call.bounds keyPrefix configured full (lastGrant? keyPrefix configured full earlier)

variable {keyPrefix configured} {past : List (Call × Answer)} {full : String}

theorem admittedUnder_cons (call : Call) (answer : Answer) :
    admittedUnder keyPrefix configured full ((call, answer) :: past) =
      admittedUnder keyPrefix configured full past ++
        if granted answer && call.touches keyPrefix configured full then
          List.replicate (call.request configured).units.toNat (unixMilli call.now)
        else [] := by
  simp only [admittedUnder, ledger, List.map_cons, admitted, List.map_append, Request.events,
    Call.touches, Bool.and_assoc, Call.now_request]
  rw [apply_ite (List.map unixMilli), List.map_replicate, List.map_nil]
  rfl

theorem exists_of_mem_admittedUnder {event : Int}
    (member : event ∈ admittedUnder keyPrefix configured full past) :
    ∃ step ∈ past, unixMilli step.1.now = event := by
  obtain ⟨instant, listed, rfl⟩ := List.mem_map.mp member
  obtain ⟨entry, booked, rfl⟩ := exists_of_mem_admitted listed
  obtain ⟨step, answered, rfl⟩ := List.mem_map.mp booked
  exact ⟨step, answered, by simp⟩

def Recent (past : List (Call × Answer)) : Prop :=
  past.Pairwise fun later earlier => earlier.1.now ≤ later.1.now

variable {calls : List Call}

theorem recent_past (ordered : Ordered calls) :
    Recent ((serve keyPrefix configured).past (fun _ => {}) calls) :=
  (serve keyPrefix configured).pairwise_past ordered _

variable {time window : Int}

theorem lastGrant?_window (last : lastGrant? keyPrefix configured full past = some (time, window)) :
    0 < window := by
  induction past with
  | nil => cases last
  | cons step earlier induction =>
    unfold lastGrant? at last
    split at last
    · cases last
      exact windowMs_pos _
    · exact induction last

theorem le_lastGrant? (recent : Recent past)
    (last : lastGrant? keyPrefix configured full past = some (time, window)) :
    ∀ event ∈ admittedUnder keyPrefix configured full past, event ≤ time := by
  induction past with
  | nil => cases last
  | cons step earlier induction =>
    obtain ⟨call, answer⟩ := step
    obtain ⟨before, older⟩ := List.pairwise_cons.mp recent
    intro event member
    rw [admittedUnder_cons] at member
    unfold lastGrant? at last
    split at last
    · cases last
      rcases List.mem_append.mp member with old | added
      · obtain ⟨found, inside, rfl⟩ := exists_of_mem_admittedUnder old
        exact unixMilli_mono (before found inside)
      · next grants =>
          rw [if_pos grants] at added
          exact (List.eq_of_mem_replicate added).le
    · next ungranted =>
        rw [if_neg ungranted, List.append_nil] at member
        exact induction older last event member

variable {call : Call} {bound : Int}

theorem Call.le_of_mem_bounds
    (member : bound ∈ call.bounds keyPrefix configured full
      (lastGrant? keyPrefix configured full past)) : bound ≤ unixMilli call.now := by
  unfold Call.bounds at member
  split at member
  · rcases List.mem_append.mp member with lapse | prune
    · unfold Call.lapseBounds at lapse
      cases last : lastGrant? keyPrefix configured full past with
      | none => simp [last] at lapse
      | some grant =>
        have positive := lastGrant?_window last
        simp only [last] at lapse
        split at lapse
        · next dropped =>
            simp only [Bool.and_eq_true, decide_eq_true_eq] at dropped
            rw [List.mem_singleton.mp lapse]
            omega
        · cases lapse
    · have positive := windowMs_pos (call.request configured).limit
      rw [List.mem_singleton.mp prune]
      omega
  · cases member

private theorem exists_of_mem_bounds (member : bound ∈ bounds keyPrefix configured full past) :
    ∃ step ∈ past, bound ≤ unixMilli step.1.now := by
  induction past with
  | nil => cases member
  | cons step earlier induction =>
    rcases List.mem_append.mp member with old | own
    · obtain ⟨found, inside, before⟩ := induction old
      exact ⟨found, List.mem_cons_of_mem step inside, before⟩
    · exact ⟨step, List.mem_cons_self, Call.le_of_mem_bounds own⟩

/-! ## What the sets hold -/

/-- The entry under `full` holds the admitted events that no bound has cut, has members of the
calls made so far only, and may be dropped from the deadline of the last grant on. -/
structure Tracks (keyPrefix : String) (configured : Limit) (full : String) (entry : Entry)
    (past : List (Call × Answer)) : Prop where
  scores : entry.set.scores =
    kept (bounds keyPrefix configured full past) (admittedUnder keyPrefix configured full past)
  deadline : entry.deadline =
    (lastGrant? keyPrefix configured full past).map fun grant => grant.1 + (grant.2 + 10000)
  nonces : ∀ member ∈ entry.set.members, ∃ step ∈ past, step.1.exchange.nonce = member.nonce

theorem tracks_nil : Tracks keyPrefix configured full {} [] where
  scores := rfl
  deadline := rfl
  nonces := by
    intro member present
    cases present

structure Fits (call : Call) (past : List (Call × Answer)) : Prop where
  fresh : ∀ step ∈ past, step.1.exchange.nonce ≠ call.exchange.nonce
  later : ∀ step ∈ past, step.1.now ≤ call.now

def left (keyPrefix : String) (configured : Limit) (full : String) (call : Call)
    (past : List (Call × Answer)) : List Int :=
  since (unixMilli call.now - windowMs (call.request configured).limit + 1)
    (kept (bounds keyPrefix configured full past ++
      call.lapseBounds (lastGrant? keyPrefix configured full past))
      (admittedUnder keyPrefix configured full past))

namespace Tracks

variable {entry : Entry} {call : Call}

variable (tracks : Tracks keyPrefix configured full entry past)
include tracks

theorem scores_visible (recent : Recent past) (call : Call) :
    (entry.visible call.exchange.lapsed (unixMilli call.now)).set.scores =
      kept (bounds keyPrefix configured full past ++
        call.lapseBounds (lastGrant? keyPrefix configured full past))
        (admittedUnder keyPrefix configured full past) := by
  rw [← kept_kept, ← tracks.scores]
  unfold Entry.visible Call.lapseBounds
  cases last : lastGrant? keyPrefix configured full past with
  | none => simp [tracks.deadline, last]
  | some grant =>
    obtain ⟨time, window⟩ := grant
    simp only [tracks.deadline, last, Option.map_some, Option.any_some]
    split_ifs with dropped
    · -- every event was admitted by the last grant, so the bound after it keeps none
      symm
      apply List.filter_eq_nil_iff.mpr
      intro score present
      rw [tracks.scores] at present
      have early := le_lastGrant? recent last score (mem_kept.mp present).1
      simpa using early
    · rw [kept_nil]

theorem latest (recent : Recent past) (later : ∀ step ∈ past, step.1.now ≤ call.now) :
    ∀ score ∈ (entry.visible call.exchange.lapsed (unixMilli call.now)).set.scores,
      score ≤ unixMilli call.now := by
  intro score present
  rw [tracks.scores_visible recent] at present
  obtain ⟨step, answered, rfl⟩ := exists_of_mem_admittedUnder (mem_kept.mp present).1
  exact unixMilli_mono (later step answered)

theorem nonces_visible {lapsed : Bool} {nowMs : Int} :
    ∀ member ∈ (entry.visible lapsed nowMs).set.members,
      ∃ step ∈ past, step.1.exchange.nonce = member.nonce := by
  intro member present
  unfold Entry.visible at present
  split at present
  · cases present
  · exact tracks.nonces member present

theorem script (recent : Recent past) (fits : Fits call past) :
    let request := call.request configured
    let left := left keyPrefix configured full call past
    let result := slidingWindow (ceiling request.limit) (windowMs request.limit)
      (unixMilli call.now) request.units call.exchange.nonce
      (entry.visible call.exchange.lapsed (unixMilli call.now))
    result.1 = replyTo (ceiling request.limit) (windowMs request.limit) (unixMilli call.now)
        request.units left ∧
      result.2.set.scores = left ++ (if left.length + request.units ≤ ceiling request.limit then
        List.replicate request.units.toNat (unixMilli call.now) else []) ∧
      result.2.deadline = if left.length + request.units ≤ ceiling request.limit then
        some (unixMilli call.now + (windowMs request.limit + 10000)) else entry.deadline := by
  intro request left result
  have unused : ∀ member ∈
      (entry.visible call.exchange.lapsed (unixMilli call.now)).set.members,
      member.nonce ≠ call.exchange.nonce := by
    intro member present same
    obtain ⟨step, answered, drawn⟩ := tracks.nonces_visible member present
    exact fits.fresh step answered (drawn.trans same)
  have deadline : (entry.visible call.exchange.lapsed (unixMilli call.now)).deadline =
      entry.deadline := by
    unfold Entry.visible
    split <;> rfl
  have ran := slidingWindow_scores (ceiling request.limit) (windowMs request.limit) request.units
    unused (tracks.latest recent fits.later)
  rw [tracks.scores_visible recent call, deadline] at ran
  exact ran

end Tracks

section Step

variable {keyspace : Keyspace} {call : Call}

theorem answer_of_tracks (counted : (call.request configured).counted = true)
    (tracks : Tracks keyPrefix configured (fullKey keyPrefix (call.request configured).key)
      (keyspace (fullKey keyPrefix (call.request configured).key)) past)
    (recent : Recent past) (fits : Fits call past) :
    (serve keyPrefix configured keyspace call).1 =
      .ok (verdict (call.request configured) (left keyPrefix configured
        (fullKey keyPrefix (call.request configured).key) call past)) := by
  obtain ⟨reply, -, -⟩ := tracks.script recent fits
  unfold serve verdict
  rw [allowWithLimit_counted counted]
  simp only [Call.now_request, reply]

theorem entry_untouched (untouched : call.touches keyPrefix configured full = false) :
    (serve keyPrefix configured keyspace call).2 full = keyspace full := by
  unfold serve
  cases counted : (call.request configured).counted with
  | false => rw [allowWithLimit_uncounted counted]
  | true =>
    have other : full ≠ fullKey keyPrefix (call.request configured).key := by
      rintro rfl
      simp [Call.touches, counted] at untouched
    rw [allowWithLimit_counted counted]
    exact Function.update_of_ne other ..

theorem entry_touched (counted : (call.request configured).counted = true) :
    (serve keyPrefix configured keyspace call).2 (fullKey keyPrefix (call.request configured).key) =
      (slidingWindow (ceiling (call.request configured).limit)
        (windowMs (call.request configured).limit) (unixMilli call.now)
        (call.request configured).units call.exchange.nonce
        ((keyspace (fullKey keyPrefix (call.request configured).key)).visible
          call.exchange.lapsed (unixMilli call.now))).2 := by
  unfold serve
  rw [allowWithLimit_counted counted]
  simp only [Call.now_request, Function.update_self]

theorem left_eq_kept (touched : call.touches keyPrefix configured full = true) :
    left keyPrefix configured full call past =
      kept (call.bounds keyPrefix configured full (lastGrant? keyPrefix configured full past))
        (kept (bounds keyPrefix configured full past)
          (admittedUnder keyPrefix configured full past)) := by
  rw [left, ← kept_singleton, kept_kept, kept_kept, Call.bounds, if_pos touched, List.append_assoc]

theorem bounds_le (fits : Fits call past) {bound : Int}
    (member : bound ∈ bounds keyPrefix configured full past ++
      call.bounds keyPrefix configured full (lastGrant? keyPrefix configured full past)) :
    bound ≤ unixMilli call.now := by
  rcases List.mem_append.mp member with old | own
  · obtain ⟨step, answered, before⟩ := exists_of_mem_bounds old
    exact le_trans before (unixMilli_mono (fits.later step answered))
  · exact Call.le_of_mem_bounds own

private theorem tracks_serve (tracks : Tracks keyPrefix configured full (keyspace full) past)
    (recent : Recent past) (fits : Fits call past) :
    Tracks keyPrefix configured full ((serve keyPrefix configured keyspace call).2 full)
      ((call, (serve keyPrefix configured keyspace call).1) :: past) := by
  cases touched : call.touches keyPrefix configured full with
  | false =>
    rw [entry_untouched touched]
    refine ⟨?_, ?_, ?_⟩
    · rw [admittedUnder_cons, bounds, Call.bounds, touched]
      simpa using tracks.scores
    · rw [lastGrant?, touched]
      simpa using tracks.deadline
    · intro member present
      obtain ⟨step, answered, drawn⟩ := tracks.nonces member present
      exact ⟨step, List.mem_cons_of_mem _ answered, drawn⟩
  | true =>
    have own : (call.request configured).counted = true ∧
        fullKey keyPrefix (call.request configured).key = full := by
      simpa [Call.touches] using touched
    obtain ⟨counted, rfl⟩ := own
    obtain ⟨-, scores, deadline⟩ := tracks.script recent fits
    have admits : (left keyPrefix configured (fullKey keyPrefix (call.request configured).key)
        call past).length + (call.request configured).units ≤
          ceiling (call.request configured).limit ↔
        granted (serve keyPrefix configured keyspace call).1 = true := by
      rw [answer_of_tracks counted tracks recent fits, granted, verdict_allowed_iff, add_comm]
    rw [entry_touched counted]
    refine ⟨?_, ?_, ?_⟩
    · rw [scores, admittedUnder_cons, touched]
      simp only [Bool.and_true, admits]
      rw [left_eq_kept touched]
      apply kept_admit
      intro event added bound member
      split at added
      · rw [List.eq_of_mem_replicate added]
        exact bounds_le fits member
      · cases added
    · rw [deadline, lastGrant?, touched]
      simp only [Bool.and_true, admits]
      split_ifs
      · rfl
      · exact tracks.deadline
    · intro member present
      rcases members_slidingWindow present with new | old
      · exact ⟨_, List.mem_cons_self, new.symm⟩
      · obtain ⟨step, answered, drawn⟩ := tracks.nonces_visible member old
        exact ⟨step, List.mem_cons_of_mem _ answered, drawn⟩

end Step

theorem fits_past (ordered : Ordered (calls ++ [call]))
    (distinct : DistinctNonces (calls ++ [call])) :
    Fits call ((serve keyPrefix configured).past (fun _ => {}) calls) where
  fresh := by
    intro step answered same
    have called := (serve keyPrefix configured).mem_of_mem_past answered
    rw [DistinctNonces, List.map_append, List.nodup_append] at distinct
    exact distinct.2.2 _ (List.mem_map_of_mem called) _ (by simp) same
  later := by
    intro step answered
    have called := (serve keyPrefix configured).mem_of_mem_past answered
    exact (List.pairwise_append.mp ordered).2.2 step.1 called call (by simp)

theorem tracks_after (ordered : Ordered calls) (distinct : DistinctNonces calls) (full : String) :
    Tracks keyPrefix configured full
      ((serve keyPrefix configured).after (fun _ => {}) calls full)
      ((serve keyPrefix configured).past (fun _ => {}) calls) := by
  induction calls using List.reverseRecOn with
  | nil => exact tracks_nil
  | append_singleton calls call induction =>
    have earlier : Ordered calls := (List.pairwise_append.mp ordered).1
    have drawn : DistinctNonces calls := distinct.before
    rw [Service.after_concat, Service.past_concat]
    exact tracks_serve (induction earlier drawn) (recent_past earlier) (fits_past ordered distinct)

end History

end Parsec.RateLimit.RedisLimiter
