import Parsec.RateLimit.Ledger

/-! # The map of the limiter in memory

The buckets with the keys that have one, the calls on them, and what the buckets hold after any
sequence of calls: the admitted events that lie before no cutoff used since. -/

namespace Parsec.RateLimit.MemoryLimiter

open Foundation SlidingWindow Auth

def verdict (request : Request) (events : List Int) : Decision :=
  if ceiling request.limit < events.length + request.units then
    { allowed := false, remaining := 0, reset := resetAfter events request.per request.now }
  else
    let after := events ++ List.replicate request.units.toNat request.now
    { allowed := true, remaining := max (ceiling request.limit - after.length) 0,
      reset := resetAfter after request.per request.now }

theorem verdict_allowed_iff {request : Request} {events : List Int} :
    (verdict request events).allowed = true ↔
      request.units + events.length ≤ ceiling request.limit := by
  unfold verdict
  split_ifs with full
  · simp only [false_iff]
    omega
  · simp only [true_iff]
    omega

section Requests

variable {request : Request} {buckets : Buckets}

theorem allowWithLimit_counted (counted : request.counted = true)
    (sorted : (buckets request.key).Pairwise (· ≤ ·)) :
    allowWithLimit request.charge request.key request.n request.limit buckets =
      let left := since (request.now - request.per) (buckets request.key)
      (.ok (verdict request left), Function.update buckets request.key
        (left ++ request.events (· = request.key) (verdict request left).allowed)) := by
  obtain ⟨live, limited⟩ := Request.counted_iff.mp counted
  have pruned : (buckets request.key).dropWhile
      (· < request.charge.now - request.limit.normalize.per) =
        since (request.now - request.per) (buckets request.key) :=
    dropWhile_lt sorted _
  simp only [allowWithLimit, live, Limit.unlimited_normalize, limited, Bool.false_eq_true,
    if_false, pruned]
  simp only [verdict, Request.events, counted, Request.now, Request.per, Request.units]
  split_ifs <;> simp_all

theorem allowWithLimit_uncounted (uncounted : request.counted = false) :
    allowWithLimit request.charge request.key request.n request.limit buckets =
      (request.uncountedOutcome, buckets) := by
  unfold allowWithLimit Request.uncountedOutcome
  cases live : request.charge.cancelled with
  | some error => rfl
  | none =>
    have free : request.limit.unlimited = true := by simpa [Request.counted, live] using uncounted
    simp [free]

theorem allowWithLimit_other {key : String} (other : key ≠ request.key) :
    (allowWithLimit request.charge request.key request.n request.limit buckets).2 key =
      buckets key := by
  unfold allowWithLimit
  cases request.charge.cancelled with
  | some error => rfl
  | none =>
    dsimp only
    split_ifs <;> simp [Function.update_of_ne other]

end Requests

/-! ## The map -/

/-- `buckets`: which keys have a bucket, and the events in it. -/
structure Table where
  keys : Finset String
  buckets : Buckets
  absent : ∀ key ∉ keys, buckets key = []

namespace Table

def empty : Table where
  keys := ∅
  buckets := fun _ => []
  absent := fun _ _ => rfl

def allowWithLimit (request : Request) (table : Table) : Except String Decision × Table :=
  let result := MemoryLimiter.allowWithLimit request.charge request.key request.n request.limit
    table.buckets
  (result.1,
    { keys := if request.counted then insert request.key table.keys else table.keys
      buckets := result.2
      absent := by
        intro key outside
        cases counted : request.counted with
        | false =>
          rw [counted] at outside
          simp only [result, allowWithLimit_uncounted counted]
          exact table.absent key outside
        | true =>
          simp only [counted, if_true, Finset.mem_insert, not_or] at outside
          simp only [result, allowWithLimit_other outside.1]
          exact table.absent key outside.2 })

def sweep (configured : Limit) (now : Int) (table : Table) : Nat × Table :=
  let left : Buckets := fun key =>
    (table.buckets key).dropWhile (· < now - configured.normalize.per)
  let removed := table.keys.filter fun key => left key = []
  (removed.card,
    { keys := table.keys \ removed
      buckets := left
      absent := by
        intro key outside
        by_cases member : key ∈ table.keys
        · simpa [removed, member] using outside
        · simp [left, table.absent key member] })

end Table

inductive Call where
  | allow (charge : Charge) (key : String) (n : Int)
  | allowWithLimit (charge : Charge) (key : String) (n : Int) (limit : Limit)
  | sweep (now : Int)

inductive Answer where
  | decided (outcome : Except String Decision)
  | swept (removed : Nat)

def Answer.outcome? : Answer → Option (Except String Decision)
  | .decided outcome => some outcome
  | .swept _ => none

def Answer.allowed : Answer → Bool
  | .decided (.ok decision) => decision.allowed
  | .decided (.error _) | .swept _ => false

namespace Call

def now : Call → Int
  | .allow charge _ _ | .allowWithLimit charge _ _ _ => charge.now
  | .sweep now => now

def request? (configured : Limit) : Call → Option Request
  | .allow charge key n => some { charge, key, n, limit := configured.normalize }
  | .allowWithLimit charge key n limit => some { charge, key, n, limit }
  | .sweep _ => none

def bounds (configured : Limit) (key : String) (call : Call) : List Int :=
  match call.request? configured with
  | some request =>
    if request.counted && request.key = key then [request.now - request.per] else []
  | none => [call.now - configured.normalize.per]

variable {configured : Limit} {call : Call}

theorem now_eq {request : Request} (asked : call.request? configured = some request) :
    request.now = call.now := by
  cases call with
  | allow charge key n | allowWithLimit charge key n limit =>
    cases asked
    rfl
  | sweep now => cases asked

theorem eq_sweep (unasked : call.request? configured = none) : ∃ now, call = .sweep now := by
  cases call with
  | allow charge key n | allowWithLimit charge key n limit => cases unasked
  | sweep now => exact ⟨now, rfl⟩

theorem le_now_of_mem_bounds {key : String} {bound : Int}
    (member : bound ∈ call.bounds configured key) : bound ≤ call.now := by
  unfold bounds at member
  cases asked : call.request? configured with
  | none =>
    have nonneg := configured.per_nonneg
    simp only [asked, List.mem_singleton] at member
    omega
  | some request =>
    have nonneg : 0 ≤ request.per := request.limit.per_nonneg
    have same := now_eq asked
    simp only [asked] at member
    split at member
    · simp only [List.mem_singleton] at member
      omega
    · cases member

end Call

def Ordered (calls : List Call) : Prop :=
  calls.Pairwise fun earlier later => earlier.now ≤ later.now

instance (calls : List Call) : Decidable (Ordered calls) :=
  inferInstanceAs (Decidable (calls.Pairwise _))

def serve (configured : Limit) : Service Table Call Answer := fun table call =>
  match call with
  | .allow charge key n =>
    let (outcome, table) :=
      table.allowWithLimit { charge, key, n, limit := configured.normalize }
    (.decided outcome, table)
  | .allowWithLimit charge key n limit =>
    let (outcome, table) := table.allowWithLimit { charge, key, n, limit }
    (.decided outcome, table)
  | .sweep now =>
    let (removed, table) := table.sweep configured now
    (.swept removed, table)

/-! ## What the buckets hold -/

section History

variable (configured : Limit)

def bounds (key : String) (calls : List Call) : List Int :=
  calls.flatMap (Call.bounds configured key)

def ledger (past : List (Call × Answer)) : Ledger :=
  past.filterMap fun step =>
    (step.1.request? configured).map fun request => (request, step.2.allowed)

def admittedOn (key : String) (calls : List Call) : List Int :=
  admitted (· = key) (ledger configured ((serve configured).past .empty calls))

variable {configured} {call : Call} {request : Request}

theorem serve_request (asked : call.request? configured = some request) (table : Table) :
    serve configured table call =
      (.decided (table.allowWithLimit request).1, (table.allowWithLimit request).2) := by
  cases call with
  | allow charge key n | allowWithLimit charge key n limit =>
    cases asked
    rfl
  | sweep now => cases asked

variable {calls : List Call}

theorem admittedOn_concat (asked : call.request? configured = some request) (key : String) :
    admittedOn configured key (calls ++ [call]) =
      admittedOn configured key calls ++ request.events (· = key)
        (serve configured ((serve configured).after .empty calls) call).1.allowed := by
  simp only [admittedOn, Service.past_concat, ledger, List.filterMap_cons, asked, Option.map_some]
  rfl

theorem admittedOn_sweep (calls : List Call) (now : Int) (key : String) :
    admittedOn configured key (calls ++ [.sweep now]) = admittedOn configured key calls := by
  simp only [admittedOn, Service.past_concat, ledger, List.filterMap_cons, Call.request?,
    Option.map_none]

theorem ledger_ordered (ordered : Ordered calls) :
    (ledger configured ((serve configured).past .empty calls)).Ordered := by
  apply List.Pairwise.filterMap _ _ ((serve configured).pairwise_past ordered .empty)
  intro later earlier inOrder laterEntry laterAsked earlierEntry earlierAsked
  simp only [Option.map_eq_some_iff] at laterAsked earlierAsked
  obtain ⟨laterRequest, laterAsked, rfl⟩ := laterAsked
  obtain ⟨earlierRequest, earlierAsked, rfl⟩ := earlierAsked
  rw [Call.now_eq laterAsked, Call.now_eq earlierAsked]
  exact inOrder

theorem admittedOn_sorted (ordered : Ordered calls) (key : String) :
    (admittedOn configured key calls).Pairwise (· ≤ ·) :=
  admitted_sorted (ledger_ordered ordered)

variable {key : String}

theorem exists_of_mem_admitted_past {event : Int} {chosen : String → Bool}
    (member : event ∈ admitted chosen (ledger configured ((serve configured).past .empty calls))) :
    ∃ call ∈ calls, call.now = event := by
  obtain ⟨entry, listed, rfl⟩ := exists_of_mem_admitted member
  obtain ⟨step, answered, made⟩ := List.mem_filterMap.mp listed
  obtain ⟨request, asked, rfl⟩ := Option.map_eq_some_iff.mp made
  exact ⟨step.1, (serve configured).mem_of_mem_past answered, (Call.now_eq asked).symm⟩

theorem admittedOn_le (ordered : Ordered (calls ++ [call])) :
    ∀ event ∈ admittedOn configured key calls, event ≤ call.now := by
  intro event member
  obtain ⟨before, called, rfl⟩ := exists_of_mem_admitted_past member
  exact (List.pairwise_append.mp ordered).2.2 before called call (by simp)

theorem buckets_serve {table : Table} (sorted : ∀ key, (table.buckets key).Pairwise (· ≤ ·))
    (key : String) :
    (serve configured table call).2.buckets key =
      kept (call.bounds configured key) (table.buckets key) ++
        match call.request? configured with
        | some request =>
          request.events (· = key) (serve configured table call).1.allowed
        | none => [] := by
  cases asked : call.request? configured with
  | none =>
    obtain ⟨now, rfl⟩ := Call.eq_sweep asked
    simp only [Call.bounds, asked, kept_singleton, List.append_nil]
    exact dropWhile_lt (sorted key) _
  | some request =>
    simp only [serve_request asked, Call.bounds, asked, Table.allowWithLimit]
    by_cases own : request.key = key
    · subst own
      cases counted : request.counted with
      | false =>
        simp [allowWithLimit_uncounted counted, Request.events_uncounted counted]
      | true =>
        simp [allowWithLimit_counted counted (sorted request.key), kept_singleton, Answer.allowed]
    · have unchosen : decide (request.key = key) = false := decide_eq_false own
      rw [allowWithLimit_other (Ne.symm own), unchosen, Request.events_unchosen unchosen]
      simp

theorem buckets_after (ordered : Ordered calls) (key : String) :
    ((serve configured).after .empty calls).buckets key =
      kept (bounds configured key calls) (admittedOn configured key calls) := by
  induction calls using List.reverseRecOn generalizing key with
  | nil => rfl
  | append_singleton calls call induction =>
    obtain ⟨earlier, -, later⟩ := List.pairwise_append.mp ordered
    have same := induction earlier
    have sorted : ∀ key, (((serve configured).after .empty calls).buckets key).Pairwise
        (· ≤ ·) := by
      intro key
      rw [same key]
      exact kept_sorted (admittedOn_sorted earlier key)
    rw [Service.after_concat, buckets_serve sorted key, same key]
    have cutoffs : bounds configured key (calls ++ [call]) =
        bounds configured key calls ++ call.bounds configured key := by
      simp [bounds]
    cases asked : call.request? configured with
    | none =>
      obtain ⟨now, rfl⟩ := Call.eq_sweep asked
      rw [cutoffs, admittedOn_sweep, List.append_nil, kept_kept]
    | some request =>
      rw [cutoffs, admittedOn_concat asked]
      apply kept_admit
      intro event added bound member
      rw [Request.eq_now_of_mem_events added, Call.now_eq asked]
      rcases List.mem_append.mp member with old | own
      · obtain ⟨before, called, cut⟩ := List.mem_flatMap.mp old
        exact le_trans (Call.le_now_of_mem_bounds cut) (later before called call (by simp))
      · exact Call.le_now_of_mem_bounds own

theorem answer_uncounted (asked : call.request? configured = some request)
    (uncounted : request.counted = false) (table : Table) :
    (serve configured table call).1 = .decided request.uncountedOutcome := by
  rw [serve_request asked, Table.allowWithLimit]
  simp only [allowWithLimit_uncounted uncounted]

theorem answer_eq (ordered : Ordered calls) (asked : call.request? configured = some request)
    (counted : request.counted = true) :
    (serve configured ((serve configured).after .empty calls) call).1 =
      .decided (.ok (verdict request (since (request.now - request.per)
        (kept (bounds configured request.key calls)
          (admittedOn configured request.key calls))))) := by
  have sorted : (((serve configured).after .empty calls).buckets request.key).Pairwise (· ≤ ·) := by
    rw [buckets_after ordered]
    exact kept_sorted (admittedOn_sorted ordered request.key)
  rw [serve_request asked, Table.allowWithLimit]
  simp only [allowWithLimit_counted counted sorted]
  rw [buckets_after ordered]

end History

/-! ## One limit: an exact sliding window

A limiter that is only asked under its own limit cuts nothing that it still needs, and it
decides as if it had kept every event ever admitted. -/

/-- `Allow` and `Sweep`: no call brings a limit of its own. -/
def Call.isPlain : Call → Bool
  | .allow _ _ _ | .sweep _ => true
  | .allowWithLimit _ _ _ _ => false

def Call.isSweep : Call → Bool
  | .sweep _ => true
  | .allow _ _ _ | .allowWithLimit _ _ _ _ => false

section

variable {configured : Limit} {calls : List Call} {key : String}

theorem Call.bounds_plain {call : Call} (plain : call.isPlain = true) {bound : Int}
    (member : bound ∈ call.bounds configured key) :
    bound = call.now - configured.normalize.per := by
  cases call with
  | allowWithLimit charge key n limit => cases plain
  | sweep now => simpa [Call.bounds, Call.request?] using member
  | allow charge key n =>
    simp only [Call.bounds, Call.request?, Request.per, Request.now,
      Limit.normalize_normalize] at member
    split at member
    · exact List.mem_singleton.mp member
    · cases member

section

variable (plain : ∀ call ∈ calls, call.isPlain = true)
include plain

private theorem uncut_of_plain {now : Int} (earlier : ∀ call ∈ calls, call.now ≤ now) (key : String)
    (events : List Int) :
    Uncut (bounds configured key calls) (now - configured.normalize.per) events := by
  intro event _ inside bound member
  obtain ⟨call, called, cut⟩ := List.mem_flatMap.mp member
  have early := earlier call called
  rw [Call.bounds_plain (plain call called) cut]
  omega

theorem answer_of_plain (charge : Charge) (key : String) (n : Int)
    (ordered : Ordered (calls ++ [.allow charge key n]))
    (counted : Request.counted ⟨charge, key, n, configured.normalize⟩ = true) :
    (serve configured ((serve configured).after .empty calls) (.allow charge key n)).1 =
      .decided (.ok (verdict ⟨charge, key, n, configured.normalize⟩
        (since (charge.now - configured.normalize.per) (admittedOn configured key calls)))) := by
  obtain ⟨earlier, -, later⟩ := List.pairwise_append.mp ordered
  have before : ∀ call ∈ calls, call.now ≤ charge.now := fun call called =>
    later call called (.allow charge key n) List.mem_cons_self
  have uncut : Uncut (bounds configured key calls) (charge.now - configured.normalize.per)
      (admittedOn configured key calls) :=
    uncut_of_plain plain before key _
  rw [answer_eq earlier rfl counted]
  simp only [Request.now, Request.per, Limit.normalize_normalize, since_kept_eq_iff.mpr uncut]

theorem granted_iff {charge : Charge} {n : Int} (ordered : Ordered (calls ++ [.allow charge key n]))
    (live : charge.cancelled = none) (limited : configured.unlimited = false) :
    (serve configured ((serve configured).after .empty calls)
        (.allow charge key n)).1.allowed = true ↔
      max n 1 + ((within (charge.now - configured.normalize.per) configured.normalize.per
          (admittedOn configured key calls)).length : Int) ≤
        max configured.rate configured.burst := by
  have counted : Request.counted ⟨charge, key, n, configured.normalize⟩ = true :=
    Request.counted_iff.mpr ⟨live, by simpa using limited⟩
  have late : ∀ event ∈ admittedOn configured key calls, event ≤ charge.now := admittedOn_le ordered
  rw [answer_of_plain plain charge key n ordered counted, within_ending _ late,
    ← ceiling_eq_max limited, ← Request.units_eq_max ⟨charge, key, n, configured.normalize⟩,
    ← ceiling_normalize]
  exact verdict_allowed_iff

theorem within_concat {call : Call} (fixed : call.isPlain = true)
    (ordered : Ordered (calls ++ [call])) (limited : configured.unlimited = false)
    (bounded : ∀ start, ((within start configured.normalize.per
      (admittedOn configured key calls)).length : Int) ≤ max configured.rate configured.burst)
    (start : Int) :
    ((within start configured.normalize.per
        (admittedOn configured key (calls ++ [call]))).length : Int) ≤
      max configured.rate configured.burst := by
  cases call with
  | allowWithLimit charge key n limit => cases fixed
  | sweep now =>
    rw [admittedOn_sweep]
    exact bounded start
  | allow charge asked n =>
    rw [admittedOn_concat rfl]
    unfold Request.events
    split
    · next admits =>
        simp only [Bool.and_eq_true, decide_eq_true_eq] at admits
        obtain ⟨⟨allowed, counted⟩, rfl⟩ := admits
        have live := (Request.counted_iff.mp counted).1
        have room := (granted_iff plain ordered live limited).mp allowed
        have late : ∀ event ∈ admittedOn configured asked calls, event ≤ charge.now :=
          admittedOn_le ordered
        rw [within_ending _ late] at room
        apply length_within_admit bounded
        simp only [Request.units_eq_max, Request.now]
        omega
    · rw [List.append_nil]
      exact bounded start

theorem within_calls (ordered : Ordered calls) (limited : configured.unlimited = false)
    (key : String) (start : Int) :
    ((within start configured.normalize.per (admittedOn configured key calls)).length : Int) ≤
      max configured.rate configured.burst := by
  induction calls using List.reverseRecOn generalizing start with
  | nil =>
    have positive := configured.unlimited_eq_false_iff.mp limited
    exact le_trans positive.le (le_max_left ..)
  | append_singleton calls call induction =>
    have before : ∀ call ∈ calls, call.isPlain = true := fun other member =>
      plain other (List.mem_append_left [call] member)
    exact within_concat before (plain call (by simp)) ordered limited
      (induction before (List.pairwise_append.mp ordered).1) start

end

/-! ## Sweeping -/

variable (plain : ∀ call ∈ calls, call.isPlain = true)
include plain

end

/-! ## The exact window -/

def twiceAMinute : Limit := { rate := 2, per := minute }

end Parsec.RateLimit.MemoryLimiter
