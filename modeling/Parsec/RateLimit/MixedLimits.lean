import Parsec.RateLimit.ExactWindow
import Parsec.RateLimit.RedisLimiter

/-! # Several limits on one key

Calls on a key may bring different limits. Each prunes with the window it brings, a sweep with the
window the limiter was made for, and Redis drops the key a while after the window of the last
grant; what is gone is gone for wider windows too. -/

namespace Parsec.RateLimit

open Foundation SlidingWindow Auth RedisLimiter

/-! ## In memory -/

namespace MemoryLimiter

def answerFrom (request : Request) (events : List Int) : Except String Decision :=
  if request.counted then .ok (verdict request events) else request.uncountedOutcome

/-- The request is above its ceiling by itself, everything in its window was cut, and the oldest
of it is exactly a window old: no event is left to wait for, nor would the oldest need any. -/
def Hopeless (request : Request) (bounds events : List Int) : Prop :=
  ceiling request.limit < request.units ∧
    since (request.now - request.per) (kept bounds events) = [] ∧
    (since (request.now - request.per) events).head? = some (request.now - request.per)

instance (request : Request) (bounds events : List Int) :
    Decidable (Hopeless request bounds events) :=
  inferInstanceAs (Decidable (_ ∧ _ ∧ _))

variable {request : Request} {events : List Int}

theorem verdict_denied (full : ceiling request.limit < events.length + request.units) :
    verdict request events =
      { allowed := false, remaining := 0,
        reset := resetAfter events request.per request.now } := by
  rw [verdict, if_pos full]

theorem remaining_of_allowed (room : events.length + request.units ≤ ceiling request.limit) :
    (verdict request events).remaining = ceiling request.limit - events.length - request.units := by
  have positive := request.one_le_units
  rw [verdict, if_neg (not_lt.mpr room)]
  simp only [List.length_append, List.length_replicate]
  omega

theorem resetAfter_head {oldest : Int} (first : events.head? = some oldest) (per now : Int) :
    resetAfter events per now = max (oldest + per - now) 0 := by
  cases events with
  | nil => cases first
  | cons event events =>
    cases first
    rfl

theorem verdict_cut_iff {bounds : List Int} (sorted : events.Pairwise (· ≤ ·)) :
    verdict request (since (request.now - request.per) (kept bounds events)) =
        verdict request (since (request.now - request.per) events) ↔
      Uncut bounds (request.now - request.per) events ∨ Hopeless request bounds events := by
  by_cases uncut : Uncut bounds (request.now - request.per) events
  · rw [since_kept_eq_iff.mpr uncut]
    simp [uncut]
  · obtain ⟨fewer, oldest, first, inside, -, later⟩ := oldest_of_cut sorted uncut
    simp only [uncut, false_or]
    by_cases room : ((since (request.now - request.per) (kept bounds events)).length : Int) +
        request.units ≤ ceiling request.limit
    · -- the call is granted: with all events it is denied, or fewer remain
      have fits : ¬ ceiling request.limit < request.units := by omega
      simp only [Hopeless, fits, false_and, iff_false]
      intro same
      by_cases wide : ((since (request.now - request.per) events).length : Int) +
          request.units ≤ ceiling request.limit
      · have counts := congrArg Decision.remaining same
        rw [remaining_of_allowed room, remaining_of_allowed wide] at counts
        omega
      · have allowed := verdict_allowed_iff.mpr (by omega :
          request.units + ((since (request.now - request.per) (kept bounds events)).length : Int) ≤
            ceiling request.limit)
        rw [same, verdict_allowed_iff] at allowed
        omega
    · -- both deny, and the oldest event left tells them apart
      rw [verdict_denied (by omega), verdict_denied (by omega), resetAfter_head first]
      simp only [Decision.mk.injEq, true_and, Hopeless, first, Option.some_inj]
      cases left : since (request.now - request.per) (kept bounds events) with
      | nil =>
        simp only [left, List.length_nil] at room
        simp only [resetAfter, true_and]
        constructor
        · intro same
          exact ⟨by omega, by omega⟩
        · rintro ⟨-, edge⟩
          omega
      | cons survivor rest =>
        have behind := later survivor (by simp [left])
        simp only [resetAfter, List.cons_ne_nil, false_and, and_false, iff_false]
        omega

theorem answer_eq_answerFrom_iff {configured : Limit} {before : List Call} {call : Call}
    (ordered : Ordered (before ++ [call])) (asked : call.request? configured = some request) :
    (serve configured ((serve configured).after .empty before) call).1 =
        .decided (answerFrom request (within (request.now - request.per) request.per
          (admittedOn configured request.key before))) ↔
      (request.counted = true →
        Uncut (bounds configured request.key before) (request.now - request.per)
            (admittedOn configured request.key before) ∨
          Hopeless request (bounds configured request.key before)
            (admittedOn configured request.key before)) := by
  have earlier : Ordered before := (List.pairwise_append.mp ordered).1
  cases counted : request.counted with
  | false =>
    rw [answer_uncounted asked counted]
    simp [answerFrom, counted]
  | true =>
    have late : ∀ event ∈ admittedOn configured request.key before, event ≤ request.now := by
      rw [Call.now_eq asked]
      exact admittedOn_le ordered
    rw [answer_eq earlier asked counted, within_ending _ late, answerFrom, if_pos counted,
      Answer.decided.injEq, Except.ok.injEq, verdict_cut_iff (admittedOn_sorted earlier _)]
    simp

end MemoryLimiter

/-! ## In Redis -/

namespace RedisLimiter

def answerFrom (request : Request) (scores : List Int) : Except String Decision :=
  if request.counted then .ok (verdict request scores) else request.uncountedOutcome

def admittedOn (configured : Limit) (key : String) (past : List (Call × Answer)) : List Int :=
  (admitted (· = key) (ledger configured past)).map unixMilli

def admittedOnTwin (configured : Limit) (key : String) (past : List (Call × Answer)) : List Int :=
  (admitted (twins · key) (ledger configured past)).map unixMilli

section Window

variable {request : Request} {scores : List Int}

theorem remaining_of_allowed (room : scores.length + request.units ≤ ceiling request.limit) :
    (verdict request scores).remaining = ceiling request.limit - scores.length - request.units := by
  simp only [verdict, parseLuaResult, replyTo, if_pos room]

theorem verdict_denied (full : ceiling request.limit < scores.length + request.units)
    (inside : ∀ oldest ∈ scores.head?,
      unixMilli request.now - windowMs request.limit + 1 ≤ oldest) :
    verdict request scores =
      { allowed := false, remaining := 0,
        reset := millisecond * match scores.head? with
          | none => windowMs request.limit
          | some oldest => windowMs request.limit - (unixMilli request.now - oldest) } := by
  have positive := windowMs_pos request.limit
  simp only [verdict, parseLuaResult, replyTo, if_neg (not_le.mpr full), resetMs]
  cases first : scores.head? with
  | none =>
    simp only [Decision.mk.injEq, true_and, zero_ne_one, decide_false, millisecond]
    split_ifs <;> omega
  | some oldest =>
    have fits := inside oldest first
    simp only [Decision.mk.injEq, true_and, zero_ne_one, decide_false, millisecond]
    split_ifs <;> omega

theorem verdict_cut_iff {bounds events : List Int} (sorted : events.Pairwise (· ≤ ·))
    (past : ∀ bound ∈ bounds, bound ≤ unixMilli request.now) :
    verdict request (since (unixMilli request.now - windowMs request.limit + 1)
          (kept bounds events)) =
        verdict request (since (unixMilli request.now - windowMs request.limit + 1) events) ↔
      Uncut bounds (unixMilli request.now - windowMs request.limit + 1) events := by
  constructor
  · intro same
    by_contra cut
    obtain ⟨fewer, oldest, first, inside, ⟨bound, listed, before⟩, later⟩ :=
      oldest_of_cut sorted cut
    have early : oldest < unixMilli request.now := lt_of_lt_of_le before (past bound listed)
    have within : ∀ events : List Int, ∀ oldest ∈
        (since (unixMilli request.now - windowMs request.limit + 1) events).head?,
        unixMilli request.now - windowMs request.limit + 1 ≤ oldest := fun events oldest first =>
      (mem_since.mp (List.mem_of_mem_head? first)).2
    have allowed := congrArg Decision.allowed same
    rw [Bool.eq_iff_iff, verdict_allowed_iff, verdict_allowed_iff] at allowed
    by_cases room : request.units + ((since (unixMilli request.now - windowMs request.limit + 1)
        events).length : Int) ≤ ceiling request.limit
    · have counts := congrArg Decision.remaining same
      rw [remaining_of_allowed (by omega), remaining_of_allowed (by omega)] at counts
      omega
    · rw [verdict_denied (by omega) (within _), verdict_denied (by omega) (within _), first] at same
      have resets := congrArg Decision.reset same
      simp only [millisecond] at resets
      cases left : (since (unixMilli request.now - windowMs request.limit + 1)
          (kept bounds events)).head? with
      | none =>
        simp only [left] at resets
        omega
      | some survivor =>
        have behind := later survivor (List.mem_of_mem_head? left)
        simp only [left] at resets
        omega
  · intro uncut
    rw [since_kept_eq_iff.mpr uncut]

end Window

section Calls

variable {keyPrefix : String} {configured : Limit} {past : List (Call × Answer)} {key : String}

private theorem since_admittedUnder (keyPrefix : String) {bound : Int}
    (clear : ∀ event ∈ admittedOnTwin configured key past, event < bound) :
    since bound (admittedUnder keyPrefix configured (fullKey keyPrefix key) past) =
      since bound (admittedOn configured key past) := by
  unfold admittedUnder admittedOn
  rw [own_or_twin]
  apply since_admitted_or (not_own_and_twin key)
  intro event member
  exact clear _ (List.mem_map_of_mem member)

theorem admittedOn_sorted (recent : Recent past) :
    (admittedOn configured key past).Pairwise (· ≤ ·) := by
  have ordered : (ledger configured past).Ordered := by
    apply List.pairwise_map.mpr
    simp only [Call.now_request]
    exact recent
  apply List.pairwise_map.mpr
  exact (admitted_sorted ordered).imp unixMilli_mono

end Calls

end RedisLimiter

/-! ## Both limiters -/

/-- A call is answered from the events admitted on its key in its own window exactly when none
of them was cut by then: by the window of an earlier call, by a sweep, or by a drop in Redis. -/
theorem answered_from_window_iff (configured : Limit) (keyPrefix : String) :
    (∀ (before : List MemoryLimiter.Call) (call : MemoryLimiter.Call) (request : Request),
      MemoryLimiter.Ordered (before ++ [call]) →
      call.request? configured = some request →
      ((MemoryLimiter.serve configured
            ((MemoryLimiter.serve configured).after .empty before) call).1 =
          .decided (MemoryLimiter.answerFrom request
            (within (request.now - request.per) request.per
              (MemoryLimiter.admittedOn configured request.key before))) ↔
        (request.counted = true →
          Uncut (MemoryLimiter.bounds configured request.key before) (request.now - request.per)
              (MemoryLimiter.admittedOn configured request.key before) ∨
            MemoryLimiter.Hopeless request (MemoryLimiter.bounds configured request.key before)
              (MemoryLimiter.admittedOn configured request.key before)))) ∧
    ∀ (before : List RedisLimiter.Call) (call : RedisLimiter.Call),
      RedisLimiter.Ordered (before ++ [call]) →
      RedisLimiter.DistinctNonces (before ++ [call]) →
      let request := call.request configured
      let past := (serve keyPrefix configured).past (fun _ => {}) before
      let full := fullKey keyPrefix request.key
      let edge := unixMilli request.now - windowMs request.limit + 1
      (∀ event ∈ admittedOnTwin configured request.key past, event < edge) →
      ((serve keyPrefix configured
            ((serve keyPrefix configured).after (fun _ => {}) before) call).1 =
          answerFrom request
            (since edge (admittedOn configured request.key past)) ↔
        (request.counted = true →
          Uncut (bounds keyPrefix configured full past ++
              call.lapseBounds (lastGrant? keyPrefix configured full past))
            edge (admittedOn configured request.key past))) := by
  refine ⟨fun _ _ _ ordered asked => MemoryLimiter.answer_eq_answerFrom_iff ordered asked, ?_⟩
  intro before call ordered distinct request past full edge clear
  have earlier : RedisLimiter.Ordered before := (List.pairwise_append.mp ordered).1
  cases counted : request.counted with
  | false =>
    have answer : (serve keyPrefix configured
        ((serve keyPrefix configured).after (fun _ => {}) before) call).1 =
          request.uncountedOutcome :=
      congrArg Prod.fst (allowWithLimit_uncounted counted)
    rw [answer]
    simp [answerFrom, counted]
  | true =>
    have recent : Recent past := recent_past earlier
    have fits : Fits call past := fits_past ordered distinct
    have own : left keyPrefix configured full call past =
        since edge (kept (bounds keyPrefix configured full past ++
          call.lapseBounds (lastGrant? keyPrefix configured full past))
          (admittedOn configured request.key past)) := by
      rw [since_kept, ← since_admittedUnder keyPrefix clear, ← since_kept, left]
      simp only [edge, request, full, Call.now_request]
    have cutoffs : ∀ bound ∈ bounds keyPrefix configured full past ++
        call.lapseBounds (lastGrant? keyPrefix configured full past),
        bound ≤ unixMilli request.now := by
      intro bound member
      have touched : call.touches keyPrefix configured full = true := by
        rw [Call.touches, Bool.and_eq_true]
        exact ⟨counted, decide_eq_true rfl⟩
      rw [Call.now_request]
      apply bounds_le fits
      rw [Call.bounds, if_pos touched, ← List.append_assoc]
      exact List.mem_append_left _ member
    rw [answer_of_tracks counted (tracks_after earlier distinct.before _) recent fits, own,
      answerFrom, if_pos counted, Except.ok.injEq,
      verdict_cut_iff (admittedOn_sorted recent) cutoffs]
    simp only [edge, true_implies]

/-! Two events under an hourly limit, and one more ten seconds later under another limit. -/

def twiceAnHour : Limit := { rate := 2, per := hour }

def tenAnHour : Limit := { rate := 10, per := hour }

def tenASecond : Limit := { rate := 10, per := second }

def mixedCalls (other : Limit) : List MemoryLimiter.Call :=
  [.allowWithLimit { now := 0 } "publish:alice" 2 twiceAnHour,
    .allowWithLimit { now := 10 * second } "publish:alice" 1 other]

def lastCall : MemoryLimiter.Call :=
  .allowWithLimit { now := 20 * second } "publish:alice" 1 twiceAnHour

def lastRequest : Request where
  charge := { now := 20 * second }
  key := "publish:alice"
  n := 1
  limit := twiceAnHour

def mixedScripts (other : Limit) : List RedisLimiter.Call :=
  [.allowWithLimit { now := 0 } "publish:alice" 2 twiceAnHour { nonce := "n1" },
    .allowWithLimit { now := 10 * second } "publish:alice" 1 other { nonce := "n2" }]

def lastScript : RedisLimiter.Call :=
  .allowWithLimit { now := 20 * second } "publish:alice" 1 twiceAnHour { nonce := "n3" }

theorem answered_from_window_hourly :
    (MemoryLimiter.serve {} ((MemoryLimiter.serve {}).after .empty (mixedCalls tenAnHour))
        lastCall).1 =
      .decided (MemoryLimiter.answerFrom lastRequest
        (within (lastRequest.now - lastRequest.per) lastRequest.per
          (MemoryLimiter.admittedOn {} "publish:alice" (mixedCalls tenAnHour)))) ∧
    (serve "parsec" {}
        ((serve "parsec" {}).after (fun _ => {}) (mixedScripts tenAnHour))
        lastScript).1 =
      answerFrom lastRequest
        (since (unixMilli lastRequest.now - windowMs twiceAnHour + 1)
          (admittedOn {} "publish:alice"
            ((serve "parsec" {}).past (fun _ => {}) (mixedScripts tenAnHour)))) := by
  constructor
  · apply ((answered_from_window_iff {} "parsec").1 (mixedCalls tenAnHour) lastCall lastRequest
      (by decide) rfl).mpr
    intro _
    left
    decide +kernel
  · apply ((answered_from_window_iff {} "parsec").2 (mixedScripts tenAnHour) lastScript
      (by decide) (by decide) (by decide +kernel)).mpr
    intro _
    decide +kernel

def widest : Limit :=
  RateLimits.widestLimit (RateLimits.normalize { publish := twiceAnHour, subscribe := tenASecond })

/-- The same events are admitted, and the last call is granted or not: as the other limit has a
short window or a long one, in memory and in Redis, and as a sweep ran or not. -/
theorem same_window_decided_differently :
    (MemoryLimiter.admittedOn {} "publish:alice" (mixedCalls tenASecond) =
        MemoryLimiter.admittedOn {} "publish:alice" (mixedCalls tenAnHour) ∧
      (MemoryLimiter.serve {} ((MemoryLimiter.serve {}).after .empty (mixedCalls tenASecond))
        lastCall).1.allowed = true ∧
      (MemoryLimiter.serve {} ((MemoryLimiter.serve {}).after .empty (mixedCalls tenAnHour))
        lastCall).1.allowed = false) ∧
    (admittedOn {} "publish:alice"
          ((serve "parsec" {}).past (fun _ => {}) (mixedScripts tenASecond)) =
        admittedOn {} "publish:alice"
          ((serve "parsec" {}).past (fun _ => {}) (mixedScripts tenAnHour)) ∧
      granted (serve "parsec" {}
        ((serve "parsec" {}).after (fun _ => {}) (mixedScripts tenASecond))
        lastScript).1 = true ∧
      granted (serve "parsec" {}
        ((serve "parsec" {}).after (fun _ => {}) (mixedScripts tenAnHour))
        lastScript).1 = false) ∧
    (MemoryLimiter.serve widest ((MemoryLimiter.serve widest).after .empty
        ((mixedCalls tenAnHour).take 1 ++ [.sweep (10 * second)])) lastCall).1.allowed = true ∧
    (MemoryLimiter.serve widest ((MemoryLimiter.serve widest).after .empty
        ((mixedCalls tenAnHour).take 1)) lastCall).1.allowed = false := by
  decide +kernel

end Parsec.RateLimit
