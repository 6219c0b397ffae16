import Parsec.RateLimit.ExactWindow

/-! # Retrying after a refusal

A refusal says how long to wait. -/

namespace Parsec.RateLimit.MemoryLimiter

open Foundation SlidingWindow Auth

section Retries

variable {configured limit : Limit} {key : String} {calls between : List Call}
  {first retry : Call} {charge later : Charge} {decision : Decision}

def Untouched (configured : Limit) (key : String) (calls : List Call) : Prop :=
  ∀ call ∈ calls, ∀ request, call.request? configured = some request → request.key ≠ key

structure Refused (configured limit : Limit) (key : String) (calls : List Call) (first : Call)
    (charge : Charge) (decision : Decision) : Prop where
  asked : first.request? configured = some ⟨charge, key, 1, limit⟩
  answered : (serve configured ((serve configured).after .empty calls) first).1 =
    .decided (.ok decision)
  refused : decision.allowed = false

private theorem admittedOn_untouched (untouched : Untouched configured key between) :
    admittedOn configured key (calls ++ between) = admittedOn configured key calls := by
  induction between using List.reverseRecOn with
  | nil => rw [List.append_nil]
  | append_singleton between call induction =>
    have earlier := induction fun other member =>
      untouched other (List.mem_append_left [call] member)
    rw [← List.append_assoc]
    cases asked : call.request? configured with
    | none =>
      obtain ⟨now, rfl⟩ := Call.eq_sweep asked
      rw [admittedOn_sweep, earlier]
    | some request =>
      have elsewhere := untouched call (by simp) request asked
      rw [admittedOn_concat asked, Request.events_unchosen (by simpa using elsewhere),
        List.append_nil, earlier]

section

variable (refused : Refused configured limit key calls first charge decision)
include refused

theorem Refused.counted : Request.counted ⟨charge, key, 1, limit⟩ = true := by
  by_contra uncounted
  have free := answer_uncounted refused.asked (Bool.not_eq_true _ ▸ uncounted)
    ((serve configured).after .empty calls)
  rw [refused.answered] at free
  have denied := refused.refused
  cases live : charge.cancelled with
  | some error => simp [Request.uncountedOutcome, live] at free
  | none =>
    simp only [Request.uncountedOutcome, live, Answer.decided.injEq, Except.ok.injEq] at free
    rw [free] at denied
    cases denied

theorem Refused.bounds_concat :
    bounds configured key (calls ++ [first]) =
      bounds configured key calls ++ [charge.now - limit.normalize.per] := by
  simp [bounds, Call.bounds, refused.asked, refused.counted, Request.now, Request.per]

theorem Refused.cut :
    charge.now - limit.normalize.per ∈ bounds configured key (calls ++ [first]) := by
  rw [refused.bounds_concat]
  exact List.mem_append_right _ List.mem_cons_self

theorem Refused.verdict (ordered : Ordered (calls ++ [first])) :
    decision = MemoryLimiter.verdict ⟨charge, key, 1, limit⟩
      (((serve configured).after .empty (calls ++ [first])).buckets key) := by
  have earlier := (List.pairwise_append.mp ordered).1
  have answer := answer_eq earlier refused.asked refused.counted
  rw [refused.answered] at answer
  have unadmitted : admittedOn configured key (calls ++ [first]) =
      admittedOn configured key calls := by
    rw [admittedOn_concat refused.asked, refused.answered]
    simp [Request.events, Answer.allowed, refused.refused]
  rw [buckets_after ordered, unadmitted, refused.bounds_concat, ← kept_kept, kept_singleton]
  exact Except.ok.inj (Answer.decided.inj answer)

theorem Refused.bucket (ordered : Ordered (calls ++ [first])) :
    ∃ oldest newer,
      ((serve configured).after .empty (calls ++ [first])).buckets key = oldest :: newer ∧
        (oldest :: newer).Pairwise (· ≤ ·) ∧ ceiling limit ≤ (oldest :: newer).length ∧
        oldest = charge.now + decision.reset - limit.normalize.per := by
  have decided := refused.verdict ordered
  have limited := (Request.counted_iff.mp refused.counted).2
  have full : ¬ (MemoryLimiter.verdict ⟨charge, key, 1, limit⟩
      (((serve configured).after .empty (calls ++ [first])).buckets key)).allowed = true := by
    rw [← decided, refused.refused]
    exact Bool.false_ne_true
  have sorted : (((serve configured).after .empty (calls ++ [first])).buckets key).Pairwise
      (· ≤ ·) := by
    rw [buckets_after ordered]
    exact kept_sorted (admittedOn_sorted ordered key)
  have inside : ∀ event ∈ ((serve configured).after .empty (calls ++ [first])).buckets key,
      charge.now - limit.normalize.per ≤ event := by
    intro event member
    rw [buckets_after ordered] at member
    exact (mem_kept.mp member).2 _ refused.cut
  rw [verdict_allowed_iff] at full
  cases bucket : ((serve configured).after .empty (calls ++ [first])).buckets key with
  | nil =>
    -- an empty bucket has room for one event
    have room := limit.unlimited_eq_false_iff.mp limited
    rw [bucket] at full
    rw [ceiling_eq_max limited] at full
    simp only [Request.units_eq_max, List.length_nil] at full
    omega
  | cons oldest newer =>
    rw [bucket] at full sorted inside decided
    refine ⟨oldest, newer, rfl, sorted, ?_, ?_⟩
    · simp only [Request.units_eq_max] at full
      omega
    · have reset : decision.reset = max (oldest + limit.normalize.per - charge.now) 0 := by
        rw [decided, MemoryLimiter.verdict, if_pos (by omega)]
        rfl
      have old := inside oldest List.mem_cons_self
      omega

theorem Refused.own_limit (plain : first.isPlain = true) : limit = configured.normalize := by
  have asked := refused.asked
  cases first with
  | allowWithLimit charge key n limit => cases plain
  | sweep now => cases asked
  | allow charge key n =>
    cases asked
    rfl

theorem Refused.length_bucket (ordered : Ordered (calls ++ [first]))
    (plain : ∀ call ∈ calls ++ [first], call.isPlain = true) :
    ((((serve configured).after .empty (calls ++ [first])).buckets key).length : Int) ≤
      ceiling limit := by
  have own := refused.own_limit (plain first (by simp))
  have limited : configured.unlimited = false := by
    have counted := (Request.counted_iff.mp refused.counted).2
    rw [own] at counted
    simpa using counted
  have cut := refused.cut
  rw [own, configured.normalize_normalize] at cut
  have late : ∀ event ∈ admittedOn configured key (calls ++ [first]), event ≤ charge.now := by
    intro event member
    rcases exists_of_mem_admitted_past member with ⟨call, called, rfl⟩
    have last : charge.now = first.now := Call.now_eq refused.asked
    rw [last]
    rcases List.mem_append.mp called with earlier | same
    · exact (List.pairwise_append.mp ordered).2.2 call earlier first (by simp)
    · rw [List.mem_singleton.mp same]
  have window := within_calls plain ordered limited key (charge.now - configured.normalize.per)
  rw [within_ending _ late] at window
  have part : (kept (bounds configured key (calls ++ [first]))
      (admittedOn configured key (calls ++ [first]))).length ≤
        (since (charge.now - configured.normalize.per)
          (admittedOn configured key (calls ++ [first]))).length := by
    apply List.Sublist.length_le
    apply List.monotone_filter_right
    intro event member
    exact decide_eq_true (of_decide_eq_true (List.all_eq_true.mp member _ cut))
  rw [buckets_after ordered, own, ceiling_normalize, ceiling_eq_max limited]
  omega

end

theorem buckets_untouched (ordered : Ordered (calls ++ between))
    (untouched : Untouched configured key between) :
    ((serve configured).after .empty (calls ++ between)).buckets key =
      kept (bounds configured key between)
        (((serve configured).after .empty calls).buckets key) := by
  have cutoffs : bounds configured key (calls ++ between) =
      bounds configured key calls ++ bounds configured key between := by
    simp [bounds]
  rw [buckets_after ordered, buckets_after (List.pairwise_append.mp ordered).1,
    admittedOn_untouched untouched, cutoffs, kept_kept]

theorem bounds_untouched (untouched : Untouched configured key between)
    (unswept : ∀ call ∈ between, call.isSweep = false) : bounds configured key between = [] := by
  apply List.flatMap_eq_nil_iff.mpr
  intro call member
  cases asked : call.request? configured with
  | none =>
    obtain ⟨now, rfl⟩ := Call.eq_sweep asked
    cases unswept _ member
  | some request =>
    have elsewhere := untouched call member request asked
    simp [Call.bounds, asked, elsewhere]

private theorem bounds_plain_le {now : Int} (plain : ∀ call ∈ calls, call.isPlain = true)
    (sooner : ∀ call ∈ calls, call.now ≤ now) :
    ∀ cutoff ∈ bounds configured key calls, cutoff ≤ now - configured.normalize.per := by
  intro cutoff member
  rcases List.mem_flatMap.mp member with ⟨call, called, cut⟩
  have early := sooner call called
  rw [Call.bounds_plain (plain call called) cut]
  omega

theorem retry_allowed (again : retry.request? configured = some ⟨later, key, 1, limit⟩)
    (ordered : Ordered calls) (live : later.cancelled = none)
    (limited : limit.unlimited = false) :
    (serve configured ((serve configured).after .empty calls) retry).1.allowed = true ↔
      ((since (later.now - limit.normalize.per)
        (((serve configured).after .empty calls).buckets key)).length : Int) < ceiling limit := by
  have counted : Request.counted ⟨later, key, 1, limit⟩ = true :=
    Request.counted_iff.mpr ⟨live, limited⟩
  rw [answer_eq ordered again counted, buckets_after ordered]
  change (verdict _ _).allowed = true ↔ _
  rw [verdict_allowed_iff]
  simp only [Request.units_eq_max, Request.now, Request.per]
  omega

private theorem since_kept_of_le {cutoffs events : List Int} {bound : Int}
    (early : ∀ cutoff ∈ cutoffs, cutoff ≤ bound) :
    since bound (kept cutoffs events) = since bound events :=
  since_kept_eq_iff.mpr fun _ _ inside cutoff member => le_trans (early cutoff member) inside

/-- A refused charge of one event is tried again with no other charge on the key in between. The
retry is allowed exactly if fewer events than the peak are left in the bucket. Without a sweep
none is gone up to the end of the advised time; under one limit the retry is allowed after it. -/
theorem retry_allowed_iff
    (refused : Refused configured limit key calls first charge decision)
    (again : retry.request? configured = some ⟨later, key, 1, limit⟩)
    (live : later.cancelled = none) (untouched : Untouched configured key between)
    (ordered : Ordered (calls ++ [first] ++ between ++ [retry])) :
    let full := ((serve configured).after .empty (calls ++ [first])).buckets key
    let answer :=
      (serve configured ((serve configured).after .empty (calls ++ [first] ++ between)) retry).1
    (answer.allowed = true ↔
        ((since (later.now - limit.normalize.per)
          (kept (bounds configured key between) full)).length : Int) < ceiling limit) ∧
      ((∀ call ∈ between, call.isSweep = false) →
        later.now ≤ charge.now + decision.reset → answer.allowed = false) ∧
      ((∀ call ∈ calls ++ [first] ++ between ++ [retry], call.isPlain = true) →
        (answer.allowed = true ↔ charge.now + decision.reset < later.now)) := by
  intro full answer
  have limited := (Request.counted_iff.mp refused.counted).2
  have before : Ordered (calls ++ [first] ++ between) := (List.pairwise_append.mp ordered).1
  have start : Ordered (calls ++ [first]) := (List.pairwise_append.mp before).1
  have allowed : answer.allowed = true ↔
      ((since (later.now - limit.normalize.per)
        (kept (bounds configured key between) full)).length : Int) < ceiling limit := by
    rw [← buckets_untouched before untouched]
    exact retry_allowed again before live limited
  rcases refused.bucket start with ⟨oldest, newer, bucket, sorted, crowded, advised⟩
  have fullBucket : full = oldest :: newer := bucket
  refine ⟨allowed, ?_, ?_⟩
  · intro unswept early
    rw [← Bool.not_eq_true, allowed, bounds_untouched untouched unswept, kept_nil, fullBucket]
    have whole : ¬ (since (later.now - limit.normalize.per) (oldest :: newer)).length <
        (oldest :: newer).length := by
      rw [length_since_lt_iff sorted]
      omega
    omega
  · intro plain
    have beforePlain : ∀ call ∈ calls ++ [first], call.isPlain = true := by
      intro call member
      apply plain
      rw [List.append_assoc]
      exact List.mem_append_left _ member
    have own := refused.own_limit (plain first (by simp))
    have roomy := refused.length_bucket start beforePlain
    rw [bucket] at roomy
    have exactly : ceiling limit = ((oldest :: newer).length : Int) := le_antisymm crowded roomy
    have early : ∀ cutoff ∈ bounds configured key between,
        cutoff ≤ later.now - limit.normalize.per := by
      have now : later.now = retry.now := Call.now_eq again
      rw [own, configured.normalize_normalize, now]
      apply bounds_plain_le
      · exact fun call called => plain call (by simp [called])
      · exact fun call called => (List.pairwise_append.mp ordered).2.2 call
          (List.mem_append_right _ called) retry (by simp)
    rw [allowed, since_kept_of_le early, fullBucket, exactly, Nat.cast_lt,
      length_since_lt_iff sorted]
    omega

end Retries

def spentAtOnce : List Call := [.allow { now := 0 } "publish:alice" 2]

def refusedAlice : Call := .allow { now := second } "publish:alice" 1

theorem refusedAlice_refused :
    Refused twiceAMinute twiceAMinute.normalize "publish:alice" spentAtOnce refusedAlice
      { now := second } { allowed := false, remaining := 0, reset := minute - second } where
  asked := rfl
  answered := by rfl
  refused := rfl

theorem retry_after_advice :
    (serve twiceAMinute ((serve twiceAMinute).after .empty (spentAtOnce ++ [refusedAlice] ++ []))
      (.allow { now := minute + 1 } "publish:alice" 1)).1.allowed = true := by
  have again : (Call.allow { now := minute + 1 } "publish:alice" 1).request? twiceAMinute =
      some ⟨{ now := minute + 1 }, "publish:alice", 1, twiceAMinute.normalize⟩ := rfl
  have untouched : Untouched twiceAMinute "publish:alice" [] := by
    intro call member
    cases member
  have retried := retry_allowed_iff refusedAlice_refused again rfl untouched (by decide)
  exact (retried.2.2 (by decide)).mpr (by decide)

/-- When the advised time is over the retry is refused. -/
theorem retry_at_advice_refused :
    (serve twiceAMinute ((serve twiceAMinute).after .empty spentAtOnce) refusedAlice).1.outcome? =
        some (.ok { allowed := false, remaining := 0, reset := minute - second }) ∧
      (serve twiceAMinute ((serve twiceAMinute).after .empty (spentAtOnce ++ [refusedAlice]))
        (.allow { now := second + (minute - second) } "publish:alice" 1)).1.outcome? =
          some (.ok { allowed := false, remaining := 0, reset := 0 }) := by
  constructor <;> rfl

end Parsec.RateLimit.MemoryLimiter
