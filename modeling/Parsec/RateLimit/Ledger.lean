import Parsec.Foundation.Calls
import Parsec.Foundation.SlidingWindow
import Parsec.RateLimit.Limiter

/-! # Ledgers of granted requests

What a limiter was asked and what it granted, and the times of the events it thereby admitted
on some keys. -/

namespace Parsec.Auth.Limit

open Foundation

variable (limit : Limit)

theorem rate_normalize : limit.normalize.rate = max limit.rate 0 := by
  simp only [normalize]
  split_ifs <;> omega

theorem per_nonneg : 0 ≤ limit.normalize.per := by
  have positive : (0 : Int) < second := by decide
  simp only [normalize]
  split_ifs <;> omega

theorem unlimited_iff : limit.unlimited = true ↔ limit.rate ≤ 0 := by
  rw [unlimited, decide_eq_true_iff, rate_normalize]
  omega

theorem unlimited_eq_false_iff : limit.unlimited = false ↔ 0 < limit.rate := by
  rw [← Bool.not_eq_true, unlimited_iff, not_le]

variable {limit : Limit}

theorem per_pos (limited : limit.unlimited = false) : 0 < limit.normalize.per := by
  have positive : (0 : Int) < second := by decide
  rw [unlimited_eq_false_iff] at limited
  simp only [normalize]
  split_ifs <;> omega

theorem burst_normalize : limit.normalize.burst = max limit.burst limit.normalize.rate := by
  simp only [normalize]
  split_ifs <;> omega

private theorem normalize_normal (rate : 0 ≤ limit.rate) (per : 0 ≤ limit.per)
    (window : 0 < limit.rate → limit.per ≠ 0) (burst : limit.rate ≤ limit.burst) :
    limit.normalize = limit := by
  have peak : ¬ limit.burst < 0 := by omega
  have same : (if limit.burst = 0 then limit.rate else limit.burst) = limit.burst := by
    split_ifs <;> omega
  have kept : ¬ (0 < limit.rate ∧ limit.per = 0) := fun both => window both.1 both.2
  simp only [normalize, if_neg (not_lt.mpr rate), if_neg (not_lt.mpr per), if_neg peak, same,
    if_neg (not_lt.mpr burst), if_neg kept]

@[simp] theorem normalize_normalize : limit.normalize.normalize = limit.normalize := by
  apply normalize_normal
  · rw [rate_normalize]
    exact le_max_right limit.rate 0
  · exact limit.per_nonneg
  · intro positive
    rw [rate_normalize] at positive
    exact (per_pos (limit.unlimited_eq_false_iff.mpr (by omega))).ne'
  · rw [burst_normalize]
    exact le_max_right ..

@[simp] theorem unlimited_normalize : limit.normalize.unlimited = limit.unlimited := by
  rw [unlimited, normalize_normalize, unlimited]

end Parsec.Auth.Limit

namespace Parsec.RateLimit

open Foundation SlidingWindow Auth

@[simp] theorem ceiling_normalize (limit : Limit) : ceiling limit.normalize = ceiling limit := by
  rw [ceiling, Limit.normalize_normalize, ceiling]

theorem ceiling_eq_max {limit : Limit} (limited : limit.unlimited = false) :
    ceiling limit = max limit.rate limit.burst := by
  have positive := limit.unlimited_eq_false_iff.mp limited
  have peak : limit.normalize.burst = max limit.burst (max limit.rate 0) := by
    rw [limit.burst_normalize, limit.rate_normalize]
  rw [ceiling, limit.rate_normalize, peak]
  split_ifs <;> omega

structure Request where
  charge : Charge
  key : String
  n : Int
  limit : Limit

namespace Request

variable (request : Request)

def now : Int := request.charge.now

def per : Int := request.limit.normalize.per

def units : Int := if request.n ≤ 0 then 1 else request.n

def counted : Bool := request.charge.cancelled.isNone && !request.limit.unlimited

def uncountedOutcome : Except String Decision :=
  match request.charge.cancelled with
  | some error => .error error
  | none => .ok .unlimited

def events (chosen : String → Bool) (granted : Bool) : List Int :=
  if granted && request.counted && chosen request.key then
    List.replicate request.units.toNat request.now
  else []

theorem units_eq_max : request.units = max request.n 1 := by
  unfold units
  split_ifs <;> omega

theorem one_le_units : 1 ≤ request.units := by
  rw [units_eq_max]
  exact le_max_right request.n 1

variable {request}

theorem counted_iff :
    request.counted = true ↔ request.charge.cancelled = none ∧ request.limit.unlimited = false := by
  simp [counted]

variable {chosen : String → Bool}

theorem eq_now_of_mem_events {granted : Bool} {event : Int}
    (member : event ∈ request.events chosen granted) : event = request.now := by
  unfold events at member
  split at member
  · exact List.eq_of_mem_replicate member
  · cases member

theorem events_uncounted (uncounted : request.counted = false) (chosen : String → Bool)
    (granted : Bool) : request.events chosen granted = [] := by
  simp [events, uncounted]

theorem events_unchosen (unchosen : chosen request.key = false) (granted : Bool) :
    request.events chosen granted = [] := by
  simp [events, unchosen]

end Request

abbrev Ledger := List (Request × Bool)

def admitted (chosen : String → Bool) : Ledger → List Int
  | [] => []
  | (request, granted) :: earlier => admitted chosen earlier ++ request.events chosen granted

def Ledger.Ordered (ledger : Ledger) : Prop :=
  ledger.Pairwise fun later earlier => earlier.1.now ≤ later.1.now

variable {ledger : Ledger} {chosen : String → Bool}

theorem exists_of_mem_admitted {event : Int} (member : event ∈ admitted chosen ledger) :
    ∃ entry ∈ ledger, entry.1.now = event := by
  induction ledger with
  | nil => cases member
  | cons entry earlier induction =>
    rcases List.mem_append.mp member with before | added
    · obtain ⟨found, inside, same⟩ := induction before
      exact ⟨found, List.mem_cons_of_mem entry inside, same⟩
    · exact ⟨entry, List.mem_cons_self, (Request.eq_now_of_mem_events added).symm⟩

variable {first second : String → Bool}

theorem countP_admitted_or (apart : ∀ key, (first key && second key) = false) (counts : Int → Bool)
    (ledger : Ledger) :
    (admitted (fun key => first key || second key) ledger).countP counts =
      (admitted first ledger).countP counts + (admitted second ledger).countP counts := by
  induction ledger with
  | nil => rfl
  | cons entry earlier induction =>
    obtain ⟨request, granted⟩ := entry
    have own : (request.events (fun key => first key || second key) granted).countP counts =
        (request.events first granted).countP counts +
          (request.events second granted).countP counts := by
      cases one : first request.key <;> cases two : second request.key <;> simp_all [Request.events]
    simp only [admitted, List.countP_append, induction, own]
    omega

theorem since_admitted_or (apart : ∀ key, (first key && second key) = false) {time : Int → Int}
    {bound : Int} (early : ∀ event ∈ admitted second ledger, time event < bound) :
    since bound ((admitted (fun key => first key || second key) ledger).map time) =
      since bound ((admitted first ledger).map time) := by
  induction ledger with
  | nil => rfl
  | cons entry earlier induction =>
    obtain ⟨request, granted⟩ := entry
    have own : since bound ((request.events (fun key => first key || second key) granted).map
        time) = since bound ((request.events first granted).map time) := by
      cases two : second request.key with
      | false => simp [Request.events, two]
      | true =>
        have one : first request.key = false := by simpa [two] using apart request.key
        have same : request.events (fun key => first key || second key) granted =
            request.events second granted := by
          simp [Request.events, one]
        rw [Request.events_unchosen one, same]
        apply List.filter_eq_nil_iff.mpr
        intro event member
        obtain ⟨instant, added, rfl⟩ := List.mem_map.mp member
        simpa using early instant (List.mem_append_right _ added)
    have rest := induction fun event member => early event (List.mem_append_left _ member)
    unfold since at own rest ⊢
    simp only [admitted, List.map_append, List.filter_append, own, rest]

theorem admitted_sorted (ordered : ledger.Ordered) : (admitted chosen ledger).Pairwise (· ≤ ·) := by
  induction ledger with
  | nil => exact .nil
  | cons entry earlier induction =>
    rw [Ledger.Ordered, List.pairwise_cons] at ordered
    rw [admitted, List.pairwise_append]
    refine ⟨induction ordered.2, ?_, ?_⟩
    · unfold Request.events
      split
      · exact List.pairwise_replicate.mpr (.inr le_rfl)
      · exact .nil
    · intro before old event added
      obtain ⟨found, inside, rfl⟩ := exists_of_mem_admitted old
      rw [Request.eq_now_of_mem_events added]
      exact ordered.1 found inside

end Parsec.RateLimit
