import Mathlib

/-! # The sliding minute counter

A ring of cells, each with the minute it counts. -/

namespace Parsec.Telemetry

/-- The minute of a time in seconds; Go's division truncates. -/
def minute (t : Int) : Int := t.tdiv 60

structure RingWindow (n : Nat) where
  cells : Fin n → Int
  stamp : Fin n → Int

def newRingWindow (n : Nat) : RingWindow n where
  cells := fun _ => 0
  stamp := fun _ => 0

def cellIndex (n : Nat) (min : Int) : Option (Fin n) :=
  if h : 0 ≤ min.tmod n ∧ (min.tmod n).toNat < n then some ⟨(min.tmod n).toNat, h.2⟩ else none

namespace RingWindow

variable {n : Nat}

def reset (r : RingWindow n) (idx : Fin n) (min : Int) : RingWindow n :=
  if r.stamp idx = min then r
  else { cells := Function.update r.cells idx 0, stamp := Function.update r.stamp idx min }

def add (r : RingWindow n) (t : Int) : Option (RingWindow n) :=
  (cellIndex n (minute t)).map fun idx =>
    let r := r.reset idx (minute t)
    { r with cells := Function.update r.cells idx (r.cells idx + 1) }

def sum (r : RingWindow n) (now : Int) : Int :=
  let cutoff := minute now - n + 1
  ∑ i, if cutoff ≤ r.stamp i then r.cells i else 0

/-- No event is `n` or more minutes older than the newest one added so far. -/
def Timely (n : Nat) (events : List Int) : Prop :=
  ∀ added t rest, events = added ++ t :: rest →
    ∀ newest ∈ added ++ [t], minute newest - minute t < n

structure Tracks (events : List Int) (r : RingWindow n) : Prop where
  newest : ∀ t ∈ events, ∀ i, cellIndex n (minute t) = some i → minute t ≤ r.stamp i ∧
    ∃ newest ∈ events, cellIndex n (minute newest) = some i ∧ minute newest = r.stamp i
  counts : ∀ i, r.cells i =
    events.countP fun t => cellIndex n (minute t) = some i ∧ minute t = r.stamp i

variable {min : Int} {i : Fin n}

theorem cellIndex_eq_some : cellIndex n min = some i ↔ min.tmod n = i := by
  unfold cellIndex
  split_ifs with inside
  · rw [Option.some_inj, Fin.ext_iff]
    change (min.tmod n).toNat = (i : Nat) ↔ _
    omega
  · refine iff_of_false nofun ?_
    omega

theorem eq_of_cellIndex {other : Int} (first : cellIndex n min = some i)
    (second : cellIndex n other = some i) (order : min ≤ other) (close : other - min < n) :
    min = other := by
  rw [cellIndex_eq_some, Int.tmod_def] at first second
  have divides : (n : Int) ∣ other - min := ⟨other.tdiv n - min.tdiv n, by linarith⟩
  have same := Int.eq_zero_of_abs_lt_dvd divides (by rw [abs_of_nonneg] <;> omega)
  omega

section Reset

variable (r : RingWindow n) (idx : Fin n) (min : Int)

private theorem stamp_reset (i : Fin n) :
    (r.reset idx min).stamp i = if i = idx then min else r.stamp i := by
  unfold reset
  split_ifs with same here here <;> simp_all

theorem cells_reset (i : Fin n) :
    (r.reset idx min).cells i = if i = idx ∧ r.stamp idx ≠ min then 0 else r.cells i := by
  unfold reset
  split_ifs <;> simp_all

end Reset

variable {events : List Int} {r : RingWindow n} {next : RingWindow n}

theorem Tracks.add (tracks : Tracks events r) {t : Int}
    (close : ∀ newest ∈ events, minute newest - minute t < n) (added : r.add t = some next) :
    Tracks (events ++ [t]) next := by
  rw [RingWindow.add, Option.map_eq_some_iff] at added
  rcases added with ⟨idx, found, rfl⟩
  -- the events of the cell are of its minute or older, and that minute is not after the new one
  have older : ∀ other ∈ events, cellIndex n (minute other) = some idx →
      minute other ≤ r.stamp idx ∧ r.stamp idx ≤ minute t := by
    intro other listed same
    rcases tracks.newest other listed idx same with ⟨below, newest, member, held, stamped⟩
    refine ⟨below, ?_⟩
    by_contra beyond
    have := eq_of_cellIndex found held (by omega) (close newest member)
    omega
  constructor
  · intro other listed i held
    simp only [stamp_reset]
    by_cases here : i = idx
    · subst here
      rw [if_pos rfl]
      refine ⟨?_, t, by simp, found, rfl⟩
      rcases List.mem_append.mp listed with earlier | last
      · exact (older other earlier held).1.trans (older other earlier held).2
      · rw [List.mem_singleton.mp last]
    · rw [if_neg here]
      rcases List.mem_append.mp listed with earlier | last
      · rcases tracks.newest other earlier i held with ⟨below, newest, member, rest⟩
        exact ⟨below, newest, by simp [member], rest⟩
      · rw [List.mem_singleton.mp last, found] at held
        exact absurd (Option.some.inj held).symm here
  · intro i
    by_cases here : i = idx
    · subst here
      simp only [stamp_reset, cells_reset, Function.update_self, List.countP_append,
        List.countP_singleton, found, true_and, if_true, decide_true]
      by_cases kept : r.stamp i = minute t
      · rw [if_neg (not_not.mpr kept), tracks.counts i, kept, Nat.cast_add, Nat.cast_one]
      · have none : events.countP (fun other =>
            cellIndex n (minute other) = some i ∧ minute other = minute t) = 0 := by
          apply List.countP_eq_zero.mpr
          simp only [decide_eq_true_iff]
          intro other listed held
          have := older other listed held.1
          omega
        rw [if_pos kept, none, Nat.zero_add, Nat.cast_one, zero_add]
    · have apart : cellIndex n (minute t) ≠ some i := by
        rw [found]
        exact fun same => here (Option.some.inj same).symm
      simp [stamp_reset, cells_reset, here, apart, tracks.counts i]

theorem Tracks.sum_eq (tracks : Tracks events r)
    (placed : ∀ t ∈ events, cellIndex n (minute t) ≠ none) {now : Int}
    (later : ∀ t ∈ events, minute t ≤ minute now) :
    r.sum now = events.countP fun t => minute now - n < minute t := by
  have cell : ∀ i, (if minute now - n + 1 ≤ r.stamp i then r.cells i else 0) =
      (events.countP fun t =>
        minute now - n < minute t ∧ cellIndex n (minute t) = some i : Nat) := by
    intro i
    rw [tracks.counts i]
    split_ifs with recent
    · congr 1
      apply List.countP_congr
      intro t listed
      simp only [decide_eq_true_iff]
      constructor
      · intro ⟨held, same⟩
        exact ⟨by omega, held⟩
      · intro ⟨inside, held⟩
        rcases tracks.newest t listed i held with ⟨below, newest, member, other, stamped⟩
        have := later newest member
        have := eq_of_cellIndex held other (by omega) (by omega)
        exact ⟨held, by omega⟩
    · symm
      rw [Int.natCast_eq_zero, List.countP_eq_zero]
      simp only [decide_eq_true_iff]
      intro t listed ⟨inside, held⟩
      have := (tracks.newest t listed i held).1
      omega
  have total : ∀ list : List Int, (∀ t ∈ list, cellIndex n (minute t) ≠ none) →
      ∑ i, (list.countP fun t => minute now - n < minute t ∧ cellIndex n (minute t) = some i) =
        list.countP fun t => minute now - n < minute t := by
    intro list placed
    induction list with
    | nil => simp
    | cons t rest induction =>
      rcases Option.ne_none_iff_exists'.mp (placed t List.mem_cons_self) with ⟨idx, found⟩
      simp only [List.countP_cons, Finset.sum_add_distrib, found, Option.some_inj,
        induction fun other listed => placed other (List.mem_cons_of_mem _ listed)]
      by_cases inside : minute now - n < minute t <;> simp [inside]
  unfold sum
  simp only [cell]
  rw [← Nat.cast_sum, total events placed]

def addAll (r : RingWindow n) (events : List Int) : Option (RingWindow n) :=
  events.foldlM add r

theorem placed_of_add {t : Int} (added : r.add t = some next) : cellIndex n (minute t) ≠ none := by
  intro missing
  simp [add, missing] at added

theorem tracks_addAll (timely : Timely n events)
    (added : (newRingWindow n).addAll events = some r) :
    Tracks events r ∧ ∀ t ∈ events, cellIndex n (minute t) ≠ none := by
  induction events using List.reverseRecOn generalizing r with
  | nil =>
    cases added
    exact ⟨⟨nofun, fun _ => rfl⟩, nofun⟩
  | append_singleton events t induction =>
    simp only [addAll, List.foldlM_append, List.foldlM_cons, List.foldlM_nil, bind_pure] at added
    rcases Option.bind_eq_some_iff.mp added with ⟨before, earlier, last⟩
    have prior : Timely n events := by
      intro added u rest split
      exact timely added u (rest ++ [t]) (by simp [split])
    rcases induction prior earlier with ⟨tracks, placed⟩
    refine ⟨tracks.add (fun newest listed => ?_) last, ?_⟩
    · exact timely events t [] rfl newest (by simp [listed])
    · intro u listed
      rcases List.mem_append.mp listed with old | new
      · exact placed u old
      · rw [List.mem_singleton.mp new]
        exact placed_of_add last

theorem timely_of_pairwise (positive : 0 < n)
    (close : events.Pairwise fun earlier t => minute earlier - minute t < n) : Timely n events := by
  rintro added t rest rfl newest listed
  rcases List.mem_append.mp listed with earlier | last
  · exact (List.pairwise_append.mp close).2.2 newest earlier t List.mem_cons_self
  · rw [List.mem_singleton.mp last]
    omega

theorem Timely.positive (timely : Timely n events) : ∀ t ∈ events, 0 < n := by
  intro t listed
  rcases List.append_of_mem listed with ⟨added, rest, split⟩
  have := timely added t rest split t (by simp)
  omega

private theorem exists_addAll (sinceEpoch : ∀ t ∈ events, 0 ≤ t) (positive : ∀ t ∈ events, 0 < n)
    (r : RingWindow n) : ∃ after, r.addAll events = some after := by
  induction events generalizing r with
  | nil => exact ⟨r, rfl⟩
  | cons t rest induction =>
    have ⟨nonneg, sinceEpoch⟩ := List.forall_mem_cons.mp sinceEpoch
    have ⟨cells, positive⟩ := List.forall_mem_cons.mp positive
    have low : 0 ≤ (minute t).tmod n := Int.tmod_nonneg _ (Int.tdiv_nonneg nonneg (by decide))
    have high : (minute t).tmod n < n := Int.tmod_lt_of_pos _ (by omega)
    have placed : cellIndex n (minute t) = some ⟨((minute t).tmod n).toNat, by omega⟩ :=
      dif_pos ⟨low, by omega⟩
    rcases induction sinceEpoch positive _ with ⟨after, added⟩
    refine ⟨after, ?_⟩
    rw [addAll, List.foldlM_cons, add, placed]
    exact added

theorem minute_mono {earlier later : Int} (order : earlier ≤ later) :
    minute earlier ≤ minute later := Int.tdiv_le_tdiv (by decide) order

/-- After events since the epoch, none of which is a whole window older than the newest, the sum
is the number of events of the last `n` minutes. -/
theorem ring_window_exact {events : List Int} (sinceEpoch : ∀ t ∈ events, 0 ≤ t)
    (timely : Timely n events) :
    ∃ r, (newRingWindow n).addAll events = some r ∧ ∀ now, (∀ t ∈ events, t ≤ now) →
      r.sum now = events.countP fun t => minute now - n < minute t ∧ minute t ≤ minute now := by
  rcases exists_addAll sinceEpoch timely.positive (newRingWindow n) with ⟨r, added⟩
  refine ⟨r, added, ?_⟩
  intro now later
  rcases tracks_addAll timely added with ⟨tracks, placed⟩
  rw [tracks.sum_eq placed fun t listed => minute_mono (later t listed)]
  congr 1
  apply List.countP_congr
  intro t listed
  simp [minute_mono (later t listed)]

/-- An event a whole window back takes the cell of the newer one. -/
example : ((newRingWindow 60).addAll [3658, 59]).map (·.sum 3658) = some 0 := by decide +kernel

theorem late_event_counted :
    ∃ r, (newRingWindow 2).addAll [119, 30, 130] = some r ∧ ∀ now,
      (∀ t ∈ [119, 30, 130], t ≤ now) → r.sum now =
        [119, 30, 130].countP fun t => minute now - 2 < minute t ∧ minute t ≤ minute now := by
  exact ring_window_exact (by decide) (timely_of_pairwise (by decide) (by decide))

end RingWindow

structure EnvelopeCounters where
  byAspect : String → Nat
  window : RingWindow 60

def newEnvelopeCounters : EnvelopeCounters where
  byAspect := fun _ => 0
  window := newRingWindow 60

structure EnvelopeStats where
  ratePerSecond : ℚ
  byAspect : String → Nat

namespace EnvelopeCounters

def observe (e : EnvelopeCounters) (t : Int) (aspect : String) : Option EnvelopeCounters :=
  (e.window.add t).map fun window =>
    { window := window
      byAspect := Function.update e.byAspect aspect (e.byAspect aspect + 1) }

def snapshot (e : EnvelopeCounters) (now : Int) : EnvelopeStats where
  ratePerSecond := e.window.sum now / 60
  byAspect := e.byAspect

def observeAll (e : EnvelopeCounters) (observations : List (Int × String)) :
    Option EnvelopeCounters :=
  observations.foldlM (fun e observation => e.observe observation.1 observation.2) e

theorem window_observeAll {observations : List (Int × String)} {e after : EnvelopeCounters}
    (observed : e.observeAll observations = some after) :
    e.window.addAll (observations.map Prod.fst) = some after.window := by
  induction observations generalizing e with
  | nil =>
    cases observed
    rfl
  | cons observation rest induction =>
    rcases Option.bind_eq_some_iff.mp observed with ⟨next, first, observed⟩
    rcases Option.map_eq_some_iff.mp first with ⟨window, added, rfl⟩
    rw [List.map_cons, RingWindow.addAll, List.foldlM_cons, added]
    exact induction observed

/-- The envelopes of the last two minutes alone make up the rate just when all the others are at
least sixty minutes back. -/
theorem rate_covers_last_minute_iff {observations : List (Int × String)}
    (ordered : (observations.map Prod.fst).Pairwise (· ≤ ·)) {counters : EnvelopeCounters}
    (observed : newEnvelopeCounters.observeAll observations = some counters) {now : Int}
    (later : ∀ observation ∈ observations, observation.1 ≤ now) :
    (counters.snapshot now).ratePerSecond =
        ((observations.countP fun observation => now - observation.1 < 120 : Nat) : ℚ) / 60 ↔
      ∀ observation ∈ observations, 120 ≤ now - observation.1 →
        minute observation.1 ≤ minute now - 60 := by
  have timely : RingWindow.Timely 60 (observations.map Prod.fst) := by
    apply RingWindow.timely_of_pairwise (by decide)
    apply ordered.imp
    intro earlier t order
    have := RingWindow.minute_mono order
    omega
  rcases RingWindow.tracks_addAll timely (window_observeAll observed) with ⟨tracks, placed⟩
  have before : ∀ t ∈ observations.map Prod.fst, minute t ≤ minute now := by
    simpa using fun t aspect listed => RingWindow.minute_mono (later (t, aspect) listed)
  have sum : counters.window.sum now =
      observations.countP fun observation => minute now - 60 < minute observation.1 := by
    rw [tracks.sum_eq placed before, List.countP_map]
    rfl
  -- what is younger than two minutes is among what is counted
  have inside : ∀ observation : Int × String, now - observation.1 < 120 →
      minute now - 60 < minute observation.1 := by
    intro observation young
    have sign : Int.sign 60 = 1 := rfl
    simp only [minute, Int.tdiv_eq_ediv, sign]
    split_ifs <;> omega
  change ((counters.window.sum now : Int) : ℚ) / 60 = _ ↔ _
  rw [div_left_inj' (by decide), sum, Int.cast_natCast, Nat.cast_inj]
  simp only [List.countP_eq_length_filter]
  constructor
  · intro same observation listed old
    by_contra recent
    have kept : observations.filter (fun observation => decide (now - observation.1 < 120)) =
        observations.filter fun observation => decide (minute now - 60 < minute observation.1) := by
      apply (List.monotone_filter_right _ fun observation young => ?_).eq_of_length same.symm
      simpa using inside observation (by simpa using young)
    have counted : observation ∈ observations.filter
        fun observation => decide (minute now - 60 < minute observation.1) :=
      List.mem_filter.mpr ⟨listed, by simpa using recent⟩
    rw [← kept, List.mem_filter, decide_eq_true_iff] at counted
    omega
  · intro back
    congr 1
    apply List.filter_congr
    intro observation listed
    rw [decide_eq_decide]
    refine ⟨fun recent => ?_, inside observation⟩
    by_contra old
    have := back observation listed (by omega)
    omega

def oneOrder : EnvelopeCounters :=
  { byAspect := Function.update (fun _ => 0) "order.placed" 1
    window := ((newRingWindow 60).add 600).getD (newRingWindow 60) }

theorem fresh_envelope_rate : (oneOrder.snapshot 660).ratePerSecond = (1 : Nat) / 60 := by
  apply (@rate_covers_last_minute_iff [(600, "order.placed")] (by simp) oneOrder rfl 660
    (by decide)).mpr
  decide

/-- An envelope of ten minutes ago still counts. -/
theorem old_envelope_counted :
    (newEnvelopeCounters.observeAll [(600, "order.placed")]).map
      (fun counters => (counters.snapshot 1200).ratePerSecond) = some (1 / 60) := by
  decide +kernel

end EnvelopeCounters

end Parsec.Telemetry
