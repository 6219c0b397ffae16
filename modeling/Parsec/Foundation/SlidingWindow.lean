import Mathlib

/-! # Sliding windows

The times of admitted events, oldest first, of which pruning keeps those that lie before none
of its bounds. -/

namespace Parsec.Foundation.SlidingWindow

universe u

section Pruning

variable {Time : Type u} [LinearOrder Time]

def since (bound : Time) (events : List Time) : List Time :=
  events.filter (bound ≤ ·)

def kept (bounds events : List Time) : List Time :=
  events.filter fun event => bounds.all (· ≤ event)

/-- No event from `bound` on is before one of the bounds. -/
def Uncut (bounds : List Time) (bound : Time) (events : List Time) : Prop :=
  ∀ event ∈ events, bound ≤ event → ∀ earlier ∈ bounds, earlier ≤ event

instance (bounds : List Time) (bound : Time) (events : List Time) :
    Decidable (Uncut bounds bound events) :=
  inferInstanceAs (Decidable (∀ event ∈ events, bound ≤ event → ∀ earlier ∈ bounds, _))

@[simp] theorem kept_nil (events : List Time) : kept [] events = events := by
  simp [kept]

theorem kept_singleton (bound : Time) (events : List Time) :
    kept [bound] events = since bound events := by
  simp [kept, since]

variable {bounds events : List Time} {event : Time}

theorem mem_kept :
    event ∈ kept bounds events ↔ event ∈ events ∧ ∀ bound ∈ bounds, bound ≤ event := by
  simp [kept]

variable {bound : Time}

theorem mem_since : event ∈ since bound events ↔ event ∈ events ∧ bound ≤ event := by
  simp [since]

theorem kept_kept (first second events : List Time) :
    kept second (kept first events) = kept (first ++ second) events := by
  unfold kept
  rw [List.filter_filter]
  apply List.filter_congr
  intro event _
  rw [List.all_append, Bool.and_comm]

theorem kept_admit {further added : List Time}
    (later : ∀ event ∈ added, ∀ bound ∈ bounds ++ further, bound ≤ event) :
    kept further (kept bounds events) ++ added = kept (bounds ++ further) (events ++ added) := by
  have stay : kept (bounds ++ further) added = added := by
    apply List.filter_eq_self.mpr
    intro event member
    exact List.all_eq_true.mpr fun bound listed => decide_eq_true (later event member bound listed)
  rw [kept_kept]
  conv_lhs => rw [← stay]
  exact (List.filter_append ..).symm

theorem kept_sorted (sorted : events.Pairwise (· ≤ ·)) : (kept bounds events).Pairwise (· ≤ ·) :=
  sorted.sublist List.filter_sublist

theorem dropWhile_lt (sorted : events.Pairwise (· ≤ ·)) (bound : Time) :
    events.dropWhile (· < bound) = since bound events := by
  induction events with
  | nil => rfl
  | cons event events induction =>
    rw [List.pairwise_cons] at sorted
    by_cases early : event < bound
    · rw [List.dropWhile_cons_of_pos (by simpa using early), induction sorted.2]
      simp [since, early]
    · have all : since bound (event :: events) = event :: events := by
        apply List.filter_eq_self.mpr
        intro other member
        have first : event ≤ other := by
          rcases List.mem_cons.mp member with rfl | behind
          · exact le_rfl
          · exact sorted.1 other behind
        simpa using le_trans (not_lt.mp early) first
      rw [List.dropWhile_cons_of_neg (by simpa using early), all]

theorem length_since_lt_iff {oldest : Time} {newer : List Time}
    (sorted : (oldest :: newer).Pairwise (· ≤ ·)) :
    (since bound (oldest :: newer)).length < (oldest :: newer).length ↔ oldest < bound := by
  constructor
  · intro shorter
    by_contra inside
    have all : since bound (oldest :: newer) = oldest :: newer := by
      apply List.filter_eq_self.mpr
      intro event member
      have first : oldest ≤ event := by
        rcases List.mem_cons.mp member with rfl | behind
        · exact le_rfl
        · exact (List.pairwise_cons.mp sorted).1 event behind
      simpa using le_trans (not_lt.mp inside) first
    rw [all] at shorter
    exact lt_irrefl _ shorter
  · intro early
    have dropped : since bound (oldest :: newer) = since bound newer := by simp [since, early]
    rw [dropped, List.length_cons]
    exact Nat.lt_succ_of_le (List.length_filter_le ..)

theorem since_kept (bounds : List Time) (bound : Time) (events : List Time) :
    since bound (kept bounds events) = kept bounds (since bound events) := by
  simp only [since, kept, List.filter_filter, Bool.and_comm]

theorem since_kept_eq_iff :
    since bound (kept bounds events) = since bound events ↔ Uncut bounds bound events := by
  rw [since_kept, kept, List.filter_eq_self]
  simp only [mem_since, and_imp, List.all_eq_true, decide_eq_true_eq]
  rfl

theorem oldest_of_cut (sorted : events.Pairwise (· ≤ ·)) (cut : ¬ Uncut bounds bound events) :
    (since bound (kept bounds events)).length < (since bound events).length ∧
      ∃ oldest, (since bound events).head? = some oldest ∧ bound ≤ oldest ∧
        (∃ earlier ∈ bounds, oldest < earlier) ∧
        ∀ event ∈ since bound (kept bounds events), oldest < event := by
  have part : (since bound (kept bounds events)).Sublist (since bound events) := by
    rw [since_kept]
    exact List.filter_sublist
  constructor
  · apply lt_of_le_of_ne part.length_le
    intro same
    exact cut (since_kept_eq_iff.mp (part.eq_of_length same))
  · have lost : ∃ event ∈ since bound events, ∃ earlier ∈ bounds, event < earlier := by
      simp only [Uncut, not_forall, not_le] at cut
      obtain ⟨event, member, inside, earlier, listed, before⟩ := cut
      exact ⟨event, mem_since.mpr ⟨member, inside⟩, earlier, listed, before⟩
    obtain ⟨event, member, earlier, listed, before⟩ := lost
    obtain ⟨oldest, later, window⟩ := List.exists_cons_of_ne_nil (List.ne_nil_of_mem member)
    have windowSorted : (oldest :: later).Pairwise (· ≤ ·) := by
      rw [← window]
      exact sorted.sublist List.filter_sublist
    have first : oldest ≤ event := by
      rw [window] at member
      rcases List.mem_cons.mp member with rfl | behind
      · exact le_rfl
      · exact (List.pairwise_cons.mp windowSorted).1 event behind
    have inside : oldest ∈ since bound events := by
      rw [window]
      exact List.mem_cons_self
    refine ⟨oldest, by rw [window, List.head?_cons], (mem_since.mp inside).2,
      ⟨earlier, listed, lt_of_le_of_lt first before⟩, ?_⟩
    intro survivor left
    have spared := (mem_kept.mp (mem_since.mp left).1).2 earlier listed
    exact lt_of_lt_of_le (lt_of_le_of_lt first before) spared

end Pruning

section Windows

variable {Time : Type u} [AddCommGroup Time] [LinearOrder Time] [IsOrderedAddMonoid Time]

def within (start span : Time) (events : List Time) : List Time :=
  events.filter fun event => start ≤ event ∧ event ≤ start + span

variable {events : List Time} {now : Time}

theorem within_ending (span : Time) (latest : ∀ event ∈ events, event ≤ now) :
    within (now - span) span events = since (now - span) events := by
  apply List.filter_congr
  intro event member
  simp [latest event member]

theorem length_within_admit {span : Time} {n : Nat} {ceiling : Int}
    (bounded : ∀ start, ((within start span events).length : Int) ≤ ceiling)
    (room : ((since (now - span) events).length : Int) + n ≤ ceiling) (start : Time) :
    ((within start span (events ++ List.replicate n now)).length : Int) ≤ ceiling := by
  have split : within start span (events ++ List.replicate n now) =
      within start span events ++ within start span (List.replicate n now) :=
    List.filter_append ..
  by_cases inside : start ≤ now ∧ now ≤ start + span
  · -- the window reaches `now`, so all it holds lies in the window that ends there
    have earlier : (within start span events).length ≤ (since (now - span) events).length := by
      apply List.Sublist.length_le
      apply List.monotone_filter_right
      intro event member
      simp only [decide_eq_true_eq] at member ⊢
      exact le_trans (sub_le_iff_le_add.mpr inside.2) member.1
    have added : (within start span (List.replicate n now)).length ≤ n := by
      calc (within start span (List.replicate n now)).length
          ≤ (List.replicate n now).length := List.length_filter_le ..
        _ = n := List.length_replicate
    rw [split, List.length_append]
    omega
  · have none : within start span (List.replicate n now) = [] := by
      apply List.filter_eq_nil_iff.mpr
      intro event member
      rw [List.eq_of_mem_replicate member]
      simpa using inside
    rw [split, none, List.append_nil]
    exact bounded start

end Windows

end Parsec.Foundation.SlidingWindow
