import Mathlib

/-! # Numbered streams

The items of a stream carry numbers that follow each other, and some items are dropped. What is
left has a hole where a dropped item stands between two that are kept. -/

namespace Parsec.Foundation

universe u v

abbrev Marks (Key : Type u) := Key → Option Int

namespace Marks

variable {Key : Type u}

def empty : Marks Key := fun _ => none

def fresh (marks : Marks Key) (key : Key) (number : Int) : Bool :=
  match marks key with
  | none => true
  | some highest => decide (highest < number)

@[simp] theorem fresh_empty (key : Key) (number : Int) :
    (empty : Marks Key).fresh key number = true := rfl

variable {marks : Marks Key} {key : Key} {number : Int}

theorem fresh_iff :
    marks.fresh key number = true ↔ ∀ highest, marks key = some highest → highest < number := by
  unfold fresh
  cases marks key with
  | none | some highest => simp

variable [DecidableEq Key]

def observe (marks : Marks Key) (key : Key) (number : Int) : Marks Key :=
  if marks.fresh key number then Function.update marks key (some number) else marks

variable {other : Key}

theorem observe_other (marks : Marks Key) (number : Int) (different : other ≠ key) :
    marks.observe key number other = marks other := by
  unfold observe
  split
  · exact Function.update_of_ne different _ _
  · rfl

theorem observe_eq_some {highest : Int} (marked : marks.observe key number other = some highest) :
    other = key ∧ number = highest ∨ marks other = some highest := by
  unfold observe at marked
  split at marked
  · by_cases same : other = key
    · subst same
      rw [Function.update_self] at marked
      exact .inl ⟨rfl, Option.some.inj marked⟩
    · rw [Function.update_of_ne same] at marked
      exact .inr marked
  · exact .inr marked

theorem fresh_observe {seen : Int} :
    (marks.observe key seen).fresh other number = true ↔
      marks.fresh other number = true ∧ (other = key → seen < number) := by
  by_cases same : other = key
  · subst same
    cases above : marks.fresh other seen with
    | true =>
      have marked : marks.observe other seen other = some seen := by simp [observe, above]
      rw [fresh_iff, fresh_iff, marked]
      rw [fresh_iff] at above
      constructor
      · intro beyond
        have later := beyond seen rfl
        exact ⟨fun highest known => (above highest known).trans later, fun _ => later⟩
      · rintro ⟨_, later⟩ highest equal
        cases equal
        exact later rfl
    | false =>
      have unmarked : marks.observe other seen = marks := by simp [observe, above]
      rw [unmarked]
      constructor
      · intro beyond
        refine ⟨beyond, fun _ => ?_⟩
        rw [fresh_iff] at beyond
        rw [← Bool.not_eq_true, fresh_iff] at above
        push Not at above
        obtain ⟨highest, known, reached⟩ := above
        exact lt_of_le_of_lt reached (beyond highest known)
      · exact And.left
  · rw [fresh_iff, fresh_iff, observe_other marks seen same]
    simp [same]

section Streams

variable {Item : Type v} (key : Item → Key) (number : Item → Int)

def after (marks : Marks Key) (items : List Item) : Marks Key :=
  items.foldl (fun marks item => marks.observe (key item) (number item)) marks

def passed (marks : Marks Key) : List Item → List Item
  | [] => []
  | item :: items =>
    let rest := passed (marks.observe (key item) (number item)) items
    if marks.fresh (key item) (number item) then item :: rest else rest

variable {key number}

theorem after_concat (marks : Marks Key) (items : List Item) (item : Item) :
    marks.after key number (items ++ [item]) =
      (marks.after key number items).observe (key item) (number item) := by
  simp [after]

variable {marks : Marks Key} {items : List Item}

theorem fresh_after {name : Key} {limit : Int} :
    (marks.after key number items).fresh name limit = true ↔
      marks.fresh name limit = true ∧ ∀ item ∈ items, key item = name → number item < limit := by
  induction items generalizing marks with
  | nil => simp [after]
  | cons item items induction =>
    change ((marks.observe (key item) (number item)).after key number items).fresh name limit =
      true ↔ _
    rw [induction, fresh_observe, List.forall_mem_cons, and_assoc, eq_comm (a := name)]

theorem mem_of_mem_passed {item : Item} (passes : item ∈ marks.passed key number items) :
    item ∈ items := by
  induction items generalizing marks with
  | nil => exact passes
  | cons first items induction =>
    simp only [passed] at passes
    split at passes
    · rcases List.mem_cons.mp passes with rfl | later
      · exact List.mem_cons_self
      · exact List.mem_cons_of_mem _ (induction later)
    · exact List.mem_cons_of_mem _ (induction passes)

theorem mem_passed_of_fresh {item : Item}
    (increasing : items.Pairwise fun earlier later =>
      key earlier = key later → number earlier < number later) (member : item ∈ items)
    (above : marks.fresh (key item) (number item) = true) :
    item ∈ marks.passed key number items := by
  induction items generalizing marks with
  | nil => cases member
  | cons first items induction =>
    rw [List.pairwise_cons] at increasing
    simp only [passed]
    rcases List.mem_cons.mp member with rfl | later
    · rw [if_pos above]
      exact List.mem_cons_self
    · have still : (marks.observe (key first) (number first)).fresh (key item) (number item) =
          true := by
        rw [fresh_observe]
        exact ⟨above, fun same => increasing.1 item later same.symm⟩
      have passes := induction increasing.2 later still
      split
      · exact List.mem_cons_of_mem _ passes
      · exact passes

end Streams

end Marks

def Consecutive (numbers : List Int) : Prop :=
  numbers.IsChain fun first second => second = first + 1

theorem consecutive_nil : Consecutive [] := .nil

variable {numbers : List Int}

theorem consecutive_cons_cons {first second : Int} :
    Consecutive (first :: second :: numbers) ↔
      second = first + 1 ∧ Consecutive (second :: numbers) :=
  List.isChain_cons_cons

theorem Consecutive.lt {first : Int} (consecutive : Consecutive (first :: numbers)) :
    ∀ number ∈ numbers, first < number := by
  induction numbers generalizing first with
  | nil => simp
  | cons second numbers induction =>
    rw [consecutive_cons_cons] at consecutive
    rw [List.forall_mem_cons]
    refine ⟨by omega, fun number member => ?_⟩
    have later := induction consecutive.2 number member
    omega

theorem Consecutive.pairwise (consecutive : Consecutive numbers) : numbers.Pairwise (· < ·) := by
  induction numbers with
  | nil => exact .nil
  | cons first numbers induction => exact .cons consecutive.lt (induction consecutive.tail)

section Dropping

variable {Item : Type u} {number : Item → Int} {keep : Item → Bool}

def Interrupted (keep : Item → Bool) (items : List Item) : Prop :=
  ∃ first dropped last, [first, dropped, last].Sublist items ∧
    keep first = true ∧ keep dropped = false ∧ keep last = true

def Resumed (keep : Item → Bool) (items : List Item) : Prop :=
  ∃ dropped last, [dropped, last].Sublist items ∧ keep dropped = false ∧ keep last = true

variable {item : Item} {items : List Item}

theorem resumed_cons_kept (kept : keep item = true) :
    Resumed keep (item :: items) ↔ Resumed keep items := by
  constructor
  · rintro ⟨dropped, last, within, unkept, resumes⟩
    rcases List.sublist_cons_iff.mp within with later | ⟨rest, same, _⟩
    · exact ⟨dropped, last, later, unkept, resumes⟩
    · cases same
      rw [kept] at unkept
      cases unkept
  · rintro ⟨dropped, last, within, others⟩
    exact ⟨dropped, last, within.cons item, others⟩

theorem resumed_cons_dropped (unkept : keep item = false) :
    Resumed keep (item :: items) ↔ ∃ last ∈ items, keep last = true := by
  constructor
  · rintro ⟨dropped, last, within, _, resumes⟩
    refine ⟨last, ?_, resumes⟩
    rcases List.sublist_cons_iff.mp within with later | ⟨rest, same, later⟩
    · exact later.subset (by simp)
    · cases same
      exact later.subset (by simp)
  · rintro ⟨last, member, resumes⟩
    exact ⟨item, last, (List.singleton_sublist.mpr member).cons_cons item, unkept, resumes⟩

theorem interrupted_cons :
    Interrupted keep (item :: items) ↔
      Interrupted keep items ∨ keep item = true ∧ Resumed keep items := by
  constructor
  · rintro ⟨first, dropped, last, within, kept, others⟩
    rcases List.sublist_cons_iff.mp within with later | ⟨rest, same, later⟩
    · exact .inl ⟨first, dropped, last, later, kept, others⟩
    · cases same
      exact .inr ⟨kept, dropped, last, later, others⟩
  · rintro (⟨first, dropped, last, within, others⟩ | ⟨kept, dropped, last, within, others⟩)
    · exact ⟨first, dropped, last, within.cons item, others⟩
    · exact ⟨item, dropped, last, within.cons_cons item, kept, others⟩

theorem Interrupted.resumed (interrupted : Interrupted keep items) : Resumed keep items := by
  rcases interrupted with ⟨first, dropped, last, within, _, others⟩
  exact ⟨dropped, last, (List.sublist_cons_self first _).trans within, others⟩

theorem consecutive_cons_kept {before : Int}
    (consecutive : Consecutive (before :: items.map number)) :
    Consecutive (before :: (items.filter keep).map number) ↔ ¬ Resumed keep items := by
  induction items generalizing before with
  | nil => simp [Consecutive, Resumed]
  | cons item items induction =>
    rw [List.map_cons, consecutive_cons_cons] at consecutive
    cases kept : keep item with
    | true =>
      rw [List.filter_cons_of_pos kept, List.map_cons, consecutive_cons_cons,
        resumed_cons_kept kept, induction consecutive.2]
      exact and_iff_right consecutive.1
    | false =>
      rw [List.filter_cons_of_neg (by simp [kept]), resumed_cons_dropped kept]
      constructor
      · rintro hole ⟨last, member, resumes⟩
        -- the next kept item has a number beyond that of the dropped one
        cases rest : items.filter keep with
        | nil => exact List.filter_eq_nil_iff.mp rest last member resumes
        | cons next others =>
          have later : next ∈ items := List.mem_of_mem_filter (rest ▸ List.mem_cons_self)
          have beyond := consecutive.2.lt (number next) (List.mem_map_of_mem later)
          rw [rest, List.map_cons, consecutive_cons_cons] at hole
          omega
      · intro none'
        have empty : items.filter keep = [] := by
          rw [List.filter_eq_nil_iff]
          intro last member resumes
          exact none' ⟨last, member, resumes⟩
        rw [empty]
        exact .singleton before

theorem consecutive_kept_iff (consecutive : Consecutive (items.map number)) :
    Consecutive ((items.filter keep).map number) ↔ ¬ Interrupted keep items := by
  induction items with
  | nil => simp [Consecutive, Interrupted]
  | cons item items induction =>
    have rest := induction consecutive.tail
    rw [interrupted_cons]
    cases kept : keep item with
    | true =>
      rw [List.filter_cons_of_pos kept, List.map_cons, consecutive_cons_kept consecutive]
      constructor
      · rintro unresumed (interrupted | ⟨_, resumed⟩)
        · exact unresumed interrupted.resumed
        · exact unresumed resumed
      · exact fun neither resumed => neither (.inr ⟨rfl, resumed⟩)
    | false =>
      rw [List.filter_cons_of_neg (by simp [kept]), rest]
      simp

end Dropping

namespace Marks

variable {Key : Type u}

def gap (marks : Marks Key) (key : Key) (number : Int) : Int :=
  match marks key with
  | none => 0
  | some highest => if number ≤ highest then 0 else number - highest - 1

variable (marks : Marks Key)

theorem gap_nonneg (key : Key) (number : Int) : 0 ≤ marks.gap key number := by
  unfold gap
  cases marks key with
  | none => exact le_refl _
  | some highest =>
    dsimp only
    split_ifs <;> omega

theorem gap_of_stale {marks : Marks Key} {key : Key} {number : Int}
    (stale : marks.fresh key number = false) : marks.gap key number = 0 := by
  unfold gap
  unfold fresh at stale
  cases mark : marks key with
  | none => rfl
  | some highest =>
    rw [mark] at stale
    exact if_pos (not_lt.mp (of_decide_eq_false stale))

theorem gap_eq_zero_iff {marks : Marks Key} {key : Key} {number : Int}
    (fresh : marks.fresh key number = true) (numbers : List Int) :
    Consecutive ((marks key).toList ++ number :: numbers) ↔
      marks.gap key number = 0 ∧ Consecutive (number :: numbers) := by
  rw [fresh_iff] at fresh
  unfold gap
  cases mark : marks key with
  | none => simp
  | some highest =>
    have above := fresh highest mark
    rw [Option.toList_some, List.singleton_append, consecutive_cons_cons]
    dsimp only
    apply and_congr_left'
    omega

variable [DecidableEq Key] {Item : Type v} (key : Item → Key) (number : Item → Int)

def gaps (marks : Marks Key) : List Item → List Int
  | [] => []
  | item :: items =>
    marks.gap (key item) (number item) :: gaps (marks.observe (key item) (number item)) items

variable {key number}

theorem gaps_nonneg (items : List Item) : ∀ gap ∈ marks.gaps key number items, 0 ≤ gap := by
  induction items generalizing marks with
  | nil => simp [gaps]
  | cons item items induction =>
    rw [gaps, List.forall_mem_cons]
    exact ⟨marks.gap_nonneg _ _, induction _⟩

theorem gaps_eq_zero_iff {marks : Marks Key} {items : List Item}
    (increasing : items.Pairwise fun earlier later =>
      key earlier = key later → number earlier < number later)
    (fresh : ∀ item ∈ items, marks.fresh (key item) (number item) = true) :
    (∀ gap ∈ marks.gaps key number items, gap = 0) ↔
      ∀ name, Consecutive ((marks name).toList ++ (items.filter (key · = name)).map number) := by
  induction items generalizing marks with
  | nil =>
    refine iff_of_true (by simp [gaps]) fun name => ?_
    cases marks name with
    | none => exact consecutive_nil
    | some highest => exact .singleton highest
  | cons item items induction =>
    rw [List.pairwise_cons] at increasing
    rw [List.forall_mem_cons] at fresh
    have still : ∀ later ∈ items,
        (marks.observe (key item) (number item)).fresh (key later) (number later) = true := by
      intro later member
      rw [fresh_observe]
      exact ⟨fresh.2 later member, fun same => increasing.1 later member same.symm⟩
    rw [gaps, List.forall_mem_cons, induction increasing.2 still]
    have marked : marks.observe (key item) (number item) (key item) = some (number item) := by
      simp [observe, fresh.1]
    have own := gap_eq_zero_iff fresh.1 ((items.filter (key · = key item)).map number)
    constructor
    · rintro ⟨here, later⟩ name
      rcases eq_or_ne (key item) name with rfl | different
      · rw [List.filter_cons_of_pos (by simp), List.map_cons, own]
        refine ⟨here, ?_⟩
        have rest := later (key item)
        rwa [marked] at rest
      · rw [List.filter_cons_of_neg (by simp [different])]
        have rest := later name
        rwa [observe_other marks _ different.symm] at rest
    · intro all
      have here := all (key item)
      rw [List.filter_cons_of_pos (by simp), List.map_cons, own] at here
      refine ⟨here.1, fun name => ?_⟩
      rcases eq_or_ne (key item) name with rfl | different
      · rw [marked]
        exact here.2
      · have rest := all name
        rw [List.filter_cons_of_neg (by simp [different])] at rest
        rwa [observe_other marks _ different.symm]

theorem gaps_eq (items : List Item) :
    marks.gaps key number items =
      marks.gaps Prod.fst Prod.snd (items.map fun item => (key item, number item)) := by
  induction items generalizing marks with
  | nil => rfl
  | cons item items induction => exact congrArg (List.cons _) (induction _)

/-- If the numbers of each key follow each other, what is kept of the stream has no gap unless the
items of a key are interrupted. -/
theorem gaps_kept_eq_zero_iff {keep : Item → Bool} {items : List Item}
    (complete : ∀ name, Consecutive ((items.filter (key · = name)).map number)) :
    (∀ gap ∈ empty.gaps key number (items.filter keep), gap = 0) ↔
      ∀ name, ¬ Interrupted keep (items.filter (key · = name)) := by
  have increasing : items.Pairwise fun earlier later =>
      key earlier = key later → number earlier < number later := by
    rw [List.pairwise_iff_forall_sublist]
    intro earlier later within same
    have own := within.filter (key · = key later)
    rw [List.filter_cons_of_pos (by simpa using same), List.filter_cons_of_pos (by simp)] at own
    have ordered := (complete (key later)).pairwise.sublist (own.map number)
    exact List.rel_of_pairwise_cons ordered (by simp)
  rw [gaps_eq_zero_iff (increasing.sublist List.filter_sublist) fun _ _ => rfl]
  apply forall_congr'
  intro name
  rw [← consecutive_kept_iff (complete name), List.filter_comm]
  rfl

end Marks

end Parsec.Foundation
