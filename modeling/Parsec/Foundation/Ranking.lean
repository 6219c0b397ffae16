import Mathlib

/-! # Rankings

Items ranked by a score, the highest first, and among equal scores by a label. -/

namespace Parsec.Foundation

universe u v

structure Ranking (Item : Type u) (Label : Type v) where
  score : Item → Nat
  label : Item → Label

namespace Ranking

variable {Item : Type u} {Label : Type v} [LinearOrder Label] (ranking : Ranking Item Label)

def Ahead (first second : Item) : Prop :=
  ranking.score second < ranking.score first ∨
    ranking.score first = ranking.score second ∧ ranking.label first ≤ ranking.label second

instance (first second : Item) : Decidable (ranking.Ahead first second) :=
  inferInstanceAs (Decidable (_ ∨ _ ∧ _))

variable {ranking}

theorem ahead_total (first second : Item) :
    ranking.Ahead first second ∨ ranking.Ahead second first := by
  rcases lt_trichotomy (ranking.score first) (ranking.score second) with less | same | more
  · exact .inr (.inl less)
  · rcases le_total (ranking.label first) (ranking.label second) with before | after
    · exact .inl (.inr ⟨same, before⟩)
    · exact .inr (.inr ⟨same.symm, after⟩)
  · exact .inl (.inl more)

variable {second : Item} {first : Item}

theorem Ahead.trans {third : Item} (former : ranking.Ahead first second)
    (latter : ranking.Ahead second third) : ranking.Ahead first third := by
  rcases former with more | ⟨same, before⟩
  · rcases latter with moreYet | ⟨same, _⟩
    · exact .inl (lt_trans moreYet more)
    · exact .inl (same ▸ more)
  · rcases latter with more | ⟨sameYet, after⟩
    · exact .inl (same ▸ more)
    · exact .inr ⟨same.trans sameYet, before.trans after⟩

theorem Ahead.label_eq (former : ranking.Ahead first second) (latter : ranking.Ahead second first) :
    ranking.label first = ranking.label second := by
  rcases former with more | ⟨same, before⟩
  · rcases latter with less | ⟨same, _⟩
    · exact absurd more (Nat.lt_asymm less)
    · exact absurd more (same ▸ Nat.lt_irrefl _)
  · rcases latter with less | ⟨_, after⟩
    · exact absurd less (same ▸ Nat.lt_irrefl _)
    · exact le_antisymm before after

theorem exists_first {items : List Item} (nonempty : items ≠ []) :
    ∃ item ∈ items, ∀ other ∈ items, ranking.Ahead item other := by
  induction items with
  | nil => exact absurd rfl nonempty
  | cons item items induction =>
    have itself : ranking.Ahead item item := .inr ⟨rfl, le_rfl⟩
    by_cases last : items = []
    · subst last
      exact ⟨item, List.mem_cons_self, by simpa using itself⟩
    · rcases induction last with ⟨best, member, ahead⟩
      have either : ranking.Ahead item best ∨ ranking.Ahead best item := ahead_total item best
      rcases either with before | after
      · refine ⟨item, List.mem_cons_self, List.forall_mem_cons.mpr ⟨itself, ?_⟩⟩
        exact fun other listed => before.trans (ahead other listed)
      · exact ⟨best, List.mem_cons_of_mem _ member, List.forall_mem_cons.mpr ⟨after, ahead⟩⟩

section Sorting

variable {ahead : Item → Item → Prop} [DecidableRel ahead] {items : List Item} {item : Item}

variable (ranked : ∀ first second, ahead first second ↔ ranking.Ahead first second)
include ranked

theorem pairwise_insertionSort (items : List Item) :
    (items.insertionSort ahead).Pairwise ahead := by
  have total : Std.Total ahead := by
    constructor
    intro first second
    rw [ranked, ranked]
    exact ahead_total first second
  have transitive : IsTrans Item ahead := by
    constructor
    intro first second third former latter
    rw [ranked] at former latter ⊢
    exact former.trans latter
  exact List.pairwise_insertionSort ahead items

theorem ahead_of_find? {wanted : Item → Bool}
    (found : (items.insertionSort ahead).find? wanted = some item) :
    ∀ other ∈ items, wanted other = true → ranking.Ahead item other := by
  intro other member wants
  have listed := (List.mem_insertionSort ahead).mpr member
  rcases List.find?_eq_some_iff_append.mp found with ⟨_, before, after, split, unwanted⟩
  have sorted := pairwise_insertionSort ranked items
  rw [split] at listed sorted
  rcases List.mem_append.mp listed with earlier | later
  · exact absurd wants (by simpa using unwanted other earlier)
  · rcases List.mem_cons.mp later with rfl | behind
    · exact .inr ⟨rfl, le_rfl⟩
    · rw [← ranked]
      exact (List.pairwise_cons.mp (List.pairwise_append.mp sorted).2.1).1 other behind

theorem ahead_of_head? (first : (items.insertionSort ahead).head? = some item) :
    item ∈ items ∧ ∀ other ∈ items, ranking.Ahead item other := by
  have found : (items.insertionSort ahead).find? (fun _ => true) = some item := by
    rw [← first]
    cases items.insertionSort ahead with
    | nil | cons => rfl
  constructor
  · exact (List.mem_insertionSort ahead).mp (List.mem_of_mem_head? first)
  · intro other member
    exact ahead_of_find? ranked found other member rfl

end Sorting

end Ranking

end Parsec.Foundation
