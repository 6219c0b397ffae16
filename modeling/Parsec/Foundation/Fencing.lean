import Mathlib.Logic.Function.Basic
import Mathlib.Tactic.Common

/-! # Exclusive generations

A resource counts its changes of hands in a generation number. A holder remembers the
generation that was given to it; nothing tells it when the resource has moved on. At most
one holder remembers the current generation, so what only such a holder does is exclusive. -/

namespace Parsec.Foundation

universe u

variable {Holder : Type u}

structure Exclusive (generation : Nat) (held : Holder → Option Nat) : Prop where
  issued : ∀ holder taken, held holder = some taken → taken ≤ generation
  single : ∀ first second, held first = some generation → held second = some generation →
    first = second

namespace Exclusive

variable {generation : Nat} {held : Holder → Option Nat}

theorem unheld (generation : Nat) : Exclusive generation fun _ : Holder => none where
  issued := by
    intro holder taken remembered
    cases remembered
  single := by
    intro first second remembered
    cases remembered

theorem renew (exclusive : Exclusive generation held) : Exclusive (generation + 1) held where
  issued := by
    intro holder taken remembered
    exact Nat.le_succ_of_le (exclusive.issued holder taken remembered)
  single := by
    intro first second remembered
    have bound := exclusive.issued first (generation + 1) remembered
    omega

variable [DecidableEq Holder]

variable (exclusive : Exclusive generation held)
include exclusive

variable (holder : Holder)

theorem drop : Exclusive generation (Function.update held holder none) where
  issued := by
    intro other taken remembered
    by_cases same : other = holder
    · subst same
      simp at remembered
    · rw [Function.update_of_ne same] at remembered
      exact exclusive.issued other taken remembered
  single := by
    intro first second firstHolds secondHolds
    by_cases firstSame : first = holder
    · subst firstSame
      simp at firstHolds
    · by_cases secondSame : second = holder
      · subst secondSame
        simp at secondHolds
      · rw [Function.update_of_ne firstSame] at firstHolds
        rw [Function.update_of_ne secondSame] at secondHolds
        exact exclusive.single first second firstHolds secondHolds

theorem take :
    Exclusive (generation + 1) (Function.update held holder (some (generation + 1))) where
  issued := by
    intro other taken remembered
    by_cases same : other = holder
    · subst same
      simp only [Function.update_self, Option.some.injEq] at remembered
      omega
    · rw [Function.update_of_ne same] at remembered
      exact Nat.le_succ_of_le (exclusive.issued other taken remembered)
  single := by
    have only : ∀ other,
        Function.update held holder (some (generation + 1)) other = some (generation + 1) →
          other = holder := by
      intro other remembered
      by_contra different
      rw [Function.update_of_ne different] at remembered
      have bound := exclusive.issued other (generation + 1) remembered
      omega
    intro first second firstHolds secondHolds
    rw [only first firstHolds, only second secondHolds]

theorem keep {holder : Holder} {taken : Option Nat} (same : held holder = taken) :
    Exclusive generation (Function.update held holder taken) := by
  rw [← same, Function.update_eq_self]
  exact exclusive

end Exclusive

end Parsec.Foundation
