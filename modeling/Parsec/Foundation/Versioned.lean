import Mathlib.Tactic.Common

/-! # Versioned cells

A shared value whose every write raises its version by one, and readers that
remember the version they saw. A reader `Tracks` the cell when what it remembers
describes the value for as long as the version has not moved. -/

namespace Parsec.Foundation

structure Versioned (Value : Type u) where
  version : Int
  value : Value
  deriving DecidableEq

namespace Versioned

variable {Value : Type u} {View : Type v}

def write (cell : Versioned Value) (value : Value) : Versioned Value where
  version := cell.version + 1
  value := value

variable (cell : Versioned Value) (value : Value)

@[simp] theorem write_version : (cell.write value).version = cell.version + 1 := rfl

@[simp] theorem write_value : (cell.write value).value = value := rfl

/-- `view` was taken at `version` and still describes the cell if that is its version. -/
structure Tracks (describes : View → Value → Prop) (cell : Versioned Value)
    (version : Int) (view : View) : Prop where
  seen : version ≤ cell.version
  current : version = cell.version → describes view cell.value

namespace Tracks

variable {describes : View → Value → Prop} {cell : Versioned Value} {version : Int} {view : View}

theorem write (tracks : Tracks describes cell version view) (value : Value) :
    Tracks describes (cell.write value) version view := by
  have seen := tracks.seen
  constructor
  · simp only [write_version]
    omega
  · intro same
    simp only [write_version] at same
    omega

theorem of_describes (holds : describes view cell.value) :
    Tracks describes cell cell.version view :=
  ⟨Int.le_refl _, fun _ => holds⟩

theorem of_lt (older : version < cell.version) : Tracks describes cell version view :=
  ⟨Int.le_of_lt older, fun same => absurd same (Int.ne_of_lt older)⟩

theorem describes_of_le (tracks : Tracks describes cell version view)
    (newest : cell.version ≤ version) : describes view cell.value :=
  tracks.current (Int.le_antisymm tracks.seen newest)

end Tracks

structure Recorded {Entry : Type v} (render : Entry → Value) (cell : Versioned (Option Value))
    (log : List (Int × Entry)) : Prop where
  stored : ∀ {value : Value}, cell.value = some value →
    ∃ entry, (cell.version, entry) ∈ log ∧ render entry = value
  bounded : ∀ {version : Int} {entry : Entry}, (version, entry) ∈ log → version ≤ cell.version
  unique : ∀ {version : Int} {left right : Entry}, (version, left) ∈ log →
    (version, right) ∈ log → left = right

namespace Recorded

variable {Entry : Type v} {render : Entry → Value} {cell : Versioned (Option Value)}
  {log : List (Int × Entry)}

theorem write (recorded : Recorded render cell log) (entry : Entry) :
    Recorded render (cell.write (some (render entry))) ((cell.version + 1, entry) :: log) := by
  refine ⟨?_, ?_, ?_⟩
  · intro value current
    cases current
    exact ⟨entry, List.mem_cons_self, rfl⟩
  · intro version other member
    rcases List.mem_cons.mp member with equal | older
    · cases equal
      exact Int.le_refl _
    · have bound := recorded.bounded older
      simp only [write_version]
      omega
  · intro version left right first second
    rcases List.mem_cons.mp first with leftNew | leftOld <;>
      rcases List.mem_cons.mp second with rightNew | rightOld
    · cases leftNew
      cases rightNew
      rfl
    · cases leftNew
      exact absurd (recorded.bounded rightOld) (by omega)
    · cases rightNew
      exact absurd (recorded.bounded leftOld) (by omega)
    · exact recorded.unique leftOld rightOld

end Recorded

end Versioned

end Parsec.Foundation
