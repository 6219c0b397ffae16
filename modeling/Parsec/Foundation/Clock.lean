import Mathlib

/-! # Instants, durations and deadlines

Instants are nanoseconds since the Unix epoch and durations signed nanosecond
counts, both plain integers. Token lifetimes are written in
whole seconds, so both directions of the conversion are kept explicit. -/

namespace Parsec.Foundation

universe u

def second : Int := 1000000000

def minute : Int := 60 * second

def hour : Int := 60 * minute

def unix (instant : Int) : Int := instant / second

def ofUnix (seconds : Int) : Int := seconds * second

/-- `time.Duration(seconds) * time.Second` on 64 bits. -/
def durationOfSeconds (seconds : Int) : Int := (seconds * second).bmod (2 ^ 64)

/-! ## Deadline maps

A record kept only until its deadline. Stores that expire their entries answer
questions about live entries only, so removing dead ones is invisible. -/

abbrev Deadlines (Key : Type u) := Key → Option Int

namespace Deadlines

variable {Key : Type u}

def empty : Deadlines Key := fun _ => none

def live (deadlines : Deadlines Key) (now : Int) (key : Key) : Bool :=
  match deadlines key with
  | none => false
  | some deadline => decide (now < deadline)

def prune (deadlines : Deadlines Key) (now : Int) : Deadlines Key :=
  fun key => (deadlines key).filter fun deadline => decide (now < deadline)

def set [DecidableEq Key] (deadlines : Deadlines Key) (key : Key)
    (deadline : Int) : Deadlines Key :=
  Function.update deadlines key (some deadline)

variable {now : Int} {key : Key} {deadlines : Deadlines Key}

theorem live_iff :
    deadlines.live now key = true ↔ ∃ deadline, deadlines key = some deadline ∧ now < deadline := by
  unfold live
  cases deadlines key with
  | none | some deadline => simp

theorem prune_eq_of_lt {deadline : Int} (recorded : deadlines key = some deadline)
    (alive : now < deadline) : deadlines.prune now key = some deadline := by
  simp [prune, recorded, alive]

theorem prune_live {time : Int} (later : now ≤ time) :
    (deadlines.prune now).live time key = deadlines.live time key := by
  apply Bool.eq_iff_iff.mpr
  rw [live_iff, live_iff]
  constructor
  · rintro ⟨deadline, kept, alive⟩
    exact ⟨deadline, (Option.filter_eq_some_iff.mp kept).1, alive⟩
  · rintro ⟨deadline, recorded, alive⟩
    exact ⟨deadline, prune_eq_of_lt recorded (by omega), alive⟩

variable (deadlines : Deadlines Key)

@[simp] theorem set_live_same [DecidableEq Key] (key : Key) (deadline time : Int) :
    (deadlines.set key deadline).live time key = decide (time < deadline) := by
  simp [live, set]

variable (deadline : Int) {other : Key}

theorem set_live_other [DecidableEq Key] (time : Int) (different : other ≠ key) :
    (deadlines.set key deadline).live time other = deadlines.live time other := by
  simp [live, set, different]

@[simp] theorem set_same [DecidableEq Key] (key : Key) (deadline : Int) :
    deadlines.set key deadline key = some deadline := by
  simp [set]

theorem set_other [DecidableEq Key] (different : other ≠ key) :
    deadlines.set key deadline other = deadlines other := by
  simp [set, different]

def Lasts (deadlines : Deadlines Key) (key : Key) (bound : Int) : Prop :=
  ∃ deadline, deadlines key = some deadline ∧ bound ≤ deadline

namespace Lasts

variable {deadlines : Deadlines Key} {key : Key} {bound now : Int}

theorem live (lasts : deadlines.Lasts key bound) (before : now < bound) :
    deadlines.live now key = true := by
  rcases lasts with ⟨deadline, recorded, reaches⟩
  exact live_iff.mpr ⟨deadline, recorded, by omega⟩

theorem prune (lasts : deadlines.Lasts key bound) (before : now < bound) :
    (deadlines.prune now).Lasts key bound := by
  rcases lasts with ⟨deadline, recorded, reaches⟩
  exact ⟨deadline, prune_eq_of_lt recorded (by omega), reaches⟩

variable {deadline : Int}

theorem of_set [DecidableEq Key] (reaches : bound ≤ deadline) :
    (deadlines.set key deadline).Lasts key bound :=
  ⟨deadline, set_same _ _ _, reaches⟩

theorem set_other [DecidableEq Key] {other : Key} (lasts : deadlines.Lasts key bound)
    (different : key ≠ other) : (deadlines.set other deadline).Lasts key bound := by
  rcases lasts with ⟨recorded, equal, reaches⟩
  exact ⟨recorded, by rw [Deadlines.set_other _ _ different, equal], reaches⟩

end Lasts

end Deadlines

end Parsec.Foundation
