import Mathlib

/-! # Templates of words

A template fixes letters at some places of a word, leaves gaps at others and is open if more
letters must follow. -/

namespace Parsec.Foundation

universe u

@[ext]
structure Template (Letter : Type u) where
  places : List (Option Letter)
  isOpen : Bool

namespace Template

variable {Letter : Type u}

def Fits (template : Template Letter) (length : Nat) : Prop :=
  if template.isOpen then template.places.length < length else length = template.places.length

def Matches (template : Template Letter) (word : List Letter) : Prop :=
  template.Fits word.length ∧
    ∀ (index : Nat) (letter : Letter),
      template.places[index]? = some (some letter) → word[index]? = some letter

section Places

variable {isOpen : Bool} {place : Option Letter} {places : List (Option Letter)}
  {letter : Letter} {word : List Letter}

theorem matches_nil : (Template.mk ([] : List (Option Letter)) isOpen).Matches word ↔
    (word = [] ↔ isOpen = false) := by
  cases isOpen <;> cases word <;> simp [Matches, Fits]

theorem not_matches_cons_nil : ¬ (Template.mk (place :: places) isOpen).Matches [] := by
  intro ⟨fits, _⟩
  cases isOpen <;> simp [Fits] at fits

theorem matches_cons_cons : (Template.mk (place :: places) isOpen).Matches (letter :: word) ↔
    (∀ known ∈ place, letter = known) ∧ (Template.mk places isOpen).Matches word := by
  have fits : (Template.mk (place :: places) isOpen).Fits (letter :: word).length ↔
      (Template.mk places isOpen).Fits word.length := by
    cases isOpen <;> simp [Fits]
  rw [Matches, Matches, fits, and_left_comm]
  apply and_congr_right
  intro _
  constructor
  · intro all
    constructor
    · intro known member
      simpa using all 0 known (by simpa using member)
    · intro index other listed
      exact all (index + 1) other listed
  · intro ⟨first, rest⟩ index other listed
    cases index with
    | zero => simpa using first other (by simpa using listed)
    | succ index => exact rest index other listed

end Places

def weight (literal gap : Nat) (places : List (Option Letter)) : Nat :=
  (places.map fun place => if place.isSome then literal else gap).sum

/-- Where `wide` fixes a letter, `narrow` fixes the same one. -/
def Covers (wide narrow : List (Option Letter)) : Prop :=
  ∀ (index : Nat) (letter : Letter),
    wide[index]? = some (some letter) → narrow[index]? = some (some letter)

section Weights

variable {literal gap : Nat} {wide narrow : List (Option Letter)} {first second : Option Letter}

theorem weight_cons (literal gap : Nat) (place : Option Letter) (places : List (Option Letter)) :
    weight literal gap (place :: places) =
      (if place.isSome then literal else gap) + weight literal gap places := by
  simp [weight]

theorem weight_eq (literal gap : Nat) (places : List (Option Letter)) :
    weight literal gap places =
      literal * places.countP (·.isSome) + gap * places.countP (·.isNone) := by
  induction places with
  | nil => rfl
  | cons place places induction =>
    rw [weight_cons, induction]
    cases place with
    | none | some letter =>
      simp [Nat.mul_add]
      omega

theorem length_eq_countP (places : List (Option Letter)) :
    places.length = places.countP (·.isSome) + places.countP (·.isNone) := by
  induction places with
  | nil => rfl
  | cons place places induction =>
    cases place with
    | none => simp [induction, Nat.add_assoc]
    | some letter => simp [induction, Nat.add_right_comm]

theorem covers_cons : Covers (first :: wide) (second :: narrow) ↔
    (∀ letter ∈ first, second = some letter) ∧ Covers wide narrow := by
  constructor
  · intro covers
    constructor
    · intro letter member
      simpa using covers 0 letter (by simpa using member)
    · intro index letter listed
      exact covers (index + 1) letter listed
  · intro ⟨front, rest⟩ index letter listed
    cases index with
    | zero => simpa using front letter (by simpa using listed)
    | succ index => exact rest index letter listed

theorem weight_of_covers_nil (covers : Covers wide []) :
    weight literal gap wide = gap * wide.length := by
  have empty : ∀ place ∈ wide, place = none := by
    intro place member
    rcases List.getElem?_of_mem member with ⟨index, listed⟩
    cases place with
    | none => rfl
    | some letter => simpa using covers index letter listed
  rw [weight, List.sum_eq_card_nsmul _ gap]
  · simp [Nat.mul_comm]
  · intro heavy member
    rcases List.mem_map.mp member with ⟨place, listed, rfl⟩
    simp [empty place listed]

theorem weight_le_of_covers (positive : 0 < gap) (heavier : gap < literal)
    (covers : Covers wide narrow) (longer : wide.length ≤ narrow.length) :
    weight literal gap wide ≤ weight literal gap narrow ∧
      (weight literal gap wide = weight literal gap narrow → wide = narrow) := by
  induction wide generalizing narrow with
  | nil =>
    refine ⟨Nat.zero_le _, ?_⟩
    intro weightless
    cases narrow with
    | nil => rfl
    | cons second narrow =>
      rw [weight_cons] at weightless
      simp only [weight, List.map_nil, List.sum_nil] at weightless
      split at weightless <;> omega
  | cons first wide induction =>
    cases narrow with
    | nil => simp at longer
    | cons second narrow =>
      rw [covers_cons] at covers
      rw [List.length_cons, List.length_cons, Nat.succ_le_succ_iff] at longer
      have rest := induction covers.2 longer
      rw [weight_cons, weight_cons]
      cases first with
      | some letter =>
        have same := covers.1 letter rfl
        rw [same]
        refine ⟨Nat.add_le_add_left rest.1 _, ?_⟩
        intro equal
        rw [rest.2 (by simpa using equal)]
      | none =>
        cases second with
        | none =>
          refine ⟨Nat.add_le_add_left rest.1 _, ?_⟩
          intro equal
          rw [rest.2 (by simpa using equal)]
        | some letter =>
          simp only [Option.isSome_none, Option.isSome_some, if_true, Bool.false_eq_true, if_false]
          omega

/-- A covered template that is shorter lacks one gap for each place. It makes up for the
difference of a letter and a gap where the other template has a gap of its own. -/
theorem weight_le_of_short (heavier : gap < literal) (covers : Covers wide narrow)
    (shorter : narrow.length ≤ wide.length) :
    weight literal gap wide ≤ weight literal gap narrow + gap * (wide.length - narrow.length) ∧
      (narrow ≠ wide.take narrow.length →
        weight literal gap wide + literal ≤
          weight literal gap narrow + gap * (wide.length - narrow.length) + gap) := by
  induction narrow generalizing wide with
  | nil =>
    have gaps : weight literal gap wide = gap * wide.length := weight_of_covers_nil covers
    rw [gaps]
    simp [weight]
  | cons second narrow induction =>
    cases wide with
    | nil => simp at shorter
    | cons first wide =>
      rw [covers_cons] at covers
      rw [List.length_cons, List.length_cons, Nat.succ_le_succ_iff] at shorter
      have rest := induction covers.2 shorter
      rw [weight_cons, weight_cons, List.length_cons, List.length_cons,
        Nat.add_sub_add_right, List.take_succ_cons]
      cases first with
      | some letter =>
        have same := covers.1 letter rfl
        rw [same]
        refine ⟨by omega, ?_⟩
        intro different
        have later := rest.2 fun equal => different (by rw [← equal])
        omega
      | none =>
        cases second with
        | none =>
          refine ⟨by omega, ?_⟩
          intro different
          have later := rest.2 fun equal => different (by rw [← equal])
          omega
        | some letter =>
          simp only [Option.isSome_none, Option.isSome_some, if_true, Bool.false_eq_true, if_false]
          omega

end Weights

structure Words (Letter : Type u) where
  low : Nat
  high : Nat
  valid : Letter → Prop
  several : low < high
  fresh : ∀ used : List Letter, ∃ letter, valid letter ∧ letter ∉ used

def Words.Admits (words : Words Letter) (word : List Letter) : Prop :=
  words.low ≤ word.length ∧ word.length ≤ words.high ∧ ∀ letter ∈ word, words.valid letter

structure Narrower (words : Words Letter) (narrow wide : Template Letter) : Prop where
  within : ∀ word, words.Admits word → narrow.Matches word → wide.Matches word
  proper : ∃ word, words.Admits word ∧ wide.Matches word ∧ ¬ narrow.Matches word

def fill (filling : Letter) (length : Nat) (places : List (Option Letter)) : List Letter :=
  places.map (·.getD filling) ++ List.replicate (length - places.length) filling

section Inclusion

variable {words : Words Letter} {narrow wide : Template Letter} {filling : Letter}
  {length : Nat} {word : List Letter}
  {places : List (Option Letter)}

theorem length_fill (enough : places.length ≤ length) :
    (fill filling length places).length = length := by
  simp only [fill, List.length_append, List.length_map, List.length_replicate]
  omega

theorem place_of_fill {index : Nat} {letter : Letter} (foreign : letter ≠ filling)
    (listed : (fill filling length places)[index]? = some letter) :
    places[index]? = some (some letter) := by
  by_cases inside : index < places.length
  · rw [fill, List.getElem?_append_left (by simpa using inside), List.getElem?_map,
      Option.map_eq_some_iff] at listed
    rcases listed with ⟨place, found, same⟩
    cases place with
    | none => exact absurd same.symm foreign
    | some known => rw [found, show known = letter from same]
  · rw [fill, List.getElem?_append_right (by simpa using inside)] at listed
    exact absurd (List.eq_of_mem_replicate (List.mem_of_getElem? listed)) foreign

variable {template : Template Letter}

theorem matches_fill (fits : template.Fits length) :
    template.Matches (fill filling length template.places) := by
  have enough : template.places.length ≤ length := by
    unfold Fits at fits
    split at fits <;> omega
  constructor
  · rwa [length_fill enough]
  · intro index letter listed
    have inside : index < template.places.length := (List.getElem?_eq_some_iff.mp listed).1
    rw [fill, List.getElem?_append_left (by simpa using inside), List.getElem?_map, listed]
    rfl

theorem admits_fill (admitted : words.Admits word) (matched : template.Matches word)
    (valid : words.valid filling) (enough : template.places.length ≤ length)
    (least : words.low ≤ length) (most : length ≤ words.high) :
    words.Admits (fill filling length template.places) := by
  rw [Words.Admits, length_fill enough]
  refine ⟨least, most, ?_⟩
  intro letter member
  by_cases same : letter = filling
  · rw [same]
    exact valid
  · rcases List.getElem?_of_mem member with ⟨index, listed⟩
    have known := matched.2 index letter (place_of_fill same listed)
    exact admitted.2.2 letter (List.mem_of_getElem? known)

theorem covers_of_within (within : ∀ word, words.Admits word → narrow.Matches word →
      wide.Matches word) (admitted : words.Admits word) (matched : narrow.Matches word)
    (fits : narrow.Fits length) (least : words.low ≤ length) (most : length ≤ words.high) :
    Covers wide.places narrow.places ∧ wide.Fits length := by
  rcases words.fresh (wide.places.filterMap id) with ⟨filling, valid, unused⟩
  have enough : narrow.places.length ≤ length := by
    unfold Fits at fits
    split at fits <;> omega
  have included := within _ (admits_fill admitted matched valid enough least most)
    (matches_fill fits)
  constructor
  · intro index letter listed
    apply place_of_fill _ (included.2 index letter listed)
    intro same
    apply unused
    rw [← same]
    exact List.mem_filterMap.mpr ⟨some letter, List.mem_of_getElem? listed, rfl⟩
  · have length := included.1
    rwa [length_fill enough] at length

theorem matches_of_take (opened : narrow.isOpen = true)
    (shorter : narrow.places.length < wide.places.length)
    (front : narrow.places = wide.places.take narrow.places.length)
    (matched : wide.Matches word) : narrow.Matches word := by
  constructor
  · have fits := matched.1
    unfold Fits at fits ⊢
    rw [opened, if_pos rfl]
    split at fits <;> omega
  · intro index letter listed
    have inside : index < narrow.places.length := (List.getElem?_eq_some_iff.mp listed).1
    rw [front, List.getElem?_take_of_lt inside] at listed
    exact matched.2 index letter listed

section Weights

variable {literal gap : Nat}

/-- A template that the other one covers, and that is no shorter, weighs more if both go on alike
where they have the same places. -/
theorem weight_lt_of_covers (positive : 0 < gap) (heavier : gap < literal)
    (covers : Covers wide.places narrow.places)
    (longer : wide.places.length ≤ narrow.places.length)
    (alike : wide.places = narrow.places → wide.isOpen = narrow.isOpen)
    (different : wide ≠ narrow) :
    weight literal gap wide.places < weight literal gap narrow.places := by
  have heavy := weight_le_of_covers positive heavier covers longer
  apply lt_of_le_of_ne heavy.1
  intro same
  have places := heavy.2 same
  exact different (Template.ext places (alike places))

theorem Narrower.ne (narrower : Narrower words narrow wide) : wide ≠ narrow := by
  intro same
  rcases narrower.proper with ⟨other, _, wider, unmatched⟩
  exact unmatched (same ▸ wider)

theorem weight_lt_of_closed (positive : 0 < gap) (heavier : gap < literal)
    (narrower : Narrower words narrow wide) (admitted : words.Admits word)
    (matched : narrow.Matches word) (closed : narrow.isOpen = false) :
    weight literal gap wide.places < weight literal gap narrow.places := by
  have length : word.length = narrow.places.length := by simpa [Fits, closed] using matched.1
  have fits : narrow.Fits narrow.places.length := by simp [Fits, closed]
  have including := covers_of_within narrower.within admitted matched fits
    (length ▸ admitted.1) (length ▸ admitted.2.1)
  have fitting := including.2
  unfold Fits at fitting
  apply weight_lt_of_covers positive heavier including.1 _ _ narrower.ne
  · split at fitting <;> omega
  · intro places
    rw [closed]
    rw [places] at fitting
    by_contra opened
    rw [if_pos (Bool.not_eq_false _ ▸ opened)] at fitting
    omega

theorem fits_of_open (narrower : Narrower words narrow wide) (admitted : words.Admits word)
    (matched : narrow.Matches word) (opened : narrow.isOpen = true) :
    Covers wide.places narrow.places ∧
      wide.Fits (max words.low (narrow.places.length + 1)) ∧ wide.Fits words.high := by
  have room : narrow.places.length < word.length := by simpa [Fits, opened] using matched.1
  have most := admitted.2.1
  have several := words.several
  have fits : ∀ {length}, narrow.places.length < length → narrow.Fits length := by
    intro length more
    simpa [Fits, opened] using more
  have shortest := covers_of_within narrower.within admitted matched
    (fits (lt_max_of_lt_right (Nat.lt_succ_self _))) (le_max_left _ _)
    (max_le several.le (by omega))
  have longest := covers_of_within narrower.within admitted matched (fits (by omega))
    several.le le_rfl
  exact ⟨shortest.1, shortest.2, longest.2⟩

variable (positive : 0 < gap) (spread : gap * max 2 (words.low - 1) < literal)
include positive spread

theorem weight_lt_of_open (heavier : gap < literal) (narrower : Narrower words narrow wide)
    (admitted : words.Admits word) (matched : narrow.Matches word) (opened : narrow.isOpen = true) :
    weight literal gap wide.places < weight literal gap narrow.places := by
  rcases fits_of_open narrower admitted matched opened with ⟨covers, shortest, longest⟩
  have several := words.several
  unfold Fits at longest shortest
  rcases Nat.lt_or_ge narrow.places.length wide.places.length with shorter | longer
  · rcases narrower.proper with ⟨other, _, wider, unmatched⟩
    have different : narrow.places ≠ wide.places.take narrow.places.length :=
      fun front => unmatched (matches_of_take opened shorter front wider)
    have heavy := (weight_le_of_short heavier covers shorter.le).2 different
    have nonempty : narrow.places.length ≠ 0 := by
      intro empty
      apply different
      rw [empty, List.take_zero]
      exact List.length_eq_zero_iff.mp empty
    have few : wide.places.length - narrow.places.length + 1 ≤ max 2 (words.low - 1) := by
      by_cases wideOpen : wide.isOpen = true
      · rw [if_pos wideOpen] at shortest
        omega
      · rw [if_neg wideOpen] at longest shortest
        omega
    have light := Nat.mul_le_mul_left gap few
    rw [Nat.mul_add, Nat.mul_one] at light
    omega
  · apply weight_lt_of_covers positive heavier covers longer _ narrower.ne
    intro _
    rw [opened]
    by_contra closed
    rw [if_neg closed] at longest shortest
    omega

theorem weight_lt_of_narrower (narrower : Narrower words narrow wide) (admitted : words.Admits word)
    (matched : narrow.Matches word) :
    weight literal gap wide.places < weight literal gap narrow.places := by
  have heavier : gap < literal := by
    have doubled := Nat.mul_le_mul_left gap (le_max_left 2 (words.low - 1))
    omega
  cases opened : narrow.isOpen with
  | false => exact weight_lt_of_closed positive heavier narrower admitted matched opened
  | true => exact weight_lt_of_open positive spread heavier narrower admitted matched opened

end Weights

end Inclusion

end Template

end Parsec.Foundation
