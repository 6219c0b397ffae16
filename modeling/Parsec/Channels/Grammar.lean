import Parsec.Foundation.Delimited
import Parsec.Channels.Name
import Parsec.Foundation.Fallible

/-! # The grammar of channel names

The wire forms as a declarative grammar, the names that `parseName` reads from them, and what an
accepted pattern looks like as text. -/

namespace Parsec.Channels

open Foundation

def componentAlphabet : List Char := "abcdefghijklmnopqrstuvwxyz0123456789-_".toList

structure WireForm (text : String) (visibility : Visibility) (components : List String) :
    Prop where
  spelled : text = visibility.text ++ ":" ++ String.intercalate "." components
  atLeastTwo : 2 ≤ components.length
  atMostFour : components.length ≤ 4
  identified : visibility = .private → 3 ≤ components.length
  nonempty : ∀ component ∈ components, component ≠ ""
  spelling : ∀ component ∈ components, ∀ char ∈ component.toList, char ∈ componentAlphabet

def Name.ofComponents (visibility : Visibility) (components : List String) : Name where
  visibility := visibility
  app := components.getD 0 ""
  domain := components.getD 1 ""
  id := components.getD 2 ""
  topic := components.getD 3 ""

private theorem isComponentChar_ascii : ∀ code < 128,
    isComponentChar (Char.ofNat code) = decide (Char.ofNat code ∈ componentAlphabet) := by
  decide +kernel

theorem isComponentChar_eq_false {char : Char} (large : 128 ≤ char.toNat) :
    isComponentChar char = false := by
  simp only [isComponentChar, Char.le_def, UInt32.le_iff_toNat_le, decide_eq_false_iff_not]
  have code : char.toNat = char.val.toNat := rfl
  rintro (⟨_, high⟩ | ⟨_, high⟩ | rfl | rfl)
  · have : 'z'.val.toNat = 122 := rfl
    omega
  · have : '9'.val.toNat = 57 := rfl
    omega
  · exact absurd large (by decide)
  · exact absurd large (by decide)

theorem isComponentChar_iff (char : Char) :
    isComponentChar char = true ↔ char ∈ componentAlphabet := by
  by_cases small : char.toNat < 128
  · have ascii := isComponentChar_ascii char.toNat small
    rw [Char.ofNat_toNat] at ascii
    rw [ascii, decide_eq_true_iff]
  · have letters : (componentAlphabet.all fun letter => letter.toNat < 128) = true := by
      decide +kernel
    rw [isComponentChar_eq_false (Nat.le_of_not_lt small)]
    simp only [Bool.false_eq_true, false_iff]
    intro member
    exact small (by simpa using List.all_eq_true.mp letters char member)

variable {text : String}

theorem validateComponent_eq_ok :
    validateComponent text = .ok () ↔
      text ≠ "" ∧ ∀ char ∈ text.toList, char ∈ componentAlphabet := by
  unfold validateComponent
  by_cases empty : text = ""
  · simp [empty]
  · cases found : text.toList.find? fun char => !isComponentChar char with
    | none =>
      have valid : ∀ char ∈ text.toList, char ∈ componentAlphabet := by
        intro char member
        have passed := List.find?_eq_none.mp found char member
        exact (isComponentChar_iff char).mp (by simpa using passed)
      simpa [empty, found] using valid
    | some char =>
      have failed : isComponentChar char = false := by simpa using List.find?_some found
      have invalid : ¬ ∀ char ∈ text.toList, char ∈ componentAlphabet := by
        intro valid
        have letter := valid char (List.mem_of_find?_eq_some found)
        rw [← isComponentChar_iff, failed] at letter
        exact absurd letter (by decide)
      simp [empty, invalid]

variable {parts : List String}

theorem validateComponents_eq_ok :
    validateComponents parts = .ok () ↔ ∀ part ∈ parts, validateComponent part = .ok () := by
  induction parts with
  | nil => simp [validateComponents]
  | cons part parts induction =>
    cases checked : validateComponent part <;> simp [validateComponents, checked, induction]

/-! ## Separators -/

theorem separators_not_letters : ':' ∉ componentAlphabet ∧ '.' ∉ componentAlphabet := by
  decide +kernel

theorem colon_not_mem_visibility (visibility : Visibility) : ':' ∉ visibility.text.toList := by
  cases visibility <;> decide +kernel

theorem Visibility.text_injective : Function.Injective Visibility.text := by
  intro left right same
  cases left <;> cases right <;> simp_all [Visibility.text]

theorem parseVisibility_eq_some {visibility : Visibility} :
    parseVisibility text = some visibility ↔ text = visibility.text := by
  unfold parseVisibility
  cases visibility with
  | «public» => split <;> simp_all [Visibility.text]
  | «private» =>
    split
    · next isPublic => simp [isPublic, Visibility.text]
    · simp [Visibility.text]

theorem splitVisibility_eq_some {before rest : String} :
    splitVisibility text = some (before, rest) ↔
      text = before ++ ":" ++ rest ∧ ':' ∉ before.toList ∧ before ≠ "" ∧ rest ≠ "" := by
  unfold splitVisibility
  constructor
  · rcases delimited_cases ':' text.toList with absent | ⟨left, right, cut, absent⟩
    · rw [span_undelimited absent]
      intro impossible
      cases impossible
    · rw [cut, span_delimited absent]
      intro result
      have nonempty : ¬ (left = [] ∨ right = []) := by
        intro empty
        simp [empty] at result
      simp only [if_neg nonempty, Option.some.injEq, Prod.mk.injEq] at result
      obtain ⟨rfl, rfl⟩ := result
      push Not at nonempty
      refine ⟨String.toList_inj.mp ?_, by simpa using absent, ?_, ?_⟩
      · simp [cut]
      · simpa using nonempty.1
      · simpa using nonempty.2
  · rintro ⟨rfl, absent, beforeNonempty, restNonempty⟩
    have chars : (before ++ ":" ++ rest).toList = before.toList ++ ':' :: rest.toList := by simp
    rw [chars, span_delimited absent]
    simp [beforeNonempty, restNonempty]

private theorem splitDots_ne_nil (text : String) : splitDots text ≠ [] := by
  simp [splitDots, List.splitOn_ne_nil]

private theorem splitDots_intercalate (nonempty : parts ≠ [])
    (undotted : ∀ part ∈ parts, '.' ∉ part.toList) :
    splitDots (String.intercalate "." parts) = parts := by
  have lists : ∀ part ∈ parts.map String.toList, '.' ∉ part := by
    intro part member
    obtain ⟨text, listed, rfl⟩ := List.mem_map.mp member
    exact undotted text listed
  have cut := List.splitOn_intercalate '.' lists (by simpa using nonempty)
  change ((String.intercalate "." parts).toList.splitOn '.').map String.ofList = parts
  rw [String.toList_intercalate]
  change ((['.'].intercalate (parts.map String.toList)).splitOn '.').map String.ofList = parts
  rw [cut, List.map_map]
  simp [Function.comp_def]

theorem intercalate_splitDots (text : String) : String.intercalate "." (splitDots text) = text := by
  apply String.toList_inj.mp
  rw [String.toList_intercalate, splitDots, List.map_map]
  simp [Function.comp_def]

theorem colon_not_mem_intercalate (spelling : ∀ part ∈ parts, ':' ∉ part.toList) :
    ':' ∉ (String.intercalate "." parts).toList := by
  intro member
  rw [String.toList_intercalate] at member
  rcases mem_of_mem_intercalate member with inSeparator | ⟨part, listed, inPart⟩
  · exact absurd inSeparator (by decide +kernel)
  · obtain ⟨text, textListed, rfl⟩ := List.mem_map.mp listed
    exact spelling text textListed inPart

/-! ## Names -/

namespace WireForm

variable {text : String} {visibility : Visibility} {components : List String}

variable (form : WireForm text visibility components)
include form

theorem validated : validateComponents components = .ok () := by
  rw [validateComponents_eq_ok]
  intro component member
  exact validateComponent_eq_ok.mpr ⟨form.nonempty component member, form.spelling component member⟩

theorem segments_ofComponents :
    (Name.ofComponents visibility components).segments = components := by
  have nonempty := form.nonempty
  match components, form.atLeastTwo, form.atMostFour with
  | [app, domain], _, _ => simp [Name.ofComponents, Name.segments]
  | [app, domain, id], _, _ => simp_all [Name.ofComponents, Name.segments]
  | [app, domain, id, topic], _, _ => simp_all [Name.ofComponents, Name.segments]

theorem text_ofComponents : (Name.ofComponents visibility components).text = text := by
  rw [Name.text, form.segments_ofComponents, form.spelled]
  rfl

theorem undelimited :
    ∀ component ∈ components, ':' ∉ component.toList ∧ '.' ∉ component.toList := by
  intro component member
  constructor
  · intro colon
    exact separators_not_letters.1 (form.spelling component member _ colon)
  · intro dot
    exact separators_not_letters.2 (form.spelling component member _ dot)

theorem splitDots_rest : splitDots (String.intercalate "." components) = components := by
  apply splitDots_intercalate
  · intro empty
    simpa [empty] using form.atLeastTwo
  · intro component member
    exact (form.undelimited component member).2

theorem colon_not_mem_rest : ':' ∉ (String.intercalate "." components).toList := by
  apply colon_not_mem_intercalate
  intro component member
  exact (form.undelimited component member).1

theorem splitVisibility :
    splitVisibility text = some (visibility.text, String.intercalate "." components) := by
  rw [splitVisibility_eq_some]
  refine ⟨form.spelled, colon_not_mem_visibility visibility, ?_, ?_⟩
  · cases visibility <;> decide
  · intro empty
    -- an empty rest has one component, the empty one
    have one := form.splitDots_rest
    rw [empty] at one
    have two := form.atLeastTwo
    rw [← one] at two
    exact absurd two (by decide +kernel)

theorem id_ne_empty (isPrivate : visibility = .private) : components.getD 2 "" ≠ "" := by
  have three := form.identified isPrivate
  rw [List.getD_eq_getElem components "" three]
  exact form.nonempty _ (List.getElem_mem three)

theorem parseName : parseName text = .ok (.ofComponents visibility components) := by
  have known := parseVisibility_eq_some.mpr (Eq.refl visibility.text)
  have uncoloned := form.colon_not_mem_rest
  have enough := form.atLeastTwo
  have bounded := form.atMostFour
  have identified : ¬ (visibility = .private ∧ components.getD 2 "" = "") := by
    rintro ⟨isPrivate, missing⟩
    exact form.id_ne_empty isPrivate missing
  unfold Channels.parseName
  simp only [form.splitVisibility, known, form.splitDots_rest, form.validated]
  rw [if_neg (by simpa using uncoloned), if_neg (by omega), if_neg (by omega),
    if_neg identified]
  rfl

end WireForm

variable {name : Name}

theorem parseName_eq_ok :
    parseName text = .ok name ↔
      ∃ visibility components, WireForm text visibility components ∧
        name = .ofComponents visibility components := by
  constructor
  · intro parsed
    unfold parseName at parsed
    split at parsed
    · cases parsed
    · next before rest cut =>
        split at parsed
        · cases parsed
        · next visibility known =>
            obtain ⟨spelled, _, _, _⟩ := splitVisibility_eq_some.mp cut
            rw [parseVisibility_eq_some] at known
            cases valid : validateComponents (splitDots rest) with
            | error error =>
              simp only [valid] at parsed
              split_ifs at parsed
            | ok _ =>
              simp only [valid] at parsed
              split_ifs at parsed with coloned few many unidentified
              cases parsed
              rw [validateComponents_eq_ok] at valid
              refine ⟨visibility, splitDots rest, ?_, rfl⟩
              constructor
              · rw [spelled, known, intercalate_splitDots]
              · exact Nat.le_of_not_lt few
              · exact Nat.le_of_not_lt many
              · intro isPrivate
                by_contra short
                exact unidentified ⟨isPrivate, List.getD_eq_default _ _ (by omega)⟩
              · intro component member
                exact (validateComponent_eq_ok.mp (valid component member)).1
              · intro component member
                exact (validateComponent_eq_ok.mp (valid component member)).2
  · rintro ⟨visibility, components, form, rfl⟩
    exact form.parseName

theorem text_of_parseName (parsed : parseName text = .ok name) : name.text = text := by
  obtain ⟨visibility, components, form, rfl⟩ := parseName_eq_ok.mp parsed
  exact form.text_ofComponents

def Name.Accepted (name : Name) : Prop := ∃ text, parseName text = .ok name

namespace Name.Accepted

variable {name other : Name}

variable (accepted : name.Accepted)
include accepted

theorem parseName_text : parseName name.text = .ok name := by
  obtain ⟨text, parsed⟩ := accepted
  rw [text_of_parseName parsed, parsed]

theorem eq_of_text (otherAccepted : other.Accepted) (same : name.text = other.text) :
    name = other := by
  have parsed := accepted.parseName_text
  rw [same, otherAccepted.parseName_text] at parsed
  exact (Except.ok.inj parsed).symm

theorem wireForm : WireForm name.text name.visibility name.segments := by
  obtain ⟨text, parsed⟩ := accepted
  obtain ⟨visibility, components, form, rfl⟩ := parseName_eq_ok.mp parsed
  rw [form.text_ofComponents, form.segments_ofComponents]
  exact form

end Name.Accepted

/-! ## Patterns -/

def splitSeparators (text : String) : List String :=
  (text.toList.splitOnP fun char => char = '.' ∨ char = ':').map String.ofList

inductive Spells : List String → List PatternSegment → Prop
  | nil : Spells [] []
  | literal {part : String} {parts : List String} {segments : List PatternSegment}
      (nonempty : part ≠ "") (spelling : ∀ char ∈ part.toList, char ∈ componentAlphabet)
      (rest : Spells parts segments) : Spells (part :: parts) (.literal part :: segments)
  | singleStar {parts : List String} {segments : List PatternSegment}
      (rest : Spells parts segments) : Spells ("*" :: parts) (.singleStar :: segments)
  | doubleStar : Spells ["**"] [.doubleStar]

variable {parts : List String}

theorem spells_of_parseSegments {segments : List PatternSegment}
    (parsed : parseSegments parts = .ok segments) : Spells parts segments := by
  induction parts generalizing segments with
  | nil =>
    cases parsed
    exact .nil
  | cons part parts induction =>
    have later : ∀ segment : PatternSegment,
        (parseSegments parts >>= fun others => pure (segment :: others)) = .ok segments →
          ∃ others, parseSegments parts = .ok others ∧ segments = segment :: others := by
      intro segment joined
      obtain ⟨others, rest, listed⟩ := bind_eq_ok.mp joined
      exact ⟨others, rest, (Except.ok.inj listed).symm⟩
    rw [parseSegments] at parsed
    split_ifs at parsed with empty star doubled more
    · cases parsed
    · obtain ⟨others, rest, rfl⟩ := later _ parsed
      exact star ▸ .singleStar (induction rest)
    · cases parsed
    · obtain ⟨others, rest, rfl⟩ := later _ parsed
      obtain rfl : parts = [] := not_not.mp more
      cases rest
      exact doubled ▸ .doubleStar
    · split at parsed
      · cases parsed
      · next checked =>
          obtain ⟨others, rest, rfl⟩ := later _ parsed
          obtain ⟨nonempty, spelling⟩ := validateComponent_eq_ok.mp checked
          exact .literal nonempty spelling (induction rest)

namespace Spells

variable {parts : List String} {segments : List PatternSegment}

theorem undelimited (spells : Spells parts segments) :
    ∀ part ∈ parts, ':' ∉ part.toList ∧ '.' ∉ part.toList := by
  induction spells with
  | nil => simp
  | literal nonempty spelling rest induction =>
    intro part member
    rcases List.mem_cons.mp member with rfl | later
    · exact ⟨fun colon => separators_not_letters.1 (spelling _ colon),
        fun dot => separators_not_letters.2 (spelling _ dot)⟩
    · exact induction part later
  | singleStar rest induction =>
    intro part member
    rcases List.mem_cons.mp member with rfl | later
    · decide +kernel
    · exact induction part later
  | doubleStar =>
    intro part member
    obtain rfl := List.mem_singleton.mp member
    decide +kernel

end Spells

theorem splitSeparators_wire (visibility : Visibility) (nonempty : parts ≠ [])
    (undelimited : ∀ part ∈ parts, ':' ∉ part.toList ∧ '.' ∉ part.toList) :
    splitSeparators (visibility.text ++ ":" ++ String.intercalate "." parts) =
      visibility.text :: parts := by
  have letters : (visibility.text.toList.all fun char => !decide (char = '.' ∨ char = ':')) =
      true := by
    cases visibility <;> decide +kernel
  have visible : ∀ char ∈ visibility.text.toList, decide (char = '.' ∨ char = ':') = false := by
    intro char member
    simpa using List.all_eq_true.mp letters char member
  have unmarked : ∀ part ∈ parts.map String.toList, ∀ char ∈ part,
      decide (char = '.' ∨ char = ':') = false := by
    intro part member char inside
    obtain ⟨text, listed, rfl⟩ := List.mem_map.mp member
    obtain ⟨noColon, noDot⟩ := undelimited text listed
    rw [decide_eq_false_iff_not]
    rintro (rfl | rfl)
    · exact noDot inside
    · exact noColon inside
  have rest : (['.'].intercalate (parts.map String.toList)).splitOnP
      (fun char => decide (char = '.' ∨ char = ':')) = parts.map String.toList :=
    splitOnP_intercalate (by decide) (by simpa using nonempty) unmarked
  have cut := List.splitOnP_append_cons_of_forall_mem visible ':' (by decide)
    (['.'].intercalate (parts.map String.toList))
  rw [rest] at cut
  have chars : (visibility.text ++ ":" ++ String.intercalate "." parts).toList =
      visibility.text.toList ++ ':' :: ['.'].intercalate (parts.map String.toList) := by
    simp [String.toList_intercalate]
  rw [splitSeparators, chars, cut]
  simp [Function.comp_def]

theorem Name.Accepted.splitSeparators_text (accepted : name.Accepted) :
    splitSeparators name.text = name.visibility.text :: name.segments := by
  have form := accepted.wireForm
  apply splitSeparators_wire
  · intro empty
    simpa [empty] using form.atLeastTwo
  · exact form.undelimited

structure PatternForm (text : String) (pattern : Pattern) (parts : List String) : Prop where
  spelled : text = pattern.visibility.text ++ ":" ++ String.intercalate "." parts
  nonempty : parts ≠ []
  spells : Spells parts pattern.segments

variable {text : String} {pattern : Pattern}

theorem patternForm_of_parsePattern (parsed : parsePattern text = .ok pattern) :
    ∃ parts, PatternForm text pattern parts := by
  unfold parsePattern at parsed
  split at parsed
  · cases parsed
  · next before rest cut =>
      obtain ⟨spelled, _, _, _⟩ := splitVisibility_eq_some.mp cut
      split at parsed
      · cases parsed
      · next visibility known =>
          rw [parseVisibility_eq_some] at known
          cases valid : parseSegments (splitDots rest) with
          | error error =>
            simp only [valid] at parsed
            split_ifs at parsed
          | ok segments =>
            simp only [valid] at parsed
            split_ifs at parsed with coloned deep
            cases parsed
            refine ⟨splitDots rest, ?_, splitDots_ne_nil rest, spells_of_parseSegments valid⟩
            rw [spelled, known, intercalate_splitDots]

theorem PatternForm.splitSeparators_text (form : PatternForm text pattern parts) :
    splitSeparators text = pattern.visibility.text :: parts := by
  rw [form.spelled]
  exact splitSeparators_wire pattern.visibility form.nonempty form.spells.undelimited

theorem PatternForm.segments_ne_nil (form : PatternForm text pattern parts) :
    pattern.segments ≠ [] := by
  intro empty
  have spells := form.spells
  rw [empty] at spells
  cases spells
  exact form.nonempty rfl

theorem Pattern.matches_eq (nonempty : pattern.segments ≠ []) (accepted : name.Accepted) :
    pattern.matches name =
      (decide (pattern.visibility = name.visibility) &&
        matchSegments pattern.segments name.segments) := by
  have present : name.segments.filter (· ≠ "") = name.segments := by
    apply List.filter_eq_self.mpr
    intro segment member
    simpa using accepted.wireForm.nonempty segment member
  have valid : pattern.segments.isEmpty = false := by simpa using nonempty
  rw [Pattern.matches, present, valid, Bool.not_false, Bool.true_and]

end Parsec.Channels
