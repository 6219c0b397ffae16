import Parsec.Foundation.UTF16
import Parsec.Channels.Grammar

/-! # Channel names in the JavaScript client

The client's port of the channel-name grammar, on strings of UTF-16 code units. -/

namespace Parsec.JavaScriptClient

open Foundation
open Channels (WireForm Visibility componentAlphabet isComponentChar)

abbrev JavaScriptString := List CodeUnit

def unit (char : Char) : CodeUnit := UInt16.ofNat char.toNat

structure ParsecError where
  code : Code
  message : JavaScriptString
  deriving DecidableEq

structure Name where
  visibility : JavaScriptString
  app : JavaScriptString
  domain : JavaScriptString
  id : JavaScriptString
  topic : JavaScriptString
  deriving DecidableEq

def indexOf (text : JavaScriptString) (sought : CodeUnit) : Int :=
  match text.idxOf? sought with
  | some index => index
  | none => -1

def isComponentUnit (value : CodeUnit) : Bool :=
  (unit 'a' ≤ value ∧ value ≤ unit 'z') ∨ (unit '0' ≤ value ∧ value ≤ unit '9') ∨
    value = unit '_' ∨ value = unit '-'

/-- `/^[a-z0-9_-]+$/`; without flags `$` is the end of the text only. -/
def componentRe (text : JavaScriptString) : Bool := text ≠ [] && text.all isComponentUnit

def invalidChannel (message : JavaScriptString) : ParsecError :=
  { code := .channelInvalid, message := message }

section Parsing

-- `JSON.stringify`, which only error messages use
variable (stringify : JavaScriptString → JavaScriptString)

def validateComponent (component : JavaScriptString) : Except ParsecError Unit := do
  ensure (component ≠ []) (invalidChannel (utf16 "channel component must not be empty"))
  ensure (componentRe component)
    (invalidChannel (utf16 "invalid character in channel component " ++ stringify component))

def parseName (text : JavaScriptString) : Except ParsecError Name := do
  let colon := indexOf text (unit ':')
  ensure (¬ (colon ≤ 0 ∨ colon = (text.length : Int) - 1))
    (invalidChannel (utf16 "channel name must start with public: or private:"))
  let vis := text.take colon.toNat
  ensure (vis = utf16 "public" ∨ vis = utf16 "private")
    (invalidChannel (utf16 "unknown visibility " ++ stringify vis ++
      utf16 "; want public or private"))
  let rest := text.drop (colon.toNat + 1)
  ensure (unit ':' ∉ rest)
    (invalidChannel (utf16 "the : character is reserved for the visibility prefix"))
  let parts := rest.splitOn (unit '.')
  ensure (2 ≤ parts.length)
    (invalidChannel (utf16 "channel name must include at least <app>.<domain>"))
  ensure (parts.length ≤ 4)
    (invalidChannel (utf16 ("channel name has too many components; " ++
      "max is <app>.<domain>.<id>.<topic>")))
  parts.forM (validateComponent stringify)
  let name : Name :=
    { visibility := vis, app := parts.getD 0 [], domain := parts.getD 1 [],
      id := parts.getD 2 [], topic := parts.getD 3 [] }
  ensure (¬ (name.visibility = utf16 "private" ∧ name.id = []))
    (invalidChannel (utf16 "private channels must include an id segment"))
  return name

end Parsing

def formatName (name : Name) : JavaScriptString :=
  let parts := [name.app, name.domain] ++ [name.id, name.topic].filter (· ≠ [])
  name.visibility ++ unit ':' :: [unit '.'].intercalate parts

def Name.encode (name : Channels.Name) : Name where
  visibility := utf16 name.visibility.text
  app := utf16 name.app
  domain := utf16 name.domain
  id := utf16 name.id
  topic := utf16 name.topic

variable {text : String}

theorem utf16_eq_nil : utf16 text = [] ↔ text = "" :=
  ⟨fun empty => utf16_injective (empty.trans (by rfl)), fun empty => by simp [empty, utf16]⟩

private theorem isComponentUnit_ascii : ∀ code < 128,
    (codeUnits (Char.ofNat code)).all isComponentUnit = isComponentChar (Char.ofNat code) := by
  decide +kernel

theorem toNat_of_isComponentUnit {value : CodeUnit} (component : isComponentUnit value = true) :
    value.toNat < 128 := by
  simp only [isComponentUnit, UInt16.le_iff_toNat_le, ← UInt16.toNat_inj,
    decide_eq_true_eq] at component
  have bounds : (unit 'z').toNat = 122 ∧ (unit '9').toNat = 57 ∧ (unit '_').toNat = 95 ∧
    (unit '-').toNat = 45 := by decide
  omega

private theorem all_isComponentUnit (char : Char) :
    (codeUnits char).all isComponentUnit = isComponentChar char := by
  by_cases small : char.toNat < 128
  · have ascii := isComponentUnit_ascii char.toNat small
    rwa [Char.ofNat_toNat] at ascii
  · rw [Channels.isComponentChar_eq_false (Nat.le_of_not_lt small)]
    obtain ⟨first, rest, units⟩ := List.exists_cons_of_ne_nil (codeUnits_ne_nil char)
    rw [Bool.eq_false_iff]
    intro all
    have component := List.all_eq_true.mp all first (by simp [units])
    have bound := toNat_of_isComponentUnit component
    have same := (mem_codeUnits (by omega)).mp (show first ∈ codeUnits char by simp [units])
    omega

private theorem validateComponent_utf16 (stringify : JavaScriptString → JavaScriptString)
    (component : String) :
    validateComponent stringify (utf16 component) = .ok () ↔
      component ≠ "" ∧ ∀ char ∈ component.toList, char ∈ componentAlphabet := by
  have all : (utf16 component).all isComponentUnit = component.toList.all isComponentChar := by
    simp [utf16, List.all_flatMap, all_isComponentUnit]
  simp only [validateComponent, bind_eq_ok, ensure_eq_ok, componentRe, all]
  simp [Channels.isComponentChar_iff, utf16_eq_nil]

variable {sought : CodeUnit}

theorem indexOf_delimited {before : JavaScriptString} (absent : sought ∉ before)
    (after : JavaScriptString) : indexOf (before ++ sought :: after) sought = before.length := by
  rw [indexOf, idxOf?_delimited absent]

theorem indexOf_undelimited {text : JavaScriptString} (absent : sought ∉ text) :
    indexOf text sought = -1 := by
  rw [indexOf, List.idxOf?_eq_none_iff.mpr absent]

theorem utf16_delimited (before rest : String) :
    utf16 (before ++ ":" ++ rest) = utf16 before ++ unit ':' :: utf16 rest := by
  simp [utf16, codeUnits, unit]

theorem colon_mem_utf16 : unit ':' ∈ utf16 text ↔ ':' ∈ text.toList :=
  mem_utf16 (by decide)

theorem splitOn_dot_utf16 (text : String) :
    (utf16 text).splitOn (unit '.') = (Channels.splitDots text).map utf16 := by
  rw [utf16, unit, splitOn_utf16 (by decide), Channels.splitDots, List.map_map]
  simp [Function.comp_def, utf16]

section Names

variable {stringify : JavaScriptString → JavaScriptString}

theorem getD_utf16 (parts : List String) (index : Nat) :
    (parts.map utf16).getD index [] = utf16 (parts.getD index "") := by
  rw [show ([] : JavaScriptString) = utf16 "" from rfl, List.getD_map]

theorem parseName_guards {before rest : String} (absent : ':' ∉ before.toList) {name : Name} :
    parseName stringify (utf16 (before ++ ":" ++ rest)) = .ok name ↔
      (before ≠ "" ∧ rest ≠ "") ∧ (before = "public" ∨ before = "private") ∧
        ':' ∉ rest.toList ∧ 2 ≤ (Channels.splitDots rest).length ∧
        (Channels.splitDots rest).length ≤ 4 ∧
        (∀ part ∈ Channels.splitDots rest, validateComponent stringify (utf16 part) = .ok ()) ∧
        ¬ (before = "private" ∧ (Channels.splitDots rest).getD 2 "" = "") ∧
        ({ visibility := utf16 before, app := utf16 ((Channels.splitDots rest).getD 0 ""),
           domain := utf16 ((Channels.splitDots rest).getD 1 ""),
           id := utf16 ((Channels.splitDots rest).getD 2 ""),
           topic := utf16 ((Channels.splitDots rest).getD 3 "") } : Name) = name := by
  have index := indexOf_delimited (colon_mem_utf16.not.mpr absent) (utf16 rest)
  have ends : ¬ (((utf16 before).length : Int) ≤ 0 ∨ ((utf16 before).length : Int) =
      ((utf16 before ++ unit ':' :: utf16 rest).length : Int) - 1) ↔ before ≠ "" ∧ rest ≠ "" := by
    have beforeLength : 0 < (utf16 before).length ↔ before ≠ "" :=
      List.length_pos_iff.trans utf16_eq_nil.not
    have restLength : 0 < (utf16 rest).length ↔ rest ≠ "" :=
      List.length_pos_iff.trans utf16_eq_nil.not
    rw [← beforeLength, ← restLength, List.length_append, List.length_cons]
    omega
  have same : ∀ known : String, utf16 before = utf16 known ↔ before = known :=
    fun known => utf16_injective.eq_iff
  have tail : (utf16 before ++ unit ':' :: utf16 rest).drop ((utf16 before).length + 1) =
      utf16 rest := by
    simp
  have checked : ∀ done : Unit,
      ((Channels.splitDots rest).map utf16).forM (validateComponent stringify) = .ok done ↔
        ∀ part ∈ Channels.splitDots rest, validateComponent stringify (utf16 part) = .ok () := by
    intro done
    exact forM_eq_ok.trans List.forall_mem_map
  simp only [parseName, utf16_delimited, index, bind_eq_ok, ensure_eq_ok, ends, Int.toNat_natCast,
    List.take_left, tail, same, colon_mem_utf16, splitOn_dot_utf16, List.length_map, getD_utf16,
    checked, utf16_eq_nil, pure, Except.pure, Except.ok.injEq,
    exists_const]

private theorem parseName_undelimited {text : String} (absent : ':' ∉ text.toList) (name : Name) :
    parseName stringify (utf16 text) ≠ .ok name := by
  have index := indexOf_undelimited (colon_mem_utf16.not.mpr absent)
  intro parsed
  simp only [parseName, bind_eq_ok, ensure_eq_ok, index] at parsed
  obtain ⟨_, guarded, _⟩ := parsed
  exact guarded (.inl (by decide))

theorem parseName_utf16 (text : String) (name : Name) :
    parseName stringify (utf16 text) = .ok name ↔
      ∃ accepted, Channels.parseName text = .ok accepted ∧ name = .encode accepted := by
  constructor
  · intro parsed
    rcases delimited_cases ':' text.toList with absent | ⟨left, right, cut, absent⟩
    · exact absurd parsed (parseName_undelimited absent name)
    · obtain rfl : text = String.ofList left ++ ":" ++ String.ofList right :=
        String.toList_inj.mp (by simp [cut])
      have guards := (parseName_guards (by simpa using absent)).mp parsed
      generalize String.ofList left = before at guards
      generalize String.ofList right = rest at guards
      obtain ⟨_, known, uncoloned, two, four, valid, identified, rfl⟩ := guards
      obtain ⟨visibility, rfl⟩ : ∃ visibility : Visibility, before = visibility.text := by
        rcases known with rfl | rfl
        · exact ⟨.public, rfl⟩
        · exact ⟨.private, rfl⟩
      refine ⟨.ofComponents visibility (Channels.splitDots rest), ?_, rfl⟩
      apply WireForm.parseName
      constructor
      · rw [Channels.intercalate_splitDots]
      · exact two
      · exact four
      · intro isPrivate
        by_contra short
        exact identified ⟨by rw [isPrivate]; rfl, List.getD_eq_default _ _ (by omega)⟩
      · intro component member
        exact ((validateComponent_utf16 stringify component).mp (valid component member)).1
      · intro component member
        exact ((validateComponent_utf16 stringify component).mp (valid component member)).2
  · rintro ⟨accepted, parsed, rfl⟩
    obtain ⟨visibility, components, form, rfl⟩ := Channels.parseName_eq_ok.mp parsed
    obtain ⟨_, _, visible, present⟩ :=
      Channels.splitVisibility_eq_some.mp form.splitVisibility
    rw [form.spelled, parseName_guards (Channels.colon_not_mem_visibility visibility)]
    simp only [form.splitDots_rest]
    refine ⟨⟨visible, present⟩, ?_, form.colon_not_mem_rest, form.atLeastTwo,
      form.atMostFour, ?_, ?_, rfl⟩
    · cases visibility
      · exact .inl rfl
      · exact .inr rfl
    · intro component member
      rw [validateComponent_utf16]
      exact ⟨form.nonempty component member, form.spelling component member⟩
    · rintro ⟨isPrivate, missing⟩
      apply form.id_ne_empty ?_ missing
      cases visibility with
      | «public» => exact absurd isPrivate (by decide)
      | «private» => rfl

theorem formatName_encode (name : Channels.Name) : formatName (.encode name) = utf16 name.text := by
  have joined : ∀ parts : List String,
      [unit '.'].intercalate (parts.map utf16) = utf16 (String.intercalate "." parts) := by
    intro parts
    rw [utf16, String.toList_intercalate, flatMap_intercalate, List.map_map]
    rfl
  have present : ∀ parts : List String,
      (parts.map utf16).filter (· ≠ []) = (parts.filter (· ≠ "")).map utf16 := by
    intro parts
    rw [List.filter_map]
    congr 1
    apply List.filter_congr
    intro part _
    simp [utf16_eq_nil]
  have segments : [utf16 name.app, utf16 name.domain] ++
      [utf16 name.id, utf16 name.topic].filter (· ≠ []) = name.segments.map utf16 := by
    rw [Channels.Name.segments, List.map_append, ← present]
    rfl
  change utf16 name.visibility.text ++ unit ':' :: [unit '.'].intercalate
    ([utf16 name.app, utf16 name.domain] ++ [utf16 name.id, utf16 name.topic].filter (· ≠ [])) = _
  rw [segments, joined, ← utf16_delimited]
  rfl

/-- The server and the client read one grammar, and writing a name gives back what was
read. -/
theorem channelNames_agree (text : String) :
    (parseName stringify (utf16 text)).toOption =
        (Channels.parseName text).toOption.map Name.encode ∧
      ((∃ name, Channels.parseName text = .ok name) ↔
        ∃ visibility components, WireForm text visibility components) ∧
      ∀ name, Channels.parseName text = .ok name →
        name.text = text ∧ formatName (.encode name) = utf16 text := by
  refine ⟨?_, ?_, ?_⟩
  · apply Option.ext
    intro name
    have read : parseName stringify (utf16 text) = .ok name ↔ _ := parseName_utf16 text name
    cases client : parseName stringify (utf16 text) <;>
      cases server : Channels.parseName text <;> simp_all [Except.toOption, eq_comm]
  · constructor
    · rintro ⟨name, parsed⟩
      obtain ⟨visibility, components, form, _⟩ := Channels.parseName_eq_ok.mp parsed
      exact ⟨visibility, components, form⟩
    · rintro ⟨visibility, components, form⟩
      exact ⟨_, form.parseName⟩
  · intro name parsed
    have written := Channels.text_of_parseName parsed
    exact ⟨written, by rw [formatName_encode, written]⟩

end Names

end Parsec.JavaScriptClient
