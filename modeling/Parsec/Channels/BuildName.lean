import Parsec.Channels.JavaScriptName

/-! # Names built from components

`BuildName` validates the text of a name and returns the components it was given, in the server
and in the client. -/

namespace Parsec.Channels

open Foundation

section Layout

variable {α : Type*} [DecidableEq α]

structure Layout (α : Type*) where
  app : List α
  domain : List α
  id : List α
  topic : List α

namespace Layout

def written (layout : Layout α) : List (List α) :=
  [layout.app, layout.domain] ++ [layout.id, layout.topic].filter (· ≠ [])

def read (parts : List (List α)) : Layout α where
  app := parts.getD 0 []
  domain := parts.getD 1 []
  id := parts.getD 2 []
  topic := parts.getD 3 []

def Plain (dot : α) (layout : Layout α) : Prop :=
  (∀ part ∈ [layout.app, layout.domain, layout.id, layout.topic], dot ∉ part) ∧
    (layout.topic ≠ [] → layout.id ≠ [])

omit [DecidableEq α] in
theorem getD_cases (parts : List (List α)) (index : Nat) :
    parts.getD index [] ∈ parts ∨ parts.length ≤ index ∧ parts.getD index [] = [] := by
  by_cases within : index < parts.length
  · rw [List.getD_eq_getElem parts [] within]
    exact .inl (List.getElem_mem within)
  · exact .inr ⟨Nat.le_of_not_lt within, List.getD_eq_default parts [] (Nat.le_of_not_lt within)⟩

private theorem read_plain {dot : α} {text : List α}
    (present : ∀ part ∈ text.splitOn dot, part ≠ []) :
    (read (text.splitOn dot)).Plain dot := by
  have undotted : ∀ index, dot ∉ (text.splitOn dot).getD index [] := by
    intro index
    rcases getD_cases (text.splitOn dot) index with listed | ⟨_, empty⟩
    · exact not_mem_of_mem_splitOn listed
    · rw [empty]
      exact List.not_mem_nil
  constructor
  · simp only [read, List.forall_mem_cons]
    exact ⟨undotted 0, undotted 1, undotted 2, undotted 3, by simp⟩
  · intro topic
    rcases getD_cases (text.splitOn dot) 3 with _ | ⟨_, empty⟩
    · rcases getD_cases (text.splitOn dot) 2 with listed | ⟨short, _⟩
      · exact present _ listed
      · exact absurd (List.getD_eq_default _ _ (by omega)) topic
    · exact absurd empty topic

omit [DecidableEq α] in
variable {layout : Layout α}

theorem read_written (gapless : layout.topic ≠ [] → layout.id ≠ []) :
    read layout.written = layout := by
  cases layout with
  | mk app domain id topic =>
    by_cases identified : id = []
    · have untitled : topic = [] := by
        by_contra titled
        exact gapless titled identified
      simp [read, written, identified, untitled]
    · by_cases titled : topic = [] <;> simp [read, written, identified, titled]

theorem read_splitOn_iff {dot : α}
    (present : ∀ part ∈ ([dot].intercalate layout.written).splitOn dot, part ≠ []) :
    read (([dot].intercalate layout.written).splitOn dot) = layout ↔ layout.Plain dot := by
  constructor
  · intro same
    have plain := read_plain present
    rwa [same] at plain
  · intro ⟨undotted, gapless⟩
    have separate : ∀ part ∈ layout.written, dot ∉ part := by
      intro part listed
      apply undotted
      simp only [written, List.mem_append, List.mem_filter] at listed
      rcases listed with required | ⟨optional, _⟩
      · simp only [List.mem_cons, List.not_mem_nil, or_false] at required ⊢
        tauto
      · tauto
    rw [List.splitOn_intercalate dot separate (by simp [written])]
    exact read_written gapless

end Layout

end Layout

/-- A `Name` as its fields allow it, any text in each. -/
structure RawName where
  visibility : String
  app : String
  domain : String
  id : String
  topic : String
  deriving DecidableEq

namespace RawName

def segments (raw : RawName) : List String :=
  [raw.app, raw.domain] ++ [raw.id, raw.topic].filter (· ≠ "")

def text (raw : RawName) : String :=
  raw.visibility ++ ":" ++ String.intercalate "." raw.segments

def ofName (name : Name) : RawName where
  visibility := name.visibility.text
  app := name.app
  domain := name.domain
  id := name.id
  topic := name.topic

/-- `ParseName` of the text returns exactly this name. -/
def ParsesBack (raw : RawName) : Prop :=
  ∃ name, parseName raw.text = .ok name ∧ ofName name = raw

def Plain (raw : RawName) : Prop :=
  (∀ part ∈ [raw.app, raw.domain, raw.id, raw.topic], '.' ∉ part.toList) ∧
    (raw.topic ≠ "" → raw.id ≠ "")

end RawName

def buildName (raw : RawName) : Except CodedError RawName :=
  match parseName raw.text with
  | .error error => .error error
  | .ok _ => .ok raw

variable {raw : RawName}

theorem buildName_eq_ok {built : RawName} :
    buildName raw = .ok built ↔ built = raw ∧ ∃ name, parseName raw.text = .ok name := by
  unfold buildName
  cases parseName raw.text with
  | error error => simp
  | ok name => simp [eq_comm]

namespace RawName

def layout (raw : RawName) : Layout Char where
  app := raw.app.toList
  domain := raw.domain.toList
  id := raw.id.toList
  topic := raw.topic.toList

variable {raw : RawName}

theorem plain_layout : raw.layout.Plain '.' ↔ raw.Plain := by
  simp [Layout.Plain, Plain, layout]

theorem written_layout (raw : RawName) : raw.layout.written = raw.segments.map String.toList := by
  have present : ∀ parts : List String,
      (parts.map String.toList).filter (· ≠ []) = (parts.filter (· ≠ "")).map String.toList := by
    intro parts
    rw [List.filter_map]
    congr 1
    apply List.filter_congr
    intro part _
    simp
  rw [segments, List.map_append, ← present]
  rfl

theorem joined_layout (raw : RawName) :
    ['.'].intercalate raw.layout.written = (String.intercalate "." raw.segments).toList := by
  rw [written_layout, String.toList_intercalate]
  rfl

private theorem layout_ofComponents (visibility : Visibility) (parts : List (List Char)) :
    (ofName (.ofComponents visibility (parts.map String.ofList))).layout = .read parts := by
  have position : ∀ index,
      ((parts.map String.ofList).getD index "").toList = parts.getD index [] := by
    intro index
    rw [show "" = String.ofList [] from rfl, List.getD_map, String.toList_ofList]
  simp only [ofName, Name.ofComponents, layout, Layout.read, position]

private theorem eq_of_layout {other : RawName} (visibility : raw.visibility = other.visibility)
    (same : raw.layout = other.layout) : raw = other := by
  cases raw
  cases other
  simp only [layout, Layout.mk.injEq, String.toList_inj] at same
  simp only [RawName.mk.injEq]
  exact ⟨visibility, same⟩

end RawName

variable {name : Name}

theorem RawName.parsed_components (parsed : parseName raw.text = .ok name) :
    ∃ visibility : Visibility, raw.visibility = visibility.text ∧
      WireForm raw.text visibility (splitDots (String.intercalate "." raw.segments)) ∧
      name = .ofComponents visibility (splitDots (String.intercalate "." raw.segments)) := by
  rcases parseName_eq_ok.mp parsed with ⟨visibility, components, form, rfl⟩
  have spelled := congrArg String.toList form.spelled
  have cut : visibility.text.toList ++ ':' :: (String.intercalate "." components).toList =
      raw.visibility.toList ++ ':' :: (String.intercalate "." raw.segments).toList := by
    simpa [RawName.text] using spelled.symm
  have ⟨visible, rest⟩ := delimited_unique (colon_not_mem_visibility visibility)
    form.colon_not_mem_rest cut
  have same : String.intercalate "." components = String.intercalate "." raw.segments :=
    String.toList_inj.mp rest
  have split := form.splitDots_rest
  rw [same] at split
  rw [split]
  exact ⟨visibility, (String.toList_inj.mp visible).symm, form, rfl⟩

theorem RawName.parsesBack_iff (parsed : parseName raw.text = .ok name) :
    raw.ParsesBack ↔ raw.Plain := by
  rcases raw.parsed_components parsed with ⟨visibility, visible, form, rfl⟩
  have parts : splitDots (String.intercalate "." raw.segments) =
      ((['.'].intercalate raw.layout.written).splitOn '.').map String.ofList := by
    rw [joined_layout]
    rfl
  have present : ∀ part ∈ (['.'].intercalate raw.layout.written).splitOn '.', part ≠ [] := by
    intro part listed empty
    apply form.nonempty (String.ofList part)
    · rw [parts]
      exact List.mem_map_of_mem listed
    · rw [empty]
  rw [← plain_layout, ← Layout.read_splitOn_iff present, ← layout_ofComponents visibility, ← parts]
  constructor
  · intro ⟨name, reparsed, same⟩
    rw [parsed] at reparsed
    rw [Except.ok.inj reparsed, same]
  · intro same
    exact ⟨_, parsed, eq_of_layout visible.symm same⟩

end Parsec.Channels

namespace Parsec.JavaScriptClient

open Foundation Channels

section Building

variable (stringify : JavaScriptString → JavaScriptString)

def buildName (candidate : Name) : Except ParsecError Name := do
  let _ ← parseName stringify (formatName candidate)
  return candidate

variable {stringify} {candidate : Name}

theorem buildName_eq_ok {built : Name} :
    buildName stringify candidate = .ok built ↔
      built = candidate ∧ ∃ name, parseName stringify (formatName candidate) = .ok name := by
  unfold buildName
  cases parseName stringify (formatName candidate) with
  | error error => simp [bind, Except.bind]
  | ok name => simp [bind, Except.bind, pure, Except.pure, eq_comm]

def Name.layout (name : Name) : Layout CodeUnit where
  app := name.app
  domain := name.domain
  id := name.id
  topic := name.topic

def Name.Plain (name : Name) : Prop :=
  (∀ part ∈ [name.app, name.domain, name.id, name.topic], unit '.' ∉ part) ∧
    (name.topic ≠ [] → name.id ≠ [])

def Name.ofLayout (visibility : JavaScriptString) (layout : Layout CodeUnit) : Name where
  visibility := visibility
  app := layout.app
  domain := layout.domain
  id := layout.id
  topic := layout.topic

variable {name : Name}

theorem parseName_first_colon {before rest : JavaScriptString} (absent : unit ':' ∉ before)
    (parsed : parseName stringify (before ++ unit ':' :: rest) = .ok name) :
    unit ':' ∉ rest ∧ (∀ part ∈ rest.splitOn (unit '.'), part ≠ []) ∧
      name = .ofLayout before (.read (rest.splitOn (unit '.'))) := by
  have index := indexOf_delimited absent rest
  have tail : (before ++ unit ':' :: rest).drop (before.length + 1) = rest := by simp
  simp only [parseName, index, bind_eq_ok, ensure_eq_ok, Int.toNat_natCast, List.take_left, tail,
    pure, Except.pure, Except.ok.injEq, exists_const] at parsed
  rcases parsed with ⟨_, _, uncoloned, _, _, _, valid, _, rfl⟩
  refine ⟨uncoloned, ?_, rfl⟩
  intro part listed
  have checked := forM_eq_ok.mp valid part listed
  simp only [validateComponent, bind_eq_ok, ensure_eq_ok] at checked
  rcases checked with ⟨_, nonempty, _⟩
  exact nonempty

variable (parsed : parseName stringify (formatName candidate) = .ok name)
include parsed

private theorem parseName_formatName :
    (∀ part ∈ ([unit '.'].intercalate candidate.layout.written).splitOn (unit '.'), part ≠ []) ∧
      name = .ofLayout candidate.visibility
        (.read (([unit '.'].intercalate candidate.layout.written).splitOn (unit '.'))) := by
  change parseName stringify (candidate.visibility ++ unit ':' ::
    [unit '.'].intercalate candidate.layout.written) = .ok name at parsed
  rcases delimited_cases (unit ':') candidate.visibility with absent | ⟨left, right, cut, absent⟩
  · exact (parseName_first_colon absent parsed).2
  · rw [cut, List.append_assoc, List.cons_append] at parsed
    exact absurd (by simp) (parseName_first_colon absent parsed).1

theorem parses_back_iff :
    parseName stringify (formatName candidate) = .ok candidate ↔ candidate.Plain := by
  have ⟨present, read⟩ := parseName_formatName parsed
  have layouts : candidate.Plain ↔ candidate.layout.Plain (unit '.') := Iff.rfl
  rw [layouts, ← Layout.read_splitOn_iff present, parsed, Except.ok.injEq, read]
  constructor
  · intro same
    exact congrArg Name.layout same
  · intro same
    rw [same]
    rfl

end Building

end Parsec.JavaScriptClient

namespace Parsec.Channels

/-- What `BuildName` returns, in the server and in the client, parses back to itself exactly when
no component has a dot in it and a topic comes with an id. -/
theorem buildName_parses_back_iff (raw : RawName)
    (stringify : JavaScriptClient.JavaScriptString → JavaScriptClient.JavaScriptString)
    (candidate : JavaScriptClient.Name) :
    (∀ built, buildName raw = .ok built →
      (built.ParsesBack ↔ built.Plain) ∧
        (built.Plain → (built.visibility = "private" → built.id ≠ "") ∧
          ∀ given other, buildName given = .ok other → other.Plain → other.text = built.text →
            other = built)) ∧
      ∀ built, JavaScriptClient.buildName stringify candidate = .ok built →
        (JavaScriptClient.parseName stringify (JavaScriptClient.formatName built) = .ok built ↔
          built.Plain) := by
  constructor
  · intro built returned
    rcases buildName_eq_ok.mp returned with ⟨rfl, name, parsed⟩
    have back := RawName.parsesBack_iff parsed
    refine ⟨back, fun plain => ⟨?_, ?_⟩⟩
    · intro isPrivate
      rcases back.mpr plain with ⟨same, reparsed, rfl⟩
      have visibility : same.visibility = .private := Visibility.text_injective isPrivate
      rcases parseName_eq_ok.mp reparsed with ⟨kind, components, form, rfl⟩
      exact form.id_ne_empty visibility
    · intro given other otherReturned otherPlain sameText
      rcases buildName_eq_ok.mp otherReturned with ⟨rfl, otherName, otherParsed⟩
      rcases back.mpr plain with ⟨read, readBack, isBuilt⟩
      rcases (RawName.parsesBack_iff otherParsed).mpr otherPlain with
        ⟨readOther, otherBack, isOther⟩
      rw [sameText, readBack] at otherBack
      rw [← isOther, ← isBuilt, Except.ok.inj otherBack]
  · intro built returned
    rcases JavaScriptClient.buildName_eq_ok.mp returned with ⟨rfl, name, parsed⟩
    exact JavaScriptClient.parses_back_iff parsed

/-- A topic without an id is taken for the id: a private name without an id is returned, and it
shares its text with another name. -/
theorem topic_taken_for_id :
    let gap : RawName := ⟨"private", "shop", "orders", "", "o1"⟩
    let identified : RawName := ⟨"private", "shop", "orders", "o1", ""⟩
    buildName gap = .ok gap ∧ buildName identified = .ok identified ∧
      gap.text = identified.text ∧ gap.id = "" ∧
      parseName gap.text =
        .ok { visibility := .private, app := "shop", domain := "orders", id := "o1" } := by
  decide +kernel

end Parsec.Channels
