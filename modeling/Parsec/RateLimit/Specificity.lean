import Parsec.Foundation.Ranking
import Parsec.Foundation.Template
import Parsec.RateLimit.Keys

/-! # The rule of a channel

Rules are ranked by a sum over the segments of their patterns, in which four stars weigh as much
as a literal. -/

namespace Parsec.Channels

open Foundation

def PatternSegment.isLiteral : PatternSegment → Bool
  | .literal _ => true
  | .singleStar | .doubleStar => false

def Pattern.literals (pattern : Pattern) : Nat :=
  pattern.segments.countP PatternSegment.isLiteral

def templateOf : List PatternSegment → Template String
  | [] => ⟨[], false⟩
  | .doubleStar :: _ => ⟨[], true⟩
  | .singleStar :: rest => ⟨none :: (templateOf rest).places, (templateOf rest).isOpen⟩
  | .literal text :: rest => ⟨some text :: (templateOf rest).places, (templateOf rest).isOpen⟩

theorem matchSegments_iff {segments : List PatternSegment} {parts : List String} :
    matchSegments segments parts = true ↔ (templateOf segments).Matches parts := by
  induction segments generalizing parts with
  | nil => simp [matchSegments, templateOf, Template.matches_nil]
  | cons segment segments induction =>
    cases segment with
    | doubleStar => simp [matchSegments, templateOf, Template.matches_nil]
    | singleStar =>
      cases parts with
      | nil => simp [matchSegments, templateOf, Template.not_matches_cons_nil]
      | cons part parts =>
        rw [templateOf, Template.matches_cons_cons, matchSegments, induction]
        simp
    | literal text =>
      cases parts with
      | nil => simp [matchSegments, templateOf, Template.not_matches_cons_nil]
      | cons part parts =>
        rw [templateOf, Template.matches_cons_cons, matchSegments, Bool.and_eq_true, induction]
        simp

def segmentsOf (template : Template String) : List PatternSegment :=
  template.places.map (fun place => place.elim .singleStar .literal) ++
    if template.isOpen then [.doubleStar] else []

namespace Spells

variable {parts : List String} {segments : List PatternSegment}

theorem segmentsOf_templateOf (spells : Spells parts segments) :
    segmentsOf (templateOf segments) = segments := by
  induction spells with
  | nil | doubleStar => rfl
  | literal nonempty spelling rest induction | singleStar rest induction =>
    conv_rhs => rw [← induction]
    rfl

theorem countP_templateOf (spells : Spells parts segments) :
    (templateOf segments).places.countP (·.isSome) = segments.countP PatternSegment.isLiteral := by
  induction spells with
  | nil | doubleStar => rfl
  | literal nonempty spelling rest induction =>
    simp [templateOf, PatternSegment.isLiteral, List.countP_cons, induction]
  | singleStar rest induction => simp [templateOf, PatternSegment.isLiteral, induction]

end Spells

end Parsec.Channels

namespace Parsec.RateLimit

open Foundation Channels Auth

/-! ## Scores -/

private theorem segmentScore_literal {part : String}
    (spelling : ∀ char ∈ part.toList, char ∈ componentAlphabet) : segmentScore part = 4 := by
  have unstarred : '*' ∉ part.toList := fun star =>
    absurd (spelling _ star) (by decide +kernel)
  unfold segmentScore
  rw [if_neg, if_neg]
  · intro star
    exact unstarred (star ▸ by decide +kernel)
  · intro star
    exact unstarred (star ▸ by decide +kernel)

private theorem sum_segmentScore {parts : List String} {segments : List PatternSegment}
    (spells : Spells parts segments) :
    (parts.map segmentScore).sum = Template.weight 4 1 (templateOf segments).places := by
  induction spells with
  | nil | doubleStar => rfl
  | literal nonempty spelling rest induction =>
    simp [templateOf, Template.weight_cons, segmentScore_literal spelling, induction]
  | singleStar rest induction =>
    simp [templateOf, Template.weight_cons, segmentScore, induction]

variable {text : String} {pattern : Pattern}

theorem raw_of_parsePattern (parsed : parsePattern text = .ok pattern) : pattern.raw = text := by
  unfold parsePattern at parsed
  split at parsed
  · cases parsed
  · split at parsed
    · cases parsed
    · dsimp only at parsed
      split at parsed
      · cases parsed
      · split at parsed
        · cases parsed
        · split at parsed
          · cases parsed
          · cases parsed
            rfl

theorem ruleSpecificity_eq (parsed : parsePattern text = .ok pattern) :
    ruleSpecificity pattern = 4 + Template.weight 4 1 (templateOf pattern.segments).places := by
  rcases patternForm_of_parsePattern parsed with ⟨parts, form⟩
  have visible : segmentScore pattern.visibility.text = 4 := by
    cases pattern.visibility <;> decide
  rw [ruleSpecificity, raw_of_parsePattern parsed, form.splitSeparators_text, List.map_cons,
    List.sum_cons, visible, sum_segmentScore form.spells]

/-! ## The chosen rule -/

def ruleRanking : Ranking ChannelRule String where
  score := fun rule => ruleSpecificity rule.pattern
  label := ChannelRule.raw

theorem precedes_iff {first second : ChannelRule} :
    first.precedes second = true ↔ ruleRanking.Ahead first second := by
  unfold ChannelRule.precedes Ranking.Ahead ruleRanking
  split
  · rename_i different
    simp [different]
  · rename_i same
    have equal := not_not.mp same
    simp [equal]

def chosenRule (rules : List ChannelRule) (name : Name) : Option ChannelRule :=
  rules.find? (·.pattern.matches name)

theorem match_of_chosenRule {rules : List ChannelRule} {name : Name} {chosen : ChannelRule}
    (chooses : chosenRule rules name = some chosen) (limits : RateLimits) :
    { limits with perChannelPublish := rules }.matchPublish name = (chosen.limit, chosen.raw) ∧
      { limits with perChannelSubscribe := rules }.matchSubscribe name =
        (chosen.limit, chosen.raw) := by
  unfold chosenRule at chooses
  simp [RateLimits.matchPublish, RateLimits.matchSubscribe, chooses]

section Chosen

variable {entries : List (String × Limit)} {rules : List ChannelRule} {name : Name}
  {chosen rule : ChannelRule}

theorem ahead_of_chosenRule (compiled : compileChannelRules entries = .ok rules)
    (chooses : chosenRule rules name = some chosen) :
    ∀ rule ∈ rules, rule.pattern.matches name = true → ruleRanking.Ahead chosen rule := by
  simp only [compileChannelRules, bind_eq_ok] at compiled
  rcases compiled with ⟨parsed, _, sorted⟩
  cases sorted
  intro rule member matched
  exact Ranking.ahead_of_find? (fun _ _ => precedes_iff) chooses rule
    ((List.mem_insertionSort _).mp member) matched

def present (name : Name) : List String := name.segments.filter (· ≠ "")

theorem length_present (name : Name) : (present name).length ≤ 4 := by
  calc (present name).length ≤ name.segments.length := List.length_filter_le ..
    _ = 2 + ([name.id, name.topic].filter (· ≠ "")).length := by
        rw [Name.segments, List.length_append]
        rfl
    _ ≤ 4 := by
        have few := List.length_filter_le (fun part => decide (part ≠ "")) [name.id, name.topic]
        simp only [List.length_cons, List.length_nil] at few
        omega

theorem template_of_matches (matched : rule.pattern.matches name = true) :
    rule.pattern.visibility = name.visibility ∧
      (templateOf rule.pattern.segments).Matches (present name) := by
  simp only [Pattern.matches, Bool.and_eq_true, decide_eq_true_eq] at matched
  exact ⟨matched.1.2, matchSegments_iff.mp matched.2⟩

def stars (pattern : Pattern) : Nat := (templateOf pattern.segments).places.countP (·.isNone)

theorem score_eq (parsed : parsePattern rule.raw = .ok rule.pattern) :
    ruleSpecificity rule.pattern = 4 + 4 * rule.pattern.literals + stars rule.pattern := by
  rcases patternForm_of_parsePattern parsed with ⟨parts, form⟩
  rw [ruleSpecificity_eq parsed, Template.weight_eq, form.spells.countP_templateOf, stars,
    Pattern.literals]
  omega

theorem length_places (parsed : parsePattern rule.raw = .ok rule.pattern) :
    (templateOf rule.pattern.segments).places.length =
      rule.pattern.literals + stars rule.pattern := by
  rcases patternForm_of_parsePattern parsed with ⟨parts, form⟩
  rw [Template.length_eq_countP, form.spells.countP_templateOf, stars, Pattern.literals]

/-! ## Literal segments -/

def FourStars (pattern : Pattern) : Prop :=
  pattern.segments = [.singleStar, .singleStar, .singleStar, .singleStar]

def OneLiteral (pattern : Pattern) : Prop :=
  ∃ text, pattern.segments = [.literal text, .doubleStar]

variable {pattern : Pattern}

theorem FourStars.counts (four : FourStars pattern) : pattern.literals = 0 ∧ stars pattern = 4 := by
  unfold FourStars at four
  simp [Pattern.literals, stars, four, templateOf, PatternSegment.isLiteral]

theorem OneLiteral.counts (one : OneLiteral pattern) :
    pattern.literals = 1 ∧ stars pattern = 0 := by
  rcases one with ⟨text, segments⟩
  simp [Pattern.literals, stars, segments, templateOf, PatternSegment.isLiteral, List.countP_cons]

section

variable (parsed : parsePattern rule.raw = .ok rule.pattern)
  (matched : rule.pattern.matches name = true)
include parsed matched

theorem fourStars_of_counts (literals : rule.pattern.literals = 0) (four : stars rule.pattern = 4) :
    FourStars rule.pattern ∧ (present name).length = 4 := by
  rcases patternForm_of_parsePattern parsed with ⟨parts, form⟩
  have fits := (template_of_matches matched).2.1
  have length := length_places parsed
  have short := length_present name
  rw [literals, four] at length
  have gaps : (templateOf rule.pattern.segments).places = List.replicate 4 none := by
    apply List.eq_replicate_iff.mpr
    refine ⟨length, ?_⟩
    intro place member
    have unfixed : (templateOf rule.pattern.segments).places.countP (·.isSome) = 0 :=
      form.spells.countP_templateOf.trans literals
    simpa using List.countP_eq_zero.mp unfixed place member
  unfold Template.Fits at fits
  split at fits
  · omega
  · rename_i closed
    refine ⟨?_, by omega⟩
    rw [FourStars, ← form.spells.segmentsOf_templateOf, segmentsOf, gaps, if_neg closed]
    rfl

theorem oneLiteral_of_counts (literals : rule.pattern.literals = 1) (none : stars rule.pattern = 0)
    (four : (present name).length = 4) : OneLiteral rule.pattern := by
  rcases patternForm_of_parsePattern parsed with ⟨parts, form⟩
  have fits := (template_of_matches matched).2.1
  have length := length_places parsed
  rw [literals, none] at length
  rcases List.length_eq_one_iff.mp length with ⟨place, only⟩
  have fixed := form.spells.countP_templateOf.trans literals
  rw [only] at fixed
  cases place with
  | none => simp at fixed
  | some text =>
    unfold Template.Fits at fits
    split at fits
    · rename_i opened
      refine ⟨text, ?_⟩
      rw [← form.spells.segmentsOf_templateOf, segmentsOf, only, if_pos opened]
      rfl
    · omega

end

variable {text : String} {parts : List String}

theorem FourStars.head (four : FourStars pattern) (form : PatternForm text pattern parts) :
    ∃ rest, (String.intercalate "." parts).toList = '*' :: rest := by
  have spells := form.spells
  rw [four] at spells
  cases spells with
  | singleStar rest =>
    cases rest with
    | singleStar rest => exact ⟨_, by rw [String.toList_intercalate]; rfl⟩

theorem OneLiteral.head (one : OneLiteral pattern) (form : PatternForm text pattern parts) :
    ∃ letter rest, letter ∈ componentAlphabet ∧
      (String.intercalate "." parts).toList = letter :: rest := by
  rcases one with ⟨literal, segments⟩
  have spells := form.spells
  rw [segments] at spells
  cases spells with
  | literal nonempty spelling rest =>
    cases rest with
    | doubleStar =>
      cases letters : literal.toList with
      | nil => exact absurd (String.toList_inj.mp letters) nonempty
      | cons letter others =>
        refine ⟨letter, others ++ ['.', '*', '*'], ?_, ?_⟩
        · exact spelling letter (letters ▸ List.mem_cons_self)
        · simp [letters]

theorem raw_lt_of_shapes {other : ChannelRule} (parsed : parsePattern rule.raw = .ok rule.pattern)
    (otherParsed : parsePattern other.raw = .ok other.pattern)
    (visibility : rule.pattern.visibility = other.pattern.visibility)
    (four : FourStars rule.pattern) (one : OneLiteral other.pattern) : rule.raw < other.raw := by
  rcases patternForm_of_parsePattern parsed with ⟨parts, form⟩
  rcases patternForm_of_parsePattern otherParsed with ⟨otherParts, otherForm⟩
  rcases four.head form with ⟨rest, starred⟩
  rcases one.head otherForm with ⟨letter, others, alphabetic, lettered⟩
  have less : '*' < letter := by
    have all : (componentAlphabet.all fun letter => '*' < letter) = true := by decide +kernel
    simpa using List.all_eq_true.mp all letter alphabetic
  rw [String.lt_iff_toList_lt, form.spelled, otherForm.spelled, visibility]
  simp only [String.toList_append, starred, lettered]
  apply List.append_left_lt
  exact List.cons_lt_cons_iff.mpr (.inl less)

private theorem counts_le (parsed : parsePattern rule.raw = .ok rule.pattern)
    (matched : rule.pattern.matches name = true) :
    rule.pattern.literals + stars rule.pattern ≤ (present name).length := by
  have fits := (template_of_matches matched).2.1
  unfold Template.Fits at fits
  rw [← length_places parsed]
  split at fits <;> omega

structure Shadowed (rules : List ChannelRule) (name : Name) : Prop where
  four : ∃ rule ∈ rules, rule.pattern.matches name = true ∧ FourStars rule.pattern
  one : ∃ rule ∈ rules, rule.pattern.matches name = true ∧ OneLiteral rule.pattern
  only : ∀ rule ∈ rules, rule.pattern.matches name = true →
    rule.pattern.literals = 0 ∨ OneLiteral rule.pattern

theorem Shadowed.outnumbered (shadowed : Shadowed rules name)
    (compiled : compileChannelRules entries = .ok rules)
    (chooses : chosenRule rules name = some chosen) :
    ∃ rule ∈ rules, rule.pattern.matches name = true ∧
      chosen.pattern.literals < rule.pattern.literals := by
  have parsed := pattern_of_compileChannelRules compiled
  have ahead := ahead_of_chosenRule compiled chooses
  have member := List.mem_of_find?_eq_some chooses
  have matched : chosen.pattern.matches name = true := by simpa using List.find?_some chooses
  rcases shadowed.four with ⟨starred, starredIn, starredMatched, four⟩
  rcases shadowed.one with ⟨lettered, letteredIn, letteredMatched, one⟩
  refine ⟨lettered, letteredIn, letteredMatched, ?_⟩
  rw [one.counts.1]
  rcases shadowed.only chosen member matched with none | chosenOne
  · omega
  · have visibility : starred.pattern.visibility = chosen.pattern.visibility :=
      (template_of_matches starredMatched).1.trans (template_of_matches matched).1.symm
    have less := raw_lt_of_shapes (parsed starred starredIn) (parsed chosen member) visibility
      four chosenOne
    have starredScore := score_eq (parsed starred starredIn)
    have chosenScore := score_eq (parsed chosen member)
    rw [four.counts.1, four.counts.2] at starredScore
    rw [chosenOne.counts.1, chosenOne.counts.2] at chosenScore
    rcases ahead starred starredIn starredMatched with more | ⟨_, before⟩
    · change ruleSpecificity starred.pattern < ruleSpecificity chosen.pattern at more
      omega
    · exact absurd less (not_lt_of_ge before)

theorem shadowed_of_outnumbered (compiled : compileChannelRules entries = .ok rules)
    (chooses : chosenRule rules name = some chosen) (member : rule ∈ rules)
    (matched : rule.pattern.matches name = true)
    (outnumbered : chosen.pattern.literals < rule.pattern.literals) : Shadowed rules name := by
  have parsed := pattern_of_compileChannelRules compiled
  have chosenIn := List.mem_of_find?_eq_some chooses
  have chosenMatched : chosen.pattern.matches name = true := by simpa using List.find?_some chooses
  have outscores : ∀ other ∈ rules, other.pattern.matches name = true →
      4 * other.pattern.literals + stars other.pattern ≤
        4 * chosen.pattern.literals + stars chosen.pattern := by
    intro other otherIn otherMatched
    have ahead := ahead_of_chosenRule compiled chooses other otherIn otherMatched
    simp only [Ranking.Ahead, ruleRanking, score_eq (parsed chosen chosenIn),
      score_eq (parsed other otherIn)] at ahead
    omega
  have short := length_present name
  have few := counts_le (parsed chosen chosenIn) chosenMatched
  have scores := outscores rule member matched
  have four := fourStars_of_counts (parsed chosen chosenIn) chosenMatched (by omega) (by omega)
  constructor
  · exact ⟨chosen, chosenIn, chosenMatched, four.1⟩
  · exact ⟨rule, member, matched,
      oneLiteral_of_counts (parsed rule member) matched (by omega) (by omega) four.2⟩
  · intro other otherIn otherMatched
    have otherScores := outscores other otherIn otherMatched
    by_cases none : other.pattern.literals = 0
    · exact .inl none
    · exact .inr (oneLiteral_of_counts (parsed other otherIn) otherMatched (by omega) (by omega)
        four.2)

/-- The rule that is chosen has the most literals, unless the only literals among the rules that
match are those of a literal with a double star, and four stars match too. -/
theorem chosen_most_literal_iff (compiled : compileChannelRules entries = .ok rules)
    (chooses : chosenRule rules name = some chosen) (limits : RateLimits) :
    ({ limits with perChannelPublish := rules }.matchPublish name = (chosen.limit, chosen.raw) ∧
      { limits with perChannelSubscribe := rules }.matchSubscribe name =
        (chosen.limit, chosen.raw)) ∧
    ((∀ rule ∈ rules, rule.pattern.matches name = true →
        rule.pattern.literals ≤ chosen.pattern.literals) ↔ ¬ Shadowed rules name) := by
  refine ⟨match_of_chosenRule chooses limits, ?_, ?_⟩
  · intro most shadowed
    rcases shadowed.outnumbered compiled chooses with ⟨rule, member, matched, fewer⟩
    exact absurd (most rule member matched) (Nat.not_le_of_gt fewer)
  · intro unshadowed rule member matched
    by_contra fewer
    exact unshadowed (shadowed_of_outnumbered compiled chooses member matched
      (Nat.lt_of_not_le fewer))

def onePerSecond (texts : List String) : List (String × Limit) :=
  texts.map fun text => (text, { rate := 1, per := 1000000000, burst := 0 })

def orderEvents : Name where
  visibility := .public
  app := "shop"
  domain := "orders"
  id := "o1"
  topic := "events"

theorem chosen_of_raw
    (chooses : (compileChannelRules entries).toOption.bind
      (fun rules => (chosenRule rules name).map (·.raw)) = some text) :
    ∃ rules chosen, compileChannelRules entries = .ok rules ∧
      chosenRule rules name = some chosen ∧ chosen.raw = text := by
  cases compiled : compileChannelRules entries with
  | error error => simp [compiled, Except.toOption] at chooses
  | ok rules =>
    simp only [compiled, Except.toOption, Option.bind_some, Option.map_eq_some_iff] at chooses
    rcases chooses with ⟨chosen, found, spelled⟩
    exact ⟨rules, chosen, rfl, found, spelled⟩

theorem literal_chosen : ∃ rules chosen,
    compileChannelRules (onePerSecond ["public:*.*.*.*", "public:shop.*.*.*"]) = .ok rules ∧
    chosenRule rules orderEvents = some chosen ∧ chosen.raw = "public:shop.*.*.*" ∧
    ∀ rule ∈ rules, rule.pattern.matches orderEvents = true →
      rule.pattern.literals ≤ chosen.pattern.literals := by
  have chooses : (compileChannelRules (onePerSecond ["public:*.*.*.*", "public:shop.*.*.*"])
      ).toOption.bind (fun rules => (chosenRule rules orderEvents).map (·.raw)) =
        some "public:shop.*.*.*" := by
    decide +kernel
  rcases chosen_of_raw chooses with ⟨rules, chosen, compiled, found, spelled⟩
  refine ⟨rules, chosen, compiled, found, spelled, ?_⟩
  apply (chosen_most_literal_iff compiled found {}).2.mpr
  intro shadowed
  have member := List.mem_of_find?_eq_some found
  have parsed := pattern_of_compileChannelRules compiled chosen member
  rw [spelled] at parsed
  have segments : (parsePattern "public:shop.*.*.*").toOption.map (·.segments) =
      some [.literal "shop", .singleStar, .singleStar, .singleStar] := by
    decide +kernel
  rw [parsed] at segments
  simp only [Except.toOption, Option.map_some, Option.some.injEq] at segments
  rcases shadowed.only chosen member (by simpa using List.find?_some found) with none | one
  · simp [Pattern.literals, segments, PatternSegment.isLiteral, List.countP_cons] at none
  · rcases one with ⟨text, short⟩
    simp [segments] at short

/-- The rule with the literal loses against four stars. -/
theorem four_stars_chosen :
    (compileChannelRules (onePerSecond ["public:*.*.*.*", "public:shop.**"])).toOption.map
      (fun rules =>
        ((({ perChannelPublish := rules } : RateLimits).matchPublish orderEvents).2,
          (({ perChannelSubscribe := rules } : RateLimits).matchSubscribe orderEvents).2,
          rules.map fun rule =>
            (rule.raw, rule.pattern.matches orderEvents, rule.pattern.literals))) =
      some ("public:*.*.*.*", "public:*.*.*.*",
        [("public:*.*.*.*", true, 0), ("public:shop.**", true, 1)]) := by
  decide +kernel

/-! ## Narrower rules -/

def nameWords (visibility : Visibility) : Template.Words String where
  low := if visibility = .private then 3 else 2
  high := 4
  valid := fun part => part ≠ "" ∧ ∀ char ∈ part.toList, char ∈ componentAlphabet
  several := by split <;> omega
  fresh := by
    intro used
    -- longer than every word that is used
    let length := (used.map String.length).sum + 1
    refine ⟨String.ofList (List.replicate length 'a'), ⟨?_, ?_⟩, ?_⟩
    · intro empty
      have lengths := congrArg String.length empty
      simp [length] at lengths
    · intro char member
      rw [String.toList_ofList] at member
      rw [List.eq_of_mem_replicate member]
      decide +kernel
    · intro member
      have bounded := List.single_le_sum (fun _ _ => Nat.zero_le _) _
        (List.mem_map_of_mem (f := String.length) member)
      simp [length] at bounded

theorem present_of_accepted (accepted : name.Accepted) : present name = name.segments := by
  apply List.filter_eq_self.mpr
  intro segment member
  simpa using accepted.wireForm.nonempty segment member

theorem admits_of_accepted (accepted : name.Accepted) :
    (nameWords name.visibility).Admits (present name) := by
  have form := accepted.wireForm
  rw [present_of_accepted accepted]
  refine ⟨?_, form.atMostFour, ?_⟩
  · unfold nameWords
    split
    · exact form.identified ‹_›
    · exact form.atLeastTwo
  · intro part member
    exact ⟨form.nonempty part member, form.spelling part member⟩

private theorem accepted_of_admits {visibility : Visibility} {word : List String}
    (admitted : (nameWords visibility).Admits word) :
    ∃ name : Name, name.Accepted ∧ name.visibility = visibility ∧ present name = word := by
  have least : (if visibility = .private then 3 else 2) ≤ word.length := admitted.1
  have form : WireForm (visibility.text ++ ":" ++ String.intercalate "." word) visibility word := by
    constructor
    · rfl
    · split at least <;> omega
    · exact admitted.2.1
    · intro isPrivate
      rwa [if_pos isPrivate] at least
    · exact fun part member => (admitted.2.2 part member).1
    · exact fun part member => (admitted.2.2 part member).2
  have accepted : (Name.ofComponents visibility word).Accepted := ⟨_, form.parseName⟩
  refine ⟨_, accepted, rfl, ?_⟩
  rw [present_of_accepted accepted, form.segments_ofComponents]

private theorem matches_iff (parsed : parsePattern rule.raw = .ok rule.pattern) :
    rule.pattern.matches name = true ↔ rule.pattern.visibility = name.visibility ∧
      (templateOf rule.pattern.segments).Matches (present name) := by
  rcases patternForm_of_parsePattern parsed with ⟨parts, form⟩
  constructor
  · exact template_of_matches
  · intro ⟨visibility, matched⟩
    simp only [Pattern.matches, Bool.and_eq_true, decide_eq_true_eq]
    refine ⟨⟨?_, visibility⟩, matchSegments_iff.mpr matched⟩
    simpa using form.segments_ne_nil

structure NarrowerRule (narrow wide : ChannelRule) : Prop where
  within : ∀ name : Name, name.Accepted → narrow.pattern.matches name = true →
    wide.pattern.matches name = true
  proper : ∃ name : Name, name.Accepted ∧ wide.pattern.matches name = true ∧
    narrow.pattern.matches name = false

variable {narrow wide : ChannelRule}

theorem NarrowerRule.templates (narrower : NarrowerRule narrow wide)
    (parsed : parsePattern narrow.raw = .ok narrow.pattern) (accepted : name.Accepted)
    (matched : narrow.pattern.matches name = true) :
    Template.Narrower (nameWords name.visibility) (templateOf narrow.pattern.segments)
      (templateOf wide.pattern.segments) := by
  have visible := (template_of_matches matched).1
  have wideVisible := (template_of_matches (narrower.within name accepted matched)).1
  constructor
  · intro word admitted narrowMatches
    rcases accepted_of_admits admitted with ⟨other, otherAccepted, same, rfl⟩
    apply (template_of_matches (narrower.within other otherAccepted _)).2
    exact (matches_iff parsed).mpr ⟨visible.trans same.symm, narrowMatches⟩
  · rcases narrower.proper with ⟨other, otherAccepted, wideMatches, unmatched⟩
    have wider := template_of_matches wideMatches
    have same : name.visibility = other.visibility := wideVisible.symm.trans wider.1
    refine ⟨present other, same ▸ admits_of_accepted otherAccepted, wider.2, ?_⟩
    intro narrowMatches
    rw [(matches_iff parsed).mpr ⟨visible.trans same, narrowMatches⟩] at unmatched
    cases unmatched

theorem NarrowerRule.score_lt (narrower : NarrowerRule narrow wide)
    (narrowParsed : parsePattern narrow.raw = .ok narrow.pattern)
    (wideParsed : parsePattern wide.raw = .ok wide.pattern) (accepted : name.Accepted)
    (matched : narrow.pattern.matches name = true) :
    ruleSpecificity wide.pattern < ruleSpecificity narrow.pattern := by
  rw [ruleSpecificity_eq narrowParsed, ruleSpecificity_eq wideParsed, Nat.add_lt_add_iff_left]
  apply Template.weight_lt_of_narrower Nat.one_pos _
    (narrower.templates narrowParsed accepted matched)
    (admits_of_accepted accepted) (template_of_matches matched).2
  unfold nameWords
  dsimp only
  split <;> decide

/-- A rule is never chosen for a name of a narrower one. A rule that no accepted name matches is
narrower than others for no reason, and has no accepted name to be chosen for. -/
theorem narrower_rule_not_shadowed (compiled : compileChannelRules entries = .ok rules)
    {narrow wide : ChannelRule} (narrowIn : narrow ∈ rules) (wideIn : wide ∈ rules)
    (narrower : NarrowerRule narrow wide)
    (reached : ∃ other : Name, other.Accepted ∧ narrow.pattern.matches other = true)
    (matched : narrow.pattern.matches name = true) (limits : RateLimits) :
    ({ limits with perChannelPublish := rules }.matchPublish name).2 ≠ wide.raw ∧
      ({ limits with perChannelSubscribe := rules }.matchSubscribe name).2 ≠ wide.raw := by
  rcases reached with ⟨other, accepted, otherMatched⟩
  have parsed := pattern_of_compileChannelRules compiled
  have less := narrower.score_lt (parsed narrow narrowIn) (parsed wide wideIn) accepted otherMatched
  cases chooses : chosenRule rules name with
  | none => simpa [matched] using List.find?_eq_none.mp chooses narrow narrowIn
  | some chosen =>
    have chosenIn := List.mem_of_find?_eq_some chooses
    have outscores : ruleSpecificity narrow.pattern ≤ ruleSpecificity chosen.pattern := by
      rcases ahead_of_chosenRule compiled chooses narrow narrowIn matched with more | ⟨same, _⟩
      · exact more.le
      · exact same.ge
    have different : chosen.raw ≠ wide.raw := by
      intro same
      have pattern := parsed chosen chosenIn
      rw [same, parsed wide wideIn] at pattern
      rw [← Except.ok.inj pattern] at outscores
      omega
    rw [(match_of_chosenRule chooses limits).1, (match_of_chosenRule chooses limits).2]
    exact ⟨different, different⟩

theorem orderEvents_accepted : orderEvents.Accepted := by
  refine ⟨"public:shop.orders.o1.events", ?_⟩
  decide +kernel

theorem shop_rule_chosen : ∃ rules narrow wide,
    compileChannelRules (onePerSecond ["public:**", "public:shop.**"]) = .ok rules ∧
    narrow ∈ rules ∧ wide ∈ rules ∧ narrow.raw = "public:shop.**" ∧ wide.raw = "public:**" ∧
    NarrowerRule narrow wide ∧ narrow.pattern.matches orderEvents = true ∧
    (({ perChannelPublish := rules } : RateLimits).matchPublish orderEvents).2 ≠ wide.raw ∧
    (({ perChannelSubscribe := rules } : RateLimits).matchSubscribe orderEvents).2 ≠ wide.raw := by
  have listed : (compileChannelRules (onePerSecond ["public:**", "public:shop.**"])
      ).toOption.map (·.map fun rule => (rule.raw, rule.pattern)) =
        some [("public:shop.**", ⟨"public:shop.**", .public, [.literal "shop", .doubleStar]⟩),
          ("public:**", ⟨"public:**", .public, [.doubleStar]⟩)] := by
    decide +kernel
  cases compiled : compileChannelRules (onePerSecond ["public:**", "public:shop.**"]) with
  | error error => simp [compiled, Except.toOption] at listed
  | ok rules =>
    simp only [compiled, Except.toOption, Option.map_some, Option.some.injEq,
      List.map_eq_cons_iff, List.map_eq_nil_iff, Prod.mk.injEq] at listed
    rcases listed with
      ⟨narrow, _, rfl, ⟨narrowRaw, narrowPattern⟩, wide, _, rfl, ⟨wideRaw, widePattern⟩, rfl⟩
    have narrower : NarrowerRule narrow wide := by
      constructor
      · intro name accepted matched
        rw [narrowPattern] at matched
        rw [widePattern]
        simp only [Pattern.matches, Bool.and_eq_true, decide_eq_true_eq] at matched ⊢
        refine ⟨⟨rfl, matched.1.2⟩, ?_⟩
        cases parts : name.segments.filter (· ≠ "") with
        | nil =>
          rw [parts] at matched
          cases matched.2
        | cons part parts => rfl
      · refine ⟨{ orderEvents with app := "news" }, ⟨"public:news.orders.o1.events", ?_⟩, ?_, ?_⟩
        · decide +kernel
        · rw [widePattern]
          decide +kernel
        · rw [narrowPattern]
          decide +kernel
    have matched : narrow.pattern.matches orderEvents = true := by
      rw [narrowPattern]
      decide +kernel
    have first : narrow ∈ [narrow, wide] := List.mem_cons_self
    have second : wide ∈ [narrow, wide] := List.mem_cons_of_mem _ List.mem_cons_self
    exact ⟨_, narrow, wide, rfl, first, second, narrowRaw, wideRaw, narrower, matched,
      narrower_rule_not_shadowed compiled first second narrower
        ⟨orderEvents, orderEvents_accepted, matched⟩ matched {}⟩

end Chosen

end Parsec.RateLimit
