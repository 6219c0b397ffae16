import Parsec.Channels.Grammar

/-! # Patterns of the schema registry

The registry matches channel names as flat lists of segments, without the channel grammar. -/

namespace Parsec.Schema

open Foundation
open Channels (PatternSegment Spells componentAlphabet splitSeparators matchSegments)

inductive Token
  | literal (text : String)
  | single
  | double
  | placeholder (name : String)
  deriving DecidableEq

structure Pattern where
  tokens : List Token
  raw : String
  deriving DecidableEq

abbrev Bindings := AList fun _ : String => String

def splitPatternSegments (text : String) : List String := splitSeparators text

def isPlaceholder (segment : List Char) : Bool :=
  segment.head? = some '\x7b' && segment.getLast? = some '\x7d' && 2 < segment.length

def parseToken (source : String) (trailing : Bool) (segment : String) : Except String Token :=
  if segment = "**" then
    if trailing then .ok .double
    else .error ("schema: ** must be the trailing segment in " ++ source.quote)
  else if segment = "*" then .ok .single
  else if isPlaceholder segment.toList then
    .ok (.placeholder (String.ofList (segment.toList.drop 1).dropLast))
  else if segment.toList.any fun char => char = '\x7b' ∨ char = '\x7d' ∨ char = '*' then
    .error ("schema: segment " ++ segment.quote ++ " mixes literal and wildcard in " ++
      source.quote)
  else .ok (.literal segment)

def parseTokens (source : String) : List String → Except String (List Token)
  | [] => .ok []
  | segment :: rest => do
      let token ← parseToken source rest.isEmpty segment
      let tokens ← parseTokens source rest
      return token :: tokens

def parsePattern (source : String) : Except String Pattern := do
  ensure (source ≠ "") "schema: empty pattern"
  let tokens ← parseTokens source (splitPatternSegments source)
  return { tokens := tokens, raw := source }

def matchTokens : List Token → List String → Bindings → Option Bindings
  | [], segments, bindings => if segments = [] then some bindings else none
  | .double :: _, segments, bindings => if segments = [] then none else some bindings
  | _ :: _, [], _ => none
  | .literal text :: tokens, segment :: segments, bindings =>
    if segment ≠ text then none else matchTokens tokens segments bindings
  | .single :: tokens, _ :: segments, bindings => matchTokens tokens segments bindings
  | .placeholder name :: tokens, segment :: segments, bindings =>
    matchTokens tokens segments (bindings.insert name segment)

def Pattern.match? (pattern : Pattern) (channel : String) : Option Bindings :=
  matchTokens pattern.tokens (splitPatternSegments channel) ∅

def Token.ofSegment : PatternSegment → Token
  | .literal text => .literal text
  | .singleStar => .single
  | .doubleStar => .double

variable (source : String)

theorem parseToken_literal (trailing : Bool) {segment : String}
    (spelling : ∀ char ∈ segment.toList, char ∈ componentAlphabet) :
    parseToken source trailing segment = .ok (.literal segment) := by
  have wild : '*' ∉ componentAlphabet ∧ '\x7b' ∉ componentAlphabet ∧
      '\x7d' ∉ componentAlphabet := by decide +kernel
  have unstarred : '*' ∉ segment.toList := fun star => wild.1 (spelling _ star)
  have unopened : '\x7b' ∉ segment.toList := fun brace => wild.2.1 (spelling _ brace)
  have unclosed : '\x7d' ∉ segment.toList := fun brace => wild.2.2 (spelling _ brace)
  have notDouble : segment ≠ "**" := by
    rintro rfl
    exact unstarred (by decide +kernel)
  have notSingle : segment ≠ "*" := by
    rintro rfl
    exact unstarred (by decide +kernel)
  have notPlaceholder : isPlaceholder segment.toList = false := by
    rw [Bool.eq_false_iff]
    intro placeholder
    simp only [isPlaceholder, Bool.and_eq_true, decide_eq_true_eq] at placeholder
    exact unopened (List.mem_of_mem_head? placeholder.1.1)
  have unmixed : ¬ (segment.toList.any fun char =>
      char = '\x7b' ∨ char = '\x7d' ∨ char = '*') = true := by
    rw [List.any_eq_true]
    rintro ⟨char, member, mixed⟩
    rcases of_decide_eq_true mixed with rfl | rfl | rfl
    · exact unopened member
    · exact unclosed member
    · exact unstarred member
  rw [parseToken, if_neg notDouble, if_neg notSingle, notPlaceholder, if_neg Bool.false_ne_true,
    if_neg unmixed]

theorem parseTokens_spells {parts : List String} {segments : List PatternSegment}
    (spells : Spells parts segments) :
    parseTokens source parts = .ok (segments.map Token.ofSegment) := by
  induction spells with
  | nil | doubleStar => rfl
  | literal nonempty spelling rest induction =>
    rw [parseTokens, parseToken_literal source _ spelling, induction]
    rfl
  | singleStar rest induction =>
    rw [parseTokens, induction]
    rfl

theorem matchTokens_ofSegment (segments : List PatternSegment) (parts : List String)
    (bindings : Bindings) :
    (matchTokens (segments.map Token.ofSegment) parts bindings).isSome =
      matchSegments segments parts := by
  induction segments generalizing parts with
  | nil => cases parts <;> rfl
  | cons segment segments induction =>
    cases segment with
    | doubleStar => cases parts <;> rfl
    | singleStar =>
      cases parts with
      | nil => rfl
      | cons part parts => exact induction parts
    | literal text =>
      cases parts with
      | nil => rfl
      | cons part parts =>
        by_cases same : part = text
        · simp [matchTokens, matchSegments, Token.ofSegment, same, induction]
        · simp [matchTokens, matchSegments, Token.ofSegment, same]

private theorem visibility_spelling (visibility : Channels.Visibility) :
    ∀ char ∈ visibility.text.toList, char ∈ componentAlphabet := by
  have letters : (visibility.text.toList.all fun char => char ∈ componentAlphabet) = true := by
    cases visibility <;> decide +kernel
  intro char member
  simpa using List.all_eq_true.mp letters char member

/-- The registry accepts every pattern of the channel grammar and matches the same names. -/
theorem match_iff_matches {text channel : String} {pattern : Channels.Pattern}
    {name : Channels.Name} (parsed : Channels.parsePattern text = .ok pattern)
    (named : Channels.parseName channel = .ok name) :
    ∃ registered, parsePattern text = .ok registered ∧
      ((registered.match? name.text).isSome = true ↔ pattern.matches name = true) := by
  obtain ⟨parts, form⟩ := Channels.patternForm_of_parsePattern parsed
  have accepted : name.Accepted := ⟨channel, named⟩
  have literal := visibility_spelling pattern.visibility
  have tokens : parseTokens text (splitPatternSegments text) =
      .ok (.literal pattern.visibility.text :: pattern.segments.map Token.ofSegment) := by
    rw [splitPatternSegments, form.splitSeparators_text, parseTokens,
      parseToken_literal text _ literal, parseTokens_spells text form.spells]
    rfl
  have nonempty : text ≠ "" := by
    rintro rfl
    cases parsed
  refine ⟨{ tokens := .literal pattern.visibility.text :: pattern.segments.map Token.ofSegment
            raw := text }, ?_, ?_⟩
  · simp only [parsePattern, bind_eq_ok, ensure_eq_ok]
    exact ⟨(), nonempty, _, tokens, rfl⟩
  · rw [Pattern.match?, splitPatternSegments, accepted.splitSeparators_text,
      Channels.Pattern.matches_eq form.segments_ne_nil accepted]
    have sameText : name.visibility.text = pattern.visibility.text ↔
        pattern.visibility = name.visibility :=
      Channels.Visibility.text_injective.eq_iff.trans eq_comm
    by_cases same : pattern.visibility = name.visibility
    · simp [matchTokens, same, matchTokens_ofSegment]
    · simp [matchTokens, sameText, same]

theorem match_public_metrics :
    ∃ registered, parsePattern "public:shop.metrics.**" = .ok registered ∧
      ((registered.match? (Channels.Name.text
          { visibility := .public, app := "shop", domain := "metrics", id := "cpu" })).isSome =
            true ↔
        Channels.Pattern.matches
          { raw := "public:shop.metrics.**", visibility := .public,
            segments := [.literal "shop", .literal "metrics", .doubleStar] }
          { visibility := .public, app := "shop", domain := "metrics", id := "cpu" } = true) := by
  have named : Channels.parseName "public:shop.metrics.cpu" =
      .ok { visibility := .public, app := "shop", domain := "metrics", id := "cpu" } := by
    decide +kernel
  exact match_iff_matches (by decide +kernel) named

end Parsec.Schema
