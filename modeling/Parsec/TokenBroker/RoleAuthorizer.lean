import Parsec.Channels.Grammar
import Parsec.Revocation.TokenBroker

/-! # The role authorizer

The token broker's built-in authorizer grants the channels that the patterns of a user's
roles match, with a matcher of its own on the texts. -/

namespace Parsec.TokenBroker

open Channels
open Revocation (AuthDecision DeniedChannel)

def splitChannelSegs (text : String) : List String := splitSeparators text

def matchFrom (nSegs : List String) : Nat → List String → Bool
  -- the index is now the number of the pattern's segments
  | index, [] => index = nSegs.length
  | index, segment :: rest =>
    if segment = "**" then index ≤ nSegs.length
    else
      match nSegs[index]? with
      | none => false
      | some part =>
        if segment = "*" then matchFrom nSegs (index + 1) rest
        else if segment ≠ part then false
        else matchFrom nSegs (index + 1) rest

def matchSimple (pattern name : String) : Bool :=
  if pattern = name then true
  else matchFrom (splitChannelSegs name) 0 (splitChannelSegs pattern)

structure RoleAuthorizer where
  userRoles : String → List String
  rolePatterns : String → List String

namespace RoleAuthorizer

variable (authorizer : RoleAuthorizer)

def patterns (user : String) : List String :=
  (authorizer.userRoles user).flatMap authorizer.rolePatterns

def allowed (user channel : String) : Bool :=
  (authorizer.patterns user).any fun pattern => matchSimple pattern channel

def authorize (user : String) (channels : List String) : AuthDecision where
  granted := channels.filter fun channel => authorizer.allowed user channel
  refused := (channels.filter fun channel => !authorizer.allowed user channel).map fun channel =>
    { channel := channel, reason := "no matching role" }

end RoleAuthorizer

/-- The pattern ends in `**` and what stands before it already matches the name. -/
def endsBeforeStars (pattern : Pattern) (name : Name) : Bool :=
  pattern.segments.getLast? = some .doubleStar &&
    Pattern.matches { pattern with segments := pattern.segments.dropLast } name

variable {part : String}

theorem matchFrom_stop (nSegs parts : List String) (single : part ≠ "**") :
    matchFrom nSegs nSegs.length (part :: parts) = false := by
  simp [matchFrom, single]

variable (before after : List String)

theorem matchFrom_step (parts : List String) (next : String) (single : part ≠ "**") :
    matchFrom (before ++ next :: after) before.length (part :: parts) =
      ((part = "*" || part = next) &&
        matchFrom ((before ++ [next]) ++ after) (before ++ [next]).length parts) := by
  have found : (before ++ next :: after)[before.length]? = some next := by simp
  rw [matchFrom, if_neg single, found, List.append_assoc, List.singleton_append,
    List.length_append, List.length_singleton]
  by_cases star : part = "*"
  · simp [star]
  · by_cases same : part = next
    · simp [same]
    · simp [star, same]

/-- What the loop accepts beyond the grammar's matcher: segments that end in `**` where the
name has nothing left for it. -/
def endsBefore (segments : List PatternSegment) (name : List String) : Bool :=
  segments.getLast? = some .doubleStar && matchSegments segments.dropLast name

theorem endsBefore_nil (name : List String) : endsBefore [] name = false := rfl

theorem endsBefore_cons {segment : PatternSegment} (segments : List PatternSegment)
    (single : segment ≠ .doubleStar) (name : List String) :
    endsBefore (segment :: segments) name =
      (segments.getLast? = some .doubleStar &&
        matchSegments (segment :: segments.dropLast) name) := by
  cases segments with
  | nil => simp [endsBefore, single]
  | cons next segments => simp [endsBefore, List.getLast?_cons_cons]

variable {parts : List String} {segments : List PatternSegment}

private theorem matchFrom_spells (spells : Spells parts segments) (before after : List String) :
    matchFrom (before ++ after) before.length parts =
      (matchSegments segments after || endsBefore segments after) := by
  induction spells generalizing before after with
  | nil => cases after <;> simp [matchFrom, matchSegments, endsBefore_nil]
  | @literal part parts segments nonempty spelling rest induction =>
    have stars : '*' ∉ componentAlphabet := by decide +kernel
    have notDouble : part ≠ "**" := by
      rintro rfl
      exact stars (spelling '*' (by decide +kernel))
    have notSingle : part ≠ "*" := by
      rintro rfl
      exact stars (spelling '*' (by decide +kernel))
    rw [endsBefore_cons segments (by simp)]
    cases after with
    | nil =>
      rw [List.append_nil, matchFrom_stop before parts notDouble]
      simp [matchSegments]
    | cons next after =>
      rw [matchFrom_step before after parts next notDouble, induction (before ++ [next]) after]
      by_cases same : part = next
      · simp [matchSegments, same, endsBefore]
      · have other : next ≠ part := fun equal => same equal.symm
        simp [matchSegments, same, other, notSingle]
  | @singleStar parts segments rest induction =>
    rw [endsBefore_cons segments (by simp)]
    cases after with
    | nil =>
      rw [List.append_nil, matchFrom_stop before parts (by decide)]
      simp [matchSegments]
    | cons next after =>
      rw [matchFrom_step before after parts next (by decide),
        induction (before ++ [next]) after]
      simp [matchSegments, endsBefore]
  | doubleStar => cases after <;> simp [matchFrom, matchSegments, endsBefore]

theorem matchFrom_self : matchFrom (before ++ after) before.length after = true := by
  induction after generalizing before with
  | nil => simp [matchFrom]
  | cons part after induction =>
    by_cases double : part = "**"
    · simp [matchFrom, double]
    · rw [matchFrom_step before after after part double, induction (before ++ [part])]
      simp

private theorem matchSimple_eq_matchFrom (pattern name : String) :
    matchSimple pattern name = matchFrom (splitChannelSegs name) 0 (splitChannelSegs pattern) := by
  unfold matchSimple
  split
  · next same =>
      rw [same]
      exact (matchFrom_self [] (splitChannelSegs name)).symm
  · rfl

private theorem matchSegments_of_endsBefore (spells : Spells parts segments) {name : List String}
    (ends : endsBefore segments name = true) : matchSegments segments name = false := by
  induction spells generalizing name with
  | nil => cases ends
  | @literal part parts segments nonempty spelling rest induction =>
    rw [endsBefore_cons segments (by simp)] at ends
    cases name with
    | nil => rfl
    | cons next name =>
      simp only [matchSegments, Bool.and_eq_true] at ends
      have later : matchSegments segments name = false := by
        apply induction
        rw [endsBefore, Bool.and_eq_true]
        exact ⟨ends.1, ends.2.2⟩
      simp [matchSegments, later]
  | @singleStar parts segments rest induction =>
    rw [endsBefore_cons segments (by simp)] at ends
    cases name with
    | nil => rfl
    | cons next name => exact induction (by simpa [endsBefore, matchSegments] using ends)
  | doubleStar =>
    cases name with
    | nil => rfl
    | cons next name => cases ends

section Accepted

variable {text channel : String} {pattern : Pattern} {name : Name}

theorem endsBeforeStars_eq (accepted : name.Accepted) :
    endsBeforeStars pattern name =
      (decide (pattern.visibility = name.visibility) &&
        endsBefore pattern.segments name.segments) := by
  have segments : name.segments ≠ [] := by
    intro empty
    simpa [empty] using accepted.wireForm.atLeastTwo
  by_cases short : pattern.segments.dropLast = []
  · have unmatched : matchSegments [] name.segments = false := by
      simpa [matchSegments] using segments
    simp [endsBeforeStars, endsBefore, Pattern.matches, short, unmatched]
  · have base : Pattern.matches { pattern with segments := pattern.segments.dropLast } name = _ :=
      Pattern.matches_eq short accepted
    rw [endsBeforeStars, endsBefore, base, Bool.and_left_comm]

theorem matchSimple_eq (parsed : parsePattern text = .ok pattern)
    (named : parseName channel = .ok name) :
    matchSimple text channel = (pattern.matches name || endsBeforeStars pattern name) := by
  obtain ⟨parts, form⟩ := patternForm_of_parsePattern parsed
  have accepted : name.Accepted := ⟨channel, named⟩
  have wire : splitChannelSegs channel = name.visibility.text :: name.segments := by
    rw [← text_of_parseName named]
    exact accepted.splitSeparators_text
  have loop := matchFrom_spells form.spells [name.visibility.text] name.segments
  have unstarred : pattern.visibility.text ≠ "**" ∧ pattern.visibility.text ≠ "*" := by
    cases pattern.visibility <;> decide
  have visible := matchFrom_step [] name.segments parts name.visibility.text unstarred.1
  have sameText : pattern.visibility.text = name.visibility.text ↔
      pattern.visibility = name.visibility := Visibility.text_injective.eq_iff
  rw [matchSimple_eq_matchFrom, wire, splitChannelSegs, form.splitSeparators_text,
    Pattern.matches_eq form.segments_ne_nil accepted, endsBeforeStars_eq accepted,
    ← Bool.and_or_distrib_left, ← loop]
  simpa [unstarred.2, sameText] using visible

theorem matches_of_endsBeforeStars (parsed : parsePattern text = .ok pattern)
    (accepted : name.Accepted) (ends : endsBeforeStars pattern name = true) :
    pattern.matches name = false := by
  obtain ⟨parts, form⟩ := patternForm_of_parsePattern parsed
  rw [endsBeforeStars_eq accepted, Bool.and_eq_true] at ends
  rw [Pattern.matches_eq form.segments_ne_nil accepted,
    matchSegments_of_endsBefore form.spells ends.2, Bool.and_false]

end Accepted

def RoleAuthorizer.Entitled (authorizer : RoleAuthorizer) (user : String) (name : Name) : Prop :=
  ∃ text ∈ authorizer.patterns user, ∃ pattern,
    parsePattern text = .ok pattern ∧ pattern.matches name = true

/-- Some pattern of the user's roles ends in `**` after having matched all of the name. -/
def RoleAuthorizer.Overreaches (authorizer : RoleAuthorizer) (user : String) (name : Name) : Prop :=
  ∃ text ∈ authorizer.patterns user, ∃ pattern,
    parsePattern text = .ok pattern ∧ endsBeforeStars pattern name = true

theorem RoleAuthorizer.granted_iff (authorizer : RoleAuthorizer) {user channel : String}
    {channels : List String} {name : Name}
    (accepted : ∀ text ∈ authorizer.patterns user, ∃ pattern, parsePattern text = .ok pattern)
    (listed : channel ∈ channels) (named : parseName channel = .ok name) :
    channel ∈ (authorizer.authorize user channels).granted ↔
      authorizer.Entitled user name ∨ authorizer.Overreaches user name := by
  have granted : channel ∈ (authorizer.authorize user channels).granted ↔
      ∃ text ∈ authorizer.patterns user, matchSimple text channel = true := by
    simp [authorize, allowed, listed]
  rw [granted]
  constructor
  · rintro ⟨text, owned, matched⟩
    obtain ⟨pattern, parsed⟩ := accepted text owned
    rw [matchSimple_eq parsed named, Bool.or_eq_true] at matched
    rcases matched with matched | ends
    · exact .inl ⟨text, owned, pattern, parsed, matched⟩
    · exact .inr ⟨text, owned, pattern, parsed, ends⟩
  · rintro (⟨text, owned, pattern, parsed, matched⟩ | ⟨text, owned, pattern, parsed, ends⟩)
    · exact ⟨text, owned, by rw [matchSimple_eq parsed named, matched, Bool.true_or]⟩
    · exact ⟨text, owned, by rw [matchSimple_eq parsed named, ends, Bool.or_true]⟩

/-- The broker's matcher is the grammar's except where a trailing `**` is left with nothing,
and a channel is granted beyond the grammar exactly through such a pattern. -/
theorem roleAuthorizer_grants_iff {channel : String} {name : Name}
    (named : parseName channel = .ok name) :
    (∀ text pattern, parsePattern text = .ok pattern →
      ((matchSimple text channel = true ↔ pattern.matches name = true) ↔
        endsBeforeStars pattern name = false)) ∧
      ∀ (authorizer : RoleAuthorizer) user channels,
        (∀ text ∈ authorizer.patterns user, ∃ pattern, parsePattern text = .ok pattern) →
          channel ∈ channels →
            ((channel ∈ (authorizer.authorize user channels).granted ↔
                authorizer.Entitled user name) ↔
              (authorizer.Overreaches user name → authorizer.Entitled user name)) := by
  constructor
  · intro text pattern parsed
    rw [matchSimple_eq parsed named]
    cases ends : endsBeforeStars pattern name with
    | false => simp
    | true => simp [matches_of_endsBeforeStars parsed ⟨channel, named⟩ ends]
  · intro authorizer user channels accepted listed
    rw [authorizer.granted_iff accepted listed named]
    tauto

def metricsReaders : RoleAuthorizer where
  userRoles := fun _ => ["reader"]
  rolePatterns := fun role => if role = "reader" then ["public:shop.metrics.**"] else []

theorem metricsReaders_granted_cpu :
    (matchSimple "public:shop.metrics.**" "public:shop.metrics.cpu" = true ↔
        Pattern.matches
          { raw := "public:shop.metrics.**", visibility := .public,
            segments := [.literal "shop", .literal "metrics", .doubleStar] }
          { visibility := .public, app := "shop", domain := "metrics", id := "cpu" } = true) ∧
      ("public:shop.metrics.cpu" ∈
          (metricsReaders.authorize "ann" ["public:shop.metrics.cpu"]).granted ↔
        metricsReaders.Entitled "ann"
          { visibility := .public, app := "shop", domain := "metrics", id := "cpu" }) := by
  have parsed : parsePattern "public:shop.metrics.**" =
      .ok { raw := "public:shop.metrics.**", visibility := .public,
            segments := [.literal "shop", .literal "metrics", .doubleStar] } := by
    decide +kernel
  have named : parseName "public:shop.metrics.cpu" =
      .ok { visibility := .public, app := "shop", domain := "metrics", id := "cpu" } := by
    decide +kernel
  have owned : metricsReaders.patterns "ann" = ["public:shop.metrics.**"] := by decide +kernel
  constructor
  · exact ((roleAuthorizer_grants_iff named).1 _ _ parsed).mpr (by decide +kernel)
  · apply ((roleAuthorizer_grants_iff named).2 metricsReaders "ann" ["public:shop.metrics.cpu"] ?_
      (by simp)).mpr
    · intro _
      exact ⟨"public:shop.metrics.**", by simp [owned], _, parsed, by decide +kernel⟩
    · simp [owned, parsed]

/-- `**` stands for one or more segments, but the broker grants the channel that ends where
it would begin. -/
theorem metricsReaders_granted :
    matchSimple "public:shop.metrics.**" "public:shop.metrics" = true ∧
      (metricsReaders.authorize "ann" ["public:shop.metrics"]).granted = ["public:shop.metrics"] ∧
      (parsePattern "public:shop.metrics.**").toOption.map
          (·.matches { visibility := .public, app := "shop", domain := "metrics" }) =
        some false ∧
      parseName "public:shop.metrics" =
        .ok { visibility := .public, app := "shop", domain := "metrics" } := by
  decide +kernel

end Parsec.TokenBroker
