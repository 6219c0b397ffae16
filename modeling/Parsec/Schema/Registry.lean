import Parsec.Foundation.Calls
import Parsec.Foundation.Ranking
import Parsec.Foundation.Records
import Parsec.Schema.Pattern

/-! # The schema registry

Patterns are registered under their texts, and a channel is resolved to one of the patterns that
match it. The registry documents that literals decide, and weighs placeholders and stars as
well. -/

namespace Parsec.Schema

open Foundation

/-- A pattern as it is declared. The contract stands for description, aspects and access
policy. -/
structure Declaration (Contract : Type) where
  pattern : String
  version : Int
  contract : Contract

structure ChannelPattern (Contract : Type) extends Declaration Contract where
  compiled : Pattern

inductive ChangeKind
  | registered
  | updated
  | deregistered
  deriving DecidableEq

structure Change (Contract : Type) where
  kind : ChangeKind
  pattern : String
  schema : Option (ChannelPattern Contract)

structure MemoryRegistry (Contract : Type) where
  patterns : Records (ChannelPattern Contract)
  versions : Records (List (ChannelPattern Contract))

def errPatternConflict : String := "schema: pattern conflicts with existing registration"

def errPatternNotFound : String := "schema: pattern not found"

def errNoMatch : String := "schema: no pattern matches channel"

/-! ## Changes -/

namespace MemoryRegistry

variable {Contract : Type}

def empty : MemoryRegistry Contract where
  patterns := ∅
  versions := ∅

def compile (declared : Declaration Contract) (default : Int) (compiled : Pattern) :
    ChannelPattern Contract :=
  { declared with
    version := if declared.version = 0 then default else declared.version
    compiled := compiled }

def register (declared : Declaration Contract) (registry : MemoryRegistry Contract) :
    Except String (Change Contract) × MemoryRegistry Contract :=
  match parsePattern declared.pattern with
  | .error error => (.error error, registry)
  | .ok compiled =>
    match registry.patterns.lookup declared.pattern with
    | some _ => (.error (errPatternConflict ++ ": " ++ declared.pattern), registry)
    | none =>
      let stored := compile declared 1 compiled
      (.ok { kind := .registered, pattern := declared.pattern, schema := some stored },
        { patterns := registry.patterns.insert declared.pattern stored
          versions := registry.versions.insert declared.pattern [stored] })

def update (declared : Declaration Contract) (registry : MemoryRegistry Contract) :
    Except String (Change Contract) × MemoryRegistry Contract :=
  match parsePattern declared.pattern with
  | .error error => (.error error, registry)
  | .ok compiled =>
    match registry.patterns.lookup declared.pattern with
    | none => (.error (errPatternNotFound ++ ": " ++ declared.pattern), registry)
    | some previous =>
      let stored := compile declared (previous.version + 1) compiled
      let history := (registry.versions.lookup declared.pattern).getD []
      (.ok { kind := .updated, pattern := declared.pattern, schema := some stored },
        { patterns := registry.patterns.insert declared.pattern stored
          versions := registry.versions.insert declared.pattern (history ++ [stored]) })

def deregister (pattern : String) (registry : MemoryRegistry Contract) :
    Except String (Change Contract) × MemoryRegistry Contract :=
  match registry.patterns.lookup pattern with
  | none => (.error (errPatternNotFound ++ ": " ++ pattern), registry)
  | some _ =>
    (.ok { kind := .deregistered, pattern := pattern, schema := none },
      { patterns := registry.patterns.erase pattern
        versions := registry.versions.erase pattern })

def loadPatterns : List (Declaration Contract) → MemoryRegistry Contract →
    Except String Unit × MemoryRegistry Contract
  | [], registry => (.ok (), registry)
  | declared :: rest, registry =>
    match parsePattern declared.pattern with
    | .error error => (.error error, registry)
    | .ok compiled =>
      let stored := compile declared 1 compiled
      loadPatterns rest
        { patterns := registry.patterns.insert declared.pattern stored
          versions := registry.versions.insert declared.pattern [stored] }

def loadSnapshot (decoded : Except String (List (Declaration Contract)))
    (registry : MemoryRegistry Contract) : Except String Unit × MemoryRegistry Contract :=
  match decoded with
  | .error error => (.error error, registry)
  | .ok declared => loadPatterns declared empty

def tokenScore : Token → Nat
  | .literal _ => 4
  | .placeholder _ => 2
  | .single => 1
  | .double => 0

def patternSpecificity (pattern : Pattern) : Nat := (pattern.tokens.map tokenScore).sum

structure Candidate (Contract : Type) where
  pattern : ChannelPattern Contract
  bindings : Bindings

def Candidate.precedes (first second : Candidate Contract) : Bool :=
  if patternSpecificity first.pattern.compiled ≠ patternSpecificity second.pattern.compiled then
    patternSpecificity second.pattern.compiled < patternSpecificity first.pattern.compiled
  else first.pattern.pattern ≤ second.pattern.pattern

def candidates (visited : List (ChannelPattern Contract)) (channel : String) :
    List (Candidate Contract) :=
  visited.filterMap fun pattern =>
    (pattern.compiled.match? channel).map fun bindings => ⟨pattern, bindings⟩

def resolve (visited : List (ChannelPattern Contract)) (channel : String) :
    Except String (ChannelPattern Contract × Bindings) :=
  match (candidates visited channel).insertionSort
    fun first second => first.precedes second = true with
  | [] => .error (errNoMatch ++ ": " ++ channel)
  | first :: _ => .ok (first.pattern, first.bindings)

/-! ## Registered patterns -/

inductive Call (Contract : Type)
  | register (declared : Declaration Contract)
  | update (declared : Declaration Contract)
  | deregister (pattern : String)
  | loadSnapshot (decoded : Except String (List (Declaration Contract)))

def perform : Service (MemoryRegistry Contract) (Call Contract)
    (Except String (Option (Change Contract))) := fun registry call =>
  match call with
  | .register declared => (registry.register declared).map (·.map some) id
  | .update declared => (registry.update declared).map (·.map some) id
  | .deregister pattern => (registry.deregister pattern).map (·.map some) id
  | .loadSnapshot decoded => (registry.loadSnapshot decoded).map (·.map fun _ => none) id

def Compiled (registry : MemoryRegistry Contract) : Prop :=
  ∀ key stored, registry.patterns.lookup key = some stored →
    stored.pattern = key ∧ parsePattern key = .ok stored.compiled

theorem compiled_empty : (empty : MemoryRegistry Contract).Compiled := by
  intro key stored found
  cases found

variable {registry : MemoryRegistry Contract}

theorem Compiled.insert (compiled : registry.Compiled) {declared : Declaration Contract}
    {pattern : Pattern} (parsed : parsePattern declared.pattern = .ok pattern) (default : Int)
    (versions : Records (List (ChannelPattern Contract))) :
    Compiled { patterns := registry.patterns.insert declared.pattern
                (compile declared default pattern)
               versions := versions } :=
  Records.forall_lookup_insert compiled ⟨rfl, parsed⟩

theorem Compiled.loadPatterns (compiled : registry.Compiled)
    (declared : List (Declaration Contract)) : (loadPatterns declared registry).2.Compiled := by
  induction declared generalizing registry with
  | nil => exact compiled
  | cons first rest induction =>
    unfold MemoryRegistry.loadPatterns
    cases parsed : parsePattern first.pattern with
    | error error => exact compiled
    | ok pattern => exact induction (compiled.insert parsed 1 _)

def store (registry : MemoryRegistry Contract) (stored : ChannelPattern Contract)
    (earlier : List (ChannelPattern Contract)) : MemoryRegistry Contract where
  patterns := registry.patterns.insert stored.pattern stored
  versions := registry.versions.insert stored.pattern (earlier ++ [stored])

def erase (registry : MemoryRegistry Contract) (pattern : String) : MemoryRegistry Contract where
  patterns := registry.patterns.erase pattern
  versions := registry.versions.erase pattern

/-- A call fails and changes nothing, stores a pattern after none or all of its earlier versions,
erases one, or loads a snapshot into an empty registry. -/
theorem perform_cases (registry : MemoryRegistry Contract) (call : Call Contract) :
    ((∃ error, (registry.perform call).1 = .error error) ∧ (registry.perform call).2 = registry) ∨
    (∃ declared default pattern earlier, parsePattern declared.pattern = .ok pattern ∧
      (earlier = [] ∨ registry.versions.lookup declared.pattern = some earlier) ∧
      (∃ change, (registry.perform call).1 = .ok (some change)) ∧
      (registry.perform call).2 = registry.store (compile declared default pattern) earlier) ∨
    (∃ pattern, (∃ change, (registry.perform call).1 = .ok (some change)) ∧
      (registry.perform call).2 = registry.erase pattern) ∨
    ∃ declared, call = .loadSnapshot (.ok declared) ∧
      (registry.perform call).2 = (loadPatterns declared empty).2 := by
  cases call with
  | register declared =>
    simp only [MemoryRegistry.perform, register]
    cases parsed : parsePattern declared.pattern with
    | error error => exact .inl ⟨⟨error, rfl⟩, rfl⟩
    | ok pattern =>
      cases registry.patterns.lookup declared.pattern with
      | some _ => exact .inl ⟨⟨_, rfl⟩, rfl⟩
      | none => exact .inr (.inl ⟨declared, 1, pattern, [], parsed, .inl rfl, ⟨_, rfl⟩, rfl⟩)
  | update declared =>
    simp only [MemoryRegistry.perform, update]
    cases parsed : parsePattern declared.pattern with
    | error error => exact .inl ⟨⟨error, rfl⟩, rfl⟩
    | ok pattern =>
      cases registry.patterns.lookup declared.pattern with
      | none => exact .inl ⟨⟨_, rfl⟩, rfl⟩
      | some previous =>
        refine .inr (.inl ⟨declared, previous.version + 1, pattern, _, parsed, ?_, ⟨_, rfl⟩, rfl⟩)
        cases registry.versions.lookup declared.pattern with
        | none => exact .inl rfl
        | some history => exact .inr rfl
  | deregister pattern =>
    simp only [MemoryRegistry.perform, deregister]
    cases registry.patterns.lookup pattern with
    | none => exact .inl ⟨⟨_, rfl⟩, rfl⟩
    | some _ => exact .inr (.inr (.inl ⟨pattern, ⟨_, rfl⟩, rfl⟩))
  | loadSnapshot decoded =>
    cases decoded with
    | error error => exact .inl ⟨⟨error, rfl⟩, rfl⟩
    | ok declared => exact .inr (.inr (.inr ⟨declared, rfl, rfl⟩))

theorem Compiled.perform (compiled : registry.Compiled) (call : Call Contract) :
    (registry.perform call).2.Compiled := by
  rcases registry.perform_cases call with ⟨_, unchanged⟩ |
    ⟨declared, default, pattern, earlier, parsed, _, _, stores⟩ | ⟨pattern, _, erases⟩ |
    ⟨_, _, loads⟩
  · rwa [unchanged]
  · rw [stores]
    exact compiled.insert parsed default _
  · rw [erases]
    exact fun key stored present => compiled key stored (Records.of_lookup_erase present).2
  · rw [loads]
    exact compiled_empty.loadPatterns _

def registryAfter (calls : List (Call Contract)) : MemoryRegistry Contract :=
  Service.after perform empty calls

theorem compiled_registryAfter (calls : List (Call Contract)) : (registryAfter calls).Compiled :=
  Service.after_invariant perform (fun _ => True) Compiled
    (fun _ call compiled _ => compiled.perform call) compiled_empty (fun _ _ => trivial)

def Visits (registry : MemoryRegistry Contract) (visited : List (ChannelPattern Contract)) : Prop :=
  visited.Perm (registry.patterns.entries.map (·.2))

theorem Compiled.parsed (compiled : registry.Compiled) {visited : List (ChannelPattern Contract)}
    (visits : registry.Visits visited) :
    ∀ stored ∈ visited, parsePattern stored.pattern = .ok stored.compiled := by
  intro stored member
  rcases List.mem_map.mp (visits.mem_iff.mp member) with ⟨⟨key, value⟩, listed, rfl⟩
  have entry := compiled key value (Records.mem_entries.mp listed)
  rw [entry.1]
  exact entry.2

end MemoryRegistry

/-! ## Bindings -/

section Bindings

variable {tokens : List Token} {segments : List String} {bindings result : Bindings} {name : String}

theorem lookup_of_unnamed (matched : matchTokens tokens segments bindings = some result)
    (unnamed : ∀ token ∈ tokens, token ≠ .placeholder name) :
    result.lookup name = bindings.lookup name := by
  induction tokens generalizing segments bindings with
  | nil =>
    simp only [matchTokens, Option.ite_none_right_eq_some] at matched
    cases matched.2
    rfl
  | cons token tokens induction =>
    have later : ∀ token ∈ tokens, token ≠ .placeholder name :=
      fun token member => unnamed token (List.mem_cons_of_mem _ member)
    cases token with
    | double =>
      simp only [matchTokens, Option.ite_none_left_eq_some] at matched
      cases matched.2
      rfl
    | literal text =>
      cases segments with
      | nil => cases matched
      | cons segment segments =>
        simp only [matchTokens, Option.ite_none_left_eq_some] at matched
        exact induction matched.2 later
    | single =>
      cases segments with
      | nil => cases matched
      | cons segment segments => exact induction matched later
    | placeholder other =>
      cases segments with
      | nil => cases matched
      | cons segment segments =>
        have different : name ≠ other := by
          intro same
          exact unnamed _ List.mem_cons_self (same ▸ rfl)
        rw [induction matched later, AList.lookup_insert_ne different]

private theorem bound_of_placeholder (matched : matchTokens tokens segments bindings = some result)
    (trailing : .double ∉ tokens.dropLast) (named : .placeholder name ∈ tokens) :
    ∃ segment, (.placeholder name, segment) ∈ tokens.zip segments ∧
      result.lookup name = some segment := by
  induction tokens generalizing segments bindings with
  | nil => cases named
  | cons token tokens induction =>
    have rest : .double ∉ tokens.dropLast := by
      intro member
      cases tokens with
      | nil => cases member
      | cons next tokens => exact trailing (List.mem_cons_of_mem _ member)
    cases segments with
    | nil =>
      cases token with
      | double => simp [matchTokens] at matched
      | literal text | single | placeholder other => cases matched
    | cons segment segments =>
      -- a later placeholder of that name
      have onward : ∀ {bindings : Bindings},
          matchTokens tokens segments bindings = some result → .placeholder name ∈ tokens →
          ∃ value, (.placeholder name, value) ∈ (token :: tokens).zip (segment :: segments) ∧
            result.lookup name = some value := by
        intro bindings matched later
        rcases induction matched rest later with ⟨value, placed, bound⟩
        exact ⟨value, List.mem_cons_of_mem _ placed, bound⟩
      cases token with
      | double =>
        cases tokens with
        | nil => simp at named
        | cons next tokens => exact absurd List.mem_cons_self trailing
      | literal text =>
        simp only [matchTokens, Option.ite_none_left_eq_some] at matched
        exact onward matched.2 (by simpa using named)
      | single => exact onward matched (by simpa using named)
      | placeholder other =>
        by_cases later : .placeholder name ∈ tokens
        · exact onward matched later
        · have same : name = other := by simpa [later] using named
          subst same
          have onwards : matchTokens tokens segments (bindings.insert name segment) =
              some result := matched
          have unnamed : ∀ token ∈ tokens, token ≠ .placeholder name :=
            fun token member equal => later (equal ▸ member)
          refine ⟨segment, List.mem_cons_self, ?_⟩
          rw [lookup_of_unnamed onwards unnamed, AList.lookup_insert]

variable {source : String}

private theorem double_last_of_parseTokens {parts : List String}
    (parsed : parseTokens source parts = .ok tokens) : .double ∉ tokens.dropLast := by
  induction parts generalizing tokens with
  | nil =>
    cases parsed
    simp
  | cons part parts induction =>
    simp only [parseTokens, bind_eq_ok] at parsed
    rcases parsed with ⟨token, first, rest, later, joined⟩
    cases joined
    cases rest with
    | nil => simp
    | cons next rest =>
      have tailed : parts.isEmpty = false := by
        cases parts with
        | nil => cases later
        | cons => rfl
      have inner : token ≠ .double := by
        intro double
        subst double
        simp only [parseToken, tailed, Bool.false_eq_true, if_false] at first
        split_ifs at first <;> cases first
      rw [List.dropLast_cons_of_ne_nil (List.cons_ne_nil _ _), List.mem_cons, not_or]
      exact ⟨inner.symm, induction later⟩

def Consistent (pattern : Pattern) (channel : String) : Prop :=
  ∀ name first second,
    (.placeholder name, first) ∈ pattern.tokens.zip (splitPatternSegments channel) →
    (.placeholder name, second) ∈ pattern.tokens.zip (splitPatternSegments channel) →
    first = second

/-- Every placeholder is bound to the segment it stands for. -/
def Binds (pattern : Pattern) (channel : String) (bindings : Bindings) : Prop :=
  ∀ name segment,
    (.placeholder name, segment) ∈ pattern.tokens.zip (splitPatternSegments channel) →
    bindings.lookup name = some segment

private theorem binds_iff {channel : String} {pattern : Pattern}
    (parsed : parsePattern source = .ok pattern)
    (matched : pattern.match? channel = some bindings) :
    Binds pattern channel bindings ↔ Consistent pattern channel := by
  constructor
  · intro binds name first second former latter
    exact Option.some.inj ((binds name first former).symm.trans (binds name second latter))
  · intro consistent name segment placed
    simp only [parsePattern, bind_eq_ok, ensure_eq_ok] at parsed
    rcases parsed with ⟨_, _, tokens, parsed, joined⟩
    cases joined
    rcases bound_of_placeholder matched (double_last_of_parseTokens parsed)
      (List.of_mem_zip placed).1 with ⟨bound, other, found⟩
    rw [found, consistent name bound segment other placed]

end Bindings

/-! ## The documented choice -/

def Token.isLiteral : Token → Bool
  | .literal _ => true
  | .single | .double | .placeholder _ => false

def Token.isNamed : Token → Bool
  | .placeholder _ => true
  | .literal _ | .single | .double => false

def Pattern.literals (pattern : Pattern) : Nat := pattern.tokens.countP Token.isLiteral

def Pattern.others (pattern : Pattern) : Nat :=
  2 * pattern.tokens.countP Token.isNamed + pattern.tokens.count .single

theorem patternSpecificity_eq (pattern : Pattern) :
    MemoryRegistry.patternSpecificity pattern = 4 * pattern.literals + pattern.others := by
  unfold MemoryRegistry.patternSpecificity Pattern.literals Pattern.others
  induction pattern.tokens with
  | nil => rfl
  | cons token tokens induction =>
    rw [List.map_cons, List.sum_cons, induction]
    cases token with
    | literal text | placeholder name =>
      simp [MemoryRegistry.tokenScore, Token.isLiteral, Token.isNamed, List.countP_cons]
      omega
    | single =>
      simp [MemoryRegistry.tokenScore, Token.isLiteral, Token.isNamed]
      omega
    | double => simp [MemoryRegistry.tokenScore, Token.isLiteral, Token.isNamed]

namespace MemoryRegistry

variable {Contract : Type}

def documented : Ranking (ChannelPattern Contract) String where
  score := fun stored => stored.compiled.literals
  label := fun stored => stored.pattern

def weighed : Ranking (Candidate Contract) String where
  score := fun candidate => patternSpecificity candidate.pattern.compiled
  label := fun candidate => candidate.pattern.pattern

theorem precedes_iff {first second : Candidate Contract} :
    first.precedes second = true ↔ weighed.Ahead first second := by
  unfold Candidate.precedes Ranking.Ahead weighed
  split
  · rename_i different
    simp [different]
  · rename_i same
    have equal := not_not.mp same
    simp [equal]

def matching (visited : List (ChannelPattern Contract)) (channel : String) :
    List (ChannelPattern Contract) :=
  visited.filter fun stored => (stored.compiled.match? channel).isSome

def Outweighs (first second : ChannelPattern Contract) : Prop :=
  4 * second.compiled.literals + second.compiled.others <
      4 * first.compiled.literals + first.compiled.others ∨
    4 * first.compiled.literals + first.compiled.others =
        4 * second.compiled.literals + second.compiled.others ∧
      first.pattern < second.pattern

instance (first second : ChannelPattern Contract) : Decidable (Outweighs first second) :=
  inferInstanceAs (Decidable (_ ∨ _ ∧ _))

/-- The pattern that the documentation has for the channel is outweighed. -/
def Outweighed (visited : List (ChannelPattern Contract)) (channel : String) : Prop :=
  ∃ preferred ∈ matching visited channel,
    (∀ other ∈ matching visited channel, documented.Ahead preferred other) ∧
      ∃ other ∈ matching visited channel, Outweighs other preferred

instance (visited : List (ChannelPattern Contract)) (channel : String) :
    Decidable (Outweighed visited channel) :=
  inferInstanceAs (Decidable (∃ preferred ∈ matching visited channel, _ ∧ _))

structure Documented (visited : List (ChannelPattern Contract)) (channel : String)
    (found : ChannelPattern Contract) (bindings : Bindings) : Prop where
  matched : found ∈ matching visited channel
  first : ∀ other ∈ matching visited channel, documented.Ahead found other
  bound : Binds found.compiled channel bindings

section Choice

variable {visited : List (ChannelPattern Contract)} {channel : String}
  {found : ChannelPattern Contract} {bindings : Bindings}

theorem mem_candidates {candidate : Candidate Contract} :
    candidate ∈ candidates visited channel ↔ candidate.pattern ∈ visited ∧
      candidate.pattern.compiled.match? channel = some candidate.bindings := by
  rw [candidates, List.mem_filterMap]
  constructor
  · intro ⟨stored, member, made⟩
    rcases Option.map_eq_some_iff.mp made with ⟨bindings, matched, rfl⟩
    exact ⟨member, matched⟩
  · intro ⟨member, matched⟩
    exact ⟨candidate.pattern, member, by rw [matched]; rfl⟩

theorem not_outweighs_iff {first second : Candidate Contract} :
    ¬ Outweighs second.pattern first.pattern ↔ weighed.Ahead first second := by
  unfold Outweighs Ranking.Ahead weighed
  simp only [patternSpecificity_eq]
  rw [not_or, not_and_or, not_lt, not_lt]
  constructor
  · intro ⟨atLeast, tie⟩
    rcases Nat.lt_or_eq_of_le atLeast with more | same
    · exact .inl more
    · exact .inr ⟨same.symm, tie.resolve_left (not_not.mpr same)⟩
  · intro ahead
    rcases ahead with more | ⟨same, before⟩
    · exact ⟨more.le, .inl more.ne⟩
    · exact ⟨same.ge, .inr before⟩

theorem not_outweighs_of_resolve (resolved : resolve visited channel = .ok (found, bindings)) :
    found ∈ visited ∧ found.compiled.match? channel = some bindings ∧
      ∀ other ∈ matching visited channel, ¬ Outweighs other found := by
  unfold resolve at resolved
  cases sorted : (candidates visited channel).insertionSort
      fun first second => first.precedes second = true with
  | nil =>
    rw [sorted] at resolved
    cases resolved
  | cons best rest =>
    rw [sorted] at resolved
    cases resolved
    have front : ((candidates visited channel).insertionSort
        fun first second => first.precedes second = true).head? = some best := by
      rw [sorted]
      rfl
    have leads := Ranking.ahead_of_head? (fun _ _ => precedes_iff) front
    rcases mem_candidates.mp leads.1 with ⟨member, matched⟩
    refine ⟨member, matched, ?_⟩
    intro other listed
    rcases List.mem_filter.mp listed with ⟨otherIn, otherMatched⟩
    rcases Option.isSome_iff_exists.mp otherMatched with ⟨otherBindings, bound⟩
    exact not_outweighs_iff.mpr
      (leads.2 ⟨other, otherBindings⟩ (mem_candidates.mpr ⟨otherIn, bound⟩))

theorem candidates_eq_nil_iff :
    candidates visited channel = [] ↔ matching visited channel = [] := by
  rw [candidates, matching, List.filterMap_eq_nil_iff, List.filter_eq_nil_iff]
  apply forall_congr'
  intro stored
  cases stored.compiled.match? channel <;> simp

theorem resolve_of_unmatched (unmatched : matching visited channel = []) :
    resolve visited channel = .error (errNoMatch ++ ": " ++ channel) := by
  rw [resolve, candidates_eq_nil_iff.mpr unmatched]
  rfl

theorem resolve_of_matching (matched : matching visited channel ≠ []) :
    ∃ found bindings, resolve visited channel = .ok (found, bindings) := by
  unfold resolve
  cases sorted : (candidates visited channel).insertionSort
      fun first second => first.precedes second = true with
  | nil =>
    have sizes := (List.perm_insertionSort (fun first second : Candidate Contract =>
      first.precedes second = true) (candidates visited channel)).length_eq
    rw [sorted] at sizes
    exact absurd (candidates_eq_nil_iff.mp (List.length_eq_zero_iff.mp sizes.symm)) matched
  | cons best rest => exact ⟨best.pattern, best.bindings, rfl⟩

theorem outweighs_total (first second : ChannelPattern Contract) :
    Outweighs first second ∨ Outweighs second first ∨ first.pattern = second.pattern := by
  rcases lt_trichotomy (4 * first.compiled.literals + first.compiled.others)
    (4 * second.compiled.literals + second.compiled.others) with less | equal | more
  · exact .inr (.inl (.inl less))
  · rcases lt_trichotomy first.pattern second.pattern with before | same | after
    · exact .inl (.inr ⟨equal, before⟩)
    · exact .inr (.inr same)
    · exact .inr (.inl (.inr ⟨equal.symm, after⟩))
  · exact .inl (.inl more)

private theorem first_iff_of_resolve (parsed : ∀ stored ∈ visited,
      parsePattern stored.pattern = .ok stored.compiled)
    (resolved : resolve visited channel = .ok (found, bindings)) :
    (∀ other ∈ matching visited channel, documented.Ahead found other) ↔
      ¬ Outweighed visited channel := by
  rcases not_outweighs_of_resolve resolved with ⟨member, matched, best⟩
  have listed : found ∈ matching visited channel := by
    rw [matching, List.mem_filter, matched]
    exact ⟨member, rfl⟩
  have same : ∀ other ∈ matching visited channel, found.pattern = other.pattern →
      found.compiled = other.compiled := by
    intro other otherIn texts
    have foundParsed := parsed found member
    rw [texts, parsed other (List.mem_filter.mp otherIn).1] at foundParsed
    exact (Except.ok.inj foundParsed).symm
  constructor
  · intro first ⟨preferred, preferredIn, preferredFirst, other, otherIn, outweighs⟩
    have texts : found.pattern = preferred.pattern :=
      (first preferred preferredIn).label_eq (preferredFirst found listed)
    apply best other otherIn
    unfold Outweighs at outweighs ⊢
    rwa [same preferred preferredIn texts, texts]
  · intro unoutweighed
    rcases documented.exists_first (List.ne_nil_of_mem listed) with
      ⟨preferred, preferredIn, preferredFirst⟩
    rcases outweighs_total preferred found with outweighs | outweighed | texts
    · exact absurd outweighs (best preferred preferredIn)
    · exact absurd ⟨preferred, preferredIn, preferredFirst, found, listed, outweighed⟩ unoutweighed
    · intro other otherIn
      have ahead := preferredFirst other otherIn
      simp only [Ranking.Ahead, documented] at ahead ⊢
      rwa [same preferred preferredIn texts.symm, texts.symm]

/-- `Resolve` returns the documented pattern with all of its bindings, unless that pattern is
outweighed or a placeholder stands twice, for different segments. -/
theorem resolve_documented_iff (calls : List (Call Contract))
    (visits : (registryAfter calls).Visits visited) (channel : String) :
    (matching visited channel = [] →
      resolve visited channel = .error (errNoMatch ++ ": " ++ channel)) ∧
    (matching visited channel ≠ [] →
      ∃ found bindings, resolve visited channel = .ok (found, bindings) ∧
        (Documented visited channel found bindings ↔
          ¬ Outweighed visited channel ∧ Consistent found.compiled channel)) := by
  refine ⟨resolve_of_unmatched, ?_⟩
  intro nonempty
  have parsed := (compiled_registryAfter calls).parsed visits
  rcases resolve_of_matching nonempty with ⟨found, bindings, resolved⟩
  refine ⟨found, bindings, resolved, ?_⟩
  rcases not_outweighs_of_resolve resolved with ⟨member, matched, _⟩
  have first := first_iff_of_resolve parsed resolved
  have bound := binds_iff (parsed found member) matched
  constructor
  · intro documented
    exact ⟨first.mp documented.first, bound.mp documented.bound⟩
  · intro ⟨unoutweighed, consistent⟩
    refine ⟨?_, first.mpr unoutweighed, bound.mpr consistent⟩
    rw [matching, List.mem_filter, matched]
    exact ⟨member, rfl⟩

def registered (texts : List String) : List (Call Unit) :=
  texts.map fun text => .register { pattern := text, version := 0, contract := () }

def visitedAfter (calls : List (Call Contract)) : List (ChannelPattern Contract) :=
  (registryAfter calls).patterns.entries.map (·.2)

theorem visits_visitedAfter (calls : List (Call Contract)) :
    (registryAfter calls).Visits (visitedAfter calls) :=
  List.Perm.refl _

theorem literals_resolved : ∃ found bindings,
    resolve (visitedAfter (registered ["orders.**", "orders.placed"])) "orders.placed" =
      .ok (found, bindings) ∧
    Documented (visitedAfter (registered ["orders.**", "orders.placed"])) "orders.placed"
      found bindings := by
  have nonempty : matching (visitedAfter (registered ["orders.**", "orders.placed"]))
      "orders.placed" ≠ [] := by
    intro empty
    have sizes := congrArg List.length empty
    exact absurd sizes (by decide +kernel)
  rcases (resolve_documented_iff (registered ["orders.**", "orders.placed"])
    (visits_visitedAfter _) "orders.placed").2 nonempty with ⟨found, bindings, resolved, iff⟩
  refine ⟨found, bindings, resolved, iff.mpr ⟨by decide +kernel, ?_⟩⟩
  have literal : (resolve (visitedAfter (registered ["orders.**", "orders.placed"]))
      "orders.placed").toOption.map (·.1.compiled.tokens) =
        some [.literal "orders", .literal "placed"] := by
    decide +kernel
  rw [resolved] at literal
  have tokens : found.compiled.tokens = [.literal "orders", .literal "placed"] := by
    simpa [Except.toOption] using literal
  intro name first second placed
  have member := (List.of_mem_zip placed).1
  simp [tokens] at member

def threePlaceholders : List (ChannelPattern Unit) :=
  visitedAfter (registered ["\x7ba\x7d.\x7bb\x7d.\x7bc\x7d", "orders.**"])

/-- Three placeholders outweigh a literal, and of two placeholders with one name the latter is
bound. -/
theorem placeholders_outweigh_literal :
    (resolve threePlaceholders "orders.eu.placed").toOption.map
        (fun found => (found.1.pattern, found.1.compiled.literals)) =
      some ("\x7ba\x7d.\x7bb\x7d.\x7bc\x7d", 0) ∧
    (matching threePlaceholders "orders.eu.placed").map
        (fun stored => (stored.pattern, stored.compiled.literals)) =
      [("orders.**", 1), ("\x7ba\x7d.\x7bb\x7d.\x7bc\x7d", 0)] ∧
    (resolve (visitedAfter (registered ["\x7ba\x7d.\x7ba\x7d"])) "eu.placed").toOption.map
        (fun found => found.2.entries) = some [⟨"a", "placed"⟩] := by
  decide +kernel

end Choice

end MemoryRegistry

end Parsec.Schema
