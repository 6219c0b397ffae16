import Parsec.Foundation.Calls
import Parsec.Auth.Claims

/-! # What a token authorizes

The decision as its documentation words it, the decision as the code makes it, and the same
decision with compiled patterns kept between calls. -/

namespace Parsec.Auth

open Foundation Channels

def Scope.Covers (scope : Scope) (name : Name) (verb : Verb) : Prop :=
  ∃ pattern, parsePattern scope.pattern = .ok pattern ∧ pattern.matches name = true ∧
    verb ∈ scope.verbs

theorem Scope.matchesVerb_iff {scope : Scope} {name : Name} {verb : Verb} :
    scope.matchesVerb name verb = true ↔ scope.Covers name verb := by
  unfold matchesVerb Covers
  cases parsePattern scope.pattern with
  | error error | ok pattern => simp

namespace Claims

def Covered (claims : Claims) (deny : Bool) (channel : String) (verb : Verb) : Prop :=
  ∃ name, parseName channel = .ok name ∧
    ∃ scope ∈ claims.scopes, scope.deny = deny ∧ scope.Covers name verb

/-- The documented decision: the channel is well formed, no deny scope covers it, and it is
listed or an allow scope covers it. -/
def Documented (claims : Claims) (channel : String) (verb : Verb) : Prop :=
  (∃ name, parseName channel = .ok name) ∧ ¬ claims.Covered true channel verb ∧
    (channel ∈ claims.chs ∨ claims.Covered false channel verb)

variable {claims : Claims} {channel : String} {verb : Verb}

theorem authorizes_iff :
    claims.authorizes channel verb = true ↔ ¬ claims.Covered true channel verb ∧
      (channel ∈ claims.chs ∨ claims.Covered false channel verb) := by
  unfold authorizes
  by_cases unscoped : claims.scopes = []
  · simp [Covered, unscoped]
  · cases parsed : parseName channel with
    | error error => simp [Covered, parsed, unscoped, Except.toOption]
    | ok name =>
      have covered : ∀ deny, (claims.scopes.any fun scope =>
          scope.deny = deny && scope.matchesVerb name verb) = true ↔
          claims.Covered deny channel verb := by
        intro deny
        simp [Covered, parsed, Scope.matchesVerb_iff]
      simp only [unscoped, if_false, Except.toOption]
      by_cases denied : claims.Covered true channel verb
      · rw [if_pos ((covered true).mpr denied)]
        simp [denied]
      · rw [if_neg (mt (covered true).mp denied), Bool.or_eq_true, covered false]
        simp [denied]

private theorem covered_named {deny : Bool} (covered : claims.Covered deny channel verb) :
    ∃ name, parseName channel = .ok name := by
  rcases covered with ⟨name, parsed, _⟩
  exact ⟨name, parsed⟩

end Claims

/-- The code decides as documented, except on channels that are listed without being well
formed: those it grants. -/
theorem authorizes_documented_iff (claims : Claims) (channel : String) (verb : Verb) :
    (claims.authorizes channel verb = true ↔ claims.Documented channel verb) ↔
      ((∃ name, parseName channel = .ok name) ∨ channel ∉ claims.chs) := by
  rw [Claims.authorizes_iff, Claims.Documented]
  by_cases named : ∃ name, parseName channel = .ok name
  · simp [named]
  · have uncovered : ∀ deny, ¬ claims.Covered deny channel verb :=
      fun deny covered => named (Claims.covered_named covered)
    simp [named, uncovered]

/-- A token that lists a text without a visibility is good for it. -/
theorem listed_malformed_channel_granted :
    ({ typ := .access, chs := ["orders"], iat := 0, exp := 0 } : Claims).authorizes "orders"
        .subscribe = true ∧
      parseName "orders" =
        .error (invalidChannel "channel name must start with public: or private:") := by
  decide +kernel

namespace Claims

variable {claims other : Claims} {channel : String} {verb : Verb}

theorem Covered.mono {deny : Bool} (covered : claims.Covered deny channel verb)
    (more : ∀ scope ∈ claims.scopes, scope.deny = deny → scope ∈ other.scopes) :
    other.Covered deny channel verb := by
  rcases covered with ⟨name, parsed, scope, member, kind, covers⟩
  exact ⟨name, parsed, scope, more scope member kind, kind, covers⟩

theorem authorizes_mono (granted : claims.authorizes channel verb = true)
    (denies : ∀ scope ∈ other.scopes, scope.deny = true → scope ∈ claims.scopes)
    (allows : ∀ scope ∈ claims.scopes, scope.deny = false → scope ∈ other.scopes)
    (chs : ∀ ch ∈ claims.chs, ch ∈ other.chs) : other.authorizes channel verb = true := by
  rw [authorizes_iff] at granted ⊢
  rcases granted with ⟨undenied, reason⟩
  refine ⟨fun denied => undenied (denied.mono denies), ?_⟩
  rcases reason with listed | covered
  · exact .inl (chs channel listed)
  · exact .inr (covered.mono allows)

theorem authorizes_congr (scopes : ∀ scope, scope ∈ other.scopes ↔ scope ∈ claims.scopes)
    (chs : ∀ ch, ch ∈ other.chs ↔ ch ∈ claims.chs) :
    other.authorizes channel verb = claims.authorizes channel verb := by
  apply Bool.eq_iff_iff.mpr
  constructor
  · intro granted
    exact authorizes_mono granted (fun scope member _ => (scopes scope).mpr member)
      (fun scope member _ => (scopes scope).mp member) fun ch member => (chs ch).mp member
  · intro granted
    exact authorizes_mono granted (fun scope member _ => (scopes scope).mp member)
      (fun scope member _ => (scopes scope).mpr member) fun ch member => (chs ch).mpr member

section Insertion

variable {before after : List Scope} {scope : Scope}

variable (split : claims.scopes = before ++ after)
include split

theorem mem_inserted {listed : Scope} :
    listed ∈ before ++ scope :: after ↔ listed = scope ∨ listed ∈ claims.scopes := by
  rw [split, List.perm_middle.mem_iff, List.mem_cons]

theorem authorizes_of_denied (denies : scope.deny = true)
    (granted : { claims with scopes := before ++ scope :: after }.authorizes channel verb = true) :
    claims.authorizes channel verb = true := by
  apply authorizes_mono granted
  · intro listed member _
    exact (mem_inserted split).mpr (.inr member)
  · intro listed member allows
    rcases (mem_inserted split).mp member with rfl | old
    · rw [denies] at allows
      cases allows
    · exact old
  · exact fun _ member => member

private theorem authorizes_of_allowed (allows : scope.deny = false)
    (granted : claims.authorizes channel verb = true) :
    { claims with scopes := before ++ scope :: after }.authorizes channel verb = true := by
  apply authorizes_mono granted
  · intro listed member denies
    rcases (mem_inserted split).mp member with rfl | old
    · rw [allows] at denies
      cases denies
    · exact old
  · intro listed member _
    exact (mem_inserted split).mpr (.inr member)
  · exact fun _ member => member

end Insertion

end Claims

/-- A scope with its pattern as `Compiled` keeps it: not compiled yet, or the pattern or error
that compiling gave. -/
structure CachedScope where
  scope : Scope
  compiled : Option (Except CodedError Pattern) := none
  faithful : ∀ result, compiled = some result → result = parsePattern scope.pattern

namespace CachedScope

def fresh (scope : Scope) : CachedScope where
  scope := scope
  faithful := fun _ absent => by cases absent

def compile (cached : CachedScope) : Except CodedError Pattern × CachedScope :=
  match cached.compiled with
  | some result => (result, cached)
  | none =>
    (parsePattern cached.scope.pattern,
      { scope := cached.scope
        compiled := some (parsePattern cached.scope.pattern)
        faithful := fun _ known => (Option.some.inj known).symm })

variable (cached : CachedScope)

theorem compile_result : cached.compile.1 = parsePattern cached.scope.pattern := by
  unfold compile
  split
  · rename_i result known
    exact cached.faithful result known
  · rfl

@[simp] theorem compile_scope : cached.compile.2.scope = cached.scope := by
  unfold compile
  split <;> rfl

def matchesVerb (cached : CachedScope) (name : Name) (verb : Verb) : Bool × CachedScope :=
  let (result, kept) := cached.compile
  match result with
  | .error _ => (false, kept)
  | .ok pattern => (pattern.matches name && cached.scope.verbs.contains verb, kept)

@[simp] theorem matchesVerb_scope (name : Name) (verb : Verb) :
    (cached.matchesVerb name verb).2.scope = cached.scope := by
  unfold matchesVerb
  dsimp only
  split <;> exact cached.compile_scope

theorem matchesVerb_answer (name : Name) (verb : Verb) :
    (cached.matchesVerb name verb).1 = cached.scope.matchesVerb name verb := by
  unfold matchesVerb Scope.matchesVerb
  rw [← cached.compile_result]
  dsimp only
  cases cached.compile.1 with
  | error _ | ok _ => rfl

def scan (deny : Bool) (name : Name) (verb : Verb) : List CachedScope → Bool × List CachedScope
  | [] => (false, [])
  | cached :: rest =>
    if cached.scope.deny ≠ deny then
      let (found, rest) := scan deny name verb rest
      (found, cached :: rest)
    else
      let (hit, cached) := cached.matchesVerb name verb
      if hit then (true, cached :: rest)
      else
        let (found, rest) := scan deny name verb rest
        (found, cached :: rest)

theorem scan_answer (deny : Bool) (name : Name) (verb : Verb) (scopes : List CachedScope) :
    (scan deny name verb scopes).1 = (scopes.map (·.scope)).any fun scope =>
      scope.deny = deny && scope.matchesVerb name verb := by
  induction scopes with
  | nil => rfl
  | cons cached rest induction =>
    have hit := cached.matchesVerb_answer name verb
    simp only [scan, List.map_cons, List.any_cons]
    by_cases kind : cached.scope.deny = deny
    · simp only [kind, ne_eq, not_true, if_false, decide_true, Bool.true_and, hit]
      cases cached.scope.matchesVerb name verb with
      | true => rfl
      | false => simpa using induction
    · simpa [kind] using induction

private theorem scan_scopes (deny : Bool) (name : Name) (verb : Verb) (scopes : List CachedScope) :
    (scan deny name verb scopes).2.map (·.scope) = scopes.map (·.scope) := by
  induction scopes with
  | nil => rfl
  | cons cached rest induction =>
    simp only [scan]
    split
    · simp [induction]
    · split
      · simp
      · simp [induction]

end CachedScope

structure HeldClaims where
  claims : Claims
  scopes : List CachedScope
  same : scopes.map (·.scope) = claims.scopes

namespace HeldClaims

def decoded (claims : Claims) : HeldClaims where
  claims := claims
  scopes := claims.scopes.map .fresh
  same := by
    rw [List.map_map]
    exact List.map_id _

def scan (held : HeldClaims) (deny : Bool) (name : Name) (verb : Verb) : Bool × HeldClaims :=
  let passed := CachedScope.scan deny name verb held.scopes
  (passed.1,
    { claims := held.claims
      scopes := passed.2
      same := (CachedScope.scan_scopes deny name verb held.scopes).trans held.same })

variable (held : HeldClaims)

theorem scan_answer (deny : Bool) (name : Name) (verb : Verb) :
    (held.scan deny name verb).1 = held.claims.scopes.any fun scope =>
      scope.deny = deny && scope.matchesVerb name verb := by
  rw [← held.same]
  exact CachedScope.scan_answer deny name verb held.scopes

def authorizes (held : HeldClaims) (channel : String) (verb : Verb) : Bool × HeldClaims :=
  match if held.claims.scopes = [] then none else (parseName channel).toOption with
  | none => (held.claims.chs.contains channel, held)
  | some name =>
    let (denied, held) := held.scan true name verb
    if denied then (false, held)
    else if held.claims.chs.contains channel then (true, held)
    else held.scan false name verb

variable (channel : String)

private theorem authorizes_claims (verb : Verb) :
    (held.authorizes channel verb).2.claims = held.claims := by
  unfold authorizes
  split
  · rfl
  · dsimp only
    split
    · rfl
    · split <;> rfl

theorem authorizes_answer (verb : Verb) :
    (held.authorizes channel verb).1 = held.claims.authorizes channel verb := by
  unfold authorizes Claims.authorizes
  split
  · rename_i unnamed
    simp [unnamed]
  · rename_i name named
    have deny := held.scan_answer true name verb
    have allow := (held.scan true name verb).2.scan_answer false name verb
    simp only [named]
    rw [← deny]
    cases (held.scan true name verb).1 with
    | true => rfl
    | false =>
      simp only [Bool.false_eq_true, if_false]
      by_cases listed : (held.scan true name verb).2.claims.chs.contains channel = true
      · rw [if_pos listed]
        exact (Bool.or_eq_true_iff.mpr (.inl listed)).symm
      · rw [if_neg listed, allow]
        exact (congrArg (· || _) (Bool.eq_false_iff.mpr listed)).symm

def service : Service HeldClaims (String × Verb) Bool :=
  fun held question => held.authorizes question.1 question.2

private theorem after_claims (questions : List (String × Verb)) :
    (service.after held questions).claims = held.claims := by
  induction questions generalizing held with
  | nil => rfl
  | cons question questions induction =>
    exact (induction _).trans (held.authorizes_claims question.1 question.2)

end HeldClaims

/-- The answer depends on the sets of scopes and channels only, whatever was asked before. A deny
scope turns no refusal into a grant, an allow scope or a channel no grant into a refusal. -/
theorem authorizes_order_free_monotone (claims : Claims) (channel : String) (verb : Verb) :
    (∀ scopes chs, (∀ scope, scope ∈ scopes ↔ scope ∈ claims.scopes) →
        (∀ ch, ch ∈ chs ↔ ch ∈ claims.chs) →
          { claims with scopes := scopes, chs := chs }.authorizes channel verb =
            claims.authorizes channel verb) ∧
      (∀ before after scope, claims.scopes = before ++ after →
        (scope.deny = true → claims.authorizes channel verb = false →
            { claims with scopes := before ++ scope :: after }.authorizes channel verb = false) ∧
          (scope.deny = false → claims.authorizes channel verb = true →
            { claims with scopes := before ++ scope :: after }.authorizes channel verb = true)) ∧
      (∀ before after ch, claims.chs = before ++ after →
        claims.authorizes channel verb = true →
          { claims with chs := before ++ ch :: after }.authorizes channel verb = true) ∧
      ∀ held : HeldClaims, held.claims = claims → ∀ asked,
        ((HeldClaims.service.after held asked).authorizes channel verb).1 =
          claims.authorizes channel verb := by
  refine ⟨?_, ?_, ?_, ?_⟩
  · intro scopes chs sameScopes sameChs
    exact Claims.authorizes_congr sameScopes sameChs
  · intro before after scope split
    constructor
    · intro denies refused
      rw [← Bool.not_eq_true] at refused ⊢
      intro granted
      exact refused (Claims.authorizes_of_denied split denies granted)
    · intro allows granted
      exact Claims.authorizes_of_allowed split allows granted
  · intro before after ch split granted
    apply Claims.authorizes_mono granted
    · exact fun _ member _ => member
    · exact fun _ member _ => member
    · intro other member
      rw [split] at member
      exact List.perm_middle.mem_iff.mpr (List.mem_cons_of_mem ch member)
  · intro held same asked
    rw [HeldClaims.authorizes_answer, HeldClaims.after_claims, same]

/-- A refusal compiles the only scope; the grant that follows uses it. -/
example :
    HeldClaims.service.answers
        (.decoded
          { typ := .access, iat := 0, exp := 0,
            scopes := [{ pattern := "private:shop.**", verbs := [.subscribe] }] })
        [("private:shop.orders.o1", .publish), ("private:shop.orders.o1", .subscribe)] =
      [false, true] := by
  decide +kernel

end Parsec.Auth
