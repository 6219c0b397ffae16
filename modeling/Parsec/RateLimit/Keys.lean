import Parsec.Channels.Grammar
import Parsec.RateLimit.RedisLimiter
import Parsec.Subscribe.Authorizer

/-! # Keys of rate limits

The keys that the gates charge are texts joined by colons, though rules and subjects may hold
colons themselves. -/

namespace Parsec.RateLimit

open Foundation Channels Auth Subscribe

def segmentScore (segment : String) : Nat :=
  if segment = "**" then 0 else if segment = "*" then 1 else 4

def ruleSpecificity (pattern : Pattern) : Nat :=
  ((splitSeparators pattern.raw).map segmentScore).sum

def ChannelRule.precedes (first second : ChannelRule) : Bool :=
  if ruleSpecificity first.pattern ≠ ruleSpecificity second.pattern then
    ruleSpecificity second.pattern < ruleSpecificity first.pattern
  else first.raw ≤ second.raw

def parseRules : List (String × Limit) → Except CodedError (List ChannelRule)
  | [] => .ok []
  | (raw, limit) :: rest => do
      let pattern ← parsePattern raw
      let rules ← parseRules rest
      return { pattern := pattern, raw := raw, limit := limit.normalize } :: rules

def compileChannelRules (raw : List (String × Limit)) : Except CodedError (List ChannelRule) := do
  let rules ← parseRules raw
  return rules.insertionSort fun first second => first.precedes second = true

def resolveRateLimits (limits : RateLimits) (publish subscribe : List (String × Limit)) :
    Except CodedError RateLimits := do
  let rules ← (compileChannelRules publish).mapError fun error =>
    wrapped .invalidArgument "per-channel publish limit" error.text
  let subRules ← (compileChannelRules subscribe).mapError fun error =>
    wrapped .invalidArgument "per-channel subscribe limit" error.text
  return { limits with perChannelPublish := rules, perChannelSubscribe := subRules }.normalize

def ChannelRule.Parsed (rule : ChannelRule) : Prop :=
  ∃ pattern, parsePattern rule.raw = .ok pattern

variable {rules : List ChannelRule} {raw : List (String × Limit)}

theorem pattern_of_parseRules (compiled : parseRules raw = .ok rules) :
    ∀ rule ∈ rules, parsePattern rule.raw = .ok rule.pattern := by
  induction raw generalizing rules with
  | nil =>
    cases compiled
    simp
  | cons entry rest induction =>
    rcases entry with ⟨text, limit⟩
    simp only [parseRules, bind_eq_ok] at compiled
    rcases compiled with ⟨pattern, parsed, others, later, listed⟩
    cases listed
    intro rule member
    rcases List.mem_cons.mp member with rfl | member
    · exact parsed
    · exact induction later rule member

theorem pattern_of_compileChannelRules (compiled : compileChannelRules raw = .ok rules) :
    ∀ rule ∈ rules, parsePattern rule.raw = .ok rule.pattern := by
  simp only [compileChannelRules, bind_eq_ok] at compiled
  rcases compiled with ⟨parsed, all, sorted⟩
  cases sorted
  intro rule member
  exact pattern_of_parseRules all rule ((List.mem_insertionSort _).mp member)

variable {limits : RateLimits} {resolved : RateLimits} {publish subscribe : List (String × Limit)}

private theorem parsed_of_resolveRateLimits
    (resolves : resolveRateLimits limits publish subscribe = .ok resolved) :
    (∀ rule ∈ resolved.perChannelPublish, rule.Parsed) ∧
      ∀ rule ∈ resolved.perChannelSubscribe, rule.Parsed := by
  simp only [resolveRateLimits, bind_eq_ok, mapError_eq_ok] at resolves
  rcases resolves with ⟨rules, compiled, subRules, subCompiled, normalized⟩
  cases normalized
  simp only [RateLimits.normalize, List.forall_mem_map]
  exact ⟨fun rule member => ⟨_, pattern_of_compileChannelRules compiled rule member⟩,
    fun rule member => ⟨_, pattern_of_compileChannelRules subCompiled rule member⟩⟩

namespace RateLimits

def matchPublish (limits : RateLimits) (channel : Name) : Limit × String :=
  match limits.perChannelPublish.find? (·.pattern.matches channel) with
  | some rule => (rule.limit, rule.raw)
  | none => (limits.publish, "")

def rateLimitForBucket (limits : RateLimits) : Bucket → Limit
  | .publish => limits.publish
  | .subscribe => limits.subscribe
  | .tokenIssue => limits.tokenIssue

end RateLimits

def effectiveLimit (configured : Limit) : Option Limit → Limit
  | some override => if override.unlimited then configured else override.normalize
  | none => configured

/-- The places where a limiter is asked. The last two run before token verification: the gate of
an instance, and that of `NewSubscribeAuthorizerWithLimiter`. -/
inductive Gate
  | checkRateLimit (bucket : Bucket) (subject : String) (override : Option Limit)
  | checkPublishLimit (subject : String) (channel : Name) (override : Option Limit)
  | checkSubscribeLimit (subject : String) (channel : Name) (override : Option Limit)
  | subscribeGate (userID : String) (channel : Name)
  | authorizerGate (userID : String) (defaultLimit : Limit)

namespace Gate

def charge (limits : RateLimits) : Gate → Option (String × Limit)
  | checkRateLimit bucket subject override =>
    let effective := effectiveLimit (limits.rateLimitForBucket bucket) override
    if effective.unlimited then none else some (bucket.text ++ ":" ++ subject, effective)
  | checkPublishLimit subject channel override =>
    let (configured, rule) := limits.matchPublish channel
    let effective := effectiveLimit configured override
    if effective.unlimited then none else some (channelKey .publish rule subject, effective)
  | checkSubscribeLimit subject channel override =>
    let (configured, rule) := limits.matchSubscribe channel
    let effective := effectiveLimit configured override
    if effective.unlimited then none else some (channelKey .subscribe rule subject, effective)
  | subscribeGate userID channel =>
    if userID = "" then none
    else
      let (effective, rule) := limits.matchSubscribe channel
      if effective.unlimited then none else some (channelKey .subscribe rule userID, effective)
  | authorizerGate userID defaultLimit =>
    if defaultLimit.unlimited then none
    else if userID = "" then none
    else some (Bucket.subscribe.text ++ ":" ++ userID, defaultLimit)

def bucket : Gate → Bucket
  | checkRateLimit bucket _ _ => bucket
  | checkPublishLimit _ _ _ => .publish
  | checkSubscribeLimit _ _ _ => .subscribe
  | subscribeGate _ _ => .subscribe
  | authorizerGate _ _ => .subscribe

def subject : Gate → String
  | checkRateLimit _ subject _ => subject
  | checkPublishLimit subject _ _ => subject
  | checkSubscribeLimit subject _ _ => subject
  | subscribeGate userID _ => userID
  | authorizerGate userID _ => userID

def rule (limits : RateLimits) : Gate → Option String
  | checkRateLimit _ _ _ => none
  | checkPublishLimit _ channel _ =>
    (limits.perChannelPublish.find? (·.pattern.matches channel)).map (·.raw)
  | checkSubscribeLimit _ channel _ =>
    (limits.perChannelSubscribe.find? (·.pattern.matches channel)).map (·.raw)
  | subscribeGate _ channel =>
    (limits.perChannelSubscribe.find? (·.pattern.matches channel)).map (·.raw)
  | authorizerGate _ _ => none

end Gate

def header (bucket : Bucket) (ruled : Bool) : String :=
  if ruled then bucket.text ++ "-channel" else bucket.text

theorem colon_not_mem_header (bucket : Bucket) (ruled : Bool) :
    ':' ∉ (header bucket ruled).toList := by
  cases bucket <;> cases ruled <;> decide +kernel

variable {bucket bucket' : Bucket} {ruled ruled' : Bool}

theorem header_injective (same : header bucket ruled = header bucket' ruled') :
    bucket = bucket' ∧ ruled = ruled' := by
  cases bucket <;> cases bucket' <;> cases ruled <;> cases ruled' <;> simp_all [header, Bucket.text]

variable {raw : String} {pattern : Pattern}

theorem rule_text (parsed : parsePattern raw = .ok pattern) :
    ∃ visibility rest : List Char, raw.toList = visibility ++ ':' :: rest ∧
      ':' ∉ visibility ∧ ':' ∉ rest := by
  rcases patternForm_of_parsePattern parsed with ⟨parts, form⟩
  refine ⟨pattern.visibility.text.toList, (String.intercalate "." parts).toList, ?_,
    colon_not_mem_visibility pattern.visibility, ?_⟩
  · rw [form.spelled]
    simp
  · apply colon_not_mem_intercalate
    intro part member
    exact (form.spells.undelimited part member).1

private theorem rule_ne_empty (parsed : parsePattern raw = .ok pattern) : raw ≠ "" := by
  intro empty
  rcases rule_text parsed with ⟨visibility, rest, spelled, _⟩
  rw [empty] at spelled
  simp at spelled

def keyOf (bucket : Bucket) (rule : Option String) (subject : String) : String :=
  channelKey bucket (rule.getD "") subject

private theorem keyOf_none (bucket : Bucket) (subject : String) :
    (keyOf bucket none subject).toList = (header bucket false).toList ++ ':' :: subject.toList := by
  simp [keyOf, channelKey, header]

theorem keyOf_some (nonempty : raw ≠ "") (subject : String) :
    (keyOf bucket (some raw) subject).toList =
      (header bucket true).toList ++ ':' :: (raw.toList ++ ':' :: subject.toList) := by
  simp [keyOf, channelKey, header, nonempty]

def RuleText (rule : Option String) : Prop :=
  ∀ raw ∈ rule, ∃ pattern, parsePattern raw = .ok pattern

theorem header_delimited_inj {tail tail' : List Char}
    (same : (header bucket ruled).toList ++ ':' :: tail =
      (header bucket' ruled').toList ++ ':' :: tail') :
    (bucket = bucket' ∧ ruled = ruled') ∧ tail = tail' := by
  have cut := delimited_inj (colon_not_mem_header bucket ruled)
    (colon_not_mem_header bucket' ruled') same
  exact ⟨header_injective (String.toList_inj.mp cut.1), cut.2⟩

theorem rule_delimited_inj {raw' : String} {pattern' : Pattern} {subject subject' : List Char}
    (parsed : parsePattern raw = .ok pattern) (parsed' : parsePattern raw' = .ok pattern')
    (same : raw.toList ++ ':' :: subject = raw'.toList ++ ':' :: subject') :
    raw = raw' ∧ subject = subject' := by
  rcases rule_text parsed with ⟨visibility, rest, spelled, visible, plain⟩
  rcases rule_text parsed' with ⟨visibility', rest', spelled', visible', plain'⟩
  rw [spelled, spelled', List.append_assoc, List.append_assoc, List.cons_append,
    List.cons_append] at same
  have outer := delimited_inj visible visible' same
  have inner := delimited_inj plain plain' outer.2
  refine ⟨String.toList_inj.mp ?_, inner.2⟩
  rw [spelled, spelled', outer.1, inner.1]

theorem keyOf_injective {rule rule' : Option String} {subject subject' : String}
    (ruleText : RuleText rule) (ruleText' : RuleText rule')
    (same : keyOf bucket rule subject = keyOf bucket' rule' subject') :
    bucket = bucket' ∧ rule = rule' ∧ subject = subject' := by
  have chars := congrArg String.toList same
  cases rule with
  | none =>
    cases rule' with
    | none =>
      rw [keyOf_none, keyOf_none] at chars
      have cut := header_delimited_inj chars
      exact ⟨cut.1.1, rfl, String.toList_inj.mp cut.2⟩
    | some raw' =>
      rcases ruleText' raw' rfl with ⟨pattern', parsed'⟩
      rw [keyOf_none, keyOf_some (rule_ne_empty parsed')] at chars
      cases (header_delimited_inj chars).1.2
  | some raw =>
    rcases ruleText raw rfl with ⟨pattern, parsed⟩
    cases rule' with
    | none =>
      rw [keyOf_none, keyOf_some (rule_ne_empty parsed)] at chars
      cases (header_delimited_inj chars).1.2
    | some raw' =>
      rcases ruleText' raw' rfl with ⟨pattern', parsed'⟩
      rw [keyOf_some (rule_ne_empty parsed), keyOf_some (rule_ne_empty parsed')] at chars
      have cut := header_delimited_inj chars
      have tails := rule_delimited_inj parsed parsed' cut.2
      exact ⟨cut.1.1, congrArg some tails.1, String.toList_inj.mp tails.2⟩

theorem colon_mem_keyOf (bucket : Bucket) (rule : Option String) (subject : String) :
    ':' ∈ (keyOf bucket rule subject).toList := by
  simp [keyOf, channelKey]

theorem find?_rule (parsed : ∀ rule ∈ rules, rule.Parsed) (channel : Name) :
    RuleText ((rules.find? (·.pattern.matches channel)).map (·.raw)) := by
  intro raw found
  rcases Option.map_eq_some_iff.mp found with ⟨rule, first, rfl⟩
  exact parsed rule (List.mem_of_find?_eq_some first)

private theorem matchPublish_rule (limits : RateLimits) (channel : Name) :
    (limits.matchPublish channel).2 =
      ((limits.perChannelPublish.find? (·.pattern.matches channel)).map (·.raw)).getD "" := by
  unfold RateLimits.matchPublish
  cases limits.perChannelPublish.find? (·.pattern.matches channel) with
  | none | some rule => rfl

theorem matchSubscribe_rule (limits : RateLimits) (channel : Name) :
    (limits.matchSubscribe channel).2 =
      ((limits.perChannelSubscribe.find? (·.pattern.matches channel)).map (·.raw)).getD "" := by
  unfold RateLimits.matchSubscribe
  cases limits.perChannelSubscribe.find? (·.pattern.matches channel) with
  | none | some rule => rfl

theorem Gate.key_of_charge {gate : Gate} {key : String} {limit : Limit}
    (charged : gate.charge limits = some (key, limit)) :
    key = keyOf gate.bucket (gate.rule limits) gate.subject := by
  cases gate with
  | checkRateLimit bucket subject override =>
    simp only [charge] at charged
    split at charged
    · cases charged
    · cases charged
      rfl
  | checkPublishLimit subject channel | checkSubscribeLimit subject channel =>
    simp only [charge, matchPublish_rule, matchSubscribe_rule] at charged
    split at charged
    · cases charged
    · cases charged
      rfl
  | subscribeGate userID channel =>
    simp only [charge] at charged
    split at charged
    · cases charged
    · split at charged
      · cases charged
      · cases charged
        rw [matchSubscribe_rule]
        rfl
  | authorizerGate userID defaultLimit =>
    simp only [charge] at charged
    split at charged
    · cases charged
    · split at charged
      · cases charged
      · cases charged
        rfl

theorem Gate.ruleText (resolves : resolveRateLimits limits publish subscribe = .ok resolved)
    (gate : Gate) : RuleText (gate.rule resolved) := by
  have parsed := parsed_of_resolveRateLimits resolves
  cases gate with
  | checkRateLimit bucket subject override | authorizerGate userID defaultLimit =>
    intro raw none
    cases none
  | checkPublishLimit subject channel override => exact find?_rule parsed.1 channel
  | checkSubscribeLimit subject channel override | subscribeGate userID channel =>
    exact find?_rule parsed.2 channel

/-- Two charges, on instances with any rules that compile, have one key in memory, and one key
in Redis under one prefix, exactly if they are of one bucket, one rule and one subject. -/
theorem charges_share_key_iff {limits limits' resolved resolved' : RateLimits}
    {publish publish' subscribe subscribe' : List (String × Limit)}
    (resolves : resolveRateLimits limits publish subscribe = .ok resolved)
    (resolves' : resolveRateLimits limits' publish' subscribe' = .ok resolved')
    {gate gate' : Gate} {key key' : String} {limit limit' : Limit}
    (charged : gate.charge resolved = some (key, limit))
    (charged' : gate'.charge resolved' = some (key', limit')) (keyPrefix : String) :
    (key = key' ↔ gate.bucket = gate'.bucket ∧ gate.rule resolved = gate'.rule resolved' ∧
        gate.subject = gate'.subject) ∧
      (RedisLimiter.fullKey keyPrefix key = RedisLimiter.fullKey keyPrefix key' ↔
        gate.bucket = gate'.bucket ∧ gate.rule resolved = gate'.rule resolved' ∧
          gate.subject = gate'.subject) := by
  have keys : key = key' ↔ gate.bucket = gate'.bucket ∧
      gate.rule resolved = gate'.rule resolved' ∧ gate.subject = gate'.subject := by
    rw [Gate.key_of_charge charged, Gate.key_of_charge charged']
    constructor
    · exact keyOf_injective (Gate.ruleText resolves gate) (Gate.ruleText resolves' gate')
    · intro ⟨sameBucket, sameRule, sameSubject⟩
      rw [sameBucket, sameRule, sameSubject]
  have delimited : ':' ∈ key.toList := by
    rw [Gate.key_of_charge charged]
    exact colon_mem_keyOf _ _ _
  have delimited' : ':' ∈ key'.toList := by
    rw [Gate.key_of_charge charged']
    exact colon_mem_keyOf _ _ _
  refine ⟨keys, ?_⟩
  rw [RedisLimiter.fullKey_eq_iff, ← keys]
  simp [RedisLimiter.twins, delimited, delimited']

def pricesLimits : Except CodedError RateLimits :=
  resolveRateLimits { publish := { rate := 10 } } [("public:shop.*", { rate := 2 })] []

def pricesChannel : Name := { visibility := .public, app := "shop", domain := "prices" }

/-- A subject that spells a rule and another subject does not reach that subject's budget. -/
theorem spelled_rule_has_own_key :
    ∃ limits key key' limit limit', pricesLimits = .ok limits ∧
      (Gate.checkPublishLimit "u1" pricesChannel none).charge limits = some (key, limit) ∧
      (Gate.checkRateLimit .publish "public:shop.*:u1" none).charge limits = some (key', limit') ∧
      RedisLimiter.fullKey "parsec" key ≠ RedisLimiter.fullKey "parsec" key' := by
  have charges : pricesLimits.toOption.map (fun limits =>
      ((Gate.checkPublishLimit "u1" pricesChannel none).charge limits,
        (Gate.checkRateLimit .publish "public:shop.*:u1" none).charge limits)) =
      some (some ("publish-channel:public:shop.*:u1", { rate := 2, per := second, burst := 2 }),
        some ("publish:public:shop.*:u1", { rate := 10, per := second, burst := 10 })) := by
    decide +kernel
  cases resolves : pricesLimits with
  | error error =>
    rw [resolves] at charges
    cases charges
  | ok limits =>
    rw [resolves] at charges
    simp only [Except.toOption, Option.map_some, Option.some.injEq, Prod.mk.injEq] at charges
    refine ⟨limits, _, _, _, _, rfl, charges.1, charges.2, ?_⟩
    intro same
    have shared :=
      (charges_share_key_iff resolves resolves charges.1 charges.2 "parsec").2.mp same
    exact absurd shared.2.2 (by decide)

end Parsec.RateLimit
