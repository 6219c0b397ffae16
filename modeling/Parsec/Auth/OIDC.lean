import Parsec.Auth.Token

/-! # Operators from an identity provider

ID tokens are verified by a library and translated into claims of management tokens. The
composite verifier tries them after the instance's own tokens. -/

namespace Parsec.Auth

open Foundation Channels

structure OIDCGrant where
  ifGroup : String
  scope : String
  verbs : List Verb
  deriving DecidableEq

structure OIDCConfig where
  issuer : String
  audience : String
  subjectClaim : String := ""
  scopesClaim : String := ""
  grants : List OIDCGrant := []

/-- A claim of an ID token. A raw message stands for what it decodes to, as a list of
strings and as one string. -/
inductive Value
  | null
  | array (items : List Value)
  | strings (items : List String)
  | string (text : String)
  | rawMessage (list : Option (List String)) (single : Option String)
  | other

def Value.asString : Value → Option String
  | .string text => some text
  | _ => none

def extractStringList : Value → List String
  | .null | .other => []
  | .array items => (items.filterMap Value.asString).filter (· ≠ "")
  | .strings items => items
  | .string text => ((text.toList.splitOn ' ').filter (· ≠ [])).map String.ofList
  | .rawMessage (some list) _ => list
  | .rawMessage none (some text) => if text = "" then [] else [text]
  | .rawMessage none none => []

def mapGrants (grants : List OIDCGrant) (groups : List String) : List Scope :=
  if grants = [] ∨ groups = [] then []
  else grants.filterMap fun grant =>
    if grant.ifGroup ∉ groups then none
    else if grant.scope = "" ∨ grant.verbs = [] then none
    else some { pattern := grant.scope, verbs := grant.verbs }

def Unmatched (grants : List OIDCGrant) (groups : List String) : Prop :=
  ∀ grant ∈ grants, grant.ifGroup ∉ groups

instance (grants : List OIDCGrant) (groups : List String) : Decidable (Unmatched grants groups) :=
  inferInstanceAs (Decidable (∀ grant ∈ grants, grant.ifGroup ∉ groups))

private theorem mapGrants_unmatched {grants : List OIDCGrant} {groups : List String}
    (unmatched : Unmatched grants groups) : mapGrants grants groups = [] := by
  unfold mapGrants
  split
  · rfl
  · rw [List.filterMap_eq_nil_iff]
    intro grant member
    exact if_pos (unmatched grant member)

structure IDToken where
  subject : String
  issuedAt : Int
  expiry : Int
  claims : Option (String → Value)

abbrev Provider := Int → Text → Except String IDToken

structure OIDCVerifier where
  cfg : OIDCConfig
  verifier : Provider

def containsAny (message : String) (needles : List String) : Bool :=
  needles.any fun needle => decide (needle.toList <:+: message.toList)

def translateOIDCError (message : String) : VerifyError :=
  if containsAny message ["expired", "token is expired", "exp not satisfied"] then .expired
  else if containsAny message
      ["before issued at", "iat", "not yet valid", "used before issued"] then .notYetValid
  else if containsAny message ["expected audience", "aud"] then .typeMismatch
  else if containsAny message ["issuer did not match", "iss"] then .typeMismatch
  else if containsAny message ["failed to verify signature", "signature"] then .invalidSignature
  else if containsAny message ["unsupported", "alg"] then .unsupportedAlg
  else .malformedToken

namespace OIDCVerifier

def subjectOf (oidc : OIDCVerifier) (idToken : IDToken) (raw : String → Value) : String :=
  let configured := ((raw oidc.cfg.subjectClaim).asString).getD ""
  if configured = "" then idToken.subject else configured

def groupsOf (oidc : OIDCVerifier) (raw : String → Value) : List String :=
  extractStringList (raw oidc.cfg.scopesClaim)

def verify (oidc : OIDCVerifier) (now : Int) (token : Text) : Except VerifyError Claims := do
  let idToken ← (oidc.verifier now token).mapError translateOIDCError
  let raw ← required .malformedToken idToken.claims
  let sub := oidc.subjectOf idToken raw
  ensure (sub ≠ "") .malformedToken
  return {
    sub := sub, typ := .mgmt, iat := unix idToken.issuedAt, exp := unix idToken.expiry
    scopes := mapGrants oidc.cfg.grants (oidc.groupsOf raw) }

def Ungranted (oidc : OIDCVerifier) (now : Int) (token : Text) : Prop :=
  token ≠ [] ∧ ∃ idToken raw, oidc.verifier now token = .ok idToken ∧ idToken.claims = some raw ∧
    oidc.subjectOf idToken raw ≠ "" ∧ Unmatched oidc.cfg.grants (oidc.groupsOf raw)

theorem Ungranted.verified {oidc : OIDCVerifier} {now : Int} {token : Text}
    (ungranted : oidc.Ungranted now token) :
    ∃ claims, oidc.verify now token = .ok claims ∧ claims.typ = .mgmt ∧ claims.scopes = [] := by
  rcases ungranted with ⟨_, idToken, raw, verified, decoded, named, unmatched⟩
  have empty := mapGrants_unmatched unmatched
  simp [verify, verified, decoded, named, empty, required, ensure, Except.mapError, bind,
    Except.bind, pure, Except.pure]

end OIDCVerifier

def compositeVerify (jwt : Jwt) (oidc : Option OIDCVerifier) (moment : VerifierState)
    (token : Text) (expected : Option TokenType) : Except VerifyError Claims :=
  match moment.verify jwt token expected with
  | .ok claims => .ok claims
  | .error error =>
    match oidc with
    | none => .error error
    | some oidc =>
      if expected ≠ none ∧ expected ≠ some .mgmt then .error error
      else
        match oidc.verify moment.now token with
        | .ok claims => .ok claims
        | .error _ => .error error

theorem compositeVerify_mgmt_isOk (jwt : Jwt) {oidc : OIDCVerifier} {moment : VerifierState}
    {token : Text} {claims : Claims} (verified : oidc.verify moment.now token = .ok claims) :
    ∃ accepted, compositeVerify jwt (some oidc) moment token (some .mgmt) = .ok accepted := by
  unfold compositeVerify
  split
  · exact ⟨_, rfl⟩
  · simp [verified]

end Parsec.Auth
