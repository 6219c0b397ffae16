import Parsec.Foundation.Clock
import Parsec.Channels.Name

/-! # Token claims

The payload of a token and the question it answers: may its holder use a verb on a
channel. -/

namespace Parsec.Auth

open Foundation Channels

/-- The `typ` claim. A decoded payload may carry any text. -/
inductive TokenType
  | access
  | refresh
  | mgmt
  | other (text : String)
  deriving DecidableEq

def TokenType.isValid : TokenType → Bool
  | .access | .refresh | .mgmt => true
  | .other _ => false

inductive Verb
  | subscribe
  | publish
  | manage
  | other (text : String)
  deriving DecidableEq

def Verb.isValid : Verb → Bool
  | .subscribe | .publish | .manage => true
  | .other _ => false

def Verb.text : Verb → String
  | .subscribe => "subscribe"
  | .publish => "publish"
  | .manage => "manage"
  | .other text => text

structure Scope where
  pattern : String
  verbs : List Verb
  deny : Bool := false
  deriving DecidableEq

def Scope.matchesVerb (scope : Scope) (name : Name) (verb : Verb) : Bool :=
  match parsePattern scope.pattern with
  | .error _ => false
  | .ok pattern => pattern.matches name && scope.verbs.contains verb

/-- A budget of `rate` events in every window of length `per`. -/
structure Limit where
  rate : Int := 0
  per : Int := 0
  burst : Int := 0
  deriving DecidableEq

/-- `Normalize`: nothing is negative, the window defaults to a second, and the peak is at
least the rate. -/
def Limit.normalize (limit : Limit) : Limit :=
  let rate := if limit.rate < 0 then 0 else limit.rate
  let burst := if limit.burst < 0 then 0 else limit.burst
  let per := if limit.per < 0 then 0 else limit.per
  { rate := rate
    per := if 0 < rate ∧ per = 0 then second else per
    burst :=
      let burst := if burst = 0 then rate else burst
      if burst < rate then rate else burst }

def Limit.unlimited (limit : Limit) : Bool := limit.normalize.rate = 0

structure Claims where
  sub : String := ""
  typ : TokenType
  chs : List String := []
  iat : Int
  exp : Int
  rateLimitOverride : Option Limit := none
  scopes : List Scope := []
  jti : String := ""
  fid : String := ""
  deriving DecidableEq

namespace Claims

def issuedAt (claims : Claims) : Int := ofUnix claims.iat

def expiresAt (claims : Claims) : Int := ofUnix claims.exp

def authorizes (claims : Claims) (channel : String) (verb : Verb) : Bool :=
  let name := if claims.scopes = [] then none else (parseName channel).toOption
  let matching (deny : Bool) : Bool :=
    match name with
    | none => false
    | some name =>
      claims.scopes.any fun scope => scope.deny = deny && scope.matchesVerb name verb
  if matching true then false
  else claims.chs.contains channel || matching false

end Claims

structure Authority where
  sub : String
  chs : List String
  scopes : List Scope
  rateLimitOverride : Option Limit
  deriving DecidableEq

def Claims.authority (claims : Claims) : Authority where
  sub := claims.sub
  chs := claims.chs
  scopes := claims.scopes
  rateLimitOverride := claims.rateLimitOverride

namespace Authority

def withoutOverride (authority : Authority) : Authority :=
  { authority with rateLimitOverride := none }

@[simp] theorem withoutOverride_withoutOverride (authority : Authority) :
    authority.withoutOverride.withoutOverride = authority.withoutOverride := rfl

theorem withoutOverride_eq_self_iff {authority : Authority} :
    authority.withoutOverride = authority ↔ authority.rateLimitOverride = none := by
  cases authority with
  | mk sub chs scopes rateLimitOverride =>
    simp [withoutOverride, eq_comm]

end Authority

inductive VerifyError
  | malformedToken
  | invalidSignature
  | unsupportedAlg
  | expired
  | notYetValid
  | typeMismatch
  | channelMismatch
  | other (text : String)
  deriving DecidableEq

def VerifyError.text : VerifyError → String
  | malformedToken => "auth: malformed token"
  | invalidSignature => "auth: signature does not verify"
  | unsupportedAlg => "auth: unsupported algorithm"
  | expired => "auth: token expired"
  | notYetValid => "auth: token not yet valid"
  | typeMismatch => "auth: token type mismatch"
  | channelMismatch => "auth: token does not authorize this channel"
  | other text => text

def mapErr (error : VerifyError) : CodedError :=
  match error with
  | .expired =>
    { code := .authExpired, message := "token expired", cause := some error.text }
  | .typeMismatch | .channelMismatch =>
    { code := .authDenied, message := "token not authorized", cause := some error.text }
  | _ =>
    { code := .authDenied, message := "token verification failed", cause := some error.text }

end Parsec.Auth
