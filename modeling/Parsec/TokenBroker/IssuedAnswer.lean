import Parsec.Revocation.TokenBroker

/-! # What the broker says about its token

A token for several channels is issued in two steps with a clock reading each: a pair for the
first channel, and then an access token for all of them. -/

namespace Parsec.TokenBroker

open Foundation Channels Auth Revocation

inductive TokenRequest
  | issue (bearer : String) (request : IssueRequest)
  | delegate (bearer : String) (request : DelegateRequest)

namespace TokenRequest

def issueRequest : TokenRequest → IssueRequest
  | .issue _ request => request
  | .delegate _ request =>
    { channels := request.channels, ttl := durationOfSeconds request.lifetimeSeconds }

def answer (broker : Broker) (jwt : Jwt) (met : Circumstances) :
    TokenRequest → Except String IssueResponse
  | .issue bearer request => broker.issue jwt met bearer request
  | .delegate bearer request => broker.delegate jwt met bearer request

def lifetime (broker : Broker) (request : TokenRequest) : Int :=
  let ttl := if request.issueRequest.ttl = 0 then broker.defaultTTL else request.issueRequest.ttl
  if ttl = 0 then hour else ttl

end TokenRequest

section

variable {issuer : Issuer} {jwt : Jwt} {ring : KeyRing} {now refreshExp : Int} {sub : String}
  {chs : List String} {draw : IdDraw}

end

section

variable {broker : Broker} {jwt : Jwt} {met : Circumstances} {uid : String}

/-- The token was signed for the user over these channels, until `expires`. -/
def SignedFor (jwt : Jwt) (uid : String) (chs : List String) (expires : Int) (token : Text) :
    Prop :=
  ∃ ring now jti, jwt.sign ring (pairClaims .access uid chs now expires [] jti) = .ok token

variable {channel : String} {pair : PairResult} {ttl : Int}

end

end Parsec.TokenBroker
