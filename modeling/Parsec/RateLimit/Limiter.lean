import Parsec.Auth.Claims

/-! # Rate limits

Budgets over a rolling window, the rules that choose one for a channel, and the limiter of a
single node, which keeps the times of the admitted events of every key. -/

namespace Parsec.RateLimit

open Foundation Channels Auth

def ceiling (limit : Limit) : Int :=
  if limit.normalize.burst < limit.normalize.rate then limit.normalize.rate
  else limit.normalize.burst

structure ChannelRule where
  pattern : Pattern
  raw : String
  limit : Limit

def ChannelRule.normalize (rule : ChannelRule) : ChannelRule :=
  { rule with limit := rule.limit.normalize }

inductive Bucket
  | publish
  | subscribe
  | tokenIssue
  deriving DecidableEq

def Bucket.text : Bucket → String
  | .publish => "publish"
  | .subscribe => "subscribe"
  | .tokenIssue => "token-issue"

def channelKey (bucket : Bucket) (rule subject : String) : String :=
  (if rule = "" then bucket.text else bucket.text ++ "-channel:" ++ rule) ++ ":" ++ subject

/-- The rules of each bucket stand most specific first. -/
structure RateLimits where
  publish : Limit := {}
  subscribe : Limit := {}
  tokenIssue : Limit := {}
  perChannelPublish : List ChannelRule := []
  perChannelSubscribe : List ChannelRule := []

namespace RateLimits

def normalize (limits : RateLimits) : RateLimits where
  publish := limits.publish.normalize
  subscribe := limits.subscribe.normalize
  tokenIssue := limits.tokenIssue.normalize
  perChannelPublish := limits.perChannelPublish.map ChannelRule.normalize
  perChannelSubscribe := limits.perChannelSubscribe.map ChannelRule.normalize

def isEmpty (limits : RateLimits) : Bool :=
  limits.publish.unlimited && limits.subscribe.unlimited && limits.tokenIssue.unlimited &&
    limits.perChannelPublish.all (·.limit.unlimited) &&
    limits.perChannelSubscribe.all (·.limit.unlimited)

def matchSubscribe (limits : RateLimits) (channel : Name) : Limit × String :=
  match limits.perChannelSubscribe.find? (·.pattern.matches channel) with
  | some rule => (rule.limit, rule.raw)
  | none => (limits.subscribe, "")

def candidates (limits : RateLimits) : List Limit :=
  [limits.publish, limits.subscribe, limits.tokenIssue] ++
    limits.perChannelPublish.map (·.limit) ++ limits.perChannelSubscribe.map (·.limit)

def widestLimit (limits : RateLimits) : Limit :=
  limits.candidates.foldl (fun best candidate =>
    let limit := candidate.normalize
    if limit.rate = 0 then best
    else if best.burst < limit.burst ∨ best.rate = 0 then limit
    else best) {}

end RateLimits

structure Decision where
  allowed : Bool
  remaining : Int
  reset : Int
  deriving DecidableEq

def Decision.unlimited : Decision := { allowed := true, remaining := -1, reset := 0 }

structure Charge where
  now : Int
  cancelled : Option String := none

structure Limiter (State : Type) where
  allow : Charge → String → Int → State → Except String Decision × State
  allowWithLimit : Option (Charge → String → Int → Limit → State → Except String Decision × State)

abbrev Buckets := String → List Int

namespace MemoryLimiter

def resetAfter (events : List Int) (per now : Int) : Int :=
  match events with
  | [] => 0
  | oldest :: _ => max (oldest + per - now) 0

def allowWithLimit (charge : Charge) (key : String) (n : Int) (limit : Limit)
    (buckets : Buckets) : Except String Decision × Buckets :=
  match charge.cancelled with
  | some error => (.error error, buckets)
  | none =>
    let per := limit.normalize.per
    if limit.normalize.unlimited then (.ok .unlimited, buckets)
    else
      let n := if n ≤ 0 then 1 else n
      let kept := (buckets key).dropWhile (· < charge.now - per)
      if ceiling limit < kept.length + n then
        (.ok { allowed := false, remaining := 0, reset := resetAfter kept per charge.now },
          Function.update buckets key kept)
      else
        let events := kept ++ List.replicate n.toNat charge.now
        (.ok { allowed := true, remaining := max (ceiling limit - events.length) 0,
               reset := resetAfter events per charge.now },
          Function.update buckets key events)

def limiter (limit : Limit) : Limiter Buckets where
  allow := fun charge key n => allowWithLimit charge key n limit.normalize
  allowWithLimit := some allowWithLimit

end MemoryLimiter

end Parsec.RateLimit
