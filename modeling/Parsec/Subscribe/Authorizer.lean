import Parsec.Auth.Rotation
import Parsec.RateLimit.Limiter

/-! # The subscribe authorizer

Who may subscribe: the token check of the auth package, wrapped by the closure that
`parsec.New` installs, which also asks for open channels and for revocations. -/

namespace Parsec.Subscribe

open Foundation Channels Auth

structure Revocations where
  isRevoked : String → Except String Bool
  isUserRevoked : String → Int → Except String Bool

/-- A node at the time of a subscribe attempt. The closure verifies the token a second time
before it asks for revocations. -/
structure Site where
  isOpen : Name → Bool
  gate : String → Name → Except CodedError Unit := fun _ _ => .ok ()
  verifier : VerifierState
  again : VerifierState
  revocations : Option Revocations := none

section

variable (jwt : Jwt)

def tokenAuth (site : Site) (userID : String) (ch : Name) (token : Text) :
    Except CodedError Unit := do
  site.gate userID ch
  if ch.isPrivate then
    ensure (token ≠ []) (denied "private channel subscribe requires an access token")
    let claims ← (site.verifier.verify jwt token (some .access)).mapError mapErr
    ensure (claims.authorizes ch.text .subscribe) (denied "token does not authorize this channel")
  else .ok ()

def checkRevoked (store : Revocations) (claims : Claims) : Except CodedError Unit :=
  if claims.jti = "" then .ok ()
  else do
    let revoked ← (store.isRevoked claims.jti).mapError (wrapped .internal "revocation check error")
    ensure (revoked = false) (denied "token has been revoked")

def checkUserRevoked (store : Revocations) (claims : Claims) : Except CodedError Unit :=
  if claims.sub = "" then .ok ()
  else do
    let revoked ← (store.isUserRevoked claims.sub claims.issuedAt).mapError
      (wrapped .internal "revocation check error")
    ensure (revoked = false) (denied "user tokens have been revoked")

def revocationAuth (site : Site) (ch : Name) (token : Text) : Except CodedError Unit :=
  match site.revocations with
  | none => .ok ()
  | some store =>
    if ch.isPrivate = false ∨ token = [] then .ok ()
    else do
      let claims ← (site.again.verify jwt token (some .access)).mapError mapErr
      checkRevoked store claims
      checkUserRevoked store claims

def subscribeAuthorizer (site : Site) (userID : String) (ch : Name) (token : Text) :
    Except CodedError Unit := do
  ensure (site.isOpen ch = true) { code := .channelClosed, message := "channel not open" }
  tokenAuth jwt site userID ch token
  revocationAuth jwt site ch token

end

variable {userID : String} {jwt : Jwt} {site : Site} {ch : Name} {token : Text}

inductive Surface
  | websocket
  | httpStream
  | webTransport
  | sse
  deriving DecidableEq

structure Publication where
  offset : Nat
  data : String
  deriving DecidableEq

structure Emitted where
  channel : Name
  publication : Publication
  deriving DecidableEq

/-- A request for a channel. `token` is whatever token it carries; `streaming` says whether
the connection can be flushed. -/
structure ReadRequest where
  surface : Surface
  channel : String
  token : Text
  userID : String := ""
  streaming : Bool := true

/-- What the broker has for the requested channel: at each tick of the probe the publications it
retains, unless the call fails, and what a subscription delivers. -/
structure Feed where
  ticks : List (Option (List Publication))
  delivered : List Publication

structure HistoryFilter where
  limit : Int := 0

/-- `Node.History`: the retained publications that the filter asks for. -/
def history (retained : List Publication) (filter : HistoryFilter) : List Publication :=
  if filter.limit < 0 then retained else retained.take filter.limit.toNat

def poll (last : Nat) : List Publication → List Publication × Nat
  | [] => ([], last)
  | publication :: rest =>
    if publication.offset ≤ last then poll last rest
    else
      let (emitted, final) := poll publication.offset rest
      (publication :: emitted, final)

def pollAll (last : Nat) : List (Option (List Publication)) → List Publication
  | [] => []
  | none :: rest => pollAll last rest
  | some retained :: rest =>
    let (emitted, final) := poll last (history retained {})
    emitted ++ pollAll final rest

def sseServe (request : ReadRequest) (feed : Feed) : Except (Nat × String) (List Emitted) := do
  ensure (request.channel ≠ "") (400, "channel query param required")
  let parsed ← (parseName request.channel).mapError fun error => (400, error.text)
  ensure (request.streaming = true) (500, "streaming unsupported")
  return (pollAll 0 feed.ticks).map (Emitted.mk parsed)

def onSubscribe (jwt : Jwt) (site : Site) (request : ReadRequest) (feed : Feed) :
    Except CodedError (List Emitted) := do
  let name ← parseName request.channel
  subscribeAuthorizer jwt site request.userID name request.token
  return feed.delivered.map (Emitted.mk name)

def serve (jwt : Jwt) (site : Site) (request : ReadRequest) (feed : Feed) : List Emitted :=
  match request.surface with
  | .sse => (sseServe request feed).toOption.getD []
  | .websocket | .httpStream | .webTransport =>
    (onSubscribe jwt site request feed).toOption.getD []

section

variable {jwt : Jwt} {site : Site} {request : ReadRequest} {feed : Feed} {emitted : Emitted}

end

open RateLimit

/-- `SubscribeRateGate`, with the state of the limiter behind it. -/
abbrev RateGate (State : Type) := Charge → String → Name → State → Except CodedError Unit × State

def limiterVerdict : Except String Decision → Except CodedError Unit
  | .error error => .error (wrapped .internal "rate limiter error" error)
  | .ok decision =>
    if decision.allowed then .ok ()
    else .error { code := .rateLimited, message := "subscribe rate limit exceeded" }

def buildSubscribeGate {State : Type} (limiter : Option (Limiter State)) (limits : RateLimits) :
    Option (RateGate State) :=
  match limiter with
  | none => none
  | some limiter =>
    if limits.subscribe.unlimited && limits.perChannelSubscribe.isEmpty then none
    else some fun charge userID ch state =>
      if userID = "" then (.ok (), state)
      else
        let (effective, rule) := limits.matchSubscribe ch
        if effective.unlimited then (.ok (), state)
        else
          let key := channelKey .subscribe rule userID
          let (answer, state) :=
            match limiter.allowWithLimit with
            | some allowWithLimit => allowWithLimit charge key 1 effective state
            | none => limiter.allow charge key 1 state
          (limiterVerdict answer, state)

/-- What `parsec.New` is given: limits, perhaps a limiter, and otherwise the one it builds. -/
structure Wiring (State : Type) where
  rateLimits : RateLimits
  custom : Option (Limiter State) := none
  builtIn : Limit → Limiter State

namespace Wiring

variable {State : Type} (wiring : Wiring State)

def limits : RateLimits := wiring.rateLimits.normalize

def limiter : Option (Limiter State) :=
  match wiring.custom with
  | some limiter => some limiter
  | none =>
    if wiring.limits.isEmpty then none
    else some (wiring.builtIn wiring.limits.widestLimit)

def gate : Option (RateGate State) := buildSubscribeGate wiring.limiter wiring.limits

end Wiring

def onConnecting : String := ""

structure Attempt where
  channel : String
  token : Text
  site : Site
  charge : Charge

def askGate {State : Type} (gate : Option (RateGate State)) (userID : String) (name : Name)
    (attempt : Attempt) (state : State) : Except CodedError Unit × State :=
  match gate with
  | none => (.ok (), state)
  | some gate =>
    if attempt.site.isOpen name then gate attempt.charge userID name state else (.ok (), state)

def attemptSubscribe {State : Type} (jwt : Jwt) (gate : Option (RateGate State))
    (userID : String) (attempt : Attempt) (state : State) : Except CodedError Unit × State :=
  match parseName attempt.channel with
  | .error error => (.error error, state)
  | .ok name =>
    let (verdict, state) := askGate gate userID name attempt state
    (subscribeAuthorizer jwt { attempt.site with gate := fun _ _ => verdict } userID name
      attempt.token, state)

def attemptAll {State : Type} (jwt : Jwt) (wiring : Wiring State) :
    State → List Attempt → List (Attempt × Except CodedError Unit)
  | _, [] => []
  | state, attempt :: rest =>
    let (answer, after) := attemptSubscribe jwt wiring.gate onConnecting attempt state
    (attempt, answer) :: attemptAll jwt wiring after rest

structure Budget where
  limit : Limit
  rule : String
  subject : String
  start : Int

def Budget.covers (budget : Budget) (jwt : Jwt) (limits : RateLimits) (attempt : Attempt) : Bool :=
  match parseName attempt.channel,
    attempt.site.verifier.verify jwt attempt.token (some .access) with
  | .ok name, .ok claims =>
    limits.matchSubscribe name = (budget.limit, budget.rule) && claims.sub = budget.subject &&
      budget.start ≤ attempt.charge.now &&
      attempt.charge.now ≤ budget.start + budget.limit.normalize.per
  | _, _ => false

def Budget.accepted {State : Type} (budget : Budget) (jwt : Jwt) (wiring : Wiring State)
    (state : State) (attempts : List Attempt) : List (Attempt × Except CodedError Unit) :=
  (attemptAll jwt wiring state attempts).filter fun outcome =>
    budget.covers jwt wiring.limits outcome.1 && outcome.2.isOk

/-- The attempt passes every check but the gate: the channel is open, and on a private
channel the token verifies, allows the channel and is not revoked. -/
def Attempt.passes (attempt : Attempt) (jwt : Jwt) : Bool :=
  match parseName attempt.channel with
  | .error _ => false
  | .ok name =>
    (subscribeAuthorizer jwt { attempt.site with gate := fun _ _ => .ok () } onConnecting name
      attempt.token).isOk

section

variable {State : Type}

theorem buildSubscribeGate_anonymous {limiter : Option (Limiter State)} {limits : RateLimits}
    {gate : RateGate State} (built : buildSubscribeGate limiter limits = some gate)
    (charge : Charge) (ch : Name) (state : State) : gate charge "" ch state = (.ok (), state) := by
  cases limiter with
  | none => cases built
  | some limiter =>
    simp only [buildSubscribeGate] at built
    split at built
    · cases built
    · cases built
      rfl

theorem askGate_anonymous (wiring : Wiring State) (name : Name) (attempt : Attempt)
    (state : State) : askGate wiring.gate onConnecting name attempt state = (.ok (), state) := by
  cases built : wiring.gate with
  | none => rfl
  | some gate =>
    simp only [askGate]
    split
    · exact buildSubscribeGate_anonymous built attempt.charge name state
    · rfl

private theorem attemptSubscribe_anonymous (jwt : Jwt) (wiring : Wiring State) (attempt : Attempt)
    (state : State) :
    (attemptSubscribe jwt wiring.gate onConnecting attempt state).1.isOk = attempt.passes jwt ∧
      (attemptSubscribe jwt wiring.gate onConnecting attempt state).2 = state := by
  unfold attemptSubscribe Attempt.passes
  cases parseName attempt.channel with
  | error error => exact ⟨rfl, rfl⟩
  | ok name =>
    simp only [askGate_anonymous, and_self]

theorem attemptAll_accepted (jwt : Jwt) (budget : Budget) (wiring : Wiring State)
    (state : State) (attempts : List Attempt) :
    (budget.accepted jwt wiring state attempts).map Prod.fst =
      attempts.filter fun attempt =>
        budget.covers jwt wiring.limits attempt && attempt.passes jwt := by
  induction attempts with
  | nil => rfl
  | cons attempt rest induction =>
    rcases attemptSubscribe_anonymous jwt wiring attempt state with ⟨answered, untouched⟩
    simp only [Budget.accepted, attemptAll, List.filter_cons, answered, untouched] at induction ⊢
    split
    · rw [List.map_cons, induction]
    · exact induction

end

/-- A budget is kept exactly when the attempts that pass the other checks keep it by
themselves. -/
theorem subscribe_budget_kept_iff {State : Type} (jwt : Jwt) (wiring : Wiring State)
    (state : State) (attempts : List Attempt) (budget : Budget) :
    (budget.accepted jwt wiring state attempts).length ≤ ceiling budget.limit ↔
      ((attempts.filter fun attempt =>
        budget.covers jwt wiring.limits attempt && attempt.passes jwt).length : Int) ≤
          ceiling budget.limit := by
  rw [← attemptAll_accepted jwt budget wiring state attempts, List.length_map]

/-! One subscribe a minute, and a client that subscribes twice in a second. -/

def onceAMinute : Wiring Buckets where
  rateLimits := { subscribe := { rate := 1, per := minute } }
  builtIn := MemoryLimiter.limiter

def hastyAttempt (seconds : Int) : Attempt :=
  let now := ofUnix 1735300000 + seconds * second
  let verifier : VerifierState :=
    { ring := (KeyRing.empty.add "first" (List.replicate 32 1) 0).2, now := now }
  { channel := "private:shop.orders.o1"
    token := handoverSample.token handoverHeader
    site := { isOpen := fun _ => true, verifier := verifier, again := verifier }
    charge := { now := now } }

def hastyBudget : Budget where
  limit := { rate := 1, per := minute, burst := 1 }
  rule := ""
  subject := "u1"
  start := ofUnix 1735300000

theorem subscribe_budget_exceeded :
    hastyBudget.limit.unlimited = false ∧
      onceAMinute.limits.subscribe = hastyBudget.limit ∧
      ceiling hastyBudget.limit = 1 ∧
      (hastyBudget.accepted handoverJwt onceAMinute (fun _ => [])
        [hastyAttempt 1, hastyAttempt 2]).length = 2 := by
  decide +kernel

end Parsec.Subscribe
