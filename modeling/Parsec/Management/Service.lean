import Parsec.Foundation.Float64
import Parsec.Foundation.Operation
import Parsec.Refresh.Access
import Parsec.Auth.OIDC
import Parsec.RateLimit.Limiter

/-! # The management service

The remote procedures of an instance: the service functions behind them and the adapter that
turns their results into replies. What they call on the instance is a parameter. -/

namespace Parsec.Management

open Foundation Channels Auth Refresh Operation
open RateLimit (Bucket)

inductive Call
  | manifest
  | openPublic (name : String) (ttlSeconds : Int)
  | createPrivate (name : String) (ttlSeconds : Int) (subject : String) (scopes : List Scope)
  | listChannels
  | getChannel (name : String)
  | deleteChannel (name : String)
  | publish (name : String) (data : Bytes)
  | presence (name : String)
  | refreshToken (token : Text)
  | issueMgmt (subject : String) (ttlSeconds : Int)
  | listKeys
  | generateKey (alg : Alg)
  | promoteKey (id : String)
  | retireKey (id : String)
  | reloadKeys
  | dlqList (sink : String) (limit : Int)
  | dlqCount (sink : String)
  | dlqDiscard (id : String)
  | dlqReplay (id : String)
  | revokeToken (tokenID userID reason : String)
  | revokeUser (userID reason : String)

def Call.method : Call → String
  | manifest => "Manifest"
  | openPublic _ _ => "OpenPublic"
  | createPrivate _ _ _ _ => "CreatePrivate"
  | listChannels => "ListChannels"
  | getChannel _ => "GetChannel"
  | deleteChannel _ => "DeleteChannel"
  | publish _ _ => "Publish"
  | presence _ => "Presence"
  | refreshToken _ => "RefreshToken"
  | issueMgmt _ _ => "IssueMgmt"
  | listKeys => "ListKeys"
  | generateKey _ => "GenerateKey"
  | promoteKey _ => "PromoteKey"
  | retireKey _ => "RetireKey"
  | reloadKeys => "ReloadKeys"
  | dlqList _ _ => "DlqList"
  | dlqCount _ => "DlqCount"
  | dlqDiscard _ => "DlqDiscard"
  | dlqReplay _ => "DlqReplay"
  | revokeToken _ _ _ => "RevokeToken"
  | revokeUser _ _ => "RevokeUser"

structure Credentials where
  name : Name
  accessToken : Text
  refreshToken : Text
  accessExpires : Int
  refreshExpires : Int
  deriving DecidableEq

structure PublishAck where
  offset : Nat
  epoch : String
  deriving DecidableEq

structure ChannelSummary where
  name : String
  state : State
  ttlSeconds : Int
  createdAt : Int
  lastActive : Int
  deriving DecidableEq

structure KeySummary where
  id : String
  alg : String
  role : Role
  createdAt : Int
  retiredAt : Option Int
  deriving DecidableEq

structure MgmtTokenResult where
  token : Text
  expires : Int
  signedByKeyID : String
  deriving DecidableEq

structure DLQItem where
  id : String
  sink : String
  at_ : Int
  recipient : Option Text
  subject : String
  body : String
  metadata : List (String × String)
  attempts : Int
  lastError : String
  deriving DecidableEq

inductive Reply
  | empty
  | manifest (payload : Text)
  | channel (summary : ChannelSummary)
  | credentials (name : String) (accessToken refreshToken : Text)
      (accessExpiresUnix refreshExpiresUnix : Int)
  | channels (summaries : List ChannelSummary)
  | published (ack : PublishAck)
  | presence (subscribers : Int)
  | refreshed (accessToken : Text) (accessExpiresUnix : Int) (rotated : Bool)
      (refreshToken : Text) (refreshExpiresUnix : Int)
  | mgmt (token : Text) (expiresUnix : Int) (signedByKeyID : String)
  | keys (active : String) (summaries : List KeySummary)
  | key (summary : KeySummary)
  | dlqItems (items : List DLQItem)
  | dlqCount (count : Int)
  deriving DecidableEq

inductive Failure
  | coded (error : CodedError)
  | plain (text : String)
  deriving DecidableEq

inductive TwirpCode
  | invalidArgument
  | notFound
  | alreadyExists
  | failedPrecondition
  | permissionDenied
  | unauthenticated
  | unavailable
  | resourceExhausted
  | internal
  deriving DecidableEq

structure TwirpError where
  code : TwirpCode
  msg : String
  deriving DecidableEq

def toTwirpError : Failure → TwirpError
  | .plain text => { code := .internal, msg := text }
  | .coded error =>
    match error.code with
    | .channelInvalid | .invalidArgument | .channelTTLExceeds =>
      { code := .invalidArgument, msg := error.message }
    | .channelNotFound => { code := .notFound, msg := error.message }
    | .channelExists => { code := .alreadyExists, msg := error.message }
    | .channelClosed => { code := .failedPrecondition, msg := error.message }
    | .authDenied => { code := .permissionDenied, msg := error.message }
    | .authExpired => { code := .unauthenticated, msg := error.message }
    | .brokerNotReady | .sinkUnavailable | .sinkDLQOverflow =>
      { code := .unavailable, msg := error.message }
    | .sinkDLQNotFound => { code := .notFound, msg := error.message }
    | .rateLimited => { code := .resourceExhausted, msg := error.message }
    | .brokerInternal | .sinkConfig | .internal =>
      { code := .internal, msg := error.text }

structure Context where
  subject : String := ""
  claims : Option Claims := none
  remoteIP : String := ""

structure RevocationWriter (State : Type) where
  revoke : String → String → String → Operation Failure State Unit
  revokeAllForUser : String → Operation Failure State Unit

structure Instance (State : Type) where
  manifest : State → Text
  openPublic : String → Int → Operation Failure State Channel
  createPrivate : String → String → Int → List Scope → Operation Failure State Credentials
  refreshAccess : Text → Operation Failure State RefreshResult
  checkRateLimit : Bucket → String → Option Limit → Operation Failure State Bool
  checkPublishLimit : String → Name → Option Limit → Operation Failure State Bool
  listChannels : State → List Channel
  getChannel : Name → Operation Failure State Channel
  deleteChannel : Name → Operation Failure State Unit
  publish : String → Bytes → Operation Failure State PublishAck
  presence : Name → Operation Failure State Int
  activeKeyID : State → String
  listKeys : State → List Key
  generateKeyAlg : Alg → Operation Failure State Key
  promoteKey : String → Operation Failure State Unit
  retireKey : String → Operation Failure State Unit
  reloadKeys : Operation Failure State Unit
  issueMgmt : String → Int → Operation Failure State (Text × Int)
  dlqItems : String → Int → Operation Failure State (List DLQItem)
  dlqCount : String → Operation Failure State Int
  dlqDiscard : String → Operation Failure State Unit
  dlqReplay : String → Operation Failure State Unit
  revocations : Option (RevocationWriter State)

def Failure.text : Failure → String
  | .coded error => error.text
  | .plain text => text

def int32 (value : Int) : Int := value.bmod (2 ^ 32)

def channelToWire (channel : Channel) : ChannelSummary where
  name := channel.name.text
  state := channel.state
  ttlSeconds := wholeSeconds channel.ttl
  createdAt := channel.createdAt
  lastActive := channel.lastActive

def keyToSummary (key : Key) : KeySummary where
  id := key.id
  alg := key.alg.orDefault.text
  role := key.role
  createdAt := key.createdAt
  retiredAt := key.retiredAt

def credentialsToWire (credentials : Credentials) : Reply :=
  .credentials credentials.name.text credentials.accessToken credentials.refreshToken
    (unix credentials.accessExpires) (unix credentials.refreshExpires)

def refreshToWire (result : RefreshResult) : Reply :=
  .refreshed result.accessToken (unix result.accessExpires) result.rotated result.refreshToken
    (if result.refreshToken = [] then 0 else unix (result.refreshExpires.getD 0))

def mgmtToWire (result : MgmtTokenResult) : Reply :=
  .mgmt result.token (unix result.expires) result.signedByKeyID

def dlqItemToWire (item : DLQItem) : DLQItem := { item with attempts := int32 item.attempts }

/-! ## Service functions -/

section

variable {State : Type} (parsec : Instance State) (ctx : Context)

def publishKey : String := if ctx.subject = "" then ctx.remoteIP else ctx.subject

def overrideFromContext : Option Limit := ctx.claims.bind Claims.rateLimitOverride

def publishCheck (name : String) : Operation Failure State Bool :=
  match parseName name with
  | .error _ => parsec.checkRateLimit .publish (publishKey ctx) (overrideFromContext ctx)
  | .ok parsed => parsec.checkPublishLimit (publishKey ctx) parsed (overrideFromContext ctx)

def gate (key message : String) (check : Operation Failure State Bool) :
    Operation Failure State Unit :=
  if key = "" then pure ()
  else do
    let allowed ← check.mapError fun failure =>
      .coded (wrapped .internal "rate limiter error" failure.text)
    if allowed then pure ()
    else throw (.coded { code := .rateLimited, message := message })

def gatePublish (name : String) : Operation Failure State Unit :=
  gate (publishKey ctx) "publish rate limit exceeded" (publishCheck parsec ctx name)

def gateTokenIssue : Operation Failure State Unit :=
  gate ctx.remoteIP "token refresh rate limit exceeded"
    (parsec.checkRateLimit .tokenIssue ctx.remoteIP none)

def parsed (name : String) : Operation Failure State Name :=
  .ofExcept ((parseName name).mapError .coded)

def publish (name : String) (data : Bytes) : Operation Failure State PublishAck := do
  gatePublish parsec ctx name
  parsec.publish name data

def refreshAccess (token : Text) : Operation Failure State RefreshResult := do
  gateTokenIssue parsec ctx
  parsec.refreshAccess token

def getChannel (name : String) : Operation Failure State Channel := do
  let name ← parsed name
  parsec.getChannel name

def deleteChannel (name : String) : Operation Failure State Unit := do
  let name ← parsed name
  parsec.deleteChannel name

def presence (name : String) : Operation Failure State Int := do
  let name ← parsed name
  parsec.presence name

def issueMgmt (subject : String) (ttl : Int) : Operation Failure State MgmtTokenResult := do
  let (token, expires) ← parsec.issueMgmt subject ttl
  let active ← .read parsec.activeKeyID
  return { token := token, expires := expires, signedByKeyID := active }

def invalidArgument (message : String) : Failure :=
  .coded { code := .invalidArgument, message := message }

def revoking (identifier missing failed : String)
    (write : RevocationWriter State → Operation Failure State Unit) :
    Operation Failure State Unit :=
  if identifier = "" then throw (invalidArgument missing)
  else
    match parsec.revocations with
    | none => throw (invalidArgument "revocation store not configured")
    | some store => (write store).mapError fun failure =>
      .coded (wrapped .internal failed failure.text)

def revokeToken (tokenID userID reason : String) : Operation Failure State Unit :=
  revoking parsec tokenID "token_id required" "revoke failed" fun store =>
    store.revoke tokenID userID reason

def revokeUser (userID _reason : String) : Operation Failure State Unit :=
  revoking parsec userID "user_id required" "revoke-user failed" fun store =>
    store.revokeAllForUser userID

def handle : Call → Operation Failure State Reply
  | .manifest => .read fun state => .manifest (parsec.manifest state)
  | .openPublic name ttl =>
    (fun channel => .channel (channelToWire channel)) <$>
      parsec.openPublic name (durationOfSeconds ttl)
  | .createPrivate name ttl subject scopes =>
    credentialsToWire <$> parsec.createPrivate subject name (durationOfSeconds ttl) scopes
  | .listChannels => .read fun state =>
    .channels ((parsec.listChannels state).map channelToWire)
  | .getChannel name =>
    (fun channel => .channel (channelToWire channel)) <$> getChannel parsec name
  | .deleteChannel name => (fun _ => .empty) <$> deleteChannel parsec name
  | .publish name data => .published <$> publish parsec ctx name data
  | .presence name => (fun count => .presence (int32 count)) <$> presence parsec name
  | .refreshToken token => refreshToWire <$> refreshAccess parsec ctx token
  | .issueMgmt subject ttl =>
    mgmtToWire <$> issueMgmt parsec subject (durationOfSeconds ttl)
  | .listKeys => .read fun state =>
    .keys (parsec.activeKeyID state) ((parsec.listKeys state).map keyToSummary)
  | .generateKey alg => (fun key => .key (keyToSummary key)) <$> parsec.generateKeyAlg alg
  | .promoteKey id => (fun _ => .empty) <$> parsec.promoteKey id
  | .retireKey id => (fun _ => .empty) <$> parsec.retireKey id
  | .reloadKeys => (fun _ => .empty) <$> parsec.reloadKeys
  | .dlqList sink limit =>
    (fun items => .dlqItems (items.map dlqItemToWire)) <$> parsec.dlqItems sink limit
  | .dlqCount sink => (fun count => .dlqCount (int32 count)) <$> parsec.dlqCount sink
  | .dlqDiscard id => (fun _ => .empty) <$> parsec.dlqDiscard id
  | .dlqReplay id => (fun _ => .empty) <$> parsec.dlqReplay id
  | .revokeToken tokenID userID reason =>
    (fun _ => .empty) <$> revokeToken parsec tokenID userID reason
  | .revokeUser userID reason => (fun _ => .empty) <$> revokeUser parsec userID reason

def dispatch (call : Call) : Operation TwirpError State Reply :=
  (handle parsec ctx call).mapError toTwirpError

/-! ## When a call is refused -/

def Limited (key : String) (check : Operation Failure State Bool) (state : State) : Prop :=
  key ≠ "" ∧ (check.Refuses state ∨ ∃ after, check.Returns state false after)

def Charged (key : String) (check : Operation Failure State Bool) (state after : State) : Prop :=
  if key = "" then after = state else check.Returns state true after

def Misnamed {Value : Type} (name : String) (next : Name → Operation Failure State Value)
    (state : State) : Prop :=
  match parseName name with
  | .error _ => True
  | .ok parsed => (next parsed).Refuses state

def Unrevocable (identifier : String)
    (write : RevocationWriter State → Operation Failure State Unit) (state : State) : Prop :=
  identifier = "" ∨
    match parsec.revocations with
    | none => True
    | some store => (write store).Refuses state

def RefusedBelow (state : State) : Call → Prop
  | .manifest | .listChannels | .listKeys => False
  | .openPublic name ttl => (parsec.openPublic name (durationOfSeconds ttl)).Refuses state
  | .createPrivate name ttl subject scopes =>
    (parsec.createPrivate subject name (durationOfSeconds ttl) scopes).Refuses state
  | .getChannel name => Misnamed name parsec.getChannel state
  | .deleteChannel name => Misnamed name parsec.deleteChannel state
  | .publish name data =>
    Limited (publishKey ctx) (publishCheck parsec ctx name) state ∨
      ∃ after, Charged (publishKey ctx) (publishCheck parsec ctx name) state after ∧
        (parsec.publish name data).Refuses after
  | .presence name => Misnamed name parsec.presence state
  | .refreshToken token =>
    Limited ctx.remoteIP (parsec.checkRateLimit .tokenIssue ctx.remoteIP none) state ∨
      ∃ after, Charged ctx.remoteIP (parsec.checkRateLimit .tokenIssue ctx.remoteIP none)
          state after ∧
        (parsec.refreshAccess token).Refuses after
  | .issueMgmt subject ttl => (parsec.issueMgmt subject (durationOfSeconds ttl)).Refuses state
  | .generateKey alg => (parsec.generateKeyAlg alg).Refuses state
  | .promoteKey id => (parsec.promoteKey id).Refuses state
  | .retireKey id => (parsec.retireKey id).Refuses state
  | .reloadKeys => parsec.reloadKeys.Refuses state
  | .dlqList sink limit => (parsec.dlqItems sink limit).Refuses state
  | .dlqCount sink => (parsec.dlqCount sink).Refuses state
  | .dlqDiscard id => (parsec.dlqDiscard id).Refuses state
  | .dlqReplay id => (parsec.dlqReplay id).Refuses state
  | .revokeToken tokenID userID reason =>
    Unrevocable parsec tokenID (fun store => store.revoke tokenID userID reason) state
  | .revokeUser userID _ =>
    Unrevocable parsec userID (fun store => store.revokeAllForUser userID) state

variable {parsec ctx} {state : State} {key message : String} {check : Operation Failure State Bool}

theorem gate_refuses_iff : (gate key message check).Refuses state ↔ Limited key check state := by
  unfold gate Limited
  by_cases nobody : key = ""
  · simp [nobody]
  · simp only [nobody, if_false, ne_eq, not_false_eq_true, true_and, refuses_bind,
      refuses_mapError, returns_mapError]
    refine or_congr_right ?_
    constructor
    · rintro ⟨allowed, after, returned, refused⟩
      cases allowed with
      | true => simp at refused
      | false => exact ⟨after, returned⟩
    · rintro ⟨after, returned⟩
      exact ⟨false, after, returned, by simp⟩

theorem gate_returns_iff {after : State} :
    (gate key message check).Returns state () after ↔ Charged key check state after := by
  unfold gate Charged
  by_cases nobody : key = ""
  · simp [nobody]
  · simp only [nobody, if_false, returns_bind, returns_mapError]
    constructor
    · rintro ⟨allowed, between, checked, returned⟩
      cases allowed with
      | true =>
        obtain ⟨_, rfl⟩ := returns_pure.mp returned
        exact checked
      | false => simp at returned
    · intro checked
      exact ⟨true, after, checked, by simp⟩

variable {Value : Type}

private theorem gated_refuses_iff {next : Operation Failure State Value} :
    (gate key message check >>= fun _ => next).Refuses state ↔
      Limited key check state ∨ ∃ after, Charged key check state after ∧ next.Refuses after := by
  rw [refuses_bind, gate_refuses_iff]
  refine or_congr_right ?_
  constructor
  · rintro ⟨_, after, charged, refused⟩
    exact ⟨after, gate_returns_iff.mp charged, refused⟩
  · rintro ⟨after, charged, refused⟩
    exact ⟨(), after, gate_returns_iff.mpr charged, refused⟩

theorem parsed_refuses_iff {name : String} {next : Name → Operation Failure State Value} :
    (parsed name >>= next).Refuses state ↔ Misnamed name next state := by
  unfold Misnamed parsed
  rw [refuses_bind]
  cases parseName name with
  | error error | ok parsed => simp [Except.mapError]

private theorem revoking_refuses_iff {identifier missing failed : String}
    {write : RevocationWriter State → Operation Failure State Unit} :
    (revoking parsec identifier missing failed write).Refuses state ↔
      Unrevocable parsec identifier write state := by
  unfold revoking Unrevocable
  by_cases unnamed : identifier = ""
  · simp [unnamed]
  · cases parsec.revocations with
    | none | some store => simp [unnamed]

theorem dispatch_refuses_iff (call : Call) :
    (dispatch parsec ctx call).Refuses state ↔ RefusedBelow parsec ctx state call := by
  unfold dispatch
  rw [refuses_mapError]
  cases call with
  | getChannel name | deleteChannel name | presence name =>
    rw [handle, refuses_map]
    exact parsed_refuses_iff
  | publish name data | refreshToken token =>
    rw [handle, refuses_map]
    exact gated_refuses_iff
  | revokeToken tokenID userID reason | revokeUser userID reason =>
    rw [handle, refuses_map]
    exact revoking_refuses_iff
  | issueMgmt subject ttl =>
    simp [handle, RefusedBelow, issueMgmt, refuses_bind]
  | _ => simp [handle, RefusedBelow]

end

/-! ## The bearer middleware

Every method outside a small public set asks for a management token. -/

/-! ## Requests over HTTP -/

structure Request where
  call : Call
  authorization : Text := []
  remoteIP : String := ""

def pathPrefix : String := "/twirp/parsec.ParsecService/"

def publicTwirpMethods : List String := [pathPrefix ++ "Manifest", pathPrefix ++ "RefreshToken"]

def Call.isPublic (call : Call) : Bool := publicTwirpMethods.contains (pathPrefix ++ call.method)

def isSpace (char : Char) : Bool :=
  [9, 10, 11, 12, 13, 32, 0x85, 0xA0, 0x1680, 0x2028, 0x2029, 0x202F, 0x205F, 0x3000].contains
      char.toNat ||
    (0x2000 ≤ char.toNat && char.toNat ≤ 0x200A)

def trimSpace (text : Text) : Text :=
  ((text.dropWhile isSpace).reverse.dropWhile isSpace).reverse

def bearerFromHeader (header : Text) : Text :=
  let scheme := "Bearer ".toList
  if scheme.isPrefixOf header then trimSpace (header.drop scheme.length) else []

def Request.bearer (request : Request) : Text := bearerFromHeader request.authorization

abbrev BearerValidator := Text → Except VerifyError Unit

abbrev SubjectExtractor := Text → String × Option Claims

def unauthenticated (message : String) : TwirpError :=
  { code := .unauthenticated, msg := message }

def stamp (extract : Option SubjectExtractor) (request : Request) : Context :=
  let ctx : Context := { remoteIP := request.remoteIP }
  match extract with
  | none => ctx
  | some extract =>
    let (sub, claims) := extract request.bearer
    if sub = "" then ctx else { ctx with subject := sub, claims := claims }

section

variable {State : Type}

def bearerMiddleware (next : Context → Call → Operation TwirpError State Reply)
    (validate : Option BearerValidator) (extract : Option SubjectExtractor)
    (request : Request) : Operation TwirpError State Reply :=
  match validate with
  | none => next { remoteIP := request.remoteIP } request.call
  | some validate =>
    if request.call.isPublic then next { remoteIP := request.remoteIP } request.call
    else if request.bearer = [] then throw (unauthenticated "missing bearer token")
    else
      match validate request.bearer with
      | .error error => throw (unauthenticated error.text)
      | .ok () => next (stamp extract request) request.call

/-- An instance with its verifiers. The token is verified twice, once to validate it and
once to find out its subject. -/
structure Server (State : Type) where
  parsec : Instance State
  jwt : Jwt
  oidc : Option OIDCVerifier
  validateAt : VerifierState
  extractAt : VerifierState

namespace Server

variable (server : Server State)

def mgmtValidator : BearerValidator := fun token =>
  (compositeVerify server.jwt server.oidc server.validateAt token (some .mgmt)).map fun _ => ()

def mgmtExtractor : SubjectExtractor := fun token =>
  match compositeVerify server.jwt server.oidc server.extractAt token (some .mgmt) with
  | .error _ => ("", none)
  | .ok claims => (claims.sub, some claims)

def context (request : Request) : Context := stamp (some server.mgmtExtractor) request

def serve (request : Request) : Operation TwirpError State Reply :=
  bearerMiddleware (dispatch server.parsec) (some server.mgmtValidator)
    (some server.mgmtExtractor) request

end Server

/-! ## Operators without grants -/

theorem Server.serve_eq_dispatch {server : Server State} {request : Request}
    (managed : request.call.isPublic = false) (carried : request.bearer ≠ [])
    (valid : server.mgmtValidator request.bearer = .ok ()) :
    server.serve request = dispatch server.parsec (server.context request) request.call := by
  simp [Server.serve, bearerMiddleware, managed, carried, valid, Server.context]

/-- A call of an operator whose groups have no grant is refused exactly if what lies below the
service refuses it. -/
theorem ungranted_operator_refused_iff (server : Server State) {oidc : OIDCVerifier}
    (wired : server.oidc = some oidc) {request : Request}
    (managed : request.call.isPublic = false)
    (ungranted : oidc.Ungranted server.validateAt.now request.bearer) (state : State) :
    (server.serve request).Refuses state ↔
      RefusedBelow server.parsec (server.context request) state request.call := by
  rcases ungranted.verified with ⟨claims, verified, _⟩
  have valid : server.mgmtValidator request.bearer = .ok () := by
    rcases compositeVerify_mgmt_isOk server.jwt verified with ⟨accepted, composite⟩
    simp [Server.mgmtValidator, wired, composite, Except.map]
  rw [server.serve_eq_dispatch managed ungranted.1 valid]
  exact dispatch_refuses_iff request.call

end

/-! A guest retires a signing key. Only administrators have a grant. -/

def keysOnly (now : Int) : Instance KeyRing where
  manifest := fun _ => []
  openPublic := fun _ _ => throw (.plain "no channels")
  createPrivate := fun _ _ _ _ => throw (.plain "no channels")
  refreshAccess := fun _ => throw (.plain "no channels")
  checkRateLimit := fun _ _ _ => pure true
  checkPublishLimit := fun _ _ _ => pure true
  listChannels := fun _ => []
  getChannel := fun _ => throw (.plain "no channels")
  deleteChannel := fun _ => throw (.plain "no channels")
  publish := fun _ _ => throw (.plain "no channels")
  presence := fun _ => throw (.plain "no channels")
  activeKeyID := KeyRing.active
  listKeys := fun ring => ring.byID.values
  generateKeyAlg := fun _ => throw (.plain "no entropy")
  promoteKey := fun id ring => ((ring.promote id).1.mapError fun error =>
    .coded (wrapped .invalidArgument "promote key" error), (ring.promote id).2)
  retireKey := fun id ring => ((ring.retire id now).1.mapError fun error =>
    .coded (wrapped .invalidArgument "retire key" error), (ring.retire id now).2)
  reloadKeys := throw (invalidArgument ("no keyring store configured; pass Options.StateDir, " ++
    "Options.RedisClient or Options.KeyRingStore"))
  issueMgmt := fun _ _ => throw (.plain "no issuer")
  dlqItems := fun _ _ => pure []
  dlqCount := fun _ => pure 0
  dlqDiscard := fun _ => pure ()
  dlqReplay := fun _ => throw (.plain "no sinks")
  revocations := none

def guestToken : Text :=
  Jwt.compact
    (base64Digits (utf8 "\x7b\"alg\":\"EdDSA\",\"kid\":\"idp\",\"typ\":\"JWT\"\x7d"))
    (base64Digits (utf8 ("\x7b\"iss\":\"https://idp.example\",\"aud\":\"parsec\"," ++
      "\"sub\":\"guest\",\"groups\":[\"guests\"],\"iat\":1735300000,\"exp\":1735303600\x7d")))
    (base64Digits (bigEndian 32
        0x9b433520d0b9fea6d71ef8c4c1181f325e27ddd20fc8f43faa76d5e9dce33283 ++
      bigEndian 32 0x3fcebfd7c7fcf2c855c2b0fcc25f582106cfed882dd11e3b8aef8627b0a27b05))

def guestIDToken : IDToken where
  subject := "guest"
  issuedAt := ofUnix 1735300000
  expiry := ofUnix 1735303600
  claims := some fun name =>
    if name = "sub" then .string "guest"
    else if name = "groups" then .array [.string "guests"]
    else .null

def guestProvider : Provider := fun now token =>
  if token = guestToken then
    if now ≤ guestIDToken.expiry then .ok guestIDToken else .error "oidc: token is expired"
  else .error "oidc: malformed jwt"

def guestVerifier : OIDCVerifier where
  cfg :=
    { issuer := "https://idp.example", audience := "parsec", subjectClaim := "sub"
      scopesClaim := "groups"
      grants := [{ ifGroup := "admins", scope := "public:shop.**", verbs := [.manage] }] }
  verifier := guestProvider

def guestRing : KeyRing :=
  ((KeyRing.empty.add "k1" (List.replicate 32 7) 0).2.add "k2" (List.replicate 32 8) 0).2

def guestMoment : VerifierState := { ring := guestRing, now := ofUnix 1735300060 }

def guestServer : Server KeyRing where
  parsec := keysOnly guestMoment.now
  jwt := lifetimeJwt
  oidc := some guestVerifier
  validateAt := guestMoment
  extractAt := guestMoment

def guestRequest : Request where
  call := .retireKey "k2"
  authorization := "Bearer ".toList ++ guestToken

theorem guest_ungranted : guestVerifier.Ungranted guestMoment.now guestRequest.bearer := by
  have bearer : guestRequest.bearer = guestToken := by decide +kernel
  have valid : guestMoment.now ≤ guestIDToken.expiry := by decide
  have verified : guestVerifier.verifier guestMoment.now guestRequest.bearer =
      .ok guestIDToken := by
    rw [bearer]
    simp [guestVerifier, guestProvider, valid]
  exact ⟨by decide +kernel, guestIDToken, _, verified, rfl, by decide +kernel,
    by decide +kernel⟩

theorem guest_retires_key :
    guestVerifier.Ungranted guestServer.validateAt.now guestRequest.bearer ∧
      guestRequest.call.isPublic = false ∧
      (guestServer.serve guestRequest).outcome guestRing =
        (.ok .empty, (guestRing.retire "k2" guestMoment.now).2) := by
  refine ⟨guest_ungranted, by decide, ?_⟩
  decide +kernel

theorem ungranted_operator_refused_iff_of_guest :
    (guestServer.serve guestRequest).Refuses guestRing ↔
      RefusedBelow guestServer.parsec (guestServer.context guestRequest) guestRing
        guestRequest.call :=
  ungranted_operator_refused_iff guestServer rfl (by decide) guest_ungranted guestRing

end Parsec.Management
