import Parsec.Auth.RefreshStore
import Parsec.Subscribe.Authorizer
import Parsec.Auth.Issuer

/-! # The revocation store

Revoked token identifiers and, for each user, the moment before which every token of the
user is revoked. Entries stop counting when they are older than the maximal time to live. -/

namespace Parsec.Revocation

open Foundation Auth Subscribe

inductive Backend
  | memory
  | redis
  deriving DecidableEq

/-- `stored` is when the entry was written. The cutoff of an entry that does not read as a
number is absent. -/
structure UserEntry where
  cutoff : Option Int
  stored : Int
  deriving DecidableEq

structure Records where
  byToken : String → Option Int
  byUser : String → Option UserEntry

namespace Records

def empty : Records := { byToken := fun _ => none, byUser := fun _ => none }

def counts (backend : Backend) (maxTTL now stored : Int) : Bool :=
  match backend with
  | .memory => now - stored ≤ maxTTL
  | .redis => now < stored + maxTTL

def written (backend : Backend) (reply : Reply) (command : String) (before after : Records) :
    Except String Unit × Records :=
  match backend, reply with
  | .redis, .failed applied cause =>
    (.error (command ++ ": " ++ cause), if applied then after else before)
  | _, _ => (.ok (), after)

def revoke (records : Records) (backend : Backend) (now : Int) (reply : Reply)
    (tokenID : String) : Except String Unit × Records :=
  if tokenID = "" then (.error "tokenbroker: Revoke requires tokenID", records)
  else written backend reply "redis SET revoked" records
    { records with byToken := Function.update records.byToken tokenID (some now) }

def cutoffOf (backend : Backend) (read now : Int) : Int :=
  match backend with
  | .memory => now
  | .redis => read

def revokeAllForUser (records : Records) (backend : Backend) (read now : Int) (reply : Reply)
    (userID : String) : Except String Unit × Records :=
  if userID = "" then (.error "tokenbroker: RevokeAllForUser requires userID", records)
  else
    let entry : UserEntry := { cutoff := some (cutoffOf backend read now), stored := now }
    written backend reply "redis SET user_revoked_at" records
      { records with byUser := Function.update records.byUser userID (some entry) }

def prune (records : Records) (maxTTL now : Int) : Records where
  byToken := fun id => (records.byToken id).filter fun stored => now - stored ≤ maxTTL
  byUser := fun id => (records.byUser id).filter fun entry => now - entry.stored ≤ maxTTL

structure Query where
  backend : Backend
  maxTTL : Int := 24 * hour
  now : Int
  tokenFault : Option String := none
  userFault : Option String := none

def isRevoked (records : Records) (query : Query) (tokenID : String) : Except String Bool :=
  let found := (records.byToken tokenID).any (counts query.backend query.maxTTL query.now)
  match query.backend, query.tokenFault with
  | .redis, some cause =>
    if tokenID = "" then .ok false else .error ("redis EXISTS revoked: " ++ cause)
  | .redis, none => .ok (tokenID ≠ "" && found)
  | .memory, _ => .ok found

def cutOff (records : Records) (query : Query) (userID : String) (issuedAt : Int) : Bool :=
  (records.byUser userID).any fun entry =>
    counts query.backend query.maxTTL query.now entry.stored &&
      entry.cutoff.all fun cutoff => issuedAt ≤ cutoff

def isUserRevoked (records : Records) (query : Query) (userID : String) (issuedAt : Int) :
    Except String Bool :=
  match query.backend, query.userFault with
  | .redis, some cause =>
    if userID = "" then .ok false else .error ("redis GET user_revoked_at: " ++ cause)
  | .redis, none => .ok (userID ≠ "" && records.cutOff query userID issuedAt)
  | .memory, _ => .ok (records.cutOff query userID issuedAt)

def answers (records : Records) (query : Query) : Revocations where
  isRevoked := records.isRevoked query
  isUserRevoked := records.isUserRevoked query

inductive Operation
  | revoke (now : Int) (reply : Reply) (tokenID : String)
  | revokeAllForUser (read now : Int) (reply : Reply) (userID : String)
  | prune (maxTTL now : Int)

def apply (backend : Backend) (records : Records) : Operation → Records
  | .revoke now reply tokenID => (records.revoke backend now reply tokenID).2
  | .revokeAllForUser read now reply userID =>
    (records.revokeAllForUser backend read now reply userID).2
  | .prune maxTTL now => records.prune maxTTL now

def applyAll (backend : Backend) (records : Records) (operations : List Operation) : Records :=
  operations.foldl (apply backend) records

/-! ## Stores that differ in one identifier -/

structure AgreeExcept (tokenID : String) (left right : Records) : Prop where
  byToken : ∀ id, id ≠ tokenID → left.byToken id = right.byToken id
  byUser : left.byUser = right.byUser

namespace AgreeExcept

variable {tokenID : String} {left right : Records} {backend : Backend}

variable (agree : AgreeExcept tokenID left right)
include agree

theorem written {leftAfter rightAfter : Records}
    (agreeAfter : AgreeExcept tokenID leftAfter rightAfter) (reply : Reply) (command : String) :
    AgreeExcept tokenID (Records.written backend reply command left leftAfter).2
      (Records.written backend reply command right rightAfter).2 := by
  cases backend with
  | memory => exact agreeAfter
  | redis =>
    cases reply with
    | delivered => exact agreeAfter
    | failed applied cause =>
      cases applied with
      | true => exact agreeAfter
      | false => exact agree

theorem revoke (now : Int) (reply : Reply) (id : String) :
    AgreeExcept tokenID (left.revoke backend now reply id).2
      (right.revoke backend now reply id).2 := by
  unfold Records.revoke
  split
  · exact agree
  · apply agree.written
    refine ⟨fun other different => ?_, agree.byUser⟩
    by_cases same : other = id
    · subst same
      simp
    · simp [same, agree.byToken other different]

theorem revokeAllForUser (read now : Int) (reply : Reply) (userID : String) :
    AgreeExcept tokenID (left.revokeAllForUser backend read now reply userID).2
      (right.revokeAllForUser backend read now reply userID).2 := by
  unfold Records.revokeAllForUser
  split
  · exact agree
  · apply agree.written
    exact ⟨agree.byToken, by rw [agree.byUser]⟩

private theorem applyAll (operations : List Operation) :
    AgreeExcept tokenID (left.applyAll backend operations) (right.applyAll backend operations) := by
  induction operations generalizing left right with
  | nil => exact agree
  | cons operation operations induction =>
    apply induction
    cases operation with
    | revoke now reply id => exact agree.revoke now reply id
    | revokeAllForUser read now reply userID =>
      exact agree.revokeAllForUser read now reply userID
    | prune maxTTL now =>
      refine ⟨fun id different => ?_, ?_⟩
      · simp only [Records.apply, Records.prune, agree.byToken id different]
      · simp only [Records.apply, Records.prune, agree.byUser]

private theorem answers (query : Query) {claims : Claims} (different : claims.jti ≠ tokenID) :
    checkRevoked (left.answers query) claims = checkRevoked (right.answers query) claims ∧
      checkUserRevoked (left.answers query) claims =
        checkUserRevoked (right.answers query) claims := by
  constructor
  · simp only [checkRevoked, Records.answers, Records.isRevoked, agree.byToken _ different]
  · simp only [checkUserRevoked, Records.answers, Records.isUserRevoked, Records.cutOff,
      agree.byUser]

end AgreeExcept

private theorem revoke_agree (records : Records) (backend : Backend) (now : Int) (reply : Reply)
    (tokenID : String) : AgreeExcept tokenID (records.revoke backend now reply tokenID).2
      records := by
  have unchanged : AgreeExcept tokenID records records := ⟨fun _ _ => rfl, rfl⟩
  have updated : AgreeExcept tokenID
      { records with byToken := Function.update records.byToken tokenID (some now) } records :=
    ⟨fun other different => Function.update_of_ne different _ _, rfl⟩
  unfold revoke
  split
  · exact unchanged
  · cases backend with
    | memory => exact updated
    | redis =>
      cases reply with
      | delivered => exact updated
      | failed applied cause =>
        cases applied with
        | true => exact updated
        | false => exact unchanged

end Records

/-! ## The token broker

Tokens for the channels an authorizer grants, each returned with an identifier under which
it can be revoked. The identifier is drawn by the broker; the one inside the token was drawn
by the issuer. -/

open Channels

structure DeniedChannel where
  channel : String
  reason : String
  deriving DecidableEq

structure AuthDecision where
  granted : List String
  refused : List DeniedChannel := []
  deriving DecidableEq

/-- The broker's options. The audit log only observes and is left out. -/
structure Broker where
  issuer : Issuer := {}
  authenticate : String → Except String String
  authorize : String → List String → AuthDecision
  delegateAuthorizer : Option (String → String → Except String Unit) := none
  defaultTTL : Int := 0

structure IssueRequest where
  channels : List String
  ttl : Int := 0

structure DelegateRequest where
  onBehalfOf : String
  channels : List String
  lifetimeSeconds : Int := 0

structure IssueResponse where
  token : Text := []
  tokenID : String := ""
  expiresAt : Option Int := none
  channelsGranted : List String := []
  channelsDenied : List DeniedChannel := []
  deriving DecidableEq

structure Circumstances where
  ring : KeyRing
  now : Int
  draws : Issuer.PairDraws
  fullRing : KeyRing
  fullNow : Int
  fullDraw : IdDraw
  tokenID : Vector UInt8 16

def newTokenID (random : Vector UInt8 16) : String := hexEncode random.toList

namespace Broker

variable (broker : Broker) (jwt : Jwt) (met : Circumstances)

/-- With several channels the access token is issued again for all of them; if that fails
the token for the first one stands. -/
def fullAccess (uid : String) (granted : List String) (pair : PairResult) : Text × Int :=
  if granted.length > 1 then
    match broker.issuer.issueAccessForChannels jwt met.fullRing met.fullNow uid granted
        pair.refreshExpires met.fullDraw with
    | .ok full => full
    | .error _ => (pair.accessToken, pair.accessExpires)
  else (pair.accessToken, pair.accessExpires)

def issueFor (uid : String) (request : IssueRequest) : Except String IssueResponse := do
  ensure (request.channels ≠ []) "tokenbroker: at least one channel required"
  let decision := broker.authorize uid request.channels
  match decision.granted with
  | [] => return { channelsDenied := decision.refused }
  | channel :: _ =>
    let ttl := if request.ttl = 0 then broker.defaultTTL else request.ttl
    let ttl := if ttl = 0 then hour else ttl
    let pair ← broker.issuer.issuePair jwt met.ring met.now uid channel ttl [] met.draws
    let access := broker.fullAccess jwt met uid decision.granted pair
    return { token := access.1, tokenID := newTokenID met.tokenID,
             expiresAt := some access.2, channelsGranted := decision.granted,
             channelsDenied := decision.refused }

def issue (bearer : String) (request : IssueRequest) : Except String IssueResponse := do
  let uid ← broker.authenticate bearer
  broker.issueFor jwt met uid request

def mayDelegate (service target : String) : Except String Unit :=
  match broker.delegateAuthorizer with
  | none => .ok ()
  | some allowed => allowed service target

def delegate (bearer : String) (request : DelegateRequest) : Except String IssueResponse := do
  let service ← broker.authenticate bearer
  ensure (request.onBehalfOf ≠ "") "tokenbroker: on_behalf_of required"
  broker.mayDelegate service request.onBehalfOf
  broker.issueFor jwt met request.onBehalfOf
    { channels := request.channels, ttl := durationOfSeconds request.lifetimeSeconds }

structure RevokeRequest where
  tokenID : String := ""
  userID : String := ""

structure RevokeMoment where
  read : Int
  now : Int
  reply : Reply := .delivered

def revoke (backend : Backend) (records : Records) (moment : RevokeMoment) (bearer : String)
    (request : RevokeRequest) : Except String Unit × Records :=
  match broker.authenticate bearer with
  | .error message => (.error message, records)
  | .ok _ =>
    if request.tokenID ≠ "" then
      records.revoke backend moment.now moment.reply request.tokenID
    else if request.userID ≠ "" then
      records.revokeAllForUser backend moment.read moment.now moment.reply request.userID
    else (.error "tokenbroker: token_id or user_id required", records)

end Broker

/-! ## The two identifiers -/

theorem newTokenID_length (random : Vector UInt8 16) : (newTokenID random).length = 32 := by
  simp [newTokenID, hexEncode_length]

namespace Broker

variable {broker : Broker} {jwt : Jwt} {met : Circumstances} {uid bearer : String}
  {response : IssueResponse}

theorem fullAccess_issued {channel : String} {ttl : Int} {granted : List String}
    {pair : PairResult}
    (issued : broker.issuer.issuePair jwt met.ring met.now uid channel ttl [] met.draws =
      .ok pair) :
    ∃ ring now claims, Issued jwt ring now uid (broker.fullAccess jwt met uid granted pair).1
      claims := by
  have first : ∃ ring now claims, Issued jwt ring now uid pair.accessToken claims := by
    rcases (Issuer.issuePair_issued issued).access with ⟨claims, access, _⟩
    exact ⟨met.ring, met.now, claims, access⟩
  unfold fullAccess
  split
  · split
    · rename_i full again
      simp only [Issuer.issueAccessForChannels, bind_eq_ok] at again
      rcases again with ⟨_, _, signed⟩
      rcases Issuer.signAccess_issued (by simp) signed with ⟨claims, access, _⟩
      exact ⟨met.fullRing, met.fullNow, claims, access⟩
    · exact first
  · exact first

theorem issueFor_issued {request : IssueRequest} (given : response.token ≠ [])
    (issued : broker.issueFor jwt met uid request = .ok response) :
    response.tokenID = newTokenID met.tokenID ∧
      ∃ ring now claims, Issued jwt ring now uid response.token claims := by
  simp only [issueFor, bind_eq_ok] at issued
  rcases issued with ⟨_, _, issued⟩
  split at issued
  · cases issued
    exact absurd rfl given
  · rcases bind_eq_ok.mp issued with ⟨pair, paired, equal⟩
    cases equal
    exact ⟨rfl, fullAccess_issued paired⟩

def Issues (broker : Broker) (jwt : Jwt) (met : Circumstances) (bearer : String)
    (response : IssueResponse) : Prop :=
  (∃ request, broker.issue jwt met bearer request = .ok response) ∨
    ∃ request, broker.delegate jwt met bearer request = .ok response

section

variable (issues : broker.Issues jwt met bearer response) (given : response.token ≠ [])
include issues given

theorem Issues.issued :
    response.tokenID = newTokenID met.tokenID ∧
      ∃ ring now uid claims, Issued jwt ring now uid response.token claims := by
  rcases issues with ⟨request, issued⟩ | ⟨request, issued⟩
  · simp only [Broker.issue, bind_eq_ok] at issued
    rcases issued with ⟨uid, _, issued⟩
    rcases issueFor_issued given issued with ⟨same, ring, now, claims, token⟩
    exact ⟨same, ring, now, uid, claims, token⟩
  · simp only [Broker.delegate, bind_eq_ok] at issued
    rcases issued with ⟨service, _, _, _, _, _, issued⟩
    rcases issueFor_issued given issued with ⟨same, ring, now, claims, token⟩
    exact ⟨same, ring, now, _, claims, token⟩

theorem Issues.jti_ne (lawful : jwt.json.Lawful) {verifier : VerifierState} {claims : Claims}
    (verified : verifier.verify jwt response.token (some .access) = .ok claims) :
    claims.jti ≠ response.tokenID := by
  rcases issues.issued given with ⟨same, ring, now, uid, signed, issued⟩
  have equal := issued.verifies lawful verified
  intro clash
  have lengths := congrArg String.length clash
  rw [equal, issued.identified, same, newTokenID_length] at lengths
  cases lengths

end

theorem revoke_token {backend : Backend} {records revoked : Records} {moment : RevokeMoment}
    {request : RevokeRequest} (named : request.tokenID ≠ "")
    (done : broker.revoke backend records moment bearer request = (.ok (), revoked)) :
    revoked = (records.revoke backend moment.now moment.reply request.tokenID).2 := by
  unfold Broker.revoke at done
  split at done
  · cases done
  · rw [if_pos named] at done
    rw [done]

end Broker

/-! ## Revoking by the identifier handed out -/

def asking (site : Site) (records : Records) (query : Records.Query) : Site :=
  { site with revocations := some (records.answers query) }

theorem revocationAuth_agree {jwt : Jwt} {site : Site} {tokenID : String} {left right : Records}
    {query : Records.Query} {ch : Name} {token : Text}
    (agree : Records.AgreeExcept tokenID left right)
    (different : ∀ claims, site.again.verify jwt token (some .access) = .ok claims →
      claims.jti ≠ tokenID) :
    revocationAuth jwt (asking site left query) ch token =
      revocationAuth jwt (asking site right query) ch token := by
  simp only [revocationAuth, asking]
  split
  · rfl
  · cases verified : site.again.verify jwt token (some .access) with
    | error error => rfl
    | ok claims =>
      rcases agree.answers query (different claims verified) with ⟨byToken, byUser⟩
      simp only [Except.mapError, bind, Except.bind, byToken, byUser]

/-- Revoking a token by the identifier it was returned with changes nothing: the subscribe
authorizer refuses the token exactly if it would have refused it without the revocation,
whatever else happens to the store before and after. -/
theorem revoked_by_token_id_refused_iff {jwt : Jwt} (lawful : jwt.json.Lawful) {broker : Broker}
    {met : Circumstances} {bearer revoker : String} {response : IssueResponse}
    (issues : broker.Issues jwt met bearer response) (given : response.token ≠ [])
    {backend : Backend} {records revoked : Records} {moment : Broker.RevokeMoment}
    {request : Broker.RevokeRequest} (named : request.tokenID = response.tokenID)
    (done : broker.revoke backend records moment revoker request = (.ok (), revoked))
    (later : List Records.Operation) (site : Site) (query : Records.Query) (userID : String)
    (ch : Name) :
    subscribeAuthorizer jwt (asking site (revoked.applyAll backend later) query) userID ch
        response.token ≠ .ok () ↔
      subscribeAuthorizer jwt (asking site (records.applyAll backend later) query) userID ch
        response.token ≠ .ok () := by
  have tokenNamed : request.tokenID ≠ "" := by
    intro empty
    have lengths := congrArg String.length (named.symm.trans empty)
    rw [(issues.issued given).1, newTokenID_length] at lengths
    cases lengths
  have agree : Records.AgreeExcept response.tokenID (revoked.applyAll backend later)
      (records.applyAll backend later) := by
    rw [Broker.revoke_token tokenNamed done, ← named]
    exact (records.revoke_agree backend moment.now moment.reply request.tokenID).applyAll later
  have same : revocationAuth jwt (asking site (revoked.applyAll backend later) query) ch
      response.token =
      revocationAuth jwt (asking site (records.applyAll backend later) query) ch response.token :=
    revocationAuth_agree agree fun claims verified => issues.jti_ne given lawful verified
  have tokens : ∀ store, tokenAuth jwt (asking site store query) userID ch response.token =
      tokenAuth jwt site userID ch response.token := fun _ => rfl
  simp only [subscribeAuthorizer, same, tokens]
  exact Iff.rfl

/-! A token for one channel, revoked a minute later by the identifier that came with it. -/

def grantSamples : List SignedSample :=
  [plainFamily.token false 0 300 "BAQEBAQEBAQEBAQEBAQEBA"
      0xd0361319606271cc5b40cbc9a81a6c3febc7a14f7c8583dfbc169d1c994b8f42,
    plainFamily.token true 0 3600 "AQEBAQEBAQEBAQEBAQEBAQ"
      0x8bdc790b832d8b0cdbaf752fcc503925d2a797d194fb7448cc4b2d37694f5633]

def grantJwt : Jwt := .ofSamples sampleHeader grantSamples sampleSecret

def grantRing : KeyRing := (KeyRing.empty.add "k1" sampleSecret 0).2

def grantBroker : Broker where
  authenticate := fun bearer => .ok bearer
  authorize := fun _ channels => { granted := channels }

def grantMet : Circumstances where
  ring := grantRing
  now := ofUnix 1735300000
  draws := { jti := some (.replicate 16 1), fid := some (.replicate 16 2),
             access := some (.replicate 16 4) }
  fullRing := grantRing
  fullNow := ofUnix 1735300000
  fullDraw := none
  tokenID := .replicate 16 9

def grantResponse : IssueResponse where
  token := ((grantSamples[0]?).map (SignedSample.token sampleHeader)).getD []
  tokenID := "09090909090909090909090909090909"
  expiresAt := some (ofUnix 1735300300)
  channelsGranted := ["private:shop.orders.o1"]

def grantMoment : Broker.RevokeMoment where
  read := ofUnix 1735300060
  now := ofUnix 1735300060

def grantRequest : Broker.RevokeRequest := { tokenID := grantResponse.tokenID }

def grantSite : Site where
  isOpen := fun _ => true
  verifier := { ring := grantRing, now := ofUnix 1735300120 }
  again := { ring := grantRing, now := ofUnix 1735300120 }

def grantQuery : Records.Query := { backend := .memory, now := ofUnix 1735300120 }

def grantChannel : Name :=
  { visibility := .private, app := "shop", domain := "orders", id := "o1" }

theorem revoked_token_accepted :
    grantBroker.issue grantJwt grantMet "u1" { channels := ["private:shop.orders.o1"] } =
        .ok grantResponse ∧
      (grantBroker.revoke .memory .empty grantMoment "u1" grantRequest).1 = .ok () ∧
      grantChannel.isPrivate = true ∧
      subscribeAuthorizer grantJwt
        (asking grantSite (grantBroker.revoke .memory .empty grantMoment "u1" grantRequest).2
          grantQuery) "u1" grantChannel grantResponse.token = .ok () := by
  decide +kernel

theorem grant_lawful : grantJwt.json.Lawful :=
  Json.ofSamples_lawful (by decide +kernel) (by decide +kernel)

theorem revoked_by_token_id_refused_iff_of_grant :
    subscribeAuthorizer grantJwt
        (asking grantSite
          (Records.applyAll .memory
            (grantBroker.revoke .memory .empty grantMoment "u1" grantRequest).2 []) grantQuery)
        "u1" grantChannel grantResponse.token ≠ .ok () ↔
      subscribeAuthorizer grantJwt (asking grantSite (Records.applyAll .memory .empty [])
        grantQuery) "u1" grantChannel grantResponse.token ≠ .ok () := by
  have issued : grantBroker.issue grantJwt grantMet "u1"
      { channels := ["private:shop.orders.o1"] } = .ok grantResponse := by
    decide +kernel
  have given : grantResponse.token ≠ [] := by decide +kernel
  have named : grantRequest.tokenID = grantResponse.tokenID := rfl
  have done : grantBroker.revoke .memory .empty grantMoment "u1" grantRequest =
      (.ok (), (grantBroker.revoke .memory .empty grantMoment "u1" grantRequest).2) := rfl
  exact revoked_by_token_id_refused_iff grant_lawful (.inl ⟨_, issued⟩) given named done []
    grantSite grantQuery "u1" grantChannel

end Parsec.Revocation
