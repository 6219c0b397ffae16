import Parsec.Auth.Token

/-! # Issuing tokens

The issuer bounds lifetimes and stamps identifiers. A refresh token does not outlive its
channel's time to live; the access token of a pair is at most as long, but never under a
minute. -/

namespace Parsec.Auth

open Foundation Channels

abbrev IdDraw := Option (Vector UInt8 16)

def newTokenID : IdDraw → Except String String
  | none => .error "auth: token id generation failed"
  | some bytes => .ok (base64Encode bytes.toList)

theorem newTokenID_length {draw : IdDraw} {id : String} (drawn : newTokenID draw = .ok id) :
    id.length = 22 := by
  cases draw with
  | none => cases drawn
  | some bytes =>
    cases drawn
    simp [base64Encode_length]

def validateScope (scope : Scope) : Except String PUnit := do
  ensure (scope.pattern ≠ "") "auth: scope pattern required"
  let _ ← (parsePattern scope.pattern).mapError CodedError.text
  ensure (scope.verbs ≠ []) "auth: scope must list at least one verb"
  scope.verbs.forM fun verb =>
    ensure (verb.isValid = true) ("auth: unknown verb in scope: " ++ verb.text)

def validateScopes (scopes : List Scope) : Except String PUnit :=
  scopes.forM validateScope

theorem validateScopes_verbs {scopes : List Scope} (valid : validateScopes scopes = .ok ⟨⟩) :
    ∀ scope ∈ scopes, ∀ verb ∈ scope.verbs, verb.isValid = true := by
  intro scope member
  have checked := forM_eq_ok.mp valid scope member
  simp only [validateScope, bind_eq_ok] at checked
  rcases checked with ⟨_, _, _, _, _, _, verbs⟩
  intro verb listed
  exact ensure_eq_ok.mp (forM_eq_ok.mp verbs verb listed)

structure Issuer where
  accessTTL : Int := 5 * minute
  maxRefreshTTL : Int := hour

namespace Issuer

def refreshLifetime (issuer : Issuer) (ttl : Int) : Int :=
  if 0 < issuer.maxRefreshTTL ∧ issuer.maxRefreshTTL < ttl then issuer.maxRefreshTTL else ttl

def accessLifetime (issuer : Issuer) (refreshTTL : Int) : Int :=
  let ttl := if refreshTTL < issuer.accessTTL then refreshTTL else issuer.accessTTL
  if ttl < minute then minute else ttl

end Issuer

structure PairResult where
  accessToken : Text
  refreshToken : Text
  accessExpires : Int
  refreshExpires : Int
  deriving DecidableEq

def pairClaims (typ : TokenType) (sub : String) (chs : List String) (now expires : Int)
    (scopes : List Scope) (jti : String) : Claims :=
  { sub := sub, typ := typ, chs := chs, iat := unix now, exp := unix expires,
    scopes := scopes, jti := jti }

namespace Issuer

variable (issuer : Issuer) (jwt : Jwt) (ring : KeyRing) (now : Int)

def signPair (sub : String) (chs : List String) (ttl : Int) (scopes : List Scope)
    (jti fid accessJTI : String) : Except String PairResult := do
  let refreshTTL := issuer.refreshLifetime ttl
  let accessExp := now + issuer.accessLifetime refreshTTL
  let refreshExp := now + refreshTTL
  let access ← jwt.sign ring (pairClaims .access sub chs now accessExp scopes accessJTI)
  let refresh ← jwt.sign ring
    { pairClaims .refresh sub chs now refreshExp scopes jti with fid := fid }
  return { accessToken := access, refreshToken := refresh, accessExpires := accessExp,
           refreshExpires := refreshExp }

structure PairDraws where
  jti : IdDraw
  fid : IdDraw
  access : IdDraw

def issuePair (sub channel : String) (channelTTL : Int) (scopes : List Scope)
    (draws : PairDraws) : Except String PairResult := do
  ensure (channel ≠ "") "auth: channel required"
  ensure (0 < channelTTL) "auth: channelTTL must be positive"
  validateScopes scopes
  let jti ← newTokenID draws.jti
  let fid ← newTokenID draws.fid
  let accessJTI ← newTokenID draws.access
  issuer.signPair jwt ring now sub [channel] channelTTL scopes jti fid accessJTI

def issuePairForChannels (sub : String) (chs : List String) (ttl : Int) (scopes : List Scope)
    (draws : PairDraws) : Except String PairResult := do
  ensure (chs ≠ []) "auth: at least one channel required"
  ensure (0 < ttl) "auth: ttl must be positive"
  validateScopes scopes
  let jti ← newTokenID draws.jti
  let fid ← newTokenID draws.fid
  let accessJTI ← newTokenID draws.access
  issuer.signPair jwt ring now sub chs ttl scopes jti fid accessJTI

def issueRotatedPair (sub channel oldFID : String) (channelTTL : Int) (scopes : List Scope)
    (jti access : IdDraw) : Except String PairResult := do
  ensure (channel ≠ "") "auth: channel required"
  ensure (oldFID ≠ "") "auth: family ID required for rotation"
  ensure (0 < channelTTL) "auth: channelTTL must be positive"
  validateScopes scopes
  let jti ← newTokenID jti
  let accessJTI ← newTokenID access
  issuer.signPair jwt ring now sub [channel] channelTTL scopes jti oldFID accessJTI

def issuePairWithRateLimit (sub channel : String) (channelTTL : Int) (override : Limit)
    (draws : PairDraws) : Except String PairResult := do
  ensure (channel ≠ "") "auth: channel required"
  ensure (0 < channelTTL) "auth: channelTTL must be positive"
  let refreshTTL := issuer.refreshLifetime channelTTL
  let accessExp := now + issuer.accessLifetime refreshTTL
  let refreshExp := now + refreshTTL
  let rl := if override.unlimited then none else some override.normalize
  let jti ← newTokenID draws.jti
  let fid ← newTokenID draws.fid
  let accessJTI ← newTokenID draws.access
  let access ← jwt.sign ring
    { pairClaims .access sub [channel] now accessExp [] accessJTI with rateLimitOverride := rl }
  let refresh ← jwt.sign ring
    { pairClaims .refresh sub [channel] now refreshExp [] jti with
      rateLimitOverride := rl, fid := fid }
  return { accessToken := access, refreshToken := refresh, accessExpires := accessExp,
           refreshExpires := refreshExp }

def signAccess (sub : String) (chs : List String) (refreshExp : Int) (scopes : List Scope)
    (draw : IdDraw) : Except String (Text × Int) := do
  let exp := if refreshExp < now + issuer.accessTTL then refreshExp else now + issuer.accessTTL
  ensure (now < exp) "auth: refresh token has expired"
  let jti ← newTokenID draw
  let token ← jwt.sign ring (pairClaims .access sub chs now exp scopes jti)
  return (token, exp)

def issueAccess (sub channel : String) (refreshExp : Int) (scopes : List Scope)
    (draw : IdDraw) : Except String (Text × Int) := do
  validateScopes scopes
  issuer.signAccess jwt ring now sub [channel] refreshExp scopes draw

def issueAccessForChannels (sub : String) (chs : List String) (refreshExp : Int)
    (draw : IdDraw) : Except String (Text × Int) := do
  ensure (chs ≠ []) "auth: at least one channel required"
  issuer.signAccess jwt ring now sub chs refreshExp [] draw

end Issuer

/-- A token was signed at `now` over claims of `sub` with a drawn identifier. -/
structure Issued (jwt : Jwt) (ring : KeyRing) (now : Int) (sub : String) (token : Text)
    (claims : Claims) : Prop where
  signed : jwt.sign ring claims = .ok token
  subject : claims.sub = sub
  issuedAt : claims.iat = unix now
  identified : claims.jti.length = 22
  known : ∀ scope ∈ claims.scopes, ∀ verb ∈ scope.verbs, verb.isValid = true

section

variable {issuer : Issuer} {jwt : Jwt} {ring : KeyRing} {now : Int} {sub : String}

theorem Issued.verifies {token : Text} {claims result : Claims} {verifier : KeyRing}
    {leeway time : Int} {expected : Option TokenType}
    (issued : Issued jwt ring now sub token claims) (lawful : jwt.json.Lawful)
    (accepted : jwt.verify verifier leeway time token expected = .ok result) :
    result = claims :=
  Jwt.verify_signed lawful issued.known issued.signed accepted

/-- A token was issued at `now` over claims of this authority. -/
def IssuedWith (jwt : Jwt) (ring : KeyRing) (now : Int) (authority : Authority)
    (token : Text) : Prop :=
  ∃ claims, Issued jwt ring now authority.sub token claims ∧ claims.authority = authority

/-- Both halves of a pair were issued at `now` over claims of this authority. -/
structure PairIssued (jwt : Jwt) (ring : KeyRing) (now : Int) (authority : Authority)
    (pair : PairResult) : Prop where
  access : IssuedWith jwt ring now authority pair.accessToken
  refresh : IssuedWith jwt ring now authority pair.refreshToken

namespace Issuer

variable {chs : List String} {ttl : Int} {scopes : List Scope} {pair : PairResult} {fid : String}

theorem signPair_issued {jti accessJTI : String}
    (known : ∀ scope ∈ scopes, ∀ verb ∈ scope.verbs, verb.isValid = true) (drawn : jti.length = 22)
    (accessDrawn : accessJTI.length = 22)
    (issued : issuer.signPair jwt ring now sub chs ttl scopes jti fid accessJTI = .ok pair) :
    PairIssued jwt ring now ⟨sub, chs, scopes, none⟩ pair := by
  simp only [signPair, bind_eq_ok] at issued
  rcases issued with ⟨access, accessSigned, refresh, refreshSigned, equal⟩
  cases equal
  exact ⟨⟨_, ⟨accessSigned, rfl, rfl, accessDrawn, known⟩, rfl⟩,
    ⟨_, ⟨refreshSigned, rfl, rfl, drawn, known⟩, rfl⟩⟩

variable {channel : String} {draws : PairDraws}

theorem issuePair_issued
    (issued : issuer.issuePair jwt ring now sub channel ttl scopes draws = .ok pair) :
    PairIssued jwt ring now ⟨sub, [channel], scopes, none⟩ pair := by
  simp only [issuePair, bind_eq_ok] at issued
  rcases issued with ⟨_, _, _, _, _, valid, jti, jtiDrawn, fid, _, access, accessDrawn, signed⟩
  exact signPair_issued (validateScopes_verbs valid) (newTokenID_length jtiDrawn)
    (newTokenID_length accessDrawn) signed

theorem issueRotatedPair_issued {jti access : IdDraw}
    (issued : issuer.issueRotatedPair jwt ring now sub channel fid ttl scopes jti access =
      .ok pair) : PairIssued jwt ring now ⟨sub, [channel], scopes, none⟩ pair := by
  simp only [issueRotatedPair, bind_eq_ok] at issued
  rcases issued with ⟨_, _, _, _, _, _, _, valid, jti, jtiDrawn, access, accessDrawn, signed⟩
  exact signPair_issued (validateScopes_verbs valid) (newTokenID_length jtiDrawn)
    (newTokenID_length accessDrawn) signed

theorem signAccess_issued {refreshExp : Int} {draw : IdDraw} {token : Text} {exp : Int}
    (known : ∀ scope ∈ scopes, ∀ verb ∈ scope.verbs, verb.isValid = true)
    (issued : issuer.signAccess jwt ring now sub chs refreshExp scopes draw = .ok (token, exp)) :
    IssuedWith jwt ring now ⟨sub, chs, scopes, none⟩ token := by
  simp only [signAccess, bind_eq_ok] at issued
  rcases issued with ⟨_, _, jti, drawn, signed, equal, done⟩
  cases done
  exact ⟨_, ⟨equal, rfl, rfl, newTokenID_length drawn, known⟩, rfl⟩

end Issuer

end

/-! ## Lifetimes

Four functions issue a pair. -/

inductive PairRequest
  | issuePair (sub channel : String) (channelTTL : Int) (scopes : List Scope)
      (draws : Issuer.PairDraws)
  | issuePairForChannels (sub : String) (chs : List String) (ttl : Int) (scopes : List Scope)
      (draws : Issuer.PairDraws)
  | issuePairWithRateLimit (sub channel : String) (channelTTL : Int) (override : Limit)
      (draws : Issuer.PairDraws)
  | issueRotatedPair (sub channel oldFID : String) (channelTTL : Int) (scopes : List Scope)
      (jti access : IdDraw)

def PairRequest.ttl : PairRequest → Int
  | .issuePair _ _ ttl _ _ => ttl
  | .issuePairForChannels _ _ ttl _ _ => ttl
  | .issuePairWithRateLimit _ _ ttl _ _ => ttl
  | .issueRotatedPair _ _ _ ttl _ _ _ => ttl

namespace Issuer

def issue (issuer : Issuer) (jwt : Jwt) (ring : KeyRing) (now : Int) :
    PairRequest → Except String PairResult
  | .issuePair sub channel ttl scopes draws =>
    issuer.issuePair jwt ring now sub channel ttl scopes draws
  | .issuePairForChannels sub chs ttl scopes draws =>
    issuer.issuePairForChannels jwt ring now sub chs ttl scopes draws
  | .issuePairWithRateLimit sub channel ttl override draws =>
    issuer.issuePairWithRateLimit jwt ring now sub channel ttl override draws
  | .issueRotatedPair sub channel oldFID ttl scopes jti access =>
    issuer.issueRotatedPair jwt ring now sub channel oldFID ttl scopes jti access

private theorem refreshLifetime_eq_min {issuer : Issuer} (bounded : 0 < issuer.maxRefreshTTL)
    (ttl : Int) : issuer.refreshLifetime ttl = min ttl issuer.maxRefreshTTL := by
  unfold refreshLifetime
  split
  · rename_i longer
    exact (min_eq_right longer.2.le).symm
  · rename_i shorter
    exact (min_eq_left (not_lt.mp fun longer => shorter ⟨bounded, longer⟩)).symm

theorem accessLifetime_le_iff (issuer : Issuer) (refreshTTL : Int) :
    issuer.accessLifetime refreshTTL ≤ refreshTTL ↔ minute ≤ refreshTTL := by
  dsimp only [accessLifetime]
  by_cases longer : refreshTTL < issuer.accessTTL
  · split <;> omega
  · split <;> omega

end Issuer

/-- The token was signed over claims that end in the second of `expires`. -/
def SignedUntil (jwt : Jwt) (ring : KeyRing) (expires : Int) (token : Text) : Prop :=
  ∃ claims, jwt.sign ring claims = .ok token ∧ claims.exp = unix expires

structure Expires (jwt : Jwt) (ring : KeyRing) (issuer : Issuer) (now ttl : Int)
    (pair : PairResult) : Prop where
  refresh : pair.refreshExpires = now + issuer.refreshLifetime ttl
  access : pair.accessExpires = now + issuer.accessLifetime (issuer.refreshLifetime ttl)
  refreshSigned : SignedUntil jwt ring pair.refreshExpires pair.refreshToken
  accessSigned : SignedUntil jwt ring pair.accessExpires pair.accessToken

namespace Issuer

variable {issuer : Issuer} {jwt : Jwt} {ring : KeyRing} {now : Int} {pair : PairResult}

theorem signPair_expires {sub : String} {chs : List String} {ttl : Int} {scopes : List Scope}
    {jti fid accessJTI : String}
    (issued : issuer.signPair jwt ring now sub chs ttl scopes jti fid accessJTI = .ok pair) :
    Expires jwt ring issuer now ttl pair := by
  simp only [signPair, bind_eq_ok] at issued
  rcases issued with ⟨access, accessSigned, refresh, refreshSigned, equal⟩
  cases equal
  exact ⟨rfl, rfl, ⟨_, refreshSigned, rfl⟩, ⟨_, accessSigned, rfl⟩⟩

theorem issue_expires {request : PairRequest}
    (issued : issuer.issue jwt ring now request = .ok pair) :
    Expires jwt ring issuer now request.ttl pair := by
  cases request with
  | issuePair | issuePairForChannels | issueRotatedPair =>
    simp only [issue, issuePair, issuePairForChannels, issueRotatedPair, bind_eq_ok] at issued
    rcases issued with ⟨_, _, _, _, _, _, _, _, _, _, _, _, signed⟩
    exact signPair_expires signed
  | issuePairWithRateLimit sub channel ttl override draws =>
    simp only [issue, issuePairWithRateLimit, bind_eq_ok] at issued
    rcases issued with ⟨_, _, _, _, _, _, _, _, _, _, signed⟩
    rcases signed with ⟨access, accessSigned, refresh, refreshSigned, equal⟩
    cases equal
    exact ⟨rfl, rfl, ⟨_, refreshSigned, rfl⟩, ⟨_, accessSigned, rfl⟩⟩

end Issuer

/-- Whichever function issued it, the refresh token of a pair ends with its channel or the
maximum, and the access token ends no later than that exactly if a minute fits in. The tokens
carry the expiries of the pair. -/
theorem pair_within_lifetime_iff {issuer : Issuer} {jwt : Jwt} {ring : KeyRing} {now : Int}
    {request : PairRequest} {pair : PairResult} (bounded : 0 < issuer.maxRefreshTTL)
    (issued : issuer.issue jwt ring now request = .ok pair) :
    pair.refreshExpires ≤ now + min request.ttl issuer.maxRefreshTTL ∧
      (pair.accessExpires ≤ pair.refreshExpires ↔ minute ≤ min request.ttl issuer.maxRefreshTTL) ∧
      SignedUntil jwt ring pair.refreshExpires pair.refreshToken ∧
      SignedUntil jwt ring pair.accessExpires pair.accessToken := by
  have expires := Issuer.issue_expires issued
  have lifetime := Issuer.refreshLifetime_eq_min bounded request.ttl
  have within := Issuer.accessLifetime_le_iff issuer (issuer.refreshLifetime request.ttl)
  refine ⟨?_, ?_, expires.refreshSigned, expires.accessSigned⟩
  · rw [expires.refresh, lifetime]
  · rw [expires.refresh, expires.access, ← lifetime, ← within]
    exact add_le_add_iff_left now

def lifetimeRing : KeyRing := (KeyRing.empty.add "k1" sampleSecret 0).2

def lifetimeSamples : List SignedSample :=
  [plainFamily.token false 0 60 "AwMDAwMDAwMDAwMDAwMDAw"
      0xb1b909dec6c5e8966d68491e5ed44fa229fe7baeb36167f1e1d9efb657ff6826,
    plainFamily.token false 0 300 "AwMDAwMDAwMDAwMDAwMDAw"
      0xb4394a2d10f092c782b07dbd077c6d440b68135123611f6004c48fa11431c387,
    plainFamily.token true 0 30 "AQEBAQEBAQEBAQEBAQEBAQ"
      0xdc72fc1745782c31b8f4ce1244c031774b21f2326764f97157eb9a6575f69ea3,
    plainFamily.token true 0 60 "AQEBAQEBAQEBAQEBAQEBAQ"
      0xb49f4246d8b8c52ad2a5c87e9b9cfdb2ffa031e4a0560c8496cec3c63bc3de71,
    plainFamily.token true 0 1800 "AQEBAQEBAQEBAQEBAQEBAQ"
      0x535acd23e92e429fec87cf34cdd4184ee6ec15dda395fb6710033b000aaa4800]

def lifetimeJwt : Jwt := .ofSamples sampleHeader lifetimeSamples sampleSecret

def lifetimeRequest (ttl : Int) : PairRequest :=
  .issuePair "u1" "private:shop.orders.o1" ttl []
    { jti := some (.replicate 16 1), fid := some (.replicate 16 2),
      access := some (.replicate 16 3) }

def lifetimePair (ttl : Int) : Except String PairResult :=
  Issuer.issue {} lifetimeJwt lifetimeRing (ofUnix 1735300000) (lifetimeRequest ttl)

theorem half_hour_pair_within_lifetime :
    ∃ pair, lifetimePair (30 * minute) = .ok pair ∧ pair.accessExpires ≤ pair.refreshExpires := by
  have issued : ∃ pair, lifetimePair (30 * minute) = .ok pair :=
    ⟨_, by rw [lifetimePair]; rfl⟩
  rcases issued with ⟨pair, issued⟩
  refine ⟨pair, issued, ?_⟩
  apply (pair_within_lifetime_iff (by decide) issued).2.1.mpr
  decide

/-- The access token of the pair lives for a minute, the refresh token for half of it. -/
theorem access_outlives_refresh :
    (lifetimePair (30 * second)).map (fun pair => (pair.accessExpires, pair.refreshExpires)) =
      .ok (ofUnix 1735300060, ofUnix 1735300030) := by
  decide +kernel

end Parsec.Auth
