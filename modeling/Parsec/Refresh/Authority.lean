import Parsec.Revocation.UserRevocation

/-! # What a refresh keeps

A redeemed refresh token is issued anew from its claims, field by field. -/

namespace Parsec.Auth

open Foundation

def Jwt.payload (jwt : Jwt) (token : Text) : Option Claims := do
  let (_, payload, _) ← splitToken token
  let bytes ← base64Decode payload
  jwt.json.readClaims bytes

def Carries (jwt : Jwt) (authority : Authority) (token : Text) : Prop :=
  ∃ claims, jwt.payload token = some claims ∧ claims.authority = authority

instance (jwt : Jwt) (authority : Authority) (token : Text) :
    Decidable (Carries jwt authority token) :=
  match read : jwt.payload token with
  | none => isFalse fun ⟨_, found, _⟩ => by rw [read] at found; cases found
  | some claims =>
    decidable_of_iff (claims.authority = authority)
      ⟨fun same => ⟨claims, read, same⟩, fun ⟨_, found, same⟩ => by
        rw [read] at found; cases found; exact same⟩

def SignedWith (jwt : Jwt) (authority : Authority) (token : Text) : Prop :=
  ∃ ring claims, jwt.sign ring claims = .ok token ∧ claims.authority = authority ∧
    ∀ scope ∈ claims.scopes, ∀ verb ∈ scope.verbs, verb.isValid = true

structure SignedPair (jwt : Jwt) (authority : Authority) (pair : PairResult) : Prop where
  access : SignedWith jwt authority pair.accessToken
  refresh : SignedWith jwt authority pair.refreshToken

section

variable {jwt : Jwt} {authority : Authority} {token : Text} {claims : Claims} {now : Int}
  {ring : KeyRing}

theorem Jwt.payload_of_verify {leeway : Int} {expected : Option TokenType}
    (accepted : jwt.verify ring leeway now token expected = .ok claims) :
    jwt.payload token = some claims := by
  rcases Jwt.verify_inversion accepted with ⟨header, payload, signature, bytes, parts, found⟩
  rcases found with ⟨decoded, read, _⟩
  simp [Jwt.payload, parts, decoded, read]

theorem SignedWith.payload (signedWith : SignedWith jwt authority token)
    (lawful : jwt.json.Lawful) (read : jwt.payload token = some claims) :
    claims.authority = authority := by
  rcases signedWith with ⟨ring, written, signed, same, known⟩
  rcases Jwt.sign_inversion signed with ⟨typed, key, signature, _, _, rfl⟩
  simp only [Jwt.payload, Jwt.splitToken_compact (key.headerText_dotless _)
    (base64Digits_dotless _) (base64Digits_dotless _), base64Decode_base64Digits,
    Option.bind_eq_bind, Option.bind_some] at read
  rw [lawful written claims ⟨typed, known⟩ read, same]

theorem IssuedWith.signedWith (issuedWith : IssuedWith jwt ring now authority token) :
    SignedWith jwt authority token := by
  rcases issuedWith with ⟨claims, issued, same⟩
  exact ⟨ring, claims, issued.signed, same, issued.known⟩

theorem PairIssued.signedPair {pair : PairResult}
    (issued : PairIssued jwt ring now authority pair) :
    SignedPair jwt authority pair :=
  ⟨issued.access.signedWith, issued.refresh.signedWith⟩

end

end Parsec.Auth

namespace Parsec.Refresh

open Foundation Auth Revocation

def RefreshResult.tokens (result : RefreshResult) : List Text :=
  if result.rotated then [result.accessToken, result.refreshToken] else [result.accessToken]

theorem RefreshResult.access_mem_tokens (result : RefreshResult) :
    result.accessToken ∈ result.tokens := by
  unfold RefreshResult.tokens
  split <;> simp

section

variable {jwt : Jwt} {backend : RefreshBackend} {server : Server} {authority : Authority}
  {root token : Text}

theorem refreshAccess_signed {moments : Moments} {records after : RefreshRecords}
    {result : RefreshResult} (lawful : jwt.json.Lawful)
    (signedWith : SignedWith jwt authority token ∨ SignedWith jwt authority.withoutOverride token)
    (returned : refreshAccess jwt backend server moments token records = (.ok result, after)) :
    ∀ handed ∈ result.tokens, SignedWith jwt authority.withoutOverride handed := by
  rcases refreshAccess_issued returned with ⟨claims, verified, access, refresh⟩
  have read := Jwt.payload_of_verify verified
  have kept : claims.authority.withoutOverride = authority.withoutOverride := by
    rcases signedWith with first | later
    · rw [first.payload lawful read]
    · rw [later.payload lawful read, Authority.withoutOverride_withoutOverride]
  rw [kept] at access refresh
  intro handed member
  unfold RefreshResult.tokens at member
  split at member
  · rename_i rotated
    rcases List.mem_pair.mp member with rfl | rfl
    · exact access.signedWith
    · exact (refresh rotated).signedWith
  · cases List.mem_singleton.mp member
    exact access.signedWith

private theorem held_signed (held : Held jwt backend root token) (lawful : jwt.json.Lawful)
    (signedWith : SignedWith jwt authority root) :
    SignedWith jwt authority token ∨ SignedWith jwt authority.withoutOverride token := by
  induction held with
  | root => exact .inl signedWith
  | @rotated token server moments records after result _ returned rotated induction =>
    have member : result.refreshToken ∈ result.tokens := by simp [RefreshResult.tokens, rotated]
    exact .inr (refreshAccess_signed lawful induction returned _ member)

end

/-- After any number of rotations, a call hands out tokens with the authority of the
original pair exactly when that pair had no budget of its own. -/
theorem refresh_keeps_authority_iff {jwt : Jwt} (lawful : jwt.json.Lawful)
    {backend : RefreshBackend} {authority : Authority} {pair : PairResult}
    (original : SignedPair jwt authority pair) {token : Text}
    (held : Held jwt backend pair.refreshToken token) {server : Server} {moments : Moments}
    {records after : RefreshRecords} {result : RefreshResult}
    (returned : refreshAccess jwt backend server moments token records = (.ok result, after))
    (readable : ∀ handed ∈ result.tokens, ∃ claims, jwt.payload handed = some claims) :
    (∀ handed ∈ result.tokens, Carries jwt authority handed) ↔
      authority.rateLimitOverride = none := by
  have signed : ∀ handed ∈ result.tokens, SignedWith jwt authority.withoutOverride handed :=
    refreshAccess_signed lawful (held_signed held lawful original.refresh) returned
  rw [← Authority.withoutOverride_eq_self_iff]
  constructor
  · intro carried
    rcases carried _ result.access_mem_tokens with ⟨claims, read, same⟩
    exact ((signed _ result.access_mem_tokens).payload lawful read).symm.trans same
  · intro same handed member
    rcases readable handed member with ⟨claims, read⟩
    exact ⟨claims, read, ((signed handed member).payload lawful read).trans same⟩

/-! Two families of the user `u1`: one with a budget, and one with scopes. -/

def budgeted : FamilySample where
  rateLimitOverride := some { rate := 10, per := second, burst := 10 }
  json := "\"rl\":\x7b\"rate\":10,\"per\":1000000000,\"burst\":10\x7d,"

def budgetedSamples : List SignedSample :=
  [budgeted.token false 0 300 "AwMDAwMDAwMDAwMDAwMDAw"
      0xc20274a964f604ced98c5fbb4fc243438761d6288e1f190b9bb01e27015fa283,
    budgeted.token true 0 3600 "AQEBAQEBAQEBAQEBAQEBAQ"
      0xfc3588a4070286dceadfdd13744c74451bbdbb194f7c8ed0b2b0ddf8dfef7896,
    plainFamily.token false 4 300 "BQUFBQUFBQUFBQUFBQUFBQ"
      0xb2c8e7db2bd1d143fde791ff42d30ad9f8f648a8376be6ca6acca0de6dd79737,
    plainFamily.token true 4 3600 "BAQEBAQEBAQEBAQEBAQEBA"
      0xb2b6d89b62088b7e45455bba0ba6944450bbc37381141d00d341986b39a9e925]

def granting : FamilySample where
  scopes := [{ pattern := "private:shop.*", verbs := [.subscribe] },
    { pattern := "private:shop.x", verbs := [.subscribe], deny := true }]
  json := "\"scopes\":[\x7b\"pattern\":\"private:shop.*\",\"verbs\":[\"subscribe\"]\x7d," ++
    "\x7b\"pattern\":\"private:shop.x\",\"verbs\":[\"subscribe\"],\"deny\":true\x7d],"

def scopedSamples : List SignedSample :=
  [granting.token false 0 300 "AwMDAwMDAwMDAwMDAwMDAw"
      0x71a97331bdcfe506a6dcd7987c42828b63bbf46097e9706207803efff7b98fb5,
    granting.token true 0 3600 "AQEBAQEBAQEBAQEBAQEBAQ"
      0x702c62f93b51ea1c2fbfebe2e549255400eacd710a28f5c41af50d915df475ff,
    granting.token false 4 300 "BQUFBQUFBQUFBQUFBQUFBQ"
      0x31df60626bbd01ac1b260257d1263a1b1a35e51c64fbb2727ae10b01c3302fa2,
    granting.token true 4 3600 "BAQEBAQEBAQEBAQEBAQEBA"
      0x11f063531828d21ea9a89a62d732e51f9d7b7ab1953d85c3d63b75c2cdb69f70]

def budgetedJwt : Jwt := .ofSamples sampleHeader budgetedSamples sampleSecret

def scopedJwt : Jwt := .ofSamples sampleHeader scopedSamples sampleSecret

def firstDraws : Issuer.PairDraws where
  jti := some (.replicate 16 1)
  fid := some (.replicate 16 2)
  access := some (.replicate 16 3)

def samplePair (samples : List SignedSample) (minutes : Int) (first : Nat) : PairResult :=
  let token (sample : Nat) := ((samples[sample]?).map (SignedSample.token sampleHeader)).getD []
  let now := ofUnix 1735300000 + minutes * minute
  { accessToken := token first, refreshToken := token (first + 1),
    accessExpires := now + 5 * minute, refreshExpires := now + hour }

def PairResult.refreshed (pair : PairResult) : RefreshResult where
  accessToken := pair.accessToken
  accessExpires := pair.accessExpires
  refreshToken := pair.refreshToken
  refreshExpires := some pair.refreshExpires
  rotated := true

def redeem (pair : PairResult) (minutes : Int) (jti access : UInt8) : Call :=
  { rotationCall minutes 0 jti access with token := pair.refreshToken }

section

variable {jwt : Jwt} {backend : RefreshBackend} {records : RefreshRecords}
  {pair next : PairResult} {minutes : Int} {jti access : UInt8}

theorem redeem_returned
    (answered : ((redeem pair minutes jti access).outcome jwt backend records).1 =
      .ok (PairResult.refreshed next)) :
    ∃ server moments after, refreshAccess jwt backend server moments pair.refreshToken records =
      (.ok (PairResult.refreshed next), after) :=
  ⟨_, _, _, Call.outcome_eq answered⟩

end

def budgetedAuthority : Authority :=
  ⟨"u1", ["private:shop.orders.o1"], [], some { rate := 10, per := second, burst := 10 }⟩

/-- The refreshed tokens have the server's budget, not the one of the pair. -/
theorem budget_lost_on_refresh :
    let pair := samplePair budgetedSamples 0 0
    let result := PairResult.refreshed (samplePair budgetedSamples 4 2)
    ({} : Issuer).issuePairWithRateLimit budgetedJwt (redeem pair 4 4 5).server.ring
        (ofUnix 1735300000) "u1" "private:shop.orders.o1" hour { rate := 10 } firstDraws =
      .ok pair ∧
    Carries budgetedJwt budgetedAuthority pair.accessToken ∧
    Carries budgetedJwt budgetedAuthority pair.refreshToken ∧
    ((redeem pair 4 4 5).outcome budgetedJwt .memory .empty).1 = .ok result ∧
    Carries budgetedJwt budgetedAuthority.withoutOverride result.accessToken ∧
    ¬ Carries budgetedJwt budgetedAuthority result.accessToken ∧
    ¬ Carries budgetedJwt budgetedAuthority result.refreshToken := by
  decide +kernel

theorem refresh_keeps_authority_iff_of_scopes :
    let authority : Authority := ⟨"u1", ["private:shop.orders.o1"], granting.scopes, none⟩
    let result := PairResult.refreshed (samplePair scopedSamples 4 2)
    (∀ handed ∈ result.tokens, Carries scopedJwt authority handed) ↔
      authority.rateLimitOverride = none := by
  have evaluated :
      (∀ sample ∈ scopedSamples, utf8 sample.json ≠ []) ∧
      (scopedSamples.map fun sample => utf8 sample.json).Nodup ∧
      ({} : Issuer).issuePair scopedJwt rotationFirst.server.ring (ofUnix 1735300000) "u1"
        "private:shop.orders.o1" hour granting.scopes firstDraws =
          .ok (samplePair scopedSamples 0 0) ∧
      ((redeem (samplePair scopedSamples 0 0) 4 4 5).outcome scopedJwt .memory .empty).1 =
        .ok (PairResult.refreshed (samplePair scopedSamples 4 2)) ∧
      ∀ handed ∈ (PairResult.refreshed (samplePair scopedSamples 4 2)).tokens,
        (scopedJwt.payload handed).isSome = true := by
    decide +kernel
  rcases evaluated with ⟨written, distinct, issued, answered, readable⟩
  rcases redeem_returned answered with ⟨server, moments, after, returned⟩
  exact refresh_keeps_authority_iff (Json.ofSamples_lawful written distinct)
    (Issuer.issuePair_issued issued).signedPair .root returned
    fun handed member => Option.isSome_iff_exists.mp (readable handed member)

end Parsec.Refresh
