import Parsec.Foundation.Fallible
import Parsec.Auth.KeyRing
import Parsec.Auth.Claims

/-! # Signing and verifying tokens

The compact form `header.payload.signature` of a token, each part in base 64. JSON and the
cryptographic primitives are parameters. -/

namespace Parsec.Auth

open Foundation Channels

structure Json where
  ofHeader : JoseHeader → Bytes
  readHeader : Bytes → Option JoseHeader
  ofClaims : Claims → Bytes
  readClaims : Bytes → Option Claims

structure Crypto where
  hmacSHA256 : Bytes → Text → Bytes
  signRSA : RSAPrivateKey → Text → Except String Bytes
  verifyRSA : RSAPublicKey → Text → Bytes → Bool
  signEd25519 : Bytes → Text → Bytes
  verifyEd25519 : Bytes → Text → Bytes → Bool
  signECDSA : ECDSAPrivateKey → Alg → Text → Except String (Nat × Nat)
  verifyECDSA : ECDSAPublicKey → Alg → Text → Nat × Nat → Bool

structure Jwt where
  json : Json
  crypto : Crypto

def coordSize : Alg → Nat
  | .es384 => 48
  | _ => 32

def signWith (crypto : Crypto) (key : Key) (message : Text) : Except String Bytes :=
  let mismatch (kind : String) : String :=
    "auth: key " ++ key.id.quote ++ " has alg " ++ key.alg.orDefault.text ++ " but non-" ++
      kind ++ " private key"
  match key.alg.orDefault with
  | .hs256 => .ok (crypto.hmacSHA256 key.secret message)
  | .rs256 =>
    match key.privateKey with
    | some (.rsa pair) => crypto.signRSA pair message
    | _ => .error (mismatch "RSA")
  | .edDSA =>
    match key.privateKey with
    | some (.ed25519 pair) => .ok (crypto.signEd25519 pair message)
    | _ => .error (mismatch "Ed25519")
  | .es256 | .es384 =>
    match key.privateKey with
    | some (.ecdsa pair) =>
      match crypto.signECDSA pair key.alg message with
      | .error text => .error ("auth: ecdsa sign: " ++ text)
      | .ok (r, s) =>
        .ok (bigEndian (coordSize key.alg) r ++ bigEndian (coordSize key.alg) s)
    | _ => .error (mismatch "ECDSA")
  | alg => .error ("auth: cannot sign with alg " ++ alg.text.quote)

def Key.headerText (json : Json) (key : Key) : Text :=
  match key.header with
  | some header => base64Digits (json.ofHeader header)
  | none => []

namespace Jwt

def signingInput (header payload : Text) : Text := header ++ '.' :: payload

def compact (header payload signature : Text) : Text :=
  signingInput header payload ++ '.' :: signature

def sign (jwt : Jwt) (ring : KeyRing) (claims : Claims) : Except String Text := do
  ensure (claims.typ.isValid) "unknown token type"
  ensure (claims.iat ≠ 0 ∧ claims.exp ≠ 0) "auth: iat and exp are required"
  ensure (claims.iat < claims.exp) "auth: exp must be after iat"
  let key ← ring.activeKey
  let header := key.headerText jwt.json
  let payload := base64Digits (jwt.json.ofClaims claims)
  let signature ← signWith jwt.crypto key (signingInput header payload)
  return compact header payload (base64Digits signature)

def splitToken (token : Text) : Option (Text × Text × Text) :=
  match token.splitOn '.' with
  | [header, payload, signature] => some (header, payload, signature)
  | _ => none

end Jwt

def verifyWith (crypto : Crypto) (key : Key) (message : Text) (signature : Bytes) :
    Except VerifyError Unit :=
  let check (valid : Bool) : Except VerifyError Unit :=
    if valid then .ok () else .error .invalidSignature
  match key.alg.orDefault with
  | .hs256 => check (crypto.hmacSHA256 key.secret message = signature)
  | .rs256 =>
    match key.publicKey with
    | some (.rsa pair) => check (crypto.verifyRSA pair message signature)
    | _ => .error .invalidSignature
  | .edDSA =>
    match key.publicKey with
    | some (.ed25519 pair) => check (crypto.verifyEd25519 pair message signature)
    | _ => .error .invalidSignature
  | .es256 | .es384 =>
    match key.publicKey with
    | some (.ecdsa pair) =>
      let width := coordSize key.alg
      if signature.length ≠ 2 * width then .error .invalidSignature
      else if algForCurve pair.curve ≠ .ok key.alg then .error .invalidSignature
      else check (crypto.verifyECDSA pair key.alg message
        (ofBigEndian (signature.take width), ofBigEndian (signature.drop width)))
    | _ => .error .invalidSignature
  | alg => .error (.other ("auth: cannot verify alg " ++ alg.text.quote))

def checkHeader (ring : KeyRing) (header : JoseHeader) : Except VerifyError Key := do
  ensure (header.typ = "JWT") .unsupportedAlg
  ensure (header.kid ≠ "") .malformedToken
  header.alg.valid.mapError fun _ => .unsupportedAlg
  let key ← (ring.get header.kid).mapError fun _ => .invalidSignature
  ensure (header.alg = key.alg.orDefault) .unsupportedAlg
  return key

def checkClaims (now leeway : Int) (expected : Option TokenType) (claims : Claims) :
    Except VerifyError Unit := do
  ensure (claims.typ.isValid) .malformedToken
  ensure (now - claims.expiresAt ≤ leeway) .expired
  ensure (claims.issuedAt - now ≤ leeway) .notYetValid
  ensure (expected = none ∨ expected = some claims.typ) .typeMismatch

def Jwt.verify (jwt : Jwt) (ring : KeyRing) (leeway now : Int) (token : Text)
    (expected : Option TokenType) : Except VerifyError Claims := do
  let (header, payload, signature) ← required .malformedToken (splitToken token)
  let headerBytes ← required .malformedToken (base64Decode header)
  let parsed ← required .malformedToken (jwt.json.readHeader headerBytes)
  let key ← checkHeader ring parsed
  let got ← required .malformedToken (base64Decode signature)
  verifyWith jwt.crypto key (signingInput header payload) got
  let payloadBytes ← required .malformedToken (base64Decode payload)
  let claims ← required .malformedToken (jwt.json.readClaims payloadBytes)
  checkClaims now leeway expected claims
  return claims

structure VerifierState where
  ring : KeyRing
  now : Int
  leeway : Int := 0

def VerifierState.verify (state : VerifierState) (jwt : Jwt) (token : Text)
    (expected : Option TokenType) : Except VerifyError Claims :=
  jwt.verify state.ring state.leeway state.now token expected

def Claims.Canonical (claims : Claims) : Prop :=
  claims.typ.isValid = true ∧ ∀ scope ∈ claims.scopes, ∀ verb ∈ scope.verbs, verb.isValid = true

def Json.Lawful (json : Json) : Prop :=
  ∀ claims read, claims.Canonical → json.readClaims (json.ofClaims claims) = some read →
    read = claims

theorem base64Digits_dotless (bytes : Bytes) : '.' ∉ base64Digits bytes :=
  fun member => (base64Digits_plain bytes '.' member).1 rfl

theorem Key.headerText_dotless (json : Json) (key : Key) : '.' ∉ key.headerText json := by
  unfold Key.headerText
  split
  · exact base64Digits_dotless _
  · simp

theorem Jwt.splitToken_compact {header payload signature : Text}
    (headerDotless : '.' ∉ header) (payloadDotless : '.' ∉ payload)
    (signatureDotless : '.' ∉ signature) :
    splitToken (compact header payload signature) = some (header, payload, signature) := by
  have joined : compact header payload signature =
      ['.'].intercalate [header, payload, signature] := by
    simp [compact, signingInput, List.intercalate]
  have parts := List.splitOn_intercalate '.'
    (show ∀ part ∈ [header, payload, signature], '.' ∉ part by
      simp [headerDotless, payloadDotless, signatureDotless]) (by simp)
  rw [splitToken, joined, parts]

section

variable {jwt : Jwt} {ring : KeyRing} {leeway now : Int} {token : Text}
  {expected : Option TokenType} {claims : Claims}
  (accepted : jwt.verify ring leeway now token expected = .ok claims)
include accepted

theorem Jwt.verify_inversion :
    ∃ header payload signature bytes, splitToken token = some (header, payload, signature) ∧
      base64Decode payload = some bytes ∧ jwt.json.readClaims bytes = some claims ∧
      checkClaims now leeway expected claims = .ok () := by
  simp only [Jwt.verify, bind_eq_ok, required_eq_ok] at accepted
  rcases accepted with ⟨⟨header, payload, signature⟩, parts, accepted⟩
  rcases accepted with ⟨_, _, _, _, _, _, _, _, _, _, bytes, decoded, read, payloadRead, accepted⟩
  rcases accepted with ⟨_, checked, equal⟩
  cases equal
  exact ⟨header, payload, signature, bytes, parts, decoded, payloadRead, checked⟩

theorem Jwt.verify_unique {other : KeyRing} {otherLeeway time : Int}
    {otherExpected : Option TokenType} {again : Claims}
    (acceptedAgain : jwt.verify other otherLeeway time token otherExpected = .ok again) :
    again = claims := by
  rcases Jwt.verify_inversion accepted with ⟨_, _, _, _, parts, decoded, read, _⟩
  rcases Jwt.verify_inversion acceptedAgain with
    ⟨_, _, _, _, partsAgain, decodedAgain, readAgain, _⟩
  rw [parts] at partsAgain
  cases partsAgain
  rw [decoded] at decodedAgain
  cases decodedAgain
  rw [read] at readAgain
  cases readAgain
  rfl

end

theorem Jwt.sign_inversion {jwt : Jwt} {ring : KeyRing} {claims : Claims} {token : Text}
    (signed : jwt.sign ring claims = .ok token) :
    claims.typ.isValid = true ∧ ∃ key signature, ring.activeKey = .ok key ∧
      signWith jwt.crypto key (signingInput (key.headerText jwt.json)
        (base64Digits (jwt.json.ofClaims claims))) = .ok signature ∧
      token = compact (key.headerText jwt.json) (base64Digits (jwt.json.ofClaims claims))
        (base64Digits signature) := by
  simp only [Jwt.sign, bind_eq_ok, ensure_eq_ok] at signed
  rcases signed with ⟨_, typed, _, _, _, _, key, active, signature, made, equal⟩
  cases equal
  exact ⟨typed, key, signature, active, made, rfl⟩

theorem Jwt.verify_signed {jwt : Jwt} (lawful : jwt.json.Lawful) {signer verifier : KeyRing}
    {leeway now : Int} {token : Text} {expected : Option TokenType} {claims result : Claims}
    (known : ∀ scope ∈ claims.scopes, ∀ verb ∈ scope.verbs, verb.isValid = true)
    (signed : jwt.sign signer claims = .ok token)
    (accepted : jwt.verify verifier leeway now token expected = .ok result) :
    result = claims := by
  rcases Jwt.sign_inversion signed with ⟨typed, key, signature, _, _, rfl⟩
  rcases Jwt.verify_inversion accepted with ⟨_, _, _, bytes, parts, decoded, read, _⟩
  rw [Jwt.splitToken_compact (key.headerText_dotless _) (base64Digits_dotless _)
    (base64Digits_dotless _)] at parts
  cases parts
  rw [base64Decode_base64Digits] at decoded
  cases decoded
  exact lawful _ _ ⟨typed, known⟩ read

/-! ## Parameters known on finitely many tokens

The JSON texts and authentication codes of the tokens of one scenario. Any other payload is
written as no bytes, which do not read back. -/

def utf8 (text : String) : Bytes := text.toByteArray.data.toList

structure SignedSample where
  claims : Claims
  json : String
  mac : Nat

def SignedSample.signature (sample : SignedSample) : Bytes := bigEndian 32 sample.mac

structure FamilySample where
  rateLimitOverride : Option Limit := none
  scopes : List Scope := []
  json : String := ""

/-- A token of the user `u1`; a refresh token names the family. -/
def FamilySample.token (family : FamilySample) (refresh : Bool) (minutes lifetime : Nat)
    (jti : String) (mac : Nat) : SignedSample :=
  let iat := 1735300000 + 60 * minutes
  let exp := iat + lifetime
  { claims :=
      { sub := "u1", typ := if refresh then .refresh else .access,
        chs := ["private:shop.orders.o1"], iat := iat, exp := exp,
        rateLimitOverride := family.rateLimitOverride, scopes := family.scopes,
        jti := jti, fid := if refresh then "AgICAgICAgICAgICAgICAg" else "" }
    json :=
      "\x7b\"sub\":\"u1\",\"typ\":\"" ++ (if refresh then "refresh" else "access") ++
      "\",\"chs\":[\"private:shop.orders.o1\"],\"iat\":" ++ toString iat ++
      ",\"exp\":" ++ toString exp ++ "," ++ family.json ++ "\"jti\":\"" ++ jti ++
      (if refresh then "\",\"fid\":\"AgICAgICAgICAgICAgICAg\"\x7d" else "\"\x7d")
    mac := mac }

def plainFamily : FamilySample := {}

def sampleHeader : JoseHeader × String :=
  ({ alg := .hs256, kid := "k1", typ := "JWT" },
    "\x7b\"alg\":\"HS256\",\"kid\":\"k1\",\"typ\":\"JWT\"\x7d")

def sampleSecret : Bytes := List.replicate 32 7

section

variable (header : JoseHeader × String) (samples : List SignedSample)

def Json.ofSamples : Json where
  ofHeader := fun value => if value = header.1 then utf8 header.2 else []
  readHeader := fun bytes => if bytes = utf8 header.2 then some header.1 else none
  ofClaims := fun claims =>
    ((samples.find? fun sample => sample.claims = claims).map fun sample =>
      utf8 sample.json).getD []
  readClaims := fun bytes =>
    (samples.find? fun sample => utf8 sample.json = bytes).map SignedSample.claims

def Crypto.ofSamples (secret : Bytes) : Crypto where
  hmacSHA256 := fun key message =>
    ((samples.find? fun sample => key = secret ∧ Jwt.signingInput
      (base64Digits (utf8 header.2)) (base64Digits (utf8 sample.json)) = message).map
        SignedSample.signature).getD []
  signRSA := fun _ _ => .error ""
  verifyRSA := fun _ _ _ => false
  signEd25519 := fun _ _ => []
  verifyEd25519 := fun _ _ _ => false
  signECDSA := fun _ _ _ => .error ""
  verifyECDSA := fun _ _ _ _ => false

def Jwt.ofSamples (secret : Bytes) : Jwt where
  json := .ofSamples header samples
  crypto := .ofSamples header samples secret

def SignedSample.token (sample : SignedSample) : Text :=
  Jwt.compact (base64Digits (utf8 header.2)) (base64Digits (utf8 sample.json))
    (base64Digits sample.signature)

variable {header samples}

theorem Json.ofSamples_lawful (written : ∀ sample ∈ samples, utf8 sample.json ≠ [])
    (distinct : (samples.map fun sample => utf8 sample.json).Nodup) :
    (Json.ofSamples header samples).Lawful := by
  intro claims read _ readBack
  rcases Option.map_eq_some_iff.mp readBack with ⟨second, found, rfl⟩
  have secondMember := List.mem_of_find?_eq_some found
  have secondText : utf8 second.json = (Json.ofSamples header samples).ofClaims claims := by
    simpa using List.find?_some found
  cases first : samples.find? fun sample => sample.claims = claims with
  | none =>
    simp only [Json.ofSamples, first, Option.map_none, Option.getD_none] at secondText
    exact absurd secondText (written second secondMember)
  | some sample =>
    have firstClaims : sample.claims = claims := by simpa using List.find?_some first
    simp only [Json.ofSamples, first, Option.map_some, Option.getD_some] at secondText
    rw [List.inj_on_of_nodup_map distinct secondMember (List.mem_of_find?_eq_some first)
      secondText, firstClaims]

end

end Parsec.Auth
