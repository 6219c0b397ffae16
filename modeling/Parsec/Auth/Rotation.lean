import Parsec.Auth.Snapshot
import Parsec.Auth.Token

/-! # Tokens across rotations

A token verifies as the claims it was signed over for as long as its signing key is not
retired, whatever else happens to the ring, and never again afterwards. -/

namespace Parsec.Auth

open Foundation

/-- What a signature scheme promises of a key pair: what the private half signs, the public
half verifies. The two numbers of an ECDSA signature fit the curve. -/
def Crypto.Verifies (crypto : Crypto) : PrivateKey → Prop
  | .rsa pair => ∀ message signature, crypto.signRSA pair message = .ok signature →
      crypto.verifyRSA pair.toRSAPublicKey message signature = true
  | .ed25519 pair => ∀ message,
      crypto.verifyEd25519 (pair.drop 32) message (crypto.signEd25519 pair message) = true
  | .ecdsa pair => ∀ alg message r s, algForCurve pair.curve = .ok alg →
      crypto.signECDSA pair alg message = .ok (r, s) →
      r < 256 ^ coordSize alg ∧ s < 256 ^ coordSize alg ∧
        crypto.verifyECDSA pair.toECDSAPublicKey alg message (r, s) = true

structure Key.Sound (crypto : Crypto) (key : Key) : Prop where
  supported : key.alg.orDefault = key.alg ∧ key.alg.valid = .ok ()
  named : key.id ≠ ""
  header : key.header = some { alg := key.alg, kid := key.id, typ := "JWT" }
  verifies : ∀ {message : Text} {signature : Bytes},
    signWith crypto key message = .ok signature → verifyWith crypto key message signature = .ok ()

variable {crypto : Crypto}

theorem verifyWith_congr {left right : Key} (same : left.SameMaterial right) (message : Text)
    (signature : Bytes) :
    verifyWith crypto left message signature = verifyWith crypto right message signature := by
  simp only [verifyWith, same.alg, same.secret, same.publicKey]

variable {key : Key} {message : Text} {signature : Bytes}

theorem verifies_of_symmetric (symmetric : key.alg = .hs256)
    (signed : signWith crypto key message = .ok signature) :
    verifyWith crypto key message signature = .ok () := by
  simp only [signWith, symmetric, Alg.orDefault, Except.ok.injEq] at signed
  simp [verifyWith, symmetric, Alg.orDefault, signed]

theorem algForCurve_cases {curve : Curve} {alg : Alg} (suited : algForCurve curve = .ok alg) :
    alg = .es256 ∨ alg = .es384 := by
  cases curve <;> simp_all [algForCurve]

theorem signWith_ecdsa {pair : ECDSAPrivateKey} (curve : algForCurve pair.curve = .ok key.alg)
    (signing : key.privateKey = some (.ecdsa pair))
    (signed : signWith crypto key message = .ok signature) :
    ∃ r s, crypto.signECDSA pair key.alg message = .ok (r, s) ∧
      signature = bigEndian (coordSize key.alg) r ++ bigEndian (coordSize key.alg) s := by
  cases made : crypto.signECDSA pair key.alg message with
  | error text =>
    rcases algForCurve_cases curve with alg | alg <;>
      simp [signWith, alg, Alg.orDefault, signing, alg ▸ made] at signed
  | ok numbers =>
    refine ⟨numbers.1, numbers.2, rfl, ?_⟩
    rcases algForCurve_cases curve with alg | alg <;>
      simp only [signWith, alg, Alg.orDefault, signing, alg ▸ made, Except.ok.injEq] at signed
    all_goals rw [alg]; exact signed.symm

theorem verifyWith_ecdsa {pair : ECDSAPublicKey} (curve : algForCurve pair.curve = .ok key.alg)
    (verifying : key.publicKey = some (.ecdsa pair))
    (length : signature.length = 2 * coordSize key.alg)
    (checked : crypto.verifyECDSA pair key.alg message
      (ofBigEndian (signature.take (coordSize key.alg)),
        ofBigEndian (signature.drop (coordSize key.alg))) = true) :
    verifyWith crypto key message signature = .ok () := by
  rcases algForCurve_cases curve with alg | alg <;>
    (rw [alg] at curve length checked
     simp [verifyWith, alg, Alg.orDefault, verifying, curve, length, checked])

theorem verifies_of_pair {pair : PrivateKey} (signing : key.privateKey = some pair)
    (verifying : key.publicKey = some pair.publicKey) (suits : pair.Suits key.alg)
    (correct : crypto.Verifies pair) (signed : signWith crypto key message = .ok signature) :
    verifyWith crypto key message signature = .ok () := by
  cases pair with
  | rsa pair =>
    have alg : key.alg = .rs256 := by
      have typed := suits.1
      revert typed
      cases key.alg <;> simp [PrivateKey.hasTypeFor]
    simp only [signWith, alg, Alg.orDefault, signing] at signed
    simp [verifyWith, alg, Alg.orDefault, verifying, PrivateKey.publicKey,
      correct message signature signed]
  | ed25519 pair =>
    have alg : key.alg = .edDSA := by
      have typed := suits.1
      revert typed
      cases key.alg <;> simp [PrivateKey.hasTypeFor]
    simp only [signWith, alg, Alg.orDefault, signing, Except.ok.injEq] at signed
    simp [verifyWith, alg, Alg.orDefault, verifying, PrivateKey.publicKey, ← signed,
      correct message]
  | ecdsa pair =>
    have curve : algForCurve pair.curve = .ok key.alg := suits.2 pair rfl
    rcases signWith_ecdsa curve signing signed with ⟨r, s, made, rfl⟩
    rcases correct _ _ _ _ curve made with ⟨rFits, sFits, checked⟩
    have width := bigEndian_length (coordSize key.alg)
    refine verifyWith_ecdsa curve verifying ?_ ?_
    · rw [List.length_append, width, width]
      omega
    · rw [List.take_left' (width r), List.drop_left' (width r), ofBigEndian_bigEndian rFits,
        ofBigEndian_bigEndian sFits]
      exact checked

variable {ring : KeyRing}

theorem Operation.Makes.sound {operation : Operation} {now : Int} (made : operation.Makes now key)
    (genuine : ∀ alg pair, operation.Brings alg pair → pair.Suits alg ∧ crypto.Verifies pair)
    (accepted : ring.Accepts key) : key.Sound crypto := by
  rcases accepted.header with ⟨header, built, cached⟩
  rcases buildHeader_eq_ok.mp built with ⟨named, supported, rfl⟩
  have default : key.alg.orDefault = key.alg := by
    rcases made with symmetric | ⟨alg, pair, brought, paired⟩
    · rw [symmetric.alg]
      rfl
    · rw [paired.alg]
      rcases (genuine alg pair brought).1.isAsymmetric with rfl | rfl | rfl | rfl <;> rfl
  refine ⟨⟨default, default ▸ supported⟩, named, default ▸ cached, ?_⟩
  intro message signature signed
  rcases made with symmetric | ⟨alg, pair, brought, paired⟩
  · exact verifies_of_symmetric symmetric.alg signed
  · rcases genuine alg pair brought with ⟨suits, correct⟩
    exact verifies_of_pair paired.privateKey paired.publicKey (paired.alg ▸ suits) correct signed

theorem Key.Sound.roleFree (role : Role) (sound : key.Sound crypto) :
    { key with role := role }.Sound crypto :=
  ⟨sound.supported, sound.named, sound.header, sound.verifies⟩

/-- The header of `key`'s tokens and the payload `claims` read back as they were written. -/
structure Json.Keeps (json : Json) (key : Key) (claims : Claims) : Prop where
  header : ∀ header, key.header = some header → json.readHeader (json.ofHeader header) = some header
  claims : json.readClaims (json.ofClaims claims) = some claims

theorem KeyRing.activeKey_eq_ok :
    ring.activeKey = .ok key ↔ ring.active ≠ "" ∧ ring.byID[ring.active]? = some key := by
  unfold KeyRing.activeKey
  split
  · simp_all
  · split <;> simp_all

theorem KeyRing.get_eq_ok {id : String} :
    ring.get id = .ok key ↔ ring.byID[id]? = some key ∧ key.role ≠ .retired := by
  unfold KeyRing.get
  cases stored : ring.byID[id]? with
  | none => simp
  | some found =>
    by_cases gone : found.role = .retired
    · simp only [gone, if_true, reduceCtorEq, Option.some.injEq, false_iff, not_and, not_not]
      rintro rfl
      exact gone
    · simp only [gone, if_false, Except.ok.injEq, Option.some.injEq]
      constructor
      · rintro rfl
        exact ⟨rfl, gone⟩
      · exact And.left

namespace Jwt

def header (jwt : Jwt) (token : Text) : Option JoseHeader := do
  let (header, _, _) ← splitToken token
  jwt.json.readHeader (← base64Decode header)

variable {ring : KeyRing}
  {claims : Claims}
  {jwt : Jwt} {token : Text}

theorem verify_names_key {leeway now : Int} {expected : Option TokenType}
    (accepted : jwt.verify ring leeway now token expected = .ok claims) :
    ∃ header key, jwt.header token = some header ∧ ring.get header.kid = .ok key ∧
      header.alg = key.alg.orDefault := by
  simp only [Jwt.verify, bind_eq_ok, required_eq_ok] at accepted
  rcases accepted with ⟨⟨header, payload, signature⟩, parts, bytes, decoded, parsed, read, accepted⟩
  rcases accepted with ⟨key, checked, _⟩
  simp only [checkHeader, bind_eq_ok, ensure_eq_ok, mapError_eq_ok] at checked
  rcases checked with ⟨_, _, _, _, _, _, found, known, _, same, equal⟩
  cases equal
  exact ⟨parsed, key, by simp [Jwt.header, parts, decoded, read], known, same⟩

theorem checkHeader_eq_ok {signer found : Key}
    (supported : signer.alg.orDefault = signer.alg ∧ signer.alg.valid = .ok ())
    (named : signer.id ≠ "") (stored : ring.get signer.id = .ok found)
    (same : found.SameMaterial signer) :
    checkHeader ring { alg := signer.alg, kid := signer.id, typ := "JWT" } = .ok found := by
  simp only [checkHeader, bind_eq_ok, ensure_eq_ok, mapError_eq_ok]
  refine ⟨(), trivial, (), named, (), supported.2, found, stored, (), ?_, rfl⟩
  rw [same.alg, supported.1]

section

variable {jwt : Jwt} {ring verifying : KeyRing} {signer : Key} {claims : Claims} {token : Text}
  (active : ring.activeKey = .ok signer) (sound : signer.Sound jwt.crypto)
  (keeps : jwt.json.Keeps signer claims) (signed : jwt.sign ring claims = .ok token)

include active sound keeps signed

theorem header_of_sign :
    jwt.header token = some { alg := signer.alg, kid := signer.id, typ := "JWT" } := by
  rcases sign_inversion signed with ⟨_, key, signature, activeKey, _, rfl⟩
  rw [active] at activeKey
  cases activeKey
  have parts := splitToken_compact (signer.headerText_dotless jwt.json)
    (base64Digits_dotless (jwt.json.ofClaims claims)) (base64Digits_dotless signature)
  simp only [Jwt.header, parts, Option.bind_eq_bind, Option.bind_some]
  simp [Key.headerText, sound.header, base64Decode_base64Digits, keeps.header _ sound.header]

theorem verify_of_sign {found : Key} (stored : verifying.get signer.id = .ok found)
    (same : found.SameMaterial signer) {leeway now : Int} {expected : Option TokenType}
    (started : claims.issuedAt - leeway ≤ now) (unexpired : now ≤ claims.expiresAt + leeway)
    (typed : expected = none ∨ expected = some claims.typ) :
    jwt.verify verifying leeway now token expected = .ok claims := by
  rcases sign_inversion signed with ⟨valid, key, signature, activeKey, made, rfl⟩
  rw [active] at activeKey
  cases activeKey
  have header : signer.headerText jwt.json =
      base64Digits (jwt.json.ofHeader { alg := signer.alg, kid := signer.id, typ := "JWT" }) := by
    rw [Key.headerText, sound.header]
  have parts := splitToken_compact (signer.headerText_dotless jwt.json)
    (base64Digits_dotless (jwt.json.ofClaims claims)) (base64Digits_dotless signature)
  have checked : checkClaims now leeway expected claims = .ok () := by
    simp only [checkClaims, bind_eq_ok, ensure_eq_ok]
    exact ⟨(), valid, (), by omega, (), by omega, typed⟩
  simp only [Jwt.verify, bind_eq_ok, required_eq_ok]
  refine ⟨_, parts, _, ?_, _, keeps.header _ sound.header, found,
    checkHeader_eq_ok sound.supported sound.named stored same, signature,
    base64Decode_base64Digits _, (), ?_, _, base64Decode_base64Digits _, claims, keeps.claims, (),
    checked, rfl⟩
  · rw [header, base64Decode_base64Digits]
  · rw [verifyWith_congr same]
    exact sound.verifies made

theorem refused_of_sign {message : String} (gone : verifying.get signer.id = .error message)
    (leeway now : Int) (expected : Option TokenType) :
    ∃ error, jwt.verify verifying leeway now token expected = .error error := by
  cases outcome : jwt.verify verifying leeway now token expected with
  | error error => exact ⟨error, rfl⟩
  | ok result =>
    rcases verify_names_key outcome with ⟨header, key, named, stored, _⟩
    rw [header_of_sign active sound keeps signed] at named
    cases named
    rw [gone] at stored
    cases stored

end

end Jwt

/-- Every token signed under a reachable ring verifies as its claims in its window, after any
later calls that leave its key unretired, and is refused once the key is retired. An accepted
token claims the algorithm of the live key it names. -/
theorem rotation_keeps_tokens (jwt : Jwt) (before : List (Operation × Int))
    (genuine : ∀ operation ∈ before, ∀ alg pair, operation.1.Brings alg pair →
      pair.Suits alg ∧ jwt.crypto.Verifies pair) :
    let ring := KeyRing.empty.performAll before
    (∀ signer claims token, ring.activeKey = .ok signer → jwt.json.Keeps signer claims →
      jwt.sign ring claims = .ok token → ∀ later,
      let final := ring.performAll later
      (¬ final.IsRetired ring.active → ∀ leeway now expected,
        claims.issuedAt - leeway ≤ now → now ≤ claims.expiresAt + leeway →
        (expected = none ∨ expected = some claims.typ) →
          jwt.verify final leeway now token expected = .ok claims) ∧
      (final.IsRetired ring.active → ∀ leeway now expected,
        ∃ error, jwt.verify final leeway now token expected = .error error)) ∧
    ∀ leeway now token expected claims,
      jwt.verify ring leeway now token expected = .ok claims →
        ∃ header key, jwt.header token = some header ∧ ring.byID[header.kid]? = some key ∧
          key.role ≠ .retired ∧ header.alg = key.alg := by
  intro ring
  have valid : ring.WellFormed := KeyRing.performAll_wellFormed before KeyRing.empty_wellFormed
  have sound : ring.LiveKeys (Key.Sound jwt.crypto) :=
    KeyRing.liveKeys_of_operations Key.Sound.roleFree fun operation member _ _ accepted made =>
      made.sound (genuine operation member) accepted
  refine ⟨?_, ?_⟩
  · intro signer claims token active keeps signed later final
    rcases KeyRing.activeKey_eq_ok.mp active with ⟨started, stored⟩
    have signs : signer.role ≠ .retired := by
      rcases valid.signing started with ⟨other, found, signs⟩
      rw [stored] at found
      cases found
      rw [signs]
      decide
    have signerSound := sound _ _ stored signs
    have named : signer.id = ring.active := valid.keyed stored
    refine ⟨?_, ?_⟩
    · intro unretired leeway now expected begun unexpired typed
      rcases KeyRing.performAll_keeps later stored with ⟨found, kept, same⟩
      have live : found.role ≠ .retired := fun gone => unretired ⟨found, kept, gone⟩
      exact Jwt.verify_of_sign active signerSound keeps signed
        (KeyRing.get_eq_ok.mpr ⟨named ▸ kept, live⟩) same begun unexpired typed
    · intro gone leeway now expected
      rcases KeyRing.get_of_isRetired gone with ⟨message, refused⟩
      exact Jwt.refused_of_sign active signerSound keeps signed (named ▸ refused) leeway now
        expected
  · intro leeway now token expected claims accepted
    rcases Jwt.verify_names_key accepted with ⟨header, key, read, found, same⟩
    rcases KeyRing.get_eq_ok.mp found with ⟨stored, live⟩
    refine ⟨header, key, read, stored, live, ?_⟩
    rw [same, (sound _ _ stored live).supported.1]

def handoverHeader : JoseHeader × String :=
  ({ alg := .hs256, kid := "first", typ := "JWT" },
    "\x7b\"alg\":\"HS256\",\"kid\":\"first\",\"typ\":\"JWT\"\x7d")

def handoverSample : SignedSample where
  claims := { sub := "u1", typ := .access, chs := ["private:shop.orders.o1"],
              iat := 1735300000, exp := 1735300300 }
  json := "\x7b\"sub\":\"u1\",\"typ\":\"access\",\"chs\":[\"private:shop.orders.o1\"]," ++
    "\"iat\":1735300000,\"exp\":1735300300\x7d"
  mac := 0x4c0ee4f801024948b6749465605753f572bfad8bd88c23c8241dbaad7b034079

def handoverJwt : Jwt := .ofSamples handoverHeader [handoverSample] (List.replicate 32 1)

def handoverSigner : Key where
  id := "first"
  alg := .hs256
  secret := List.replicate 32 1
  role := .active
  createdAt := 0
  header := some handoverHeader.1

def handover : List (Operation × Int) :=
  [(.add "second" (List.replicate 32 2), 1), (.promote "second", 2)]

/-- The token of the first key outlives the promotion of the second, not its own key's
retirement. -/
theorem rotation_keeps_tokens_of_handover :
    let ring := KeyRing.empty.performAll [(.add "first" (List.replicate 32 1), 0)]
    let token := handoverSample.token handoverHeader
    let now := ofUnix 1735300000 + minute
    handoverJwt.sign ring handoverSample.claims = .ok token ∧
      handoverJwt.verify (ring.performAll handover) 0 now token (some .access) =
        .ok handoverSample.claims ∧
      (∃ error, handoverJwt.verify (ring.performAll (handover ++ [(.retire "first", 3)])) 0 now
        token (some .access) = .error error) ∧
      ∃ header key, handoverJwt.header token = some header ∧
        ring.byID[header.kid]? = some key ∧ key.role ≠ .retired ∧ header.alg = key.alg := by
  intro ring token now
  have kept := rotation_keeps_tokens handoverJwt [(.add "first" (List.replicate 32 1), 0)]
    (by
      intro operation member alg pair brought
      rw [List.mem_singleton] at member
      subst member
      cases brought with
      | drawn draws _ => cases draws)
  have keeps : handoverJwt.json.Keeps handoverSigner handoverSample.claims := by
    refine ⟨fun header cached => ?_, by decide +kernel⟩
    cases cached
    decide +kernel
  have signed : handoverJwt.sign ring handoverSample.claims = .ok token := by decide +kernel
  have tokens := kept.1 handoverSigner handoverSample.claims token (by decide +kernel) keeps
    signed
  have live : ¬ (ring.performAll handover).IsRetired ring.active := by
    rintro ⟨key, stored, gone⟩
    have found : (ring.performAll handover).byID[ring.active]? =
        some { handoverSigner with role := .verifyOnly } := by decide +kernel
    rw [found] at stored
    cases stored
    cases gone
  have accepted := kept.2 0 now token (some .access) handoverSample.claims (by decide +kernel)
  refine ⟨signed, (tokens handover).1 live 0 now (some .access) (by decide) (by decide)
    (.inr rfl), (tokens _).2 ⟨{ handoverSigner with role := .retired, retiredAt := some 3 },
      by decide +kernel, rfl⟩ 0 now (some .access), accepted⟩

end Parsec.Auth
