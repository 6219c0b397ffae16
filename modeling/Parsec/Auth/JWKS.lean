import Parsec.Auth.Persistence

/-! # The published keys

The JWKS document of a key ring, and that it shows the live key pairs by their public halves
and nothing else. -/

namespace Parsec.Auth

open Foundation Std

def bigIntBytes (value : Nat) : Bytes := bigEndian ((value.size + 7) / 8) value

/-- The loop puts one byte before the others in each round; `rounds` bounds their number. -/
def exponentBytes (rounds exponent : Nat) (buffer : Bytes) : Bytes :=
  match rounds with
  | 0 => buffer
  | rounds + 1 =>
    if 0 < exponent then
      exponentBytes rounds (exponent / 256) (UInt8.ofNat exponent :: buffer)
    else buffer

def encodeRSAExponent (exponent : Nat) : String :=
  match exponentBytes exponent.size exponent [] with
  | [] => base64Encode [0]
  | buffer => base64Encode buffer

example : encodeRSAExponent 65537 = "AQAB" := by decide

structure CurveParams where
  prime : Nat
  b : Nat
  coordSize : Nat

def CurveParams.p256 : CurveParams where
  prime := 2 ^ 256 - 2 ^ 224 + 2 ^ 192 + 2 ^ 96 - 1
  b := 0x5ac635d8aa3a93e7b3ebbd55769886bc651d06b0cc53b0f63bce3c3e27d2604b
  coordSize := 32

def CurveParams.p384 : CurveParams where
  prime := 2 ^ 384 - 2 ^ 128 - 2 ^ 96 + 2 ^ 32 - 1
  b := 0xb3312fa7e23ee7e4988e056be3f82d19181d9c6efe814112 * 2 ^ 192 +
    0x0314088f5013875ac656398d8a2ed19d2a85c8edd3ec2aef
  coordSize := 48

def Curve.params : Curve → Option CurveParams
  | .p256 => some .p256
  | .p384 => some .p384
  | .named _ | .unknown | .nil => none

def CurveParams.isOnCurve (params : CurveParams) (x y : Nat) : Bool :=
  x < params.prime ∧ y < params.prime ∧
    (y * y + 3 * x) % params.prime = (x * x * x + params.b) % params.prime

namespace ECDSAPublicKey

def Valid (key : ECDSAPublicKey) : Prop :=
  ∃ params, key.curve.params = some params ∧ params.isOnCurve key.x key.y = true

def bytes (key : ECDSAPublicKey) : Except String Bytes :=
  match key.curve.params with
  | none => .error "ecdsa: unsupported curve"
  | some params =>
    if params.isOnCurve key.x key.y then
      .ok (4 :: (bigEndian params.coordSize key.x ++ bigEndian params.coordSize key.y))
    else .error "ecdsa: invalid public key"

end ECDSAPublicKey

structure JWK where
  kty : String
  kid : String
  alg : String
  use : String
  crv : String := ""
  x : String := ""
  y : String := ""
  n : String := ""
  e : String := ""
  deriving DecidableEq

def pointToJWK (id : String) (alg : Alg) (raw : Bytes) : Option JWK :=
  if raw.head? ≠ some 4 then none
  else
    let coords := raw.tail
    if coords.length % 2 ≠ 0 then none
    else
      let coordSize := coords.length / 2
      some
        { kty := "EC"
          kid := id
          alg := alg.text
          use := "sig"
          crv := if alg = .es384 then "P-384" else "P-256"
          x := base64Encode (coords.take coordSize)
          y := base64Encode (coords.drop coordSize) }

def keyToJWK (key : Key) : Option JWK :=
  match key.alg, key.publicKey with
  | .edDSA, some (.ed25519 pub) =>
    some
      { kty := "OKP"
        kid := key.id
        alg := Alg.edDSA.text
        use := "sig"
        crv := "Ed25519"
        x := base64Encode pub }
  | .rs256, some (.rsa pub) =>
    some
      { kty := "RSA"
        kid := key.id
        alg := Alg.rs256.text
        use := "sig"
        n := base64Encode (bigIntBytes pub.modulus)
        e := encodeRSAExponent pub.exponent }
  | .es256, some (.ecdsa pub) | .es384, some (.ecdsa pub) =>
    match pub.bytes with
    | .error _ => none
    | .ok raw => pointToJWK key.id key.alg raw
  | _, _ => none

namespace KeyRing

def keys (ring : KeyRing) : List Key := ring.byID.toList.map Prod.snd

theorem mem_keys {ring : KeyRing} {key : Key} :
    key ∈ ring.keys ↔ ∃ id : String, ring.byID[id]? = some key := by
  simp [keys, ExtTreeMap.mem_toList_iff_getElem?_eq_some]

/-- What `List` may return: all keys by the time of their creation. Keys of one time come in
the order of the map, which is arbitrary. -/
structure Lists (ring : KeyRing) (keys : List Key) : Prop where
  all : keys.Perm ring.keys
  sorted : keys.Pairwise fun earlier later => earlier.createdAt ≤ later.createdAt

end KeyRing

def jwksFromRing (keys : List Key) : List JWK :=
  keys.filterMap fun key => if key.role = .retired then none else keyToJWK key

def entryFor (id : String) (alg : Alg) : PublicKey → JWK
  | .ed25519 pub =>
    { kty := "OKP", kid := id, alg := alg.text, use := "sig", crv := "Ed25519",
      x := base64Encode pub }
  | .rsa pub =>
    { kty := "RSA", kid := id, alg := alg.text, use := "sig",
      n := base64Encode (bigIntBytes pub.modulus), e := encodeRSAExponent pub.exponent }
  | .ecdsa pub =>
    let coordSize := pub.curve.params.elim 0 CurveParams.coordSize
    { kty := "EC", kid := id, alg := alg.text, use := "sig",
      crv := if alg = .es384 then "P-384" else "P-256",
      x := base64Encode (bigEndian coordSize pub.x),
      y := base64Encode (bigEndian coordSize pub.y) }

theorem pointToJWK_bytes (id : String) (alg : Alg) {pub : ECDSAPublicKey} (valid : pub.Valid) :
    ∃ raw, pub.bytes = .ok raw ∧ pointToJWK id alg raw = some (entryFor id alg (.ecdsa pub)) := by
  rcases valid with ⟨params, supported, onCurve⟩
  refine ⟨4 :: (bigEndian params.coordSize pub.x ++ bigEndian params.coordSize pub.y), ?_, ?_⟩
  · simp [ECDSAPublicKey.bytes, supported, onCurve]
  · have even : (params.coordSize + params.coordSize) % 2 = 0 := by omega
    have half : (params.coordSize + params.coordSize) / 2 = params.coordSize := by omega
    simp [pointToJWK, entryFor, supported, even, half, bigEndian_length]

def Key.Typed (key : Key) : Prop :=
  key.alg.isAsymmetric = true →
    ∃ pair : PrivateKey, key.publicKey = some pair.publicKey ∧ pair.hasTypeFor key.alg = true

def Key.PointValid (key : Key) : Prop :=
  ∀ pub, key.publicKey = some (.ecdsa pub) → pub.Valid

variable {key : Key}

theorem keyToJWK_of_symmetric (symmetric : key.alg.isAsymmetric = false) : keyToJWK key = none := by
  unfold keyToJWK
  split <;> simp_all [Alg.isAsymmetric]

theorem PrivateKey.hasTypeFor_cases {pair : PrivateKey} {alg : Alg}
    (typed : pair.hasTypeFor alg = true) :
    (alg = .edDSA ∧ ∃ key, pair = .ed25519 key) ∨ (alg = .rs256 ∧ ∃ key, pair = .rsa key) ∨
      ((alg = .es256 ∨ alg = .es384) ∧ ∃ key, pair = .ecdsa key) := by
  unfold PrivateKey.hasTypeFor at typed
  split at typed <;> simp_all

private theorem keyToJWK_of_typed (typed : key.Typed) (asymmetric : key.alg.isAsymmetric = true)
    (valid : key.PointValid) :
    ∃ pub, key.publicKey = some pub ∧ keyToJWK key = some (entryFor key.id key.alg pub) := by
  rcases typed asymmetric with ⟨pair, carried, suits⟩
  refine ⟨pair.publicKey, carried, ?_⟩
  rcases PrivateKey.hasTypeFor_cases suits with
    ⟨alg, pub, rfl⟩ | ⟨alg, pub, rfl⟩ | ⟨alg, pub, rfl⟩
  · simp [keyToJWK, alg, carried, PrivateKey.publicKey, entryFor]
  · simp [keyToJWK, alg, carried, PrivateKey.publicKey, entryFor]
  · rcases pointToJWK_bytes key.id key.alg (valid pub.toECDSAPublicKey carried) with
      ⟨raw, encoded, entry⟩
    rw [PrivateKey.publicKey, ← entry]
    rcases alg with alg | alg <;> simp [keyToJWK, alg, carried, PrivateKey.publicKey, encoded]

namespace KeyRing

def newKeyRingFromSecret (secret : Bytes) (entropy : Entropy) (now : Int) : Except String KeyRing :=
  match empty.generateAlg .hs256 entropy now with
  | (.error message, _) => .error message
  | (.ok key, ring) =>
    .ok { ring with byID := ring.byID.modify key.id fun key => { key with secret := secret } }

/-- The rings that the operations and `LoadSnapshot` build. -/
inductive Built (codec : Codec) : KeyRing → Prop
  | empty : Built codec empty
  | seeded {secret entropy now ring} :
      newKeyRingFromSecret secret entropy now = .ok ring → Built codec ring
  | performed {ring : KeyRing} (operation : Operation) (now : Int) :
      Built codec ring → Built codec (ring.perform operation now).2
  | loaded {ring : KeyRing} (snapshot : Snapshot) :
      Built codec ring → Built codec (ring.loadSnapshot codec snapshot).2

def Keyed (ring : KeyRing) : Prop :=
  ∀ (id : String) (key : Key), ring.byID[id]? = some key → key.id = id ∧ key.Typed

variable {key : Key}

theorem typed_of_makes {operation : Operation} {now : Int} (made : operation.Makes now key) :
    key.Typed := by
  intro asymmetric
  rcases made with symmetric | ⟨alg, pair, brought, made⟩
  · rw [symmetric.alg] at asymmetric
    cases asymmetric
  · refine ⟨pair, made.publicKey, ?_⟩
    have supported : ∀ {curve : Curve} {key : ECDSAPrivateKey}, algForCurve curve = .ok alg →
        (PrivateKey.ecdsa key).hasTypeFor alg = true := by
      intro curve key suited
      unfold algForCurve at suited
      split at suited <;> cases suited <;> rfl
    rw [made.alg]
    cases brought with
    | ed25519 | rsa => rfl
    | ecdsa suited => exact supported suited
    | drawn _ drawn =>
      cases drawn with
      | ed25519 | rsa => rfl
      | ecdsa suited _ => exact supported suited

variable {ring : KeyRing}

theorem Change.fresh_id {next : KeyRing} (change : ring.Change next) {id : String}
    (absent : ring.byID[id]? = none) (stored : next.byID[id]? = some key) : key.id = id := by
  cases change with
  | unchanged =>
    rw [absent] at stored
    cases stored
  | installed =>
    rw [installed_lookup] at stored
    split at stored
    · rename_i same
      cases stored
      exact same
    · rw [absent] at stored
      cases stored
  | promoted =>
    rw [promoted_absent absent] at stored
    cases stored
  | retired =>
    rw [retired_absent absent] at stored
    cases stored

theorem Keyed.perform (keyed : ring.Keyed) (operation : Operation) (now : Int) :
    (ring.perform operation now).2.Keyed := by
  have change := (ring.perform_changes operation now).1
  intro id key stored
  cases before : ring.byID[id]? with
  | none =>
    exact ⟨change.fresh_id before stored, typed_of_makes (perform_fresh before stored).2⟩
  | some old =>
    rcases change.keeps before with ⟨after, found, same⟩
    rw [stored] at found
    cases found
    rcases keyed id old before with ⟨named, typed⟩
    refine ⟨same.id.trans named, ?_⟩
    rw [Key.Typed, same.alg, same.publicKey]
    exact typed

variable {codec : Codec}

theorem keyed_of_loadSnapshot {snapshot : Snapshot}
    (succeeded : Auth.loadSnapshot codec snapshot = .ok ring) : ring.Keyed := by
  intro id key stored
  rcases loadKeys_origin _ (loadSnapshot_inversion succeeded).1 stored with
    ⟨entry, _, rfl, read⟩ | before
  · refine ⟨(SnapshotKey.load_identity read).1, ?_⟩
    intro asymmetric
    rcases SnapshotKey.load_cases read with
      ⟨⟨_, _, alg⟩, ⟨symmetric, _⟩ | ⟨_, pair, decoded, _, published⟩⟩
    · rw [alg, symmetric] at asymmetric
      cases asymmetric
    · exact ⟨pair, published, alg ▸ (decodePrivatePEM_inversion decoded).1.1⟩
  · simp at before

theorem Keyed.reseed (keyed : ring.Keyed) (target : String) (secret : Bytes) :
    Keyed { ring with
      byID := ring.byID.modify target fun key => { key with secret := secret } } := by
  intro id key stored
  simp only [ExtTreeMap.getElem?_modify] at stored
  split at stored
  · rename_i same
    rw [LawfulEqCmp.eq_of_compare same] at stored
    rcases Option.map_eq_some_iff.mp stored with ⟨old, before, rfl⟩
    exact keyed id old before
  · exact keyed id key stored

private theorem keyed_empty : empty.Keyed := by
  intro id key stored
  simp [empty] at stored

theorem Built.keyed (built : Built codec ring) : ring.Keyed := by
  induction built with
  | empty => exact keyed_empty
  | @seeded secret entropy now ring generated =>
    unfold newKeyRingFromSecret at generated
    split at generated
    · cases generated
    · rename_i key first drawn
      cases generated
      have performed := keyed_empty.perform (.generateAlg .hs256 entropy) now
      rw [perform, drawn] at performed
      exact performed.reseed key.id secret
  | performed operation now _ induction => exact induction.perform operation now
  | loaded snapshot _ induction =>
    unfold KeyRing.loadSnapshot
    split
    · exact induction
    · rename_i next succeeded
      exact keyed_of_loadSnapshot succeeded

def livePairs (ring : KeyRing) : List Key :=
  ring.keys.filter fun key => key.role ≠ .retired ∧ key.alg.isAsymmetric = true

def Holds (ring : KeyRing) (id : String) (alg : Alg) (role : Role) (pub : Option PublicKey) :
    Prop :=
  ∃ key : Key, ring.byID[id]? = some key ∧ key.alg = alg ∧ key.role = role ∧ key.publicKey = pub

def SamePublic (ring other : KeyRing) : Prop :=
  ∀ id alg role pub, alg.isAsymmetric = true →
    (ring.Holds id alg role pub ↔ other.Holds id alg role pub)

end KeyRing

theorem map_some_filterMap {Item Result : Type} {make view : Item → Option Result}
    {passes : Item → Bool} {items : List Item}
    (made : ∀ item ∈ items, passes item = true → ∃ result, make item = some result ∧
      view item = some result)
    (skipped : ∀ item ∈ items, passes item = false → make item = none) :
    (items.filterMap make).map some = (items.filter passes).map view := by
  induction items with
  | nil => rfl
  | cons item items induction =>
    rw [List.forall_mem_cons] at made skipped
    have rest := induction made.2 skipped.2
    cases pass : passes item with
    | true =>
      rcases made.1 pass with ⟨result, makes, views⟩
      simp [makes, views, pass, rest]
    | false => simp [skipped.1 pass, pass, rest]

variable {keys : List Key} {ring : KeyRing}

theorem jwksFromRing_perm (listed : ring.Lists keys) :
    (jwksFromRing keys).Perm (jwksFromRing ring.keys) :=
  listed.all.filterMap _

variable {jwk : JWK}

private theorem mem_jwksFromRing :
    jwk ∈ jwksFromRing keys ↔ ∃ key ∈ keys, key.role ≠ .retired ∧ keyToJWK key = some jwk := by
  unfold jwksFromRing
  rw [List.mem_filterMap]
  refine exists_congr fun key => and_congr_right fun _ => ?_
  by_cases retired : key.role = .retired <;> simp [retired]

theorem keyToJWK_congr {other : Key} (id : key.id = other.id) (alg : key.alg = other.alg)
    (pub : key.publicKey = other.publicKey) : keyToJWK key = keyToJWK other := by
  unfold keyToJWK
  rw [id, alg, pub]

theorem mem_jwksFromRing_of_samePublic {other : KeyRing} (keyed : ring.Keyed)
    (otherKeyed : other.Keyed) (same : ring.SamePublic other) {otherKeys : List Key}
    (listed : ring.Lists keys) (otherListed : other.Lists otherKeys)
    (shown : jwk ∈ jwksFromRing keys) : jwk ∈ jwksFromRing otherKeys := by
  rcases mem_jwksFromRing.mp shown with ⟨key, member, live, entry⟩
  rcases KeyRing.mem_keys.mp (listed.all.mem_iff.mp member) with ⟨id, stored⟩
  have asymmetric : key.alg.isAsymmetric = true := by
    by_contra symmetric
    rw [keyToJWK_of_symmetric (by simpa using symmetric)] at entry
    cases entry
  rcases (same id key.alg key.role key.publicKey asymmetric).mp
    ⟨key, stored, rfl, rfl, rfl⟩ with ⟨twin, found, alg, role, pub⟩
  apply mem_jwksFromRing.mpr
  refine ⟨twin, otherListed.all.mem_iff.mpr (KeyRing.mem_keys.mpr ⟨id, found⟩), ?_, ?_⟩
  · rw [role]
    exact live
  · rw [keyToJWK_congr _ alg pub, entry]
    rw [(keyed id key stored).1, (otherKeyed id twin found).1]

/-- The document of a ring has exactly one entry for each live key pair, made of its id,
algorithm and public key, as long as the points of elliptic-curve keys lie on their curves.
Rings with the same public view have the same entries, whatever else they hold. -/
theorem jwks_shows_public_keys {codec : Codec} {ring : KeyRing} (built : ring.Built codec)
    {keys : List Key} (listed : ring.Lists keys) :
    ((∀ key ∈ ring.livePairs, key.PointValid) →
      ((jwksFromRing keys).map some).Perm
        (ring.livePairs.map fun key => key.publicKey.map (entryFor key.id key.alg))) ∧
    ∀ (other : KeyRing) (otherKeys : List Key), other.Built codec → other.Lists otherKeys →
      ring.SamePublic other → ∀ jwk, jwk ∈ jwksFromRing keys ↔ jwk ∈ jwksFromRing otherKeys := by
  constructor
  · intro valid
    refine ((jwksFromRing_perm listed).map some).trans (.of_eq ?_)
    apply map_some_filterMap
    · intro key member pass
      rcases KeyRing.mem_keys.mp member with ⟨id, stored⟩
      have live : key ∈ ring.livePairs := List.mem_filter.mpr ⟨member, pass⟩
      simp only [decide_eq_true_eq] at pass
      rcases keyToJWK_of_typed (built.keyed id key stored).2 pass.2 (valid key live) with
        ⟨pub, carried, entry⟩
      exact ⟨entryFor key.id key.alg pub, by simp [pass.1, entry], by simp [carried]⟩
    · intro key _ fails
      simp only [decide_eq_false_iff_not, not_and, Bool.not_eq_true] at fails
      by_cases retired : key.role = .retired
      · simp [retired]
      · simp [retired, keyToJWK_of_symmetric (fails retired)]
  · intro other otherKeys otherBuilt otherListed same jwk
    constructor
    · exact mem_jwksFromRing_of_samePublic built.keyed otherBuilt.keyed same listed otherListed
    · apply mem_jwksFromRing_of_samePublic otherBuilt.keyed built.keyed _ otherListed listed
      exact fun id alg role pub asymmetric => (same id alg role pub asymmetric).symm

def basePoint : ECDSAPrivateKey where
  curve := .p256
  x := 0x6b17d1f2e12c4247f8bce6e563a440f277037d812deb33a0f4a13945d898c296
  y := 0x4fe342e2fe1a7f9b8ee7eb4a7c0f9e162bce33576b315ececbb6406837bf51f5
  d := 1

def mixedRing (pair : ECDSAPrivateKey) : KeyRing :=
  KeyRing.empty.performAll
    [(.add "secret" (List.replicate 32 1), 0), (.addECDSA "pair" (some pair), 0)]

theorem mixedRing_built (codec : Codec) (pair : ECDSAPrivateKey) : (mixedRing pair).Built codec :=
  .performed _ _ (.performed _ _ .empty)

/-- The ring takes a key whose point is not on the curve, and the document leaves it out. -/
theorem off_curve_key_left_out :
    let ring := mixedRing { basePoint with x := 0, y := 0 }
    ring.Built .epoch ∧ ring.livePairs.map Key.id = ["pair"] ∧
      ∀ keys, ring.Lists keys → jwksFromRing keys = [] := by
  refine ⟨mixedRing_built _ _, by decide +kernel, fun keys listed => ?_⟩
  have nothing : jwksFromRing (mixedRing { basePoint with x := 0, y := 0 }).keys = [] := by
    decide +kernel
  have shown := jwksFromRing_perm listed
  rw [nothing] at shown
  exact shown.eq_nil

theorem base_point_shown :
    ((jwksFromRing (mixedRing basePoint).keys).map some).Perm
      [some (entryFor "pair" .es256 (.ecdsa basePoint.toECDSAPublicKey))] := by
  have listed : (mixedRing basePoint).Lists (mixedRing basePoint).keys :=
    ⟨.refl _, by decide +kernel⟩
  have pairs : (mixedRing basePoint).livePairs.map
      (fun key => key.publicKey.map (entryFor key.id key.alg)) =
      [some (entryFor "pair" .es256 (.ecdsa basePoint.toECDSAPublicKey))] := by
    decide +kernel
  have points : ∀ key ∈ (mixedRing basePoint).livePairs,
      key.publicKey = some (.ecdsa basePoint.toECDSAPublicKey) := by
    decide +kernel
  rw [← pairs]
  apply (jwks_shows_public_keys (mixedRing_built .epoch basePoint) listed).1
  intro key member pub carried
  rw [points key member] at carried
  cases carried
  exact ⟨.p256, rfl, by decide +kernel⟩

end Parsec.Auth
