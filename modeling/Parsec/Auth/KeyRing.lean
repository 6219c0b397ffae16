import Parsec.Foundation.Clock
import Parsec.Foundation.Encoding

/-! # The key ring

Algorithms, lifecycle roles and key material of the token-signing keys, the live set of them and
the operations that change it. Every operation returns its result together with the ring it leaves
behind, also when it fails, so that the order of checks and updates stays visible. -/

namespace Parsec.Auth

open Foundation Std

/-- A token-signing algorithm. The source names it by a string, so a value read
from a request or a snapshot may also be empty or name nothing supported. -/
inductive Alg
  | hs256
  | rs256
  | edDSA
  | es256
  | es384
  | unset
  | other (name : String)
  deriving DecidableEq

namespace Alg

def text : Alg → String
  | hs256 => "HS256"
  | rs256 => "RS256"
  | edDSA => "EdDSA"
  | es256 => "ES256"
  | es384 => "ES384"
  | unset => ""
  | other name => name

def isAsymmetric : Alg → Bool
  | rs256 | edDSA | es256 | es384 => true
  | _ => false

def valid : Alg → Except String Unit
  | hs256 | rs256 | edDSA | es256 | es384 => .ok ()
  | alg => .error ("auth: unsupported alg " ++ alg.text.quote)

def orDefault : Alg → Alg
  | unset => hs256
  | alg => alg

end Alg

inductive Role
  | active
  | verifyOnly
  | retired
  | other (name : String)
  deriving DecidableEq

/-- An elliptic curve as the standard library hands it around: one of the two
supported ones, another curve by its parameter name, a curve without
parameters, or a nil interface. -/
inductive Curve
  | p256
  | p384
  | named (name : String)
  | unknown
  | nil
  deriving DecidableEq

def curveName : Curve → String
  | .p256 => "P-256"
  | .p384 => "P-384"
  | .named name => name
  | .unknown => "<unknown>"
  | .nil => "<nil>"

def algForCurve : Curve → Except String Alg
  | .p256 => .ok .es256
  | .p384 => .ok .es384
  | curve => .error ("auth: ecdsa curve " ++ curveName curve ++
      " not supported (use P-256 or P-384)")

structure RSAPublicKey where
  modulus : Nat
  exponent : Nat
  deriving DecidableEq

structure RSAPrivateKey extends RSAPublicKey where
  secretExponent : Nat
  deriving DecidableEq

structure ECDSAPublicKey where
  curve : Curve
  x : Nat
  y : Nat
  deriving DecidableEq

structure ECDSAPrivateKey extends ECDSAPublicKey where
  d : Nat
  deriving DecidableEq

inductive PrivateKey
  | rsa (key : RSAPrivateKey)
  | ed25519 (key : Bytes)
  | ecdsa (key : ECDSAPrivateKey)
  deriving DecidableEq

inductive PublicKey
  | rsa (key : RSAPublicKey)
  | ed25519 (key : Bytes)
  | ecdsa (key : ECDSAPublicKey)
  deriving DecidableEq

def ed25519PrivateKeySize : Nat := 64

def PrivateKey.publicKey : PrivateKey → PublicKey
  | .rsa key => .rsa key.toRSAPublicKey
  | .ed25519 key => .ed25519 (key.drop 32)
  | .ecdsa key => .ecdsa key.toECDSAPublicKey

structure JoseHeader where
  alg : Alg
  kid : String
  typ : String
  deriving DecidableEq

def buildHeader (kid : String) (alg : Alg) : Except String JoseHeader :=
  if kid = "" then .error "auth: kid required"
  else match alg.orDefault.valid with
    | .error message => .error message
    | .ok () => .ok { alg := alg.orDefault, kid := kid, typ := "JWT" }

structure Key where
  id : String
  alg : Alg
  secret : Bytes := []
  privateKey : Option PrivateKey := none
  publicKey : Option PublicKey := none
  role : Role
  createdAt : Int
  retiredAt : Option Int := none
  header : Option JoseHeader := none
  deriving DecidableEq

theorem buildHeader_eq_ok {kid : String} {alg : Alg} {header : JoseHeader} :
    buildHeader kid alg = .ok header ↔ kid ≠ "" ∧ alg.orDefault.valid = .ok () ∧
      header = { alg := alg.orDefault, kid := kid, typ := "JWT" } := by
  unfold buildHeader
  split
  · simp_all
  · split
    · simp_all
    · simp_all [eq_comm]

/-- `active` is the id of the signing key, empty before the first key. -/
structure KeyRing where
  byID : ExtTreeMap String Key
  active : String
  deriving DecidableEq

abbrev Outcome (Result : Type) := Except String Result × KeyRing

/-- Random material drawn while a key is generated. A failed draw is `none` or
the error of the generator. -/
structure Entropy where
  keyID : Option Bytes
  secret : Option Bytes
  ed25519 : Except String Bytes
  rsa : Int → Except String RSAPrivateKey
  ecdsa : Curve → Except String ECDSAPrivateKey

def newKeyID (random : Option Bytes) : Except String String :=
  match random with
  | none => .error "auth: key id generation failed"
  | some bytes => .ok ("k-" ++ hexEncode bytes)

def installHeader (key : Key) : Except String Key :=
  match buildHeader key.id key.alg with
  | .error message => .error message
  | .ok header => .ok { key with header := some header }

namespace KeyRing

def empty : KeyRing := { byID := ∅, active := "" }

def activeKey (ring : KeyRing) : Except String Key :=
  if ring.active = "" then .error "auth: keyring has no active key"
  else match ring.byID[ring.active]? with
    | none => .error "invalid memory address or nil pointer dereference"
    | some key => .ok key

def get (ring : KeyRing) (id : String) : Except String Key :=
  match ring.byID[id]? with
  | none => .error ("auth: unknown key id " ++ id.quote)
  | some key =>
    if key.role = .retired then .error ("auth: key " ++ id.quote ++ " is retired")
    else .ok key

/-- The locked tail shared by `Add` and `addAsymmetric`: refuse a known id, give
the first key of a ring the active role, cache the header and store the key. -/
def install (ring : KeyRing) (id : String) (make : Role → Key) : Outcome Key :=
  if ring.byID.contains id then
    (.error ("auth: key id " ++ id.quote ++ " already exists"), ring)
  else
    let role := if ring.byID.size = 0 then Role.active else Role.verifyOnly
    match installHeader (make role) with
    | .error message => (.error message, ring)
    | .ok key =>
      let stored := { ring with byID := ring.byID.insert id key }
      if role = .active then (.ok key, { stored with active := id })
      else (.ok key, stored)

def add (ring : KeyRing) (id : String) (secret : Bytes) (now : Int) : Outcome Key :=
  if id = "" then (.error "auth: key id required", ring)
  else if secret.length < 32 then
    (.error "auth: key secret must be at least 32 bytes", ring)
  else
    ring.install id fun role =>
      { id := id, alg := .hs256, secret := secret, role := role, createdAt := now }

def addAsymmetric (ring : KeyRing) (id : String) (alg : Alg)
    (key : Option PrivateKey) (now : Int) : Outcome Key :=
  if id = "" then (.error "auth: key id required", ring)
  else match key with
    | none => (.error "auth: nil private key", ring)
    | some key =>
      ring.install id fun role =>
        { id := id, alg := alg, privateKey := some key,
          publicKey := some key.publicKey, role := role, createdAt := now }

def addEd25519 (ring : KeyRing) (id : String) (key : Bytes) (now : Int) : Outcome Key :=
  if key.length ≠ ed25519PrivateKeySize then
    (.error ("auth: ed25519 private key wrong size: " ++ toString key.length), ring)
  else
    ring.addAsymmetric id .edDSA (some (.ed25519 key)) now

def addECDSA (ring : KeyRing) (id : String) (key : Option ECDSAPrivateKey) (now : Int) :
    Outcome Key :=
  match key with
  | none => (.error "auth: nil ECDSA private key", ring)
  | some key =>
    match algForCurve key.curve with
    | .error message => (.error message, ring)
    | .ok alg => ring.addAsymmetric id alg (some (.ecdsa key)) now

def addRSA (ring : KeyRing) (id : String) (key : Option RSAPrivateKey) (now : Int) : Outcome Key :=
  match key with
  | none => (.error "auth: nil RSA private key", ring)
  | some key =>
    if key.modulus.size < 2048 then
      (.error ("auth: rsa key " ++ toString key.modulus.size ++ " bits too small"), ring)
    else
      ring.addAsymmetric id .rs256 (some (.rsa key)) now

def generateEd25519 (ring : KeyRing) (entropy : Entropy) (now : Int) : Outcome Key :=
  match newKeyID entropy.keyID with
  | .error message => (.error message, ring)
  | .ok id =>
    match entropy.ed25519 with
    | .error message => (.error ("auth: ed25519 generate: " ++ message), ring)
    | .ok key => ring.addAsymmetric id .edDSA (some (.ed25519 key)) now

def generateRSA (ring : KeyRing) (bits : Int) (entropy : Entropy) (now : Int) : Outcome Key :=
  if bits ≠ 2048 ∧ bits ≠ 3072 ∧ bits ≠ 4096 then
    (.error ("auth: rsa key size " ++ toString bits ++ " not supported (use 2048/3072/4096)"), ring)
  else match newKeyID entropy.keyID with
    | .error message => (.error message, ring)
    | .ok id =>
      match entropy.rsa bits with
      | .error message => (.error ("auth: rsa generate: " ++ message), ring)
      | .ok key => ring.addAsymmetric id .rs256 (some (.rsa key)) now

def generateECDSA (ring : KeyRing) (curve : Curve) (entropy : Entropy) (now : Int) : Outcome Key :=
  match algForCurve curve with
  | .error message => (.error message, ring)
  | .ok alg =>
    match newKeyID entropy.keyID with
    | .error message => (.error message, ring)
    | .ok id =>
      match entropy.ecdsa curve with
      | .error message => (.error ("auth: ecdsa generate: " ++ message), ring)
      | .ok key => ring.addAsymmetric id alg (some (.ecdsa key)) now

def generateAlg (ring : KeyRing) (alg : Alg) (entropy : Entropy) (now : Int) : Outcome Key :=
  match alg with
  | .hs256 | .unset =>
    match newKeyID entropy.keyID with
    | .error message => (.error message, ring)
    | .ok id =>
      match entropy.secret with
      | none => (.error "auth: keyring generate failed", ring)
      | some secret => ring.add id secret now
  | .edDSA => ring.generateEd25519 entropy now
  | .rs256 => ring.generateRSA 2048 entropy now
  | .es256 => ring.generateECDSA .p256 entropy now
  | .es384 => ring.generateECDSA .p384 entropy now
  | .other name => (.error ("auth: unsupported alg " ++ name.quote), ring)

def setRole (ring : KeyRing) (id : String) (role : Role) : KeyRing :=
  { ring with byID := ring.byID.modify id fun key => { key with role := role } }

def setRetiredAt (ring : KeyRing) (id : String) (now : Int) : KeyRing :=
  { ring with byID := ring.byID.modify id fun key => { key with retiredAt := some now } }

def promote (ring : KeyRing) (id : String) : Outcome Unit :=
  match ring.byID[id]? with
  | none => (.error ("auth: unknown key id " ++ id.quote), ring)
  | some key =>
    if key.role = .retired then
      (.error ("auth: cannot promote retired key " ++ id.quote), ring)
    else
      let demoted :=
        if ring.active ≠ "" ∧ ring.active ≠ id then ring.setRole ring.active .verifyOnly
        else ring
      let promoted := demoted.setRole id .active
      (.ok (), { promoted with active := id })

def retire (ring : KeyRing) (id : String) (now : Int) : Outcome Unit :=
  match ring.byID[id]? with
  | none => (.error ("auth: unknown key id " ++ id.quote), ring)
  | some key =>
    if key.role = .retired then (.ok (), ring)
    else if id = ring.active then
      (.error ("auth: cannot retire active key " ++ id.quote ++ "; promote another first"), ring)
    else
      (.ok (), (ring.setRole id .retired).setRetiredAt id now)

end KeyRing

inductive Operation
  | add (id : String) (secret : Bytes)
  | addEd25519 (id : String) (key : Bytes)
  | addECDSA (id : String) (key : Option ECDSAPrivateKey)
  | addRSA (id : String) (key : Option RSAPrivateKey)
  | generateAlg (alg : Alg) (entropy : Entropy)
  | generateEd25519 (entropy : Entropy)
  | generateRSA (bits : Int) (entropy : Entropy)
  | generateECDSA (curve : Curve) (entropy : Entropy)
  | promote (id : String)
  | retire (id : String)

def Outcome.discard (outcome : Outcome Key) : Outcome Unit :=
  (outcome.1.map fun _ => (), outcome.2)

namespace KeyRing

def perform (ring : KeyRing) (operation : Operation) (now : Int) : Outcome Unit :=
  match operation with
  | .add id secret => (ring.add id secret now).discard
  | .addEd25519 id key => (ring.addEd25519 id key now).discard
  | .addECDSA id key => (ring.addECDSA id key now).discard
  | .addRSA id key => (ring.addRSA id key now).discard
  | .generateAlg alg entropy => (ring.generateAlg alg entropy now).discard
  | .generateEd25519 entropy => (ring.generateEd25519 entropy now).discard
  | .generateRSA bits entropy => (ring.generateRSA bits entropy now).discard
  | .generateECDSA curve entropy => (ring.generateECDSA curve entropy now).discard
  | .promote id => ring.promote id
  | .retire id => ring.retire id now

def performAll (ring : KeyRing) : List (Operation × Int) → KeyRing
  | [] => ring
  | (operation, now) :: rest => (ring.perform operation now).2.performAll rest

end KeyRing

end Parsec.Auth
