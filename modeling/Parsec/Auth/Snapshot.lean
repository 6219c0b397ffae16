import Parsec.Foundation.Fallible
import Parsec.Auth.KeyMaterial

/-! # Key-ring snapshots

The serializable view of a key ring and its two codecs: `encodeKeyRing`, which
drops retired keys, and `decodeKeyRing`, which checks every entry. The JSON text
itself is not modelled; a stored body is the snapshot it spells. -/

namespace Parsec.Auth

open Foundation Std

structure SnapshotKey where
  id : String
  alg : Alg
  secretHex : String := ""
  privatePEM : String := ""
  role : Role
  createdAt : String
  retiredAt : String := ""
  deriving DecidableEq

structure Snapshot where
  formatVersion : String := ""
  activeKeyID : String
  keys : List SnapshotKey
  deriving DecidableEq

structure Codec where
  formatTime : Int → String
  parseTime : String → Except String Int
  marshalPKCS8 : PrivateKey → Except String Bytes
  parsePKCS8 : Bytes → Except String PrivateKey
  encodePEM : String → Bytes → String
  decodePEM : String → Option Bytes

def Codec.epoch : Codec where
  formatTime := fun _ => "1970-01-01T00:00:00Z"
  parseTime := fun text =>
    if text = "1970-01-01T00:00:00Z" then .ok 0 else .error "cannot parse"
  marshalPKCS8 := fun _ => .error "x509: unknown key type"
  parsePKCS8 := fun _ => .error "x509: failed to parse private key"
  encodePEM := fun _ _ => ""
  decodePEM := fun _ => none

def PrivateKey.hasTypeFor : PrivateKey → Alg → Bool
  | .ed25519 _, .edDSA => true
  | .rsa _, .rs256 => true
  | .ecdsa _, .es256 | .ecdsa _, .es384 => true
  | _, _ => false

def privatePEM (codec : Codec) (alg : Alg) (key : Option PrivateKey) : String :=
  match key with
  | none => ""
  | some key =>
    if key.hasTypeFor alg then
      match codec.marshalPKCS8 key with
      | .ok blob => codec.encodePEM "PRIVATE KEY" blob
      | .error _ => ""
    else ""

def Key.snapshot (codec : Codec) (key : Key) : SnapshotKey where
  id := key.id
  alg := key.alg.orDefault
  secretHex := if key.alg.orDefault = .hs256 then hexEncode key.secret else ""
  privatePEM := privatePEM codec key.alg.orDefault key.privateKey
  role := key.role
  createdAt := codec.formatTime key.createdAt
  retiredAt := match key.retiredAt with
    | none => ""
    | some time => codec.formatTime time

namespace KeyRing

def live (ring : KeyRing) : ExtTreeMap String Key :=
  ring.byID.filter fun _ key => key.role ≠ .retired

def snapshot (codec : Codec) (ring : KeyRing) : Snapshot where
  activeKeyID := ring.active
  keys := ring.live.toList.map fun entry => entry.2.snapshot codec

end KeyRing

def keyringFormatVersion : String := "2"

def supportedFormatVersion (version : String) : Bool :=
  version = "" ∨ version = "1" ∨ version = "2"

def encodeKeyRing (codec : Codec) (ring : KeyRing) : Snapshot :=
  { ring.snapshot codec with formatVersion := keyringFormatVersion }

/-! ## Reading -/

def PrivateKey.typeName : PrivateKey → String
  | .rsa _ => "*rsa.PrivateKey"
  | .ed25519 _ => "ed25519.PrivateKey"
  | .ecdsa _ => "*ecdsa.PrivateKey"

def decodePrivatePEM (codec : Codec) (text : String) (alg : Alg) : Except String PrivateKey :=
  match codec.decodePEM text with
  | none => .error "private_pem: no PEM block"
  | some block =>
    match codec.parsePKCS8 block with
    | .error message => .error ("private_pem parse: " ++ message)
    | .ok key =>
      match alg, key with
      | .edDSA, .ed25519 _ => .ok key
      | .edDSA, _ => .error ("private_pem: expected Ed25519, got " ++ key.typeName)
      | .rs256, .rsa _ => .ok key
      | .rs256, _ => .error ("private_pem: expected RSA, got " ++ key.typeName)
      | .es256, .ecdsa pair | .es384, .ecdsa pair =>
        match algForCurve pair.curve with
        | .error message => .error ("private_pem: " ++ message)
        | .ok expected =>
          if expected ≠ alg then
            .error ("private_pem: alg " ++ alg.text ++ " but curve " ++ expected.text)
          else .ok key
      | .es256, _ | .es384, _ =>
        .error ("private_pem: expected ECDSA, got " ++ key.typeName)
      | _, _ => .error ("private_pem: alg " ++ alg.text ++ " not asymmetric")

def loadMaterial (codec : Codec) (entry : SnapshotKey) (key : Key) : Except String Key :=
  match key.alg with
  | .hs256 =>
    match hexDecode entry.secretHex with
    | none => .error "secret_hex: encoding/hex: invalid text"
    | some secret =>
      if secret.length < 32 then .error "secret too short"
      else .ok { key with secret := secret }
  | .rs256 | .edDSA | .es256 | .es384 =>
    if entry.privatePEM = "" then .error "missing private_pem"
    else match decodePrivatePEM codec entry.privatePEM key.alg with
      | .error message => .error message
      | .ok pair =>
        .ok { key with privateKey := some pair, publicKey := some pair.publicKey }
  | _ => .ok key

def loadRetiredAt (codec : Codec) (entry : SnapshotKey) (key : Key) : Except String Key :=
  if entry.retiredAt = "" then .ok key
  else match codec.parseTime entry.retiredAt with
    | .error message => .error ("retired_at: " ++ message)
    | .ok time => .ok { key with retiredAt := some time }

def SnapshotKey.load (codec : Codec) (entry : SnapshotKey) : Except String Key := do
  let key ← inEntry (do
    let createdAt ← (codec.parseTime entry.createdAt).mapError ("created_at: " ++ ·)
    entry.alg.orDefault.valid
    let key ← loadMaterial codec entry
      { id := entry.id, alg := entry.alg.orDefault, role := entry.role,
        createdAt := createdAt }
    loadRetiredAt codec entry key)
  installHeader key
where
  inEntry (result : Except String Key) : Except String Key :=
    result.mapError (("auth: snapshot key " ++ entry.id.quote ++ ": ") ++ ·)

def loadKeys (codec : Codec) (next : ExtTreeMap String Key) :
    List SnapshotKey → Except String (ExtTreeMap String Key)
  | [] => .ok next
  | entry :: rest =>
    match entry.load codec with
    | .error message => .error message
    | .ok key => loadKeys codec (next.insert entry.id key) rest

/-- `LoadSnapshot`: the ring the snapshot describes. The source swaps it into the
receiver only when no entry was refused. -/
def loadSnapshot (codec : Codec) (snapshot : Snapshot) : Except String KeyRing :=
  if snapshot.activeKeyID = "" ∧ snapshot.keys ≠ [] then
    .error "auth: snapshot has keys but no active_key_id"
  else match loadKeys codec ∅ snapshot.keys with
    | .error message => .error message
    | .ok next =>
      if snapshot.activeKeyID ≠ "" ∧ next[snapshot.activeKeyID]? = none then
        .error ("auth: snapshot active_key_id " ++ snapshot.activeKeyID.quote ++
          " not present in keys")
      else .ok { byID := next, active := snapshot.activeKeyID }

def decodeKeyRing (codec : Codec) (snapshot : Snapshot) : Except String KeyRing :=
  if supportedFormatVersion snapshot.formatVersion then loadSnapshot codec snapshot
  else .error ("auth: keyring format_version " ++ snapshot.formatVersion.quote ++
    " is not supported")

/-! ## What reading an entry keeps -/

variable {codec : Codec} {entry : SnapshotKey} {key loaded : Key}

theorem loadMaterial_inversion (supported : key.alg.valid = .ok ())
    (filled : loadMaterial codec entry key = .ok loaded) :
    (key.alg = .hs256 ∧ ∃ secret, hexDecode entry.secretHex = some secret ∧ 32 ≤ secret.length ∧
        loaded = { key with secret := secret }) ∨
      (key.alg ≠ .hs256 ∧ entry.privatePEM ≠ "" ∧
        ∃ pair, decodePrivatePEM codec entry.privatePEM key.alg = .ok pair ∧
          loaded = { key with privateKey := some pair, publicKey := some pair.publicKey }) := by
  rcases key with
    ⟨id, alg, secret, privateKey, publicKey, role, createdAt, retiredAt, header⟩
  by_cases symmetric : alg = .hs256
  · refine .inl ⟨symmetric, ?_⟩
    subst symmetric
    simp only [loadMaterial] at filled
    split at filled
    · cases filled
    · rename_i secret decoded
      split at filled
      · cases filled
      · cases filled
        exact ⟨secret, decoded, by omega, rfl⟩
  · refine .inr ⟨symmetric, ?_⟩
    cases alg <;> simp_all only [loadMaterial, Alg.valid, reduceCtorEq, not_true_eq_false]
    all_goals
      split at filled
      · cases filled
      · rename_i present
        refine ⟨present, ?_⟩
        split at filled
        · cases filled
        · rename_i pair decoded
          cases filled
          exact ⟨pair, decoded, rfl⟩

def SnapshotKey.blank (entry : SnapshotKey) (createdAt : Int) : Key where
  id := entry.id
  alg := entry.alg.orDefault
  role := entry.role
  createdAt := createdAt

theorem SnapshotKey.load_eq_ok :
    entry.load codec = .ok key ↔ ∃ createdAt filled complete,
      codec.parseTime entry.createdAt = .ok createdAt ∧
      entry.alg.orDefault.valid = .ok () ∧
      loadMaterial codec entry (entry.blank createdAt) = .ok filled ∧
      loadRetiredAt codec entry filled = .ok complete ∧ installHeader complete = .ok key := by
  simp only [SnapshotKey.load, SnapshotKey.load.inEntry, bind_eq_ok, mapError_eq_ok]
  constructor
  · rintro ⟨complete, ⟨createdAt, time, _, supported, filled, material, retired⟩, installed⟩
    exact ⟨createdAt, filled, complete, time, supported, material, retired, installed⟩
  · rintro ⟨createdAt, filled, complete, time, supported, material, retired, installed⟩
    exact ⟨complete, ⟨createdAt, time, (), supported, filled, material, retired⟩, installed⟩

theorem loadRetiredAt_inversion (succeeded : loadRetiredAt codec entry key = .ok loaded) :
    (entry.retiredAt = "" ∨ ∃ time, codec.parseTime entry.retiredAt = .ok time) ∧
      ∃ retiredAt, loaded = { key with retiredAt := retiredAt } := by
  unfold loadRetiredAt at succeeded
  split at succeeded
  · rename_i absent
    cases succeeded
    exact ⟨.inl absent, key.retiredAt, rfl⟩
  · split at succeeded
    · cases succeeded
    · rename_i time parsed
      cases succeeded
      exact ⟨.inr ⟨time, parsed⟩, some time, rfl⟩

theorem installHeader_inversion (succeeded : installHeader key = .ok loaded) :
    key.id ≠ "" ∧
      loaded = { key with
        header := some { alg := key.alg.orDefault, kid := key.id, typ := "JWT" } } := by
  unfold installHeader at succeeded
  split at succeeded
  · cases succeeded
  · rename_i header built
    cases succeeded
    rcases buildHeader_eq_ok.mp built with ⟨named, _, rfl⟩
    exact ⟨named, rfl⟩

theorem SnapshotKey.load_cases (succeeded : entry.load codec = .ok key) :
    (key.id = entry.id ∧ key.role = entry.role ∧ key.alg = entry.alg.orDefault) ∧
      (entry.alg.orDefault = .hs256 ∧ hexDecode entry.secretHex = some key.secret ∨
        entry.alg.orDefault ≠ .hs256 ∧
          ∃ pair, decodePrivatePEM codec entry.privatePEM entry.alg.orDefault = .ok pair ∧
            key.privateKey = some pair ∧ key.publicKey = some pair.publicKey) := by
  rcases SnapshotKey.load_eq_ok.mp succeeded with
    ⟨createdAt, filled, complete, _, supported, material, retired, installed⟩
  rcases loadRetiredAt_inversion retired with ⟨_, _, rfl⟩
  rcases installHeader_inversion installed with ⟨_, rfl⟩
  rcases loadMaterial_inversion supported material with
    ⟨symmetric, _, decoded, _, rfl⟩ | ⟨asymmetric, _, pair, decoded, rfl⟩
  · exact ⟨⟨rfl, rfl, rfl⟩, .inl ⟨symmetric, decoded⟩⟩
  · exact ⟨⟨rfl, rfl, rfl⟩, .inr ⟨asymmetric, pair, decoded, rfl, rfl⟩⟩

theorem SnapshotKey.load_identity (succeeded : entry.load codec = .ok key) :
    key.id = entry.id ∧ key.role = entry.role :=
  ⟨(load_cases succeeded).1.1, (load_cases succeeded).1.2.1⟩

theorem loadKeys_cons {next result : ExtTreeMap String Key} {rest : List SnapshotKey}
    (succeeded : loadKeys codec next (entry :: rest) = .ok result) :
    ∃ key, entry.load codec = .ok key ∧
      loadKeys codec (next.insert entry.id key) rest = .ok result := by
  unfold loadKeys at succeeded
  cases loaded : entry.load codec with
  | error message => simp [loaded] at succeeded
  | ok key => exact ⟨key, rfl, by simpa only [loaded] using succeeded⟩

variable (entries : List SnapshotKey)

theorem loadKeys_origin :
    ∀ {next result : ExtTreeMap String Key}, loadKeys codec next entries = .ok result →
      ∀ {id : String} {key : Key}, result[id]? = some key →
        (∃ entry ∈ entries, entry.id = id ∧ entry.load codec = .ok key) ∨ next[id]? = some key := by
  induction entries with
  | nil =>
    intro next result succeeded id key stored
    cases succeeded
    exact .inr stored
  | cons entry rest induction =>
    intro next result succeeded id key stored
    rcases loadKeys_cons succeeded with ⟨head, loaded, later⟩
    rcases induction later stored with ⟨other, member, origin⟩ | before
    · exact .inl ⟨other, List.mem_cons_of_mem entry member, origin⟩
    · rw [ExtTreeMap.getElem?_insert] at before
      split at before
      · rename_i same
        cases before
        exact .inl ⟨entry, List.mem_cons_self, by simpa using same, loaded⟩
      · exact .inr before

theorem loadKeys_complete :
    ∀ {next result : ExtTreeMap String Key}, loadKeys codec next entries = .ok result →
      ∀ {id : String}, (id ∈ next ∨ ∃ entry ∈ entries, entry.id = id) → id ∈ result := by
  induction entries with
  | nil =>
    intro next result succeeded id present
    cases succeeded
    simpa using present
  | cons entry rest induction =>
    intro next result succeeded id present
    rcases loadKeys_cons succeeded with ⟨head, loaded, later⟩
    apply induction later
    rcases present with before | ⟨other, member, named⟩
    · exact .inl (by simp [before])
    · rcases List.mem_cons.mp member with rfl | later
      · exact .inl (by simp [named])
      · exact .inr ⟨other, later, named⟩

theorem loadKeys_total (readable : ∀ entry ∈ entries, ∃ key, entry.load codec = .ok key) :
    ∀ next, ∃ result, loadKeys codec next entries = .ok result := by
  induction entries with
  | nil => exact fun next => ⟨next, rfl⟩
  | cons entry rest induction =>
    intro next
    rcases readable entry List.mem_cons_self with ⟨key, loaded⟩
    simp only [loadKeys, loaded]
    exact induction (fun other member => readable other (List.mem_cons_of_mem _ member)) _

/-! ## Rings and snapshots that agree -/

/-- `id` is stored with a role that is not the retired one. -/
def KeyRing.HasRole (ring : KeyRing) (id : String) (role : Role) : Prop :=
  role ≠ .retired ∧ ∃ key, ring.byID[id]? = some key ∧ key.role = role

def Snapshot.HasRole (snapshot : Snapshot) (id : String) (role : Role) : Prop :=
  ∃ entry ∈ snapshot.keys, entry.id = id ∧ entry.role = role

structure Agrees (ring : KeyRing) (snapshot : Snapshot) : Prop where
  active : ring.active = snapshot.activeKeyID
  roles : ∀ id role, ring.HasRole id role ↔ snapshot.HasRole id role

variable {ring : KeyRing}

theorem KeyRing.HasRole.unique {id : String} {left right : Role} (first : ring.HasRole id left)
    (second : ring.HasRole id right) : left = right := by
  rcases first with ⟨_, key, stored, rfl⟩
  rcases second with ⟨_, other, found, rfl⟩
  rw [stored] at found
  cases found
  rfl

theorem KeyRing.live_lookup (ring : KeyRing) (id : String) (key : Key) :
    ring.live[id]? = some key ↔ ring.byID[id]? = some key ∧ key.role ≠ .retired := by
  simp [KeyRing.live, ExtTreeMap.getElem?_filter, Option.filter_eq_some_iff]

theorem KeyRing.mem_snapshot :
    entry ∈ (ring.snapshot codec).keys ↔ ∃ (id : String) (key : Key),
      ring.byID[id]? = some key ∧ key.role ≠ .retired ∧ key.snapshot codec = entry := by
  simp only [KeyRing.snapshot, List.mem_map, Prod.exists,
    ExtTreeMap.mem_toList_iff_getElem?_eq_some, KeyRing.live_lookup, and_assoc]

theorem KeyRing.WellFormed.agrees_snapshot (valid : ring.WellFormed) (codec : Codec) :
    Agrees ring (ring.snapshot codec) := by
  refine ⟨rfl, fun id role => ?_⟩
  constructor
  · rintro ⟨live, key, stored, rfl⟩
    exact ⟨key.snapshot codec, KeyRing.mem_snapshot.mpr ⟨id, key, stored, live, rfl⟩,
      valid.keyed stored, rfl⟩
  · rintro ⟨entry, member, rfl, rfl⟩
    rcases KeyRing.mem_snapshot.mp member with ⟨id, key, stored, live, rfl⟩
    have same : (key.snapshot codec).id = id := valid.keyed stored
    rw [same]
    exact ⟨live, key, stored, rfl⟩

theorem KeyRing.WellFormed.agrees_encodeKeyRing (valid : ring.WellFormed) (codec : Codec) :
    Agrees ring (encodeKeyRing codec ring) := by
  have agreed := valid.agrees_snapshot codec
  exact ⟨agreed.active, agreed.roles⟩

variable {snapshot : Snapshot}

theorem loadSnapshot_inversion (succeeded : loadSnapshot codec snapshot = .ok ring) :
    loadKeys codec ∅ snapshot.keys = .ok ring.byID ∧ ring.active = snapshot.activeKeyID := by
  unfold loadSnapshot at succeeded
  split at succeeded
  · cases succeeded
  · split at succeeded
    · cases succeeded
    · rename_i next loaded
      split at succeeded
      · cases succeeded
      · cases succeeded
        exact ⟨loaded, rfl⟩

/-- A ring read from a snapshot that some well-formed ring agrees with is well formed and
agrees with it as well, whatever the time and key formats do. -/
theorem loadSnapshot_agrees {origin : KeyRing} (valid : origin.WellFormed)
    (agreed : Agrees origin snapshot) (succeeded : loadSnapshot codec snapshot = .ok ring) :
    ring.WellFormed ∧ Agrees ring snapshot := by
  rcases loadSnapshot_inversion succeeded with ⟨loaded, active⟩
  have entryOf : ∀ {id : String} {key : Key}, ring.byID[id]? = some key →
      key.id = id ∧ snapshot.HasRole id key.role := by
    intro id key stored
    rcases loadKeys_origin _ loaded stored with ⟨entry, member, rfl, read⟩ | before
    · rcases SnapshotKey.load_identity read with ⟨sameId, sameRole⟩
      exact ⟨sameId, entry, member, rfl, sameRole.symm⟩
    · simp at before
  have stored : ∀ {id : String} {role : Role}, snapshot.HasRole id role →
      ∃ key, ring.byID[id]? = some key ∧ key.role = role := by
    intro id role named
    have present : id ∈ ring.byID := by
      rcases named with ⟨entry, member, same, _⟩
      exact loadKeys_complete _ loaded (.inr ⟨entry, member, same⟩)
    rcases ExtTreeMap.isSome_getElem?_iff_mem.mpr present |> Option.isSome_iff_exists.mp with
      ⟨key, found⟩
    refine ⟨key, found, ?_⟩
    exact ((agreed.roles id key.role).mpr (entryOf found).2).unique
      ((agreed.roles id role).mpr named)
  have originOf : ∀ {id : String} {key : Key}, ring.byID[id]? = some key →
      key.role ≠ .retired ∧ ∃ before, origin.byID[id]? = some before ∧ before.role = key.role := by
    intro id key found
    exact (agreed.roles id key.role).mpr (entryOf found).2
  refine ⟨⟨fun found => (entryOf found).1, ?_, ?_, ?_, ?_⟩, active, fun id role => ?_⟩
  · intro id key found
    rcases originOf found with ⟨_, before, old, _⟩
    exact valid.named old
  · intro id key found
    rcases originOf found with ⟨_, before, old, _⟩
    rw [active, ← agreed.active]
    exact valid.started old
  · intro started
    rw [active, ← agreed.active] at started ⊢
    rcases valid.signing started with ⟨signer, found, signs⟩
    apply stored
    exact (agreed.roles _ _).mp ⟨by decide, signer, found, signs⟩
  · intro id key found signs
    rcases originOf found with ⟨_, before, old, same⟩
    rw [active, ← agreed.active]
    exact valid.unique old (same.trans signs)
  · constructor
    · rintro ⟨_, key, found, rfl⟩
      exact (entryOf found).2
    · intro named
      exact ⟨((agreed.roles id role).mpr named).1, stored named⟩

/-! ## The round trip -/

namespace Codec

def KeepsTime (codec : Codec) (time : Int) : Prop :=
  codec.parseTime (codec.formatTime time) = .ok time

def KeepsKey (codec : Codec) (key : PrivateKey) : Prop :=
  ∃ blob, codec.marshalPKCS8 key = .ok blob ∧
    codec.encodePEM "PRIVATE KEY" blob ≠ "" ∧
    codec.decodePEM (codec.encodePEM "PRIVATE KEY" blob) = some blob ∧
    codec.parsePKCS8 blob = .ok key

end Codec

def PrivateKey.Suits (pair : PrivateKey) (alg : Alg) : Prop :=
  pair.hasTypeFor alg = true ∧ ∀ key, pair = .ecdsa key → algForCurve key.curve = .ok alg

def Key.MaterialStorable (codec : Codec) (key : Key) : Prop :=
  (key.alg = .hs256 ∧ 32 ≤ key.secret.length ∧ key.privateKey = none ∧ key.publicKey = none) ∨
  ∃ pair, key.secret = [] ∧ key.privateKey = some pair ∧
    key.publicKey = some pair.publicKey ∧ pair.Suits key.alg ∧ codec.KeepsKey pair

structure Key.Storable (codec : Codec) (key : Key) : Prop where
  material : key.MaterialStorable codec
  created : codec.KeepsTime key.createdAt
  notRetired : key.retiredAt = none
  header : ∃ header, buildHeader key.id key.alg = .ok header ∧ key.header = some header

variable {pair : PrivateKey} {alg : Alg}

theorem PrivateKey.Suits.isAsymmetric (suits : pair.Suits alg) :
    alg = .edDSA ∨ alg = .rs256 ∨ alg = .es256 ∨ alg = .es384 := by
  rcases suits with ⟨typed, _⟩
  unfold hasTypeFor at typed
  split at typed <;> simp_all

variable {blob : Bytes}

private theorem decodePrivatePEM_of_suits {text : String} (suits : pair.Suits alg)
    (block : codec.decodePEM text = some blob) (parsed : codec.parsePKCS8 blob = .ok pair) :
    decodePrivatePEM codec text alg = .ok pair := by
  rcases suits with ⟨typed, curve⟩
  unfold decodePrivatePEM
  cases pair with
  | rsa key | ed25519 key | ecdsa key =>
    cases alg <;> simp_all [PrivateKey.hasTypeFor]

theorem privatePEM_of_suits (suits : pair.Suits alg)
    (marshalled : codec.marshalPKCS8 pair = .ok blob) :
    privatePEM codec alg (some pair) = codec.encodePEM "PRIVATE KEY" blob := by
  simp [privatePEM, suits.1, marshalled]

theorem Key.MaterialStorable.alg_valid (material : key.MaterialStorable codec) :
    key.alg.orDefault = key.alg ∧ key.alg.valid = .ok () := by
  rcases material with ⟨symmetric, _⟩ | ⟨pair, _, _, _, suits, _⟩
  · rw [symmetric]
    exact ⟨rfl, rfl⟩
  · rcases suits.isAsymmetric with alg | alg | alg | alg <;> (rw [alg]; exact ⟨rfl, rfl⟩)

theorem Key.MaterialStorable.loadMaterial (material : key.MaterialStorable codec) :
    loadMaterial codec (key.snapshot codec)
      { id := key.id, alg := key.alg, role := key.role, createdAt := key.createdAt } =
      .ok { key with retiredAt := none, header := none } := by
  have default := material.alg_valid.1
  rcases key with
    ⟨id, alg, secret, privateKey, publicKey, role, createdAt, retiredAt, header⟩
  rcases material with ⟨symmetric, long, noPrivate, noPublic⟩ |
    ⟨pair, noSecret, hasPrivate, hasPublic, suits, blob, marshalled, nonempty, block, parsed⟩
  · subst symmetric noPrivate noPublic
    simp [Auth.loadMaterial, Key.snapshot, Alg.orDefault, hexDecode_hexEncode, long]
  · subst noSecret hasPrivate hasPublic
    have text := privatePEM_of_suits suits marshalled
    have decoded := decodePrivatePEM_of_suits suits block parsed
    rcases suits.isAsymmetric with rfl | rfl | rfl | rfl <;>
      simp [Auth.loadMaterial, Key.snapshot, Alg.orDefault, text, nonempty, decoded]

theorem Key.Storable.load_snapshot (storable : key.Storable codec) :
    (key.snapshot codec).load codec = .ok key := by
  have material := storable.material.loadMaterial
  have alg := storable.material.alg_valid
  have created : codec.parseTime (codec.formatTime key.createdAt) = .ok key.createdAt :=
    storable.created
  have open_ := storable.notRetired
  rcases storable.header with ⟨header, built, cached⟩
  have sameAlg : (key.snapshot codec).alg.orDefault = key.alg := by simp [Key.snapshot, alg.1]
  have sameId : (key.snapshot codec).id = key.id := rfl
  have sameRole : (key.snapshot codec).role = key.role := rfl
  have readTime : codec.parseTime (key.snapshot codec).createdAt = .ok key.createdAt := created
  have noTime : (key.snapshot codec).retiredAt = "" := by simp [Key.snapshot, open_]
  simp only [SnapshotKey.load, SnapshotKey.load.inEntry, sameAlg, sameId, sameRole, alg.2,
    readTime, material, loadRetiredAt, noTime, Except.mapError, bind, Except.bind, if_true,
    installHeader, built]
  rcases key with
    ⟨id, alg, secret, privateKey, publicKey, role, createdAt, retiredAt, header⟩
  subst open_ cached
  rfl

structure KeyRing.Storable (codec : Codec) (ring : KeyRing) : Prop where
  wellFormed : ring.WellFormed
  keys : ∀ {id : String} {key : Key}, ring.byID[id]? = some key → key.role ≠ .retired →
    key.Storable codec

def KeyRing.withoutRetired (ring : KeyRing) : KeyRing :=
  { byID := ring.live, active := ring.active }

section

variable (storable : ring.Storable codec)
include storable

theorem KeyRing.Storable.loadKeys :
    loadKeys codec ∅ (ring.snapshot codec).keys = .ok ring.live := by
  have entryLoads : ∀ {id : String} {entry : SnapshotKey} {key : Key},
      entry ∈ (ring.snapshot codec).keys → entry.id = id → entry.load codec = .ok key →
        ring.live[id]? = some key := by
    intro id entry key member named loaded
    rcases KeyRing.mem_snapshot.mp member with ⟨other, original, stored, live, rfl⟩
    rw [(storable.keys stored live).load_snapshot] at loaded
    cases loaded
    have same : other = id := (storable.wellFormed.keyed stored).symm.trans named
    exact (KeyRing.live_lookup ring id key).mpr ⟨same ▸ stored, live⟩
  have readable : ∀ entry ∈ (ring.snapshot codec).keys, ∃ key, entry.load codec = .ok key := by
    intro entry member
    rcases KeyRing.mem_snapshot.mp member with ⟨other, original, stored, live, rfl⟩
    exact ⟨original, (storable.keys stored live).load_snapshot⟩
  rcases loadKeys_total _ readable ∅ with ⟨result, loaded⟩
  rw [loaded]
  congr 1
  apply ExtTreeMap.ext_getElem?
  intro id
  have resultIn : ∀ {key}, result[id]? = some key → ring.live[id]? = some key := by
    intro key found
    rcases loadKeys_origin _ loaded found with ⟨entry, member, named, read⟩ | before
    · exact entryLoads member named read
    · simp at before
  cases found : result[id]? with
  | some key => exact (resultIn found).symm
  | none =>
    cases stored : ring.live[id]? with
    | none => rfl
    | some key =>
      rcases (KeyRing.live_lookup ring id key).mp stored with ⟨known, live⟩
      have present : id ∈ result := loadKeys_complete _ loaded (.inr
        ⟨key.snapshot codec, KeyRing.mem_snapshot.mpr ⟨id, key, known, live, rfl⟩,
          storable.wellFormed.keyed known⟩)
      rw [← ExtTreeMap.isSome_getElem?_iff_mem, found] at present
      cases present

theorem KeyRing.Storable.loadSnapshot :
    loadSnapshot codec (ring.snapshot codec) = .ok ring.withoutRetired := by
  have valid := storable.wellFormed
  have started : ¬ ((ring.snapshot codec).activeKeyID = "" ∧ (ring.snapshot codec).keys ≠ []) := by
    rintro ⟨idle, nonempty⟩
    rcases List.exists_mem_of_ne_nil _ nonempty with ⟨entry, member⟩
    rcases KeyRing.mem_snapshot.mp member with ⟨id, key, stored, _, _⟩
    exact valid.started stored idle
  have present : ¬ ((ring.snapshot codec).activeKeyID ≠ "" ∧
      ring.live[(ring.snapshot codec).activeKeyID]? = none) := by
    rintro ⟨working, absent⟩
    change ring.live[ring.active]? = none at absent
    rcases valid.signing working with ⟨signer, found, signs⟩
    have live := (KeyRing.live_lookup ring ring.active signer).mpr ⟨found, by rw [signs]; decide⟩
    rw [absent] at live
    cases live
  unfold Auth.loadSnapshot
  rw [if_neg started, storable.loadKeys]
  simp only [if_neg present]
  rfl

theorem KeyRing.Storable.decode_encode :
    decodeKeyRing codec (encodeKeyRing codec ring) = .ok ring.withoutRetired := by
  rw [← storable.loadSnapshot]
  rfl

end

theorem KeyRing.live_withoutRetired (ring : KeyRing) : ring.withoutRetired.live = ring.live := by
  apply ExtTreeMap.ext_getElem?
  intro id
  apply Option.ext
  intro key
  have stored : ring.withoutRetired.byID[id]? = some key ↔ ring.live[id]? = some key := Iff.rfl
  rw [KeyRing.live_lookup, stored, KeyRing.live_lookup]
  tauto

theorem KeyRing.snapshot_withoutRetired (codec : Codec) (ring : KeyRing) :
    ring.withoutRetired.snapshot codec = ring.snapshot codec := by
  simp only [KeyRing.snapshot, KeyRing.live_withoutRetired]
  rfl

theorem KeyRing.Storable.withoutRetired (storable : ring.Storable codec) :
    ring.withoutRetired.Storable codec where
  wellFormed := (loadSnapshot_agrees storable.wellFormed
    (storable.wellFormed.agrees_snapshot codec) storable.loadSnapshot).1
  keys := by
    intro id key stored live
    exact storable.keys ((KeyRing.live_lookup ring id key).mp stored).1 live

theorem Key.Storable.roleFree (role : Role) (storable : key.Storable codec) :
    { key with role := role }.Storable codec :=
  ⟨storable.material, storable.created, storable.notRetired, storable.header⟩

theorem KeyRing.MadeSymmetric.storable {now : Int} (symmetric : MadeSymmetric key.id now key)
    (keepsTime : codec.KeepsTime now) (accepted : ring.Accepts key) : key.Storable codec :=
  ⟨.inl ⟨symmetric.alg, symmetric.secret, symmetric.privateKey, symmetric.publicKey⟩,
    symmetric.createdAt ▸ keepsTime, accepted.notRetired, accepted.header⟩

theorem Operation.Makes.storable {operation : Operation} {now : Int}
    (made : operation.Makes now key) (keepsTime : codec.KeepsTime now)
    (keepsPairs : ∀ alg pair, operation.Brings alg pair → pair.Suits alg ∧ codec.KeepsKey pair)
    (accepted : ring.Accepts key) : key.Storable codec := by
  rcases made with symmetric | ⟨alg, pair, brought, paired⟩
  · exact symmetric.storable keepsTime accepted
  · rcases keepsPairs alg pair brought with ⟨suits, kept⟩
    exact ⟨.inr ⟨pair, paired.secret, paired.privateKey, paired.publicKey,
      paired.alg ▸ suits, kept⟩, paired.createdAt ▸ keepsTime, accepted.notRetired,
      accepted.header⟩

end Parsec.Auth
