import Parsec.Auth.KeyRingInvariant

/-! # Key material over the history of a ring

A key's material is fixed when the key is installed: later calls change only its role and its
retirement time. -/

namespace Parsec.Auth

open Foundation Std

def Operation.entropy : Operation → Option Entropy
  | .generateAlg _ entropy | .generateEd25519 entropy | .generateRSA _ entropy
  | .generateECDSA _ entropy => some entropy
  | _ => none

inductive Operation.Brings : Operation → Alg → PrivateKey → Prop
  | ed25519 {id key} :
      Operation.Brings (.addEd25519 id key) .edDSA (.ed25519 key)
  | rsa {id key} :
      Operation.Brings (.addRSA id (some key)) .rs256 (.rsa key)
  | ecdsa {id key alg} :
      algForCurve key.curve = .ok alg →
      Operation.Brings (.addECDSA id (some key)) alg (.ecdsa key)
  | drawn {operation entropy alg pair} :
      operation.entropy = some entropy → KeyRing.Drawn entropy alg pair →
      Operation.Brings operation alg pair

def Operation.Makes (operation : Operation) (now : Int) (key : Key) : Prop :=
  KeyRing.MadeSymmetric key.id now key ∨
    ∃ alg pair, operation.Brings alg pair ∧ KeyRing.MadePaired key.id now alg pair key

structure Key.SameMaterial (left right : Key) : Prop where
  id : left.id = right.id
  alg : left.alg = right.alg
  secret : left.secret = right.secret
  privateKey : left.privateKey = right.privateKey
  publicKey : left.publicKey = right.publicKey
  header : left.header = right.header

theorem Key.SameMaterial.refl (key : Key) : key.SameMaterial key := ⟨rfl, rfl, rfl, rfl, rfl, rfl⟩

theorem Key.SameMaterial.trans {first second third : Key} (left : first.SameMaterial second)
    (right : second.SameMaterial third) : first.SameMaterial third where
  id := left.id.trans right.id
  alg := left.alg.trans right.alg
  secret := left.secret.trans right.secret
  privateKey := left.privateKey.trans right.privateKey
  publicKey := left.publicKey.trans right.publicKey
  header := left.header.trans right.header

namespace KeyRing

variable {operation : Operation} {now : Int} {key : Key}

theorem Generated.makes {entropy : Entropy} (draws : operation.entropy = some entropy)
    (generated : Generated entropy now key) : operation.Makes now key := by
  rcases generated with ⟨_, symmetric | ⟨alg, pair, drawn, made⟩⟩
  · exact .inl symmetric
  · exact .inr ⟨alg, pair, .drawn draws drawn, made⟩

variable {id : String}

theorem MadePaired.makes {alg : Alg} {pair : PrivateKey} (brought : operation.Brings alg pair)
    (made : MadePaired id now alg pair key) : operation.Makes now key := by
  have same := made.id
  subst same
  exact .inr ⟨alg, pair, brought, made⟩

variable {ring : KeyRing}

theorem Adds.fresh {holds : Key → Prop} {outcome : Outcome Key} (adds : ring.Adds holds outcome)
    (absent : ring.byID[id]? = none) (stored : outcome.2.byID[id]? = some key) :
    ring.Accepts key ∧ holds key := by
  rcases adds with ⟨message, rfl⟩ | ⟨added, accepted, made, rfl⟩
  · rw [absent] at stored
    cases stored
  · rw [installed_lookup] at stored
    split at stored
    · cases stored
      exact ⟨accepted, made⟩
    · rw [absent] at stored
      cases stored

section

variable (absent : ring.byID[id]? = none)
include absent

variable {target : String}

theorem promoted_absent : (ring.promoted target).byID[id]? = none := by
  by_cases same : id = target
  · subst same
    rw [promoted_lookup_self, absent]
    rfl
  · rw [promoted_lookup_other ring same]
    simp [absent]

theorem retired_absent : (ring.retired target now).byID[id]? = none := by
  rw [retired_lookup]
  simp [absent]

theorem perform_fresh (stored : (ring.perform operation now).2.byID[id]? = some key) :
    ring.Accepts key ∧ operation.Makes now key := by
  cases operation with
  | add name secret =>
    rcases (ring.add_adds name secret now).fresh absent stored with ⟨accepted, made⟩
    have same := made.id
    subst same
    exact ⟨accepted, .inl made⟩
  | addEd25519 name pair =>
    exact ((ring.addEd25519_adds name pair now).fresh absent stored).imp_right
      (MadePaired.makes .ed25519)
  | addECDSA name pair =>
    rcases (ring.addECDSA_adds name pair now).fresh absent stored with
      ⟨accepted, alg, pair, rfl, suited, made⟩
    exact ⟨accepted, made.makes (.ecdsa suited)⟩
  | addRSA name pair =>
    rcases (ring.addRSA_adds name pair now).fresh absent stored with ⟨accepted, pair, rfl, made⟩
    exact ⟨accepted, made.makes .rsa⟩
  | generateAlg alg entropy =>
    exact ((ring.generateAlg_adds alg entropy now).fresh absent stored).imp_right
      (Generated.makes rfl)
  | generateEd25519 entropy =>
    exact ((ring.generateEd25519_adds entropy now).fresh absent stored).imp_right
      (Generated.makes rfl)
  | generateRSA bits entropy =>
    exact ((ring.generateRSA_adds bits entropy now).fresh absent stored).imp_right
      (Generated.makes rfl)
  | generateECDSA curve entropy =>
    exact ((ring.generateECDSA_adds curve entropy now).fresh absent stored).imp_right
      (Generated.makes rfl)
  | promote target =>
    rcases ring.promote_cases target with ⟨message, equal⟩ | ⟨known, _, _, equal⟩
    · simp [perform, equal, absent] at stored
    · simp [perform, equal, promoted_absent absent] at stored
  | retire target =>
    rcases ring.retire_cases target now with
      ⟨message, equal⟩ | ⟨known, _, ⟨_, equal⟩ | ⟨_, _, equal⟩⟩
    · simp [perform, equal, absent] at stored
    · simp [perform, equal, absent] at stored
    · simp [perform, equal, retired_absent absent] at stored

end

theorem Change.keeps {next : KeyRing} (change : ring.Change next)
    (stored : ring.byID[id]? = some key) :
    ∃ after, next.byID[id]? = some after ∧ after.SameMaterial key := by
  cases change with
  | unchanged => exact ⟨key, stored, .refl key⟩
  | installed accepted => exact ⟨key, accepted.lookup_stored stored, .refl key⟩
  | @promoted target other known live =>
    by_cases same : id = target
    · subst same
      exact ⟨{ key with role := .active }, by rw [promoted_lookup_self, stored]; rfl,
        ⟨rfl, rfl, rfl, rfl, rfl, rfl⟩⟩
    · rw [promoted_lookup_other ring same]
      split
      · exact ⟨{ key with role := .verifyOnly }, by rw [stored]; rfl,
          ⟨rfl, rfl, rfl, rfl, rfl, rfl⟩⟩
      · exact ⟨key, stored, .refl key⟩
  | @retired target other now known idle =>
    rw [retired_lookup]
    split
    · exact ⟨{ key with role := .retired, retiredAt := some now }, by rw [stored]; rfl,
        ⟨rfl, rfl, rfl, rfl, rfl, rfl⟩⟩
    · exact ⟨key, stored, .refl key⟩

theorem performAll_keeps (operations : List (Operation × Int))
    (stored : ring.byID[id]? = some key) :
    ∃ after, (ring.performAll operations).byID[id]? = some after ∧ after.SameMaterial key := by
  induction operations generalizing ring key with
  | nil => exact ⟨key, stored, .refl key⟩
  | cons operation rest induction =>
    rcases (ring.perform_changes operation.1 operation.2).1.keeps stored with
      ⟨next, found, same⟩
    rcases induction found with ⟨after, final, sameAfter⟩
    exact ⟨after, final, sameAfter.trans same⟩

def LiveKeys (holds : Key → Prop) (ring : KeyRing) : Prop :=
  ∀ (id : String) (key : Key), ring.byID[id]? = some key → key.role ≠ .retired → holds key

section

variable {holds : Key → Prop} (roleFree : ∀ {key : Key} (role : Role), holds key →
  holds { key with role := role })

include roleFree

/-- A property that does not depend on the role passes from the live keys to the live keys
after a change, if the new ones have it. -/
theorem LiveKeys.change {ring next : KeyRing} (live : ring.LiveKeys holds)
    (valid : ring.WellFormed) (change : ring.Change next)
    (fresh : ∀ {id : String} {key : Key}, ring.byID[id]? = none → next.byID[id]? = some key →
      holds key) : next.LiveKeys holds := by
  intro id key stored unretired
  cases before : ring.byID[id]? with
  | none => exact fresh before stored
  | some old =>
    cases change with
    | unchanged => exact live id key stored unretired
    | installed accepted =>
      rw [accepted.lookup_stored before] at stored
      cases stored
      exact live id key before unretired
    | @promoted target other known otherLive =>
      by_cases same : id = target
      · subst same
        rw [promoted_lookup_self, known] at stored
        cases stored
        exact roleFree _ (live _ _ known otherLive)
      · rw [promoted_lookup_other ring same] at stored
        split at stored
        · rename_i demoted
          -- the demoted key was the signing one
          rcases valid.signing demoted.1 with ⟨signer, found, signs⟩
          rw [demoted.2] at found
          rw [found] at stored
          cases stored
          exact roleFree _ (live _ _ found (by rw [signs]; decide))
        · exact live id key stored unretired
    | @retired target other now known idle =>
      rw [retired_lookup] at stored
      split at stored
      · rename_i same
        subst same
        rw [known] at stored
        cases stored
        exact absurd rfl unretired
      · exact live id key stored unretired

variable {operations : List (Operation × Int)}

theorem LiveKeys.performAll {ring : KeyRing} (live : ring.LiveKeys holds) (valid : ring.WellFormed)
    (fresh : ∀ operation ∈ operations, ∀ {ring : KeyRing} {key : Key}, ring.Accepts key →
      operation.1.Makes operation.2 key → holds key) :
    (ring.performAll operations).LiveKeys holds := by
  induction operations generalizing ring with
  | nil => exact live
  | cons operation rest induction =>
    have change := (ring.perform_changes operation.1 operation.2).1
    refine induction (live.change roleFree valid change ?_) (change.wellFormed valid)
      fun later member => fresh later (List.mem_cons_of_mem _ member)
    intro id key absent stored
    rcases perform_fresh absent stored with ⟨accepted, made⟩
    exact fresh operation List.mem_cons_self accepted made

theorem liveKeys_of_operations
    (fresh : ∀ operation ∈ operations, ∀ {ring : KeyRing} {key : Key}, ring.Accepts key →
      operation.1.Makes operation.2 key → holds key) :
    (empty.performAll operations).LiveKeys holds :=
  LiveKeys.performAll roleFree (fun id key stored => by simp [empty] at stored) empty_wellFormed
    fresh

end

end KeyRing

end Parsec.Auth
