import Parsec.Auth.KeyRing

/-! # The key-ring invariant

What one call can do to a ring is said once, in `Adds`, `promote_cases` and `retire_cases`. -/

namespace Parsec.Auth

open Foundation Std

namespace KeyRing

def nextRole (ring : KeyRing) : Role :=
  if ring.byID.size = 0 then .active else .verifyOnly

variable (ring : KeyRing)

theorem nextRole_eq_active : ring.nextRole = .active ↔ ring.byID.size = 0 := by
  simp [nextRole]

def installed (ring : KeyRing) (key : Key) : KeyRing where
  byID := ring.byID.insert key.id key
  active := if ring.byID.size = 0 then key.id else ring.active

structure Accepts (ring : KeyRing) (key : Key) : Prop where
  fresh : ring.byID[key.id]? = none
  named : key.id ≠ ""
  role : key.role = ring.nextRole
  notRetired : key.retiredAt = none
  header : ∃ header, buildHeader key.id key.alg = .ok header ∧ key.header = some header

/-- A call that adds a key either fails and leaves the ring alone or stores one
acceptable key, of which `holds` says how it was made. -/
def Adds (ring : KeyRing) (holds : Key → Prop) (outcome : Outcome Key) : Prop :=
  (∃ message, outcome = (.error message, ring)) ∨
    ∃ key, ring.Accepts key ∧ holds key ∧ outcome = (.ok key, ring.installed key)

variable {holds : Key → Prop}

theorem Adds.failed {ring : KeyRing} {message : String} : ring.Adds holds (.error message, ring) :=
  .inl ⟨message, rfl⟩

theorem Adds.imp {ring : KeyRing} {weaker : Key → Prop} {outcome : Outcome Key}
    (adds : ring.Adds holds outcome) (implies : ∀ key, holds key → weaker key) :
    ring.Adds weaker outcome := by
  rcases adds with failed | ⟨key, accepted, made, equal⟩
  · exact .inl failed
  · exact .inr ⟨key, accepted, implies key made, equal⟩

variable (id : String)

theorem install_adds (make : Role → Key) (named : id ≠ "")
    (made : ∀ role, (make role).id = id ∧ (make role).role = role ∧ (make role).retiredAt = none)
    (kept : ∀ role header, holds { make role with header := header }) :
    ring.Adds holds (ring.install id make) := by
  unfold install
  split
  · exact .failed
  · rename_i unknown
    have absent : ring.byID[id]? = none := by simpa using unknown
    rcases made ring.nextRole with ⟨sameId, sameRole, open_⟩
    have role : (if ring.byID.size = 0 then Role.active else .verifyOnly) = ring.nextRole := rfl
    simp only [role, installHeader]
    cases built : buildHeader (make ring.nextRole).id (make ring.nextRole).alg with
    | error message => exact .failed
    | ok header =>
      refine .inr ⟨{ make ring.nextRole with header := some header }, ?_, kept _ _, ?_⟩
      · exact ⟨by simpa [sameId] using absent, by simpa [sameId] using named, sameRole,
          open_, header, built, rfl⟩
      · by_cases first : ring.byID.size = 0 <;> simp [installed, nextRole_eq_active, first, sameId]

structure MadeSymmetric (id : String) (now : Int) (key : Key) : Prop where
  id : key.id = id
  createdAt : key.createdAt = now
  alg : key.alg = .hs256
  secret : 32 ≤ key.secret.length
  privateKey : key.privateKey = none
  publicKey : key.publicKey = none

structure MadePaired (id : String) (now : Int) (alg : Alg) (pair : PrivateKey)
    (key : Key) : Prop where
  id : key.id = id
  createdAt : key.createdAt = now
  alg : key.alg = alg
  secret : key.secret = []
  privateKey : key.privateKey = some pair
  publicKey : key.publicKey = some pair.publicKey

theorem add_adds (secret : Bytes) (now : Int) :
    ring.Adds (MadeSymmetric id now) (ring.add id secret now) := by
  unfold add
  split
  · exact .failed
  · split
    · exact .failed
    · rename_i named long
      exact ring.install_adds id _ named (fun _ => ⟨rfl, rfl, rfl⟩)
        (fun _ _ => ⟨rfl, rfl, rfl, Nat.not_lt.mp long, rfl, rfl⟩)

theorem addAsymmetric_adds (alg : Alg) (pair : PrivateKey) (now : Int) :
    ring.Adds (MadePaired id now alg pair) (ring.addAsymmetric id alg (some pair) now) := by
  unfold addAsymmetric
  split
  · exact .failed
  · rename_i named
    exact ring.install_adds id _ named (fun _ => ⟨rfl, rfl, rfl⟩)
      (fun _ _ => ⟨rfl, rfl, rfl, rfl, rfl, rfl⟩)

theorem addEd25519_adds (key : Bytes) (now : Int) :
    ring.Adds (MadePaired id now .edDSA (.ed25519 key)) (ring.addEd25519 id key now) := by
  unfold addEd25519
  split
  · exact .failed
  · exact ring.addAsymmetric_adds id _ _ now

theorem addECDSA_adds (key : Option ECDSAPrivateKey) (now : Int) :
    ring.Adds (fun added => ∃ alg pair, key = some pair ∧ algForCurve pair.curve = .ok alg ∧
      MadePaired id now alg (.ecdsa pair) added) (ring.addECDSA id key now) := by
  unfold addECDSA
  cases key with
  | none => exact .failed
  | some key =>
    simp only
    cases suited : algForCurve key.curve with
    | error message => exact .failed
    | ok alg =>
      exact (ring.addAsymmetric_adds id alg _ now).imp fun _ made =>
        ⟨alg, key, rfl, suited, made⟩

theorem addRSA_adds (key : Option RSAPrivateKey) (now : Int) :
    ring.Adds (fun added => ∃ pair, key = some pair ∧ MadePaired id now .rs256 (.rsa pair) added)
      (ring.addRSA id key now) := by
  unfold addRSA
  cases key with
  | none => exact .failed
  | some key =>
    simp only
    split
    · exact .failed
    · exact (ring.addAsymmetric_adds id _ _ now).imp fun _ made => ⟨key, rfl, made⟩

inductive Drawn (entropy : Entropy) : Alg → PrivateKey → Prop
  | ed25519 {key : Bytes} : entropy.ed25519 = .ok key → Drawn entropy .edDSA (.ed25519 key)
  | rsa {bits : Int} {key : RSAPrivateKey} : entropy.rsa bits = .ok key →
      Drawn entropy .rs256 (.rsa key)
  | ecdsa {curve : Curve} {alg : Alg} {key : ECDSAPrivateKey} :
      algForCurve curve = .ok alg → entropy.ecdsa curve = .ok key →
      Drawn entropy alg (.ecdsa key)

def Generated (entropy : Entropy) (now : Int) (key : Key) : Prop :=
  newKeyID entropy.keyID = .ok key.id ∧
    (MadeSymmetric key.id now key ∨
      ∃ alg pair, Drawn entropy alg pair ∧ MadePaired key.id now alg pair key)

variable {key : Key}

theorem MadePaired.generated {entropy : Entropy} {id : String} {now : Int} {alg : Alg}
    {pair : PrivateKey} (made : MadePaired id now alg pair key)
    (named : newKeyID entropy.keyID = .ok id) (drawn : Drawn entropy alg pair) :
    Generated entropy now key := by
  have same := made.id
  subst same
  exact ⟨named, .inr ⟨alg, pair, drawn, made⟩⟩

theorem generateEd25519_adds (entropy : Entropy) (now : Int) :
    ring.Adds (Generated entropy now) (ring.generateEd25519 entropy now) := by
  unfold generateEd25519
  cases named : newKeyID entropy.keyID with
  | error message => exact .failed
  | ok id =>
    cases drawn : entropy.ed25519 with
    | error message => exact .failed
    | ok key =>
      exact (ring.addAsymmetric_adds id _ _ now).imp fun _ made =>
        made.generated named (.ed25519 drawn)

theorem generateRSA_adds (bits : Int) (entropy : Entropy) (now : Int) :
    ring.Adds (Generated entropy now) (ring.generateRSA bits entropy now) := by
  unfold generateRSA
  split
  · exact .failed
  · cases named : newKeyID entropy.keyID with
    | error message => exact .failed
    | ok id =>
      cases drawn : entropy.rsa bits with
      | error message => exact .failed
      | ok key =>
        exact (ring.addAsymmetric_adds id _ _ now).imp fun _ made =>
          made.generated named (.rsa drawn)

theorem generateECDSA_adds (curve : Curve) (entropy : Entropy) (now : Int) :
    ring.Adds (Generated entropy now) (ring.generateECDSA curve entropy now) := by
  unfold generateECDSA
  cases suited : algForCurve curve with
  | error message => exact .failed
  | ok alg =>
    cases named : newKeyID entropy.keyID with
    | error message => exact .failed
    | ok id =>
      cases drawn : entropy.ecdsa curve with
      | error message => exact .failed
      | ok key =>
        exact (ring.addAsymmetric_adds id alg _ now).imp fun _ made =>
          made.generated named (.ecdsa suited drawn)

theorem generate_adds (entropy : Entropy) (now : Int) :
    ring.Adds (fun key => newKeyID entropy.keyID = .ok key.id ∧ MadeSymmetric key.id now key)
      (ring.generateAlg .hs256 entropy now) := by
  unfold generateAlg
  cases named : newKeyID entropy.keyID with
  | error message => exact .failed
  | ok id =>
    cases entropy.secret with
    | none => exact .failed
    | some secret =>
      refine (ring.add_adds id secret now).imp fun key made => ?_
      have same := made.id
      subst same
      exact ⟨rfl, made⟩

theorem generateAlg_adds (alg : Alg) (entropy : Entropy) (now : Int) :
    ring.Adds (Generated entropy now) (ring.generateAlg alg entropy now) := by
  have symmetric : ring.Adds (Generated entropy now) (ring.generateAlg .hs256 entropy now) :=
    (ring.generate_adds entropy now).imp fun _ made => ⟨made.1, .inl made.2⟩
  cases alg with
  | hs256 | unset => exact symmetric
  | edDSA => exact ring.generateEd25519_adds entropy now
  | rs256 => exact ring.generateRSA_adds 2048 entropy now
  | es256 => exact ring.generateECDSA_adds .p256 entropy now
  | es384 => exact ring.generateECDSA_adds .p384 entropy now
  | other name => exact .failed

def promoted (ring : KeyRing) (id : String) : KeyRing :=
  let demoted :=
    if ring.active ≠ "" ∧ ring.active ≠ id then ring.setRole ring.active .verifyOnly
    else ring
  { demoted.setRole id .active with active := id }

theorem promote_cases :
    (∃ message, ring.promote id = (.error message, ring)) ∨
      ∃ key, ring.byID[id]? = some key ∧ key.role ≠ .retired ∧
        ring.promote id = (.ok (), ring.promoted id) := by
  unfold promote
  cases known : ring.byID[id]? with
  | none => exact .inl ⟨_, rfl⟩
  | some key =>
    by_cases gone : key.role = .retired
    · exact .inl ⟨"auth: cannot promote retired key " ++ id.quote, by simp [gone]⟩
    · exact .inr ⟨key, rfl, gone, by simp [gone, promoted]⟩

def retired (ring : KeyRing) (id : String) (now : Int) : KeyRing :=
  (ring.setRole id .retired).setRetiredAt id now

theorem retire_cases (now : Int) :
    (∃ message, ring.retire id now = (.error message, ring)) ∨
      ∃ key, ring.byID[id]? = some key ∧
        ((key.role = .retired ∧ ring.retire id now = (.ok (), ring)) ∨
          (key.role ≠ .retired ∧ id ≠ ring.active ∧
            ring.retire id now = (.ok (), ring.retired id now))) := by
  unfold retire
  cases known : ring.byID[id]? with
  | none => exact .inl ⟨_, rfl⟩
  | some key =>
    by_cases gone : key.role = .retired
    · exact .inr ⟨key, rfl, .inl ⟨gone, by simp [gone]⟩⟩
    · by_cases signing : id = ring.active
      · exact .inl ⟨"auth: cannot retire active key " ++ id.quote ++
          "; promote another first", by simp [gone, signing]⟩
      · exact .inr ⟨key, rfl, .inr ⟨gone, signing, by simp [gone, signing, retired]⟩⟩

/-! ## Lookups after a change -/

theorem installed_lookup (key : Key) (id : String) :
    (ring.installed key).byID[id]? = if key.id = id then some key else ring.byID[id]? := by
  simp [installed, ExtTreeMap.getElem?_insert]

variable (target : String)

theorem setRole_lookup (id : String) (role : Role) :
    (ring.setRole target role).byID[id]? =
      if target = id then ring.byID[id]?.map fun key => { key with role := role }
      else ring.byID[id]? := by
  by_cases same : target = id
  · subst same
    simp [setRole]
  · simp [setRole, ExtTreeMap.getElem?_modify, same]

theorem retired_lookup (id : String) (now : Int) :
    (ring.retired target now).byID[id]? =
      if target = id then
        ring.byID[id]?.map fun key => { key with role := .retired, retiredAt := some now }
      else ring.byID[id]? := by
  by_cases same : target = id
  · subst same
    simp [retired, setRetiredAt, setRole_lookup, Function.comp_def]
  · simp [retired, setRetiredAt, ExtTreeMap.getElem?_modify, same, setRole_lookup]

theorem promoted_lookup_self :
    (ring.promoted target).byID[target]? =
      ring.byID[target]?.map fun key => { key with role := .active } := by
  unfold promoted
  split
  · rename_i differs
    simp [setRole_lookup, differs.2]
  · simp [setRole_lookup]

theorem promoted_lookup_other {target id : String} (other : id ≠ target) :
    (ring.promoted target).byID[id]? =
      if ring.active ≠ "" ∧ ring.active = id then
        ring.byID[id]?.map fun key => { key with role := .verifyOnly }
      else ring.byID[id]? := by
  unfold promoted
  split
  · rename_i differs
    simp only [setRole_lookup, other.symm, if_false, differs.1, ne_eq, not_false_eq_true, true_and]
  · rename_i same
    simp only [setRole_lookup, other.symm, if_false]
    rw [if_neg]
    rintro ⟨nonempty, equal⟩
    exact same ⟨nonempty, equal ▸ other⟩

/-! ## One call -/

/-- What a call does to the ring, whatever the call is. -/
inductive Change (ring : KeyRing) : KeyRing → Prop
  | unchanged : Change ring ring
  | installed {key : Key} : ring.Accepts key → Change ring (ring.installed key)
  | promoted {id : String} {key : Key} : ring.byID[id]? = some key → key.role ≠ .retired →
      Change ring (ring.promoted id)
  | retired {id : String} {key : Key} (now : Int) : ring.byID[id]? = some key →
      id ≠ ring.active → Change ring (ring.retired id now)

def Changes (ring : KeyRing) (outcome : Outcome Unit) : Prop :=
  ring.Change outcome.2 ∧ ∀ message, outcome.1 = .error message → outcome.2 = ring

theorem Adds.changes {ring : KeyRing} {outcome : Outcome Key} (adds : ring.Adds holds outcome) :
    ring.Changes outcome.discard := by
  rcases adds with ⟨message, rfl⟩ | ⟨key, accepted, _, rfl⟩
  · exact ⟨.unchanged, fun _ _ => rfl⟩
  · refine ⟨.installed accepted, ?_⟩
    intro message failed
    exact absurd failed (by simp [Outcome.discard, Except.map])

theorem promote_changes : ring.Changes (ring.promote id) := by
  rcases ring.promote_cases id with ⟨message, equal⟩ | ⟨key, known, live, equal⟩
  · rw [equal]
    exact ⟨.unchanged, fun _ _ => rfl⟩
  · rw [equal]
    exact ⟨.promoted known live, by simp⟩

theorem retire_changes (now : Int) : ring.Changes (ring.retire id now) := by
  rcases ring.retire_cases id now with
    ⟨message, equal⟩ | ⟨key, known, ⟨gone, equal⟩ | ⟨live, idle, equal⟩⟩
  · rw [equal]
    exact ⟨.unchanged, fun _ _ => rfl⟩
  · rw [equal]
    exact ⟨.unchanged, fun _ _ => rfl⟩
  · rw [equal]
    exact ⟨.retired now known idle, by simp⟩

theorem perform_changes (operation : Operation) (now : Int) :
    ring.Changes (ring.perform operation now) := by
  cases operation with
  | add id secret => exact (ring.add_adds id secret now).changes
  | addEd25519 id key => exact (ring.addEd25519_adds id key now).changes
  | addECDSA id key => exact (ring.addECDSA_adds id key now).changes
  | addRSA id key => exact (ring.addRSA_adds id key now).changes
  | generateAlg alg entropy => exact (ring.generateAlg_adds alg entropy now).changes
  | generateEd25519 entropy => exact (ring.generateEd25519_adds entropy now).changes
  | generateRSA bits entropy => exact (ring.generateRSA_adds bits entropy now).changes
  | generateECDSA curve entropy => exact (ring.generateECDSA_adds curve entropy now).changes
  | promote id => exact ring.promote_changes id
  | retire id => exact ring.retire_changes id now

/-! ## The invariant -/

structure WellFormed (ring : KeyRing) : Prop where
  keyed : ∀ {id : String} {key : Key}, ring.byID[id]? = some key → key.id = id
  named : ∀ {id : String} {key : Key}, ring.byID[id]? = some key → id ≠ ""
  started : ∀ {id : String} {key : Key}, ring.byID[id]? = some key → ring.active ≠ ""
  signing : ring.active ≠ "" →
    ∃ signer : Key, ring.byID[ring.active]? = some signer ∧ signer.role = .active
  unique : ∀ {id : String} {key : Key}, ring.byID[id]? = some key → key.role = .active →
    id = ring.active

variable {ring} {id}

theorem lookup_none_of_size_zero (none_ : ring.byID.size = 0)
    (id : String) : ring.byID[id]? = none := by
  have isEmpty : ring.byID = ∅ :=
    ExtTreeMap.eq_empty_iff_size_eq_zero.mpr none_
  simp [isEmpty]

theorem exists_lookup_of_size (some_ : ring.byID.size ≠ 0) :
    ∃ (id : String) (key : Key), ring.byID[id]? = some key := by
  by_contra absent
  push Not at absent
  apply some_
  apply ExtTreeMap.eq_empty_iff_size_eq_zero.mp
  apply ExtTreeMap.ext_getElem?
  intro id
  cases found : ring.byID[id]? with
  | none => simp
  | some key => exact absurd found (absent id key)

theorem empty_wellFormed : empty.WellFormed := by
  constructor <;> simp [empty]

theorem Accepts.lookup_stored {added : Key}
    (accepted : ring.Accepts added) (stored : ring.byID[id]? = some key) :
    (ring.installed added).byID[id]? = some key := by
  rw [installed_lookup, if_neg]
  · exact stored
  · intro same
    rw [← same, accepted.fresh] at stored
    cases stored

section

variable (valid : ring.WellFormed)
include valid

theorem installed_wellFormed (accepted : ring.Accepts key) : (ring.installed key).WellFormed := by
  have role := accepted.role
  constructor
  · intro id found stored
    rw [installed_lookup] at stored
    split at stored
    · rename_i same
      cases stored
      exact same
    · exact valid.keyed stored
  · intro id found stored
    rw [installed_lookup] at stored
    split at stored
    · rename_i same
      exact same ▸ accepted.named
    · exact valid.named stored
  · intro id found stored
    by_cases first : ring.byID.size = 0
    · simpa [installed, first] using accepted.named
    · rcases exists_lookup_of_size first with ⟨someId, someKey, known⟩
      simpa [installed, first] using valid.started known
  · intro started
    by_cases first : ring.byID.size = 0
    · refine ⟨key, ?_, by simpa [nextRole, first] using role⟩
      simp [installed, first]
    · have before : ring.active ≠ "" := by
        simpa [installed, first] using started
      rcases valid.signing before with ⟨signer, found, signs⟩
      refine ⟨signer, ?_, signs⟩
      rw [show (ring.installed key).active = ring.active by simp [installed, first]]
      exact accepted.lookup_stored found
  · intro id found stored signs
    rw [installed_lookup] at stored
    split at stored
    · rename_i same
      cases stored
      by_cases first : ring.byID.size = 0
      · simp [installed, first, same]
      · rw [role, nextRole, if_neg first] at signs
        cases signs
    · have current := valid.unique stored signs
      have present : ring.byID.size ≠ 0 := by
        intro none_
        rw [lookup_none_of_size_zero none_] at stored
        cases stored
      simpa [installed, present] using current

theorem WellFormed.of_origin {next : KeyRing}
    (origin : ∀ {id : String} {found : Key}, next.byID[id]? = some found →
      ∃ before : Key, ring.byID[id]? = some before ∧ found.id = before.id ∧
        (found.role = .active → id = next.active)) (started : ring.active ≠ "" → next.active ≠ "")
    (signing : next.active ≠ "" →
      ∃ signer : Key, next.byID[next.active]? = some signer ∧ signer.role = .active) :
    next.WellFormed where
  keyed := by
    intro id found stored
    rcases origin stored with ⟨before, old, sameId, _⟩
    rw [sameId]
    exact valid.keyed old
  named := by
    intro id found stored
    rcases origin stored with ⟨before, old, _, _⟩
    exact valid.named old
  started := by
    intro id found stored
    rcases origin stored with ⟨before, old, _, _⟩
    exact started (valid.started old)
  signing := signing
  unique := by
    intro id found stored signs
    rcases origin stored with ⟨before, old, _, current⟩
    exact current signs

theorem promoted_wellFormed (known : ring.byID[id]? = some key) :
    (ring.promoted id).WellFormed := by
  apply valid.of_origin
  · intro other found stored
    by_cases same : other = id
    · subst same
      rw [promoted_lookup_self, known] at stored
      cases stored
      exact ⟨key, known, rfl, fun _ => rfl⟩
    · rw [promoted_lookup_other ring same] at stored
      split at stored
      · rcases Option.map_eq_some_iff.mp stored with ⟨old, before, rfl⟩
        exact ⟨old, before, rfl, fun signs => by cases signs⟩
      · rename_i inactive
        refine ⟨found, stored, rfl, fun signs => ?_⟩
        have current := valid.unique stored signs
        exact absurd ⟨current ▸ valid.named stored, current.symm⟩ inactive
  · exact fun _ => valid.named known
  · intro started
    refine ⟨{ key with role := .active }, ?_, rfl⟩
    change (ring.promoted id).byID[id]? = _
    rw [promoted_lookup_self, known]
    rfl

theorem retired_wellFormed (idle : id ≠ ring.active) (now : Int) :
    (ring.retired id now).WellFormed := by
  apply valid.of_origin
  · intro other found stored
    rw [retired_lookup] at stored
    split at stored
    · rcases Option.map_eq_some_iff.mp stored with ⟨old, before, rfl⟩
      exact ⟨old, before, rfl, fun signs => by cases signs⟩
    · exact ⟨found, stored, rfl, valid.unique stored⟩
  · exact fun started => started
  · intro started
    rcases valid.signing started with ⟨signer, current, signs⟩
    refine ⟨signer, ?_, signs⟩
    change (ring.retired id now).byID[ring.active]? = _
    rw [retired_lookup, if_neg idle]
    exact current

end

theorem Change.wellFormed {next : KeyRing} (change : ring.Change next)
    (valid : ring.WellFormed) : next.WellFormed := by
  cases change with
  | unchanged => exact valid
  | installed accepted => exact installed_wellFormed valid accepted
  | promoted known live => exact promoted_wellFormed valid known
  | retired now known idle => exact retired_wellFormed valid idle now

theorem performAll_wellFormed (operations : List (Operation × Int))
    (valid : ring.WellFormed) : (ring.performAll operations).WellFormed := by
  induction operations generalizing ring with
  | nil => exact valid
  | cons operation rest induction =>
    exact induction ((ring.perform_changes operation.1 operation.2).1.wellFormed valid)

/-! ## Retired keys -/

def IsRetired (ring : KeyRing) (id : String) : Prop :=
  ∃ key, ring.byID[id]? = some key ∧ key.role = .retired

theorem WellFormed.active_not_retired (valid : ring.WellFormed)
    (gone : ring.IsRetired id) : ring.active ≠ id := by
  rcases gone with ⟨key, stored, role⟩
  rintro rfl
  rcases valid.signing (valid.started stored) with ⟨signer, found, signs⟩
  rw [stored] at found
  cases found
  rw [role] at signs
  cases signs

theorem get_of_isRetired (gone : ring.IsRetired id) :
    ∃ message, ring.get id = .error message := by
  rcases gone with ⟨key, stored, role⟩
  exact ⟨"auth: key " ++ id.quote ++ " is retired", by simp [get, stored, role]⟩

theorem retired_isRetired (known : ring.byID[id]? = some key) (now : Int) :
    (ring.retired id now).IsRetired id :=
  ⟨{ key with role := .retired, retiredAt := some now }, by simp [retired_lookup, known], rfl⟩

private theorem isRetired_of_retire_ok {now : Int}
    (succeeded : (ring.retire id now).1 = .ok ()) : (ring.retire id now).2.IsRetired id := by
  rcases ring.retire_cases id now with
    ⟨message, equal⟩ | ⟨key, known, ⟨gone, equal⟩ | ⟨live, idle, equal⟩⟩
  · rw [equal] at succeeded
    cases succeeded
  · rw [equal]
    exact ⟨key, known, gone⟩
  · rw [equal]
    exact retired_isRetired known now

theorem Change.isRetired {next : KeyRing} (change : ring.Change next)
    (valid : ring.WellFormed) (gone : ring.IsRetired id) :
    next.IsRetired id := by
  have inactive := valid.active_not_retired gone
  rcases gone with ⟨key, stored, role⟩
  cases change with
  | unchanged => exact ⟨key, stored, role⟩
  | installed accepted => exact ⟨key, accepted.lookup_stored stored, role⟩
  | @promoted target other known live =>
    have different : id ≠ target := by
      rintro rfl
      rw [stored] at known
      cases known
      exact live role
    refine ⟨key, ?_, role⟩
    rw [promoted_lookup_other ring different, if_neg (fun current => inactive current.2)]
    exact stored
  | @retired target other now known idle =>
    by_cases same : target = id
    · subst same
      exact retired_isRetired stored now
    · exact ⟨key, by simpa [retired_lookup, same] using stored, role⟩

private theorem performAll_isRetired (operations : List (Operation × Int))
    (valid : ring.WellFormed) (gone : ring.IsRetired id) :
    (ring.performAll operations).IsRetired id := by
  induction operations generalizing ring with
  | nil => exact gone
  | cons operation rest induction =>
    have change := (ring.perform_changes operation.1 operation.2).1
    exact induction (change.wellFormed valid) (change.isRetired valid gone)

/-- After any calls on an empty ring the active id names the only signing key, a retired
key is never handed out or promoted again, and a failed call changes nothing. -/
theorem invariant_of_operations (before : List (Operation × Int)) :
    let ring := KeyRing.empty.performAll before
    (ring.byID.size ≠ 0 →
      (∃ key, ring.byID[ring.active]? = some key ∧ key.id = ring.active ∧ key.role = .active) ∧
      ∀ id key, ring.byID[id]? = some key → key.role = .active → id = ring.active) ∧
    (∀ id now, (ring.retire id now).1 = .ok () → ∀ later,
      let final := (ring.retire id now).2.performAll later
      (∃ message, final.get id = .error message) ∧ final.active ≠ id ∧
        ∀ key, final.byID[id]? = some key → key.role ≠ .active) ∧
    ∀ operation now message, (ring.perform operation now).1 = .error message →
      (ring.perform operation now).2 = ring := by
  intro ring
  have valid : ring.WellFormed := performAll_wellFormed before empty_wellFormed
  refine ⟨?_, ?_, ?_⟩
  · intro nonempty
    rcases exists_lookup_of_size nonempty with ⟨id, key, known⟩
    rcases valid.signing (valid.started known) with ⟨signer, found, signs⟩
    exact ⟨⟨signer, found, valid.keyed found, signs⟩, fun _ _ => valid.unique⟩
  · intro id now succeeded later
    have gone := isRetired_of_retire_ok succeeded
    have next := (ring.retire_changes id now).1.wellFormed valid
    have finalGone := performAll_isRetired later next gone
    refine ⟨get_of_isRetired finalGone,
      (performAll_wellFormed later next).active_not_retired finalGone, ?_⟩
    rcases finalGone with ⟨key, stored, role⟩
    intro other found
    rw [stored] at found
    cases found
    rw [role]
    decide
  · intro operation now
    exact (ring.perform_changes operation now).2

def rotated : List (Operation × Int) :=
  [(.add "first" (List.replicate 32 1), 0), (.add "second" (List.replicate 32 2), 0),
    (.promote "second", 1)]

theorem invariant_of_rotated :
    (KeyRing.empty.performAll rotated).active = "second" ∧
    ((KeyRing.empty.performAll rotated).retire "first" 2).1 = .ok () ∧
    ∃ message, (((KeyRing.empty.performAll rotated).retire "first" 2).2.performAll
      [(.promote "first", 3)]).get "first" = .error message := by
  have retires : ((KeyRing.empty.performAll rotated).retire "first" 2).1 = .ok () := by
    decide +kernel
  exact ⟨by decide +kernel, retires,
    ((invariant_of_operations rotated).2.1 "first" 2 retires [(.promote "first", 3)]).1⟩

end KeyRing

end Parsec.Auth
