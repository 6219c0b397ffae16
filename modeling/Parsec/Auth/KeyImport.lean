import Parsec.Auth.Persistence

/-! # Importing keys

The import command replaces the stored ring by the one a snapshot describes. Without `--force` it
first compares the secrets of the ids that both have. -/

namespace Parsec.Auth

open Foundation Std SnapshotKey

def Key.material (key : Key) : Bytes ⊕ Option PrivateKey :=
  if key.alg.orDefault = .hs256 then .inl key.secret else .inr key.privateKey

def Key.KeepsMaterial (before after : Key) : Prop :=
  before.alg.orDefault = after.alg.orDefault ∧ before.material = after.material

variable {id text : String} {keys : List SnapshotKey} {entry : SnapshotKey} {key : Key}
  {codec : Codec} {ring fresh : KeyRing} {stored snapshot : Snapshot}

private theorem Key.KeepsMaterial.privateKey {before after : Key}
    (kept : before.KeepsMaterial after) (asymmetric : after.alg.orDefault ≠ .hs256) :
    before.privateKey = after.privateKey := by
  rcases kept with ⟨sameAlg, same⟩
  rw [material, if_neg (sameAlg ▸ asymmetric), material, if_neg asymmetric] at same
  exact Sum.inr.inj same

/-! ## What is compared -/

section Compared

variable (held : decodeKeyRing codec stored = .ok ring) {before : Key}
  (here : ring.byID[id]? = some before)
include held

include here

end Compared

/-! ## Another snapshot of the same shape -/

def Snapshot.replace (snapshot : Snapshot) (entry : SnapshotKey) : Snapshot :=
  { snapshot with keys := snapshot.keys.filter (·.id ≠ entry.id) ++ [entry] }

section Replacing

variable {replacement : SnapshotKey}

theorem Snapshot.Readable.replace (readable : snapshot.Readable codec)
    (counted : ∃ entry ∈ snapshot.keys, entry.id = replacement.id)
    (other : replacement.Readable codec) : (snapshot.replace replacement).Readable codec where
  entries := by
    intro entry member
    rcases List.mem_append.mp member with kept | last
    · exact readable.entries entry (List.mem_of_mem_filter kept)
    · rw [List.mem_singleton.mp last]
      exact other
  started := fun _ => readable.started (by
    rcases counted with ⟨entry, member, _⟩
    exact List.ne_nil_of_mem member)
  signing := by
    intro named
    rcases readable.signing named with ⟨entry, member, active⟩
    by_cases same : entry.id = replacement.id
    · exact ⟨replacement, by simp [Snapshot.replace], same.symm.trans active⟩
    · exact ⟨entry, by simp [Snapshot.replace, member, same], active⟩

end Replacing

end Parsec.Auth
