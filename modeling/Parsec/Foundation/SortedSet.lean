import Mathlib

/-! # Sorted sets

Members with scores, in the order of the scores. Every member occurs once; adding it again
moves it. -/

namespace Parsec.Foundation

universe u v

structure SortedSet (Member : Type u) (Score : Type v) [LinearOrder Score] where
  entries : List (Member × Score)
  sorted : entries.Pairwise fun first second => first.2 ≤ second.2
  distinct : (entries.map Prod.fst).Nodup

namespace SortedSet

variable {Member : Type u} {Score : Type v} [LinearOrder Score]

def empty : SortedSet Member Score where
  entries := []
  sorted := .nil
  distinct := .nil

def members (set : SortedSet Member Score) : List Member := set.entries.map Prod.fst

def scores (set : SortedSet Member Score) : List Score := set.entries.map Prod.snd

def card (set : SortedSet Member Score) : Nat := set.entries.length

def lowest? (set : SortedSet Member Score) : Option Score := set.entries.head?.map Prod.snd

def removeUpTo (bound : Score) (set : SortedSet Member Score) : SortedSet Member Score where
  entries := set.entries.filter fun entry => bound < entry.2
  sorted := set.sorted.filter _
  distinct := set.distinct.sublist (List.filter_sublist.map _)

section Adding

variable [DecidableEq Member]

def add (member : Member) (score : Score) (set : SortedSet Member Score) :
    SortedSet Member Score where
  entries := (set.entries.filter fun entry => entry.1 ≠ member).orderedInsert
    (fun first second => first.2 ≤ second.2) (member, score)
  sorted :=
    have : Std.Total fun first second : Member × Score => first.2 ≤ second.2 :=
      ⟨fun first second => le_total first.2 second.2⟩
    have : IsTrans (Member × Score) fun first second => first.2 ≤ second.2 :=
      ⟨fun _ _ _ => le_trans⟩
    List.Pairwise.orderedInsert _ _ (set.sorted.filter _)
  distinct := by
    apply ((List.perm_orderedInsert ..).map Prod.fst).nodup_iff.mpr
    rw [List.map_cons, List.nodup_cons]
    refine ⟨?_, set.distinct.sublist (List.filter_sublist.map _)⟩
    simp

def addAll (members : List Member) (score : Score) (set : SortedSet Member Score) :
    SortedSet Member Score :=
  members.foldl (fun set member => set.add member score) set

end Adding

variable (set : SortedSet Member Score)

theorem card_eq : set.card = set.scores.length := by
  simp [card, scores]

theorem lowest?_eq : set.lowest? = set.scores.head? := by
  simp [lowest?, scores]

theorem scores_sorted : set.scores.Pairwise (· ≤ ·) :=
  List.pairwise_map.mpr set.sorted

theorem scores_removeUpTo (bound : Score) (set : SortedSet Member Score) :
    (set.removeUpTo bound).scores = set.scores.filter (bound < ·) := by
  simp [removeUpTo, scores, List.filter_map, Function.comp_def]

variable {set : SortedSet Member Score} {member : Member}

theorem mem_members_removeUpTo {bound : Score} (present : member ∈ (set.removeUpTo bound).members) :
    member ∈ set.members :=
  (List.filter_sublist.map Prod.fst).subset present

variable [DecidableEq Member] {score : Score}

theorem scores_add (fresh : member ∉ set.members) (highest : ∀ other ∈ set.scores, other ≤ score) :
    (set.add member score).scores = set.scores ++ [score] := by
  have unmoved : set.entries.filter (fun entry => entry.1 ≠ member) = set.entries := by
    apply List.filter_eq_self.mpr
    intro entry present
    apply decide_eq_true
    rintro rfl
    exact fresh (List.mem_map_of_mem present)
  have inserted : (set.add member score).scores.Perm (score :: set.scores) := by
    have mapped : (set.add member score).scores.Perm
        (((member, score) :: set.entries.filter (fun entry => entry.1 ≠ member)).map Prod.snd) :=
      (List.perm_orderedInsert ..).map Prod.snd
    rwa [unmoved, List.map_cons] at mapped
  have perm := inserted.trans (List.perm_append_singleton score set.scores).symm
  apply perm.eq_of_pairwise (fun _ _ _ _ => le_antisymm) (set.add member score).scores_sorted
  rw [List.pairwise_append]
  refine ⟨set.scores_sorted, List.pairwise_singleton .., ?_⟩
  intro other present last same
  rw [List.mem_singleton.mp same]
  exact highest other present

variable {other : Member}

theorem mem_members_add (present : other ∈ (set.add member score).members) :
    other = member ∨ other ∈ set.members := by
  have listed := ((List.perm_orderedInsert ..).map Prod.fst).mem_iff.mp present
  rcases List.mem_cons.mp listed with rfl | kept
  · exact .inl rfl
  · exact .inr ((List.filter_sublist.map Prod.fst).subset kept)

variable {members : List Member}

theorem scores_addAll (distinct : members.Nodup) (fresh : ∀ member ∈ members, member ∉ set.members)
    (highest : ∀ other ∈ set.scores, other ≤ score) :
    (set.addAll members score).scores = set.scores ++ List.replicate members.length score := by
  induction members generalizing set with
  | nil => simp [addAll]
  | cons member members induction =>
    rw [List.nodup_cons] at distinct
    have first := scores_add (fresh member List.mem_cons_self) highest
    have rest : ((set.add member score).addAll members score).scores =
        (set.add member score).scores ++ List.replicate members.length score := by
      apply induction distinct.2
      · intro other listed present
        rcases mem_members_add present with rfl | old
        · exact distinct.1 listed
        · exact fresh other (List.mem_cons_of_mem member listed) old
      · intro other present
        rw [first] at present
        rcases List.mem_append.mp present with old | last
        · exact highest other old
        · rw [List.mem_singleton.mp last]
    calc (set.addAll (member :: members) score).scores
        = ((set.add member score).addAll members score).scores := rfl
      _ = set.scores ++ List.replicate (member :: members).length score := by
        rw [rest, first, List.append_assoc, List.length_cons, List.replicate_succ]
        rfl

theorem mem_members_addAll (present : other ∈ (set.addAll members score).members) :
    other ∈ members ∨ other ∈ set.members := by
  induction members generalizing set with
  | nil => exact .inr present
  | cons member members induction =>
    rcases induction present with listed | earlier
    · exact .inl (List.mem_cons_of_mem member listed)
    · rcases mem_members_add earlier with rfl | old
      · exact .inl List.mem_cons_self
      · exact .inr old

end SortedSet

end Parsec.Foundation
