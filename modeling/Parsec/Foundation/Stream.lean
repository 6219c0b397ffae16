import Parsec.Foundation.Decimal
import Parsec.Foundation.Delimited

/-! # Streams of numbered entries

A stream gives each entry that is added an identifier after all earlier ones, made of the time of
the server and a number. Entries may be removed and cut off, and no identifier comes twice. -/

namespace Parsec.Foundation

universe u

structure StreamID where
  milliseconds : Nat
  sequence : Nat
  deriving DecidableEq

namespace StreamID

def text (id : StreamID) : String :=
  String.ofList (Nat.toDigits 10 id.milliseconds ++ '-' :: Nat.toDigits 10 id.sequence)

theorem dash_not_mem_toDigits (number : Nat) : '-' ∉ Nat.toDigits 10 number := by
  intro member
  exact absurd (Nat.isDigit_of_mem_toDigits (by decide) (by decide) member) (by decide)

theorem toDigits_injective {first second : Nat}
    (same : Nat.toDigits 10 first = Nat.toDigits 10 second) : first = second := by
  have read := digitsNumber_toDigits first
  rw [same, digitsNumber_toDigits] at read
  exact (Option.some.inj read).symm

theorem text_injective : Function.Injective text := by
  intro first second same
  have cut := delimited_inj (dash_not_mem_toDigits first.milliseconds)
    (dash_not_mem_toDigits second.milliseconds) (String.ofList_injective same)
  have milliseconds := toDigits_injective cut.1
  have sequence := toDigits_injective cut.2
  cases first
  simp_all

def Before (first second : StreamID) : Prop :=
  first.milliseconds < second.milliseconds ∨
    first.milliseconds = second.milliseconds ∧ first.sequence < second.sequence

theorem Before.trans {first second third : StreamID} (former : first.Before second)
    (latter : second.Before third) : first.Before third := by
  unfold Before at former latter ⊢
  omega

theorem not_before_self (id : StreamID) : ¬ id.Before id := by
  unfold Before
  omega

def next (last : StreamID) (now : Nat) : StreamID :=
  if last.milliseconds < now then ⟨now, 0⟩ else ⟨last.milliseconds, last.sequence + 1⟩

theorem before_next (last : StreamID) (now : Nat) : last.Before (last.next now) := by
  unfold Before next
  split
  · exact .inl ‹_›
  · exact .inr ⟨rfl, Nat.lt_succ_self _⟩

end StreamID

structure Stream (Payload : Type u) where
  last : StreamID
  entries : List (StreamID × Payload)
  increasing : entries.Pairwise fun first second => first.1.Before second.1
  bounded : ∀ entry ∈ entries, entry.1 = last ∨ entry.1.Before last

namespace Stream

variable {Payload : Type u}

def empty : Stream Payload where
  last := ⟨0, 0⟩
  entries := []
  increasing := .nil
  bounded := by simp

variable (stream : Stream Payload)

theorem before_next_of_mem (now : Nat) :
    ∀ entry ∈ stream.entries, entry.1.Before (stream.last.next now) := by
  intro entry member
  rcases stream.bounded entry member with same | before
  · rw [same]
    exact StreamID.before_next stream.last now
  · exact before.trans (StreamID.before_next stream.last now)

def add (stream : Stream Payload) (now cut : Nat) (payload : Payload) : Stream Payload where
  last := stream.last.next now
  entries := stream.entries.drop cut ++ [(stream.last.next now, payload)]
  increasing := by
    rw [List.pairwise_append]
    refine ⟨stream.increasing.sublist (List.drop_sublist _ _), List.pairwise_singleton _ _, ?_⟩
    intro entry member new only
    rw [List.mem_singleton.mp only]
    exact stream.before_next_of_mem now entry (List.mem_of_mem_drop member)
  bounded := by
    intro entry member
    rcases List.mem_append.mp member with old | new
    · exact .inr (stream.before_next_of_mem now entry (List.mem_of_mem_drop old))
    · rw [List.mem_singleton.mp new]
      exact .inl rfl

def remove (stream : Stream Payload) (id : String) : Stream Payload where
  last := stream.last
  entries := stream.entries.filter fun entry => entry.1.text ≠ id
  increasing := stream.increasing.sublist List.filter_sublist
  bounded := by
    intro entry member
    exact stream.bounded entry (List.mem_of_mem_filter member)

def find? (stream : Stream Payload) (id : String) : Option (StreamID × Payload) :=
  stream.entries.find? fun entry => entry.1.text = id

theorem nodup_ids : (stream.entries.map Prod.fst).Nodup := by
  rw [List.Nodup, List.pairwise_map]
  apply stream.increasing.imp
  intro first second before same
  rw [same] at before
  exact StreamID.not_before_self _ before

theorem eq_of_mem {stream : Stream Payload} {first second : StreamID × Payload}
    (firstIn : first ∈ stream.entries) (secondIn : second ∈ stream.entries)
    (same : first.1 = second.1) : first = second :=
  List.inj_on_of_nodup_map stream.nodup_ids firstIn secondIn same

theorem find?_eq_some {stream : Stream Payload} {id : String} {entry : StreamID × Payload} :
    stream.find? id = some entry ↔ entry ∈ stream.entries ∧ entry.1.text = id := by
  constructor
  · intro found
    exact ⟨List.mem_of_find?_eq_some found, by simpa using List.find?_some found⟩
  · intro ⟨member, identified⟩
    cases found : stream.find? id with
    | none => exact absurd identified (by simpa using List.find?_eq_none.mp found entry member)
    | some other =>
      have otherIn := List.mem_of_find?_eq_some found
      have otherID : other.1.text = id := by simpa using List.find?_some found
      rw [eq_of_mem otherIn member (StreamID.text_injective (otherID.trans identified.symm))]

theorem remove_ne {stream : Stream Payload} {id : String} {entry : StreamID × Payload}
    (found : stream.find? id = some entry) : stream.remove id ≠ stream := by
  intro same
  rcases find?_eq_some.mp found with ⟨member, identified⟩
  rw [← same] at member
  have kept := List.of_mem_filter member
  simp [identified] at kept

structure Follows (later earlier : Stream Payload) : Prop where
  last : later.last = earlier.last ∨ earlier.last.Before later.last
  kept : ∀ entry ∈ later.entries, entry ∈ earlier.entries ∨ earlier.last.Before entry.1

theorem Follows.refl : stream.Follows stream where
  last := .inl rfl
  kept := fun _ member => .inl member

theorem Follows.trans {first second third : Stream Payload} (former : second.Follows first)
    (latter : third.Follows second) : third.Follows first where
  last := by
    rcases former.last with same | before
    · rw [← same]
      exact latter.last
    · rcases latter.last with same | beforeYet
      · exact .inr (same ▸ before)
      · exact .inr (before.trans beforeYet)
  kept := by
    intro entry member
    rcases latter.kept entry member with old | new
    · exact former.kept entry old
    · rcases former.last with same | before
      · exact .inr (same ▸ new)
      · exact .inr (before.trans new)

theorem add_follows (now cut : Nat) (payload : Payload) :
    (stream.add now cut payload).Follows stream where
  last := .inr (StreamID.before_next stream.last now)
  kept := by
    intro entry member
    rcases List.mem_append.mp member with old | new
    · exact .inl (List.mem_of_mem_drop old)
    · rw [List.mem_singleton.mp new]
      exact .inr (StreamID.before_next stream.last now)

theorem remove_follows (id : String) : (stream.remove id).Follows stream where
  last := .inl rfl
  kept := fun _ member => .inl (List.mem_of_mem_filter member)

theorem Follows.eq_of_mem {later earlier : Stream Payload} (follows : later.Follows earlier)
    {old new : StreamID × Payload} (oldIn : old ∈ earlier.entries) (newIn : new ∈ later.entries)
    (same : new.1 = old.1) : new = old := by
  rcases follows.kept new newIn with kept | after
  · exact Stream.eq_of_mem kept oldIn same
  · rw [same] at after
    rcases earlier.bounded old oldIn with last | before
    · rw [last] at after
      exact absurd after (StreamID.not_before_self _)
    · exact absurd (after.trans before) (StreamID.not_before_self _)

end Stream

end Parsec.Foundation
