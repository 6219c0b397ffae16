import Parsec.Foundation.Execution

/-! # Delivery apart from the log

Threads append items to one log, each time atomically, and deliver what they appended later, one
item at a time. -/

namespace Parsec.Foundation

structure Delivery (Thread Item : Type*) where
  log : List Item
  pending : Thread → List (Item × Nat)
  received : List (Item × Nat)

namespace Delivery

variable {Thread Item Key : Type*}

inductive Act (Thread Item : Type*)
  | append (thread : Thread) (items : List Item)
  | deliver (thread : Thread)

def start : Delivery Thread Item where
  log := []
  pending := fun _ => []
  received := []

section Steps

variable [DecidableEq Thread]

def append (delivery : Delivery Thread Item) (thread : Thread) (items : List Item) :
    Delivery Thread Item where
  log := delivery.log ++ items
  pending := Function.update delivery.pending thread (items.zipIdx delivery.log.length)
  received := delivery.received

def deliver (delivery : Delivery Thread Item) (thread : Thread) (item : Item × Nat)
    (rest : List (Item × Nat)) : Delivery Thread Item where
  log := delivery.log
  pending := Function.update delivery.pending thread rest
  received := delivery.received ++ [item]

def step : Step (Delivery Thread Item) (Act Thread Item) := fun delivery act =>
  match act with
  | .append thread items =>
    match delivery.pending thread with
    | [] => some (delivery.append thread items)
    | _ :: _ => none
  | .deliver thread =>
    match delivery.pending thread with
    | [] => none
    | item :: rest => some (delivery.deliver thread item rest)

inductive Moves (delivery : Delivery Thread Item) :
    Act Thread Item → Delivery Thread Item → Prop
  | append {thread : Thread} (items : List Item) (idle : delivery.pending thread = []) :
      Moves delivery (.append thread items) (delivery.append thread items)
  | deliver {thread : Thread} {item : Item × Nat} {rest : List (Item × Nat)}
      (next : delivery.pending thread = item :: rest) :
      Moves delivery (.deliver thread) (delivery.deliver thread item rest)

theorem moves_of_step {delivery next : Delivery Thread Item} {act : Act Thread Item}
    (taken : step delivery act = some next) : Moves delivery act next := by
  cases act with
  | append thread items =>
    simp only [step] at taken
    split at taken
    · rename_i idle
      cases taken
      exact .append items idle
    · cases taken
  | deliver thread =>
    simp only [step] at taken
    split at taken
    · cases taken
    · rename_i item rest pending
      cases taken
      exact .deliver pending

end Steps

def InOrder (key : Item → Key) (delivery : Delivery Thread Item) : Prop :=
  delivery.received.Pairwise fun first second =>
    key first.1 = key second.1 → first.2 < second.2

def OldestFirst (key : Item → Key) (delivery : Delivery Thread Item) : Act Thread Item → Prop
  | .append _ _ => True
  | .deliver thread => ∀ item ∈ (delivery.pending thread).head?, ∀ other,
      ∀ later ∈ delivery.pending other, key item.1 = key later.1 → item.2 ≤ later.2

def Complete (delivery : Delivery Thread Item) : Prop := ∀ thread, delivery.pending thread = []

structure Sound (delivery : Delivery Thread Item) : Prop where
  logged : ∀ item, (item ∈ delivery.received ∨ ∃ thread, item ∈ delivery.pending thread) ↔
    item ∈ delivery.log.zipIdx
  ascending : ∀ thread, (delivery.pending thread).Pairwise (·.2 < ·.2)
  separate : ∀ one other, one ≠ other → ∀ item ∈ delivery.pending one,
    ∀ later ∈ delivery.pending other, item.2 ≠ later.2

theorem sound_start : (start : Delivery Thread Item).Sound where
  logged := by simp [start]
  ascending := fun _ => .nil
  separate := by simp [start]

theorem pairwise_zipIdx (items : List Item) (place : Nat) :
    (items.zipIdx place).Pairwise (·.2 < ·.2) := by
  rw [← List.pairwise_map (f := Prod.snd) (R := (· < ·)), List.zipIdx_map_snd]
  exact List.pairwise_lt_range' 1

variable {delivery : Delivery Thread Item} {item : Item × Nat}

theorem Sound.place_lt (sound : delivery.Sound)
    (held : item ∈ delivery.received ∨ ∃ thread, item ∈ delivery.pending thread) :
    item.2 < delivery.log.length :=
  (List.mem_zipIdx' ((sound.logged item).mp held)).1

section Preservation

variable [DecidableEq Thread] {delivery next : Delivery Thread Item} {thread : Thread}

omit [DecidableEq Thread] in
variable {item : Item × Nat}

theorem le_place {items : List Item} {place : Nat} (listed : item ∈ items.zipIdx place) :
    place ≤ item.2 :=
  (List.mem_zipIdx listed).1

variable {other : Thread}

theorem mem_pending_append (idle : delivery.pending thread = []) (items : List Item)
    (member : item ∈ delivery.pending other) :
    item ∈ (delivery.append thread items).pending other := by
  have different : other ≠ thread := by
    intro same
    rw [same, idle] at member
    cases member
  simpa only [append, Function.update_of_ne different] using member

theorem exists_pending_append (idle : delivery.pending thread = []) (items : List Item) :
    (∃ other, item ∈ (delivery.append thread items).pending other) ↔
      (∃ other, item ∈ delivery.pending other) ∨ item ∈ items.zipIdx delivery.log.length := by
  constructor
  · intro ⟨other, member⟩
    by_cases same : other = thread
    · subst same
      simp only [append, Function.update_self] at member
      exact .inr member
    · simp only [append, Function.update_of_ne same] at member
      exact .inl ⟨other, member⟩
  · intro held
    rcases held with ⟨other, member⟩ | member
    · exact ⟨other, mem_pending_append idle items member⟩
    · exact ⟨thread, by simpa only [append, Function.update_self] using member⟩

theorem Sound.append (sound : delivery.Sound) (idle : delivery.pending thread = [])
    (items : List Item) : (delivery.append thread items).Sound where
  logged := by
    intro item
    rw [exists_pending_append idle items, ← or_assoc]
    simp only [Delivery.append]
    rw [List.zipIdx_append, List.mem_append, Nat.zero_add, sound.logged item]
  ascending := by
    intro other
    by_cases same : other = thread
    · subst same
      simpa [Delivery.append] using pairwise_zipIdx items delivery.log.length
    · simpa [Delivery.append, Function.update_of_ne same] using sound.ascending other
  separate := by
    have old : ∀ other, ∀ item ∈ delivery.pending other, item.2 < delivery.log.length :=
      fun other item member => sound.place_lt (.inr ⟨other, member⟩)
    intro one other different item member later laterMember
    by_cases oneSame : one = thread
    · subst oneSame
      simp only [Delivery.append, Function.update_self,
        Function.update_of_ne (Ne.symm different)] at member laterMember
      have new := le_place member
      have bound := old other later laterMember
      omega
    · simp only [Delivery.append, Function.update_of_ne oneSame] at member
      by_cases otherSame : other = thread
      · subst otherSame
        simp only [Delivery.append, Function.update_self] at laterMember
        have new := le_place laterMember
        have bound := old one item member
        omega
      · simp only [Delivery.append, Function.update_of_ne otherSame] at laterMember
        exact sound.separate one other different item member later laterMember

variable {rest : List (Item × Nat)} {later : Item × Nat}

theorem mem_pending_of_deliver (pending : delivery.pending thread = item :: rest)
    (member : later ∈ (delivery.deliver thread item rest).pending other) :
    later ∈ delivery.pending other := by
  by_cases same : other = thread
  · subst same
    simp only [deliver, Function.update_self] at member
    rw [pending]
    exact List.mem_cons_of_mem item member
  · simpa only [deliver, Function.update_of_ne same] using member

theorem delivered_or_pending (pending : delivery.pending thread = item :: rest)
    (member : later ∈ delivery.pending other) :
    later = item ∨ later ∈ (delivery.deliver thread item rest).pending other := by
  by_cases same : other = thread
  · subst same
    rw [pending] at member
    simpa only [deliver, Function.update_self] using List.mem_cons.mp member
  · right
    simpa only [deliver, Function.update_of_ne same] using member

theorem Sound.deliver (sound : delivery.Sound) (pending : delivery.pending thread = item :: rest) :
    (delivery.deliver thread item rest).Sound where
  logged := by
    intro other
    rw [show (delivery.deliver thread item rest).log = delivery.log from rfl, ← sound.logged other]
    constructor
    · intro held
      rcases held with received | ⟨holder, member⟩
      · rcases List.mem_append.mp received with before | last
        · exact .inl before
        · rw [List.mem_singleton.mp last]
          exact .inr ⟨thread, by rw [pending]; exact List.mem_cons_self⟩
      · exact .inr ⟨holder, mem_pending_of_deliver pending member⟩
    · intro held
      rcases held with received | ⟨holder, member⟩
      · exact .inl (List.mem_append_left _ received)
      · rcases delivered_or_pending pending member with rfl | later
        · exact .inl (List.mem_append_right _ List.mem_cons_self)
        · exact .inr ⟨holder, later⟩
  ascending := by
    intro other
    by_cases same : other = thread
    · subst same
      have ascending := sound.ascending other
      rw [pending] at ascending
      simpa [Delivery.deliver] using (List.pairwise_cons.mp ascending).2
    · simpa [Delivery.deliver, Function.update_of_ne same] using sound.ascending other
  separate := by
    intro one other different first member second secondMember
    exact sound.separate one other different first (mem_pending_of_deliver pending member) second
      (mem_pending_of_deliver pending secondMember)

theorem Sound.step {act : Act Thread Item} (sound : delivery.Sound)
    (taken : step delivery act = some next) : next.Sound := by
  cases moves_of_step taken with
  | append items idle => exact sound.append idle items
  | deliver pending => exact sound.deliver pending

theorem sound_of_run {acts : List (Act Thread Item)} {final : Delivery Thread Item}
    {permitted : Delivery Thread Item → Act Thread Item → Prop}
    (run : Run Delivery.step permitted start acts final) : final.Sound :=
  run.invariant Sound (fun _ _ _ sound _ taken => sound.step taken) sound_start

end Preservation

structure Settled (key : Item → Key) (delivery : Delivery Thread Item) : Prop where
  sound : delivery.Sound
  inOrder : delivery.InOrder key
  older : ∀ item ∈ delivery.received, ∀ thread, ∀ later ∈ delivery.pending thread,
    key item.1 = key later.1 → item.2 < later.2

section Runs

variable [DecidableEq Thread] {key : Item → Key} {delivery next final : Delivery Thread Item}
  {thread : Thread}

theorem Settled.append (settled : delivery.Settled key) (idle : delivery.pending thread = [])
    (items : List Item) : (delivery.append thread items).Settled key where
  sound := settled.sound.append idle items
  inOrder := settled.inOrder
  older := by
    intro item received other later member sameKey
    by_cases same : other = thread
    · subst same
      simp only [Delivery.append, Function.update_self] at member
      have bound := settled.sound.place_lt (.inl received)
      have new := le_place member
      omega
    · simp only [Delivery.append, Function.update_of_ne same] at member
      exact settled.older item received other later member sameKey

theorem Settled.deliver (settled : delivery.Settled key) {item : Item × Nat}
    {rest : List (Item × Nat)} (pending : delivery.pending thread = item :: rest)
    (oldest : delivery.OldestFirst key (.deliver thread)) :
    (delivery.deliver thread item rest).Settled key where
  sound := settled.sound.deliver pending
  inOrder := by
    apply List.pairwise_append.mpr
    refine ⟨settled.inOrder, List.pairwise_singleton _ _, ?_⟩
    intro first received second last sameKey
    cases List.mem_singleton.mp last
    exact settled.older first received thread item (by rw [pending]; exact List.mem_cons_self)
      sameKey
  older := by
    intro first received other later member sameKey
    have before := mem_pending_of_deliver pending member
    rcases List.mem_append.mp received with earlier | last
    · exact settled.older first earlier other later before sameKey
    · cases List.mem_singleton.mp last
      by_cases same : other = thread
      · subst same
        have ascending := settled.sound.ascending other
        rw [pending] at ascending
        simp only [Delivery.deliver, Function.update_self] at member
        exact (List.pairwise_cons.mp ascending).1 later member
      · have reached : item ∈ delivery.pending thread := by
          rw [pending]
          exact List.mem_cons_self
        have distinct := settled.sound.separate thread other (Ne.symm same) item reached later
          before
        have atMost := oldest item (by simp [pending]) other later before sameKey
        omega

variable {acts : List (Act Thread Item)}

theorem inOrder_of_oldestFirst (run : Run step (OldestFirst key) start acts final) :
    final.InOrder key := by
  have settled : final.Settled key := by
    apply run.invariant (Settled key)
    · intro delivery act next settled oldest taken
      cases moves_of_step taken with
      | append items idle => exact settled.append idle items
      | deliver pending => exact settled.deliver pending oldest
    · exact ⟨sound_start, .nil, by simp [start]⟩
  exact settled.inOrder

theorem received_later (run : Run step unrestricted delivery acts final)
    (complete : final.Complete) :
    ∃ rest, final.received = delivery.received ++ rest ∧
      ∀ thread, ∀ item ∈ delivery.pending thread, item ∈ rest := by
  induction run with
  | nil =>
    refine ⟨[], by simp, ?_⟩
    intro thread item member
    rw [complete thread] at member
    cases member
  | @cons current middle final act acts _ taken _ induction =>
    rcases induction complete with ⟨rest, extended, covered⟩
    cases moves_of_step taken with
    | @append owner items idle =>
      refine ⟨rest, extended, ?_⟩
      intro thread item member
      exact covered thread item (mem_pending_append idle items member)
    | @deliver owner first remaining pending =>
      refine ⟨first :: rest, by simp [extended, deliver], ?_⟩
      intro thread item member
      rcases delivered_or_pending pending member with rfl | later
      · exact List.mem_cons_self
      · exact List.mem_cons_of_mem first (covered thread item later)

theorem oldestFirst_of_inOrder (run : Run step unrestricted delivery acts final)
    (sound : delivery.Sound) (complete : final.Complete) (ordered : final.InOrder key) :
    Run step (OldestFirst key) delivery acts final := by
  induction run with
  | nil => exact .nil _
  | cons _ taken rest induction =>
    refine .cons ?_ taken (induction (sound.step taken) complete ordered)
    cases moves_of_step taken with
    | append items idle => trivial
    | @deliver thread item remaining pending =>
      intro first isFirst other later member sameKey
      rw [pending] at isFirst
      cases isFirst
      rcases delivered_or_pending pending member with rfl | remains
      · rfl
      · rcases received_later rest complete with ⟨tail, extended, covered⟩
        -- the other item comes in after this one
        have comes : later ∈ tail := covered other later remains
        rw [InOrder, extended] at ordered
        have across := (List.pairwise_append.mp ordered).2.2 item
          (by simp [deliver]) later comes sameKey
        exact across.le

/-- A complete run received the items of each key in the order of the log exactly if every
delivery was of the oldest pending item of its key. -/
theorem inOrder_iff_oldestFirst (run : Run step unrestricted start acts final)
    (complete : final.Complete) : final.InOrder key ↔ Run step (OldestFirst key) start acts final :=
  ⟨oldestFirst_of_inOrder run sound_start complete, inOrder_of_oldestFirst⟩

end Runs

theorem Sound.mem_received (sound : delivery.Sound) (complete : delivery.Complete) :
    item ∈ delivery.received ↔ item ∈ delivery.log.zipIdx := by
  rw [← sound.logged item]
  constructor
  · exact .inl
  · intro held
    rcases held with received | ⟨thread, member⟩
    · exact received
    · rw [complete thread] at member
      cases member

theorem received_of_inOrder [DecidableEq Key] {key : Item → Key} (sound : delivery.Sound)
    (complete : delivery.Complete) (ordered : delivery.InOrder key) (wanted : Key) :
    (delivery.received.map (·.1)).filter (fun item => key item = wanted) =
      delivery.log.filter fun item => key item = wanted := by
  have ofKey : ∀ {items : List (Item × Nat)} {item : Item × Nat},
      item ∈ items.filter ((fun item => decide (key item = wanted)) ∘ (·.1)) →
        key item.1 = wanted := by
    intro items item member
    simpa using (List.mem_filter.mp member).2
  have received : (delivery.received.filter
      ((fun item => decide (key item = wanted)) ∘ (·.1))).Pairwise (·.2 < ·.2) := by
    apply (List.Pairwise.filter _ ordered).imp_of_mem
    intro first second firstMember secondMember before
    exact before ((ofKey firstMember).trans (ofKey secondMember).symm)
  have logged : (delivery.log.zipIdx.filter
      ((fun item => decide (key item = wanted)) ∘ (·.1))).Pairwise (·.2 < ·.2) :=
    (pairwise_zipIdx delivery.log 0).filter _
  have nodup : ∀ {items : List (Item × Nat)}, items.Pairwise (·.2 < ·.2) → items.Nodup := by
    intro items ascending
    apply ascending.imp
    intro first second before same
    rw [same] at before
    exact lt_irrefl _ before
  have same := List.Perm.eq_of_pairwise
    (fun first second _ _ before after => absurd before (not_lt.mpr after.le)) received logged
    ((List.perm_ext_iff_of_nodup (nodup received) (nodup logged)).mpr fun item => by
      rw [List.mem_filter, List.mem_filter, sound.mem_received complete])
  rw [List.filter_map, same, ← List.filter_map, List.zipIdx_map_fst]

end Delivery

end Parsec.Foundation
