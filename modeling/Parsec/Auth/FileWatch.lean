import Parsec.Foundation.Calls

/-! # Watching a key ring file

Both watchers look at the file's modification time at every tick, remember it, and read the file
only then. What was remembered is not forgotten when the read fails. -/

namespace Parsec.Auth

open Foundation

/-- `FileKeyRingStore.Watch`, or `WatchKeyRingFile`. -/
inductive FileWatcher
  | store
  | reload
  deriving DecidableEq

/-- What a tick meets: the answer of `os.Stat` and, if the file is read, the ring in it. Either
may fail, and the file may change between the two. -/
structure Tick (Ring : Type) where
  modTime : Option Int
  read : Option Ring

structure FileWatch (Ring : Type) where
  lastMod : Option Int
  ring : Option Ring
  deriving DecidableEq

def FileWatch.notices {Ring : Type} (watch : FileWatch Ring) (modTime : Int) : Bool :=
  watch.lastMod.all (· < modTime)

namespace FileWatcher

variable {Ring : Type}

/-- `WatchKeyRingFile` begins with the time that the file has when it is started. -/
def start (ring : Option Ring) (modTime : Option Int) : FileWatcher → FileWatch Ring
  | .store => { lastMod := none, ring := ring }
  | .reload => { lastMod := modTime, ring := ring }

def tick : Service (FileWatch Ring) (Tick Ring) (Option Ring) := fun watch tick =>
  match tick.modTime with
  | none => (none, watch)
  | some modTime =>
    if watch.notices modTime then
      (tick.read, { lastMod := modTime, ring := tick.read.or watch.ring })
    else (none, watch)

def known (started : Option Int) : FileWatcher → List Int
  | .store => []
  | .reload => started.toList

def newReads : List Int → List (Tick Ring) → List Ring
  | _, [] => []
  | times, tick :: ticks =>
    match tick.modTime with
    | none => newReads times ticks
    | some modTime =>
      (if ∀ time ∈ times, time < modTime then tick.read.toList else []) ++
        newReads (modTime :: times) ticks

def Remembers (watch : FileWatch Ring) (times : List Int) : Prop :=
  ∀ modTime, watch.notices modTime = true ↔ ∀ time ∈ times, time < modTime

variable {watch : FileWatch Ring} {times : List Int} {modTime : Int} {ring : Ring}

theorem remembers_start (watcher : FileWatcher) (initial : Option Ring) (started : Option Int) :
    Remembers (watcher.start initial started) (watcher.known started) := by
  intro modTime
  cases watcher with
  | store => simp [start, known, FileWatch.notices]
  | reload => cases started <;> simp [start, known, FileWatch.notices]

theorem Remembers.tick (remembers : Remembers watch times) (met : Tick Ring) :
    Remembers (FileWatcher.tick watch met).2 (met.modTime.toList ++ times) := by
  intro later
  cases seen : met.modTime with
  | none => simpa [FileWatcher.tick, seen] using remembers later
  | some modTime =>
    cases noticed : watch.notices modTime with
    | true =>
      have newest := (remembers modTime).mp noticed
      have remembered : (FileWatcher.tick watch met).2.lastMod = some modTime := by
        simp [FileWatcher.tick, seen, noticed]
      rw [FileWatch.notices, remembered, Option.all_some, decide_eq_true_eq]
      simp only [Option.toList_some, List.singleton_append, List.forall_mem_cons]
      exact ⟨fun after => ⟨after, fun time member => (newest time member).trans after⟩,
        fun after => after.1⟩
    | false =>
      have older : ¬ ∀ time ∈ times, time < modTime := by
        rw [← remembers modTime, noticed]
        simp
      have kept : (FileWatcher.tick watch met).2 = watch := by
        simp [FileWatcher.tick, seen, noticed]
      rw [kept, remembers later]
      simp only [Option.toList_some, List.singleton_append, List.forall_mem_cons]
      refine ⟨fun after => ⟨?_, after⟩, fun after => after.2⟩
      push Not at older
      rcases older with ⟨time, member, least⟩
      exact least.trans_lt (after time member)

theorem getLast_tick (remembers : Remembers watch times) (met : Tick Ring)
    (history : List (Tick Ring)) :
    ((tick watch met).2.ring.toList ++
        newReads (met.modTime.toList ++ times) history).getLast? =
      (watch.ring.toList ++ newReads times (met :: history)).getLast? := by
  cases seen : met.modTime with
  | none => simp [tick, newReads, seen]
  | some modTime =>
    have new := remembers modTime
    cases noticed : watch.notices modTime with
    | true =>
      rw [noticed] at new
      rw [newReads, seen]
      simp only [tick, seen, noticed, if_true, if_pos (new.mp rfl), Option.toList_some,
        List.singleton_append]
      cases met.read with
      | none => simp
      | some ring => simp [List.getLast?_append, List.getLast?_cons]
    | false =>
      rw [noticed] at new
      simp only [newReads, tick, seen, noticed, Bool.false_eq_true, if_false,
        if_neg (fun all => Bool.false_ne_true (new.mpr all)), List.nil_append,
        Option.toList_some, List.singleton_append]

private theorem after_ticks (remembers : Remembers watch times) (history : List (Tick Ring)) :
    Remembers (tick.after watch history) (history.filterMap Tick.modTime ++ times) ∧
      (tick.after watch history).ring =
        (watch.ring.toList ++ newReads times history).getLast? := by
  induction history generalizing watch times with
  | nil => exact ⟨remembers, by cases ring : watch.ring <;> simp [newReads, Service.after, ring]⟩
  | cons met history induction =>
    rcases induction (remembers.tick met) with ⟨later, last⟩
    refine ⟨fun modTime => ?_, last.trans (getLast_tick remembers met history)⟩
    rw [Service.after, later modTime]
    refine forall_congr' fun time => ?_
    cases seen : met.modTime <;> simp [seen, or_left_comm]

def settled (modTime : Int) (ring : Ring) : Tick Ring := { modTime := modTime, read := ring }

theorem tick_settled :
    (tick watch (settled modTime ring)).2 =
      if watch.notices modTime then { lastMod := modTime, ring := ring } else watch := by
  cases noticed : watch.notices modTime with
  | true | false => simp [tick, settled, noticed]

theorem after_settled (more : Nat) :
    tick.after watch (List.replicate (more + 1) (settled modTime ring)) =
      if watch.notices modTime then { lastMod := modTime, ring := ring } else watch := by
  induction more generalizing watch with
  | zero => exact tick_settled
  | succ more induction =>
    rw [List.replicate_succ, Service.after, induction, tick_settled]
    cases noticed : watch.notices modTime with
    | true => simp [FileWatch.notices]
    | false => simp [noticed]

/-- After the file has come to rest the node has its ring just when the time of the file is later
than all that were seen before, or the last read at a new time gave that ring already. -/
theorem settled_ring_delivered_iff (watcher : FileWatcher) (initial : Option Ring)
    (started : Option Int) (history : List (Tick Ring)) (modTime : Int) (ring : Ring)
    (more : Nat) :
    (tick.after (watcher.start initial started)
        (history ++ List.replicate (more + 1) (settled modTime ring))).ring = some ring ↔
      (∀ time ∈ history.filterMap Tick.modTime ++ watcher.known started, time < modTime) ∨
        (initial.toList ++ newReads (watcher.known started) history).getLast? = some ring := by
  have initially : (watcher.start initial started).ring = initial := by cases watcher <;> rfl
  rcases after_ticks (remembers_start watcher initial started) history with ⟨remembers, last⟩
  rw [initially] at last
  rw [Service.after_append, after_settled, ← remembers modTime, ← last]
  cases noticed : (tick.after (watcher.start initial started) history).notices modTime with
  | true | false => simp

/-- The read that follows a change fails once, and no later tick reads the file again. -/
theorem failed_reload_forgotten :
    tick.after (FileWatcher.store.start (some "old") (some 1))
        (⟨some 2, none⟩ :: List.replicate 5 (settled 2 "new")) = ⟨some 2, some "old"⟩ ∧
      tick.after (FileWatcher.reload.start (some "old") (some 1))
        (⟨some 2, none⟩ :: List.replicate 5 (settled 2 "new")) = ⟨some 2, some "old"⟩ := by
  decide

end FileWatcher

end Parsec.Auth
