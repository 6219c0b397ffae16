import Parsec.Foundation.Execution
import Parsec.Auth.RefreshStore

/-! # How long a family is revoked

Any sequence of operations on a rotation store, each at one instant of a clock that store and
caller share. The memory store keeps the latest of all deadlines of a family, Redis the
deadline it was given last. -/

namespace Parsec.Auth

open Foundation RefreshRecords

inductive StoreOperation
  | markRedeemed (jti : String) (exp : Int)
  | revokeFamily (fid : String) (exp : Int)
  | isFamilyRevoked (fid : String)
  | prune

def StoreCall.at (now : Int) : StoreCall := { read := now, now := now }

variable (now : Int)

@[simp] theorem StoreCall.at_read : (StoreCall.at now).read = now := rfl

theorem StoreCall.at_reply : (StoreCall.at now).reply = .delivered := rfl

@[simp] theorem StoreCall.at_moment (backend : RefreshBackend) :
    (StoreCall.at now).moment backend = now := by
  cases backend <;> rfl

def StoreOperation.apply (backend : RefreshBackend) (now : Int) (records : RefreshRecords) :
    StoreOperation → RefreshRecords
  | .markRedeemed jti exp => (records.markRedeemed backend (.at now) jti exp).2
  | .revokeFamily fid exp => (records.revokeFamily backend (.at now) fid exp).2
  | .isFamilyRevoked fid => (records.isFamilyRevoked backend (.at now) fid).2
  | .prune => records.aged backend now

structure RefreshStore where
  now : Int
  records : RefreshRecords

abbrev TimedOperation := Int × StoreOperation

def RefreshStore.step (backend : RefreshBackend) : Step RefreshStore TimedOperation :=
  fun store operation =>
    if store.now ≤ operation.1 then
      some { now := operation.1, records := operation.2.apply backend operation.1 store.records }
    else none

theorem run_times {backend : RefreshBackend} {initial final : RefreshStore}
    {operations : List TimedOperation}
    (run : Run (RefreshStore.step backend) unrestricted initial operations final) :
    initial.now ≤ final.now ∧ ∀ operation ∈ operations, operation.1 ≤ final.now := by
  induction run with
  | nil => exact ⟨le_refl _, by simp⟩
  | cons _ taken _ induction =>
    rcases induction with ⟨reached, past⟩
    simp only [RefreshStore.step, Option.ite_none_right_eq_some, Option.some.injEq] at taken
    rcases taken with ⟨ordered, rfl⟩
    exact ⟨le_trans ordered reached, List.forall_mem_cons.mpr ⟨reached, past⟩⟩

/-- A call of `RevokeFamily`: when it was made and until when. -/
structure FamilyRevocation where
  time : Int
  exp : Int
  deriving DecidableEq

def revocationOf (fid : String) : TimedOperation → Option FamilyRevocation
  | (time, .revokeFamily family exp) => if family = fid then some ⟨time, exp⟩ else none
  | _ => none

def revocationsOf (fid : String) (operations : List TimedOperation) : List FamilyRevocation :=
  operations.filterMap (revocationOf fid)

def FamilyRevocation.extend (backend : RefreshBackend) (time : Int) (answer : Bool)
    (revocation : FamilyRevocation) : Bool :=
  if revocation.exp ≤ revocation.time then answer
  else (backend = .memory && answer) || decide (time < revocation.exp)

section

variable {backend : RefreshBackend} {records : RefreshRecords} {now time : Int} {fid : String}

private theorem revokeFamily_live (later : now ≤ time) (exp : Int) :
    (records.revokeFamily backend (.at now) fid exp).2.revoked.live time fid =
      FamilyRevocation.extend backend time (records.revoked.live time fid) ⟨now, exp⟩ := by
  have agedLive : (records.aged backend now).revoked.live time fid =
      records.revoked.live time fid :=
    aged_revoked_live later
  rw [revokeFamily_delivered rfl, FamilyRevocation.extend]
  simp only [StoreCall.at_read, StoreCall.at_moment, add_sub_cancel]
  by_cases expired : exp ≤ now
  · rw [if_pos expired, if_pos expired]
  · rw [if_neg expired, if_neg expired]
    cases backend with
    | redis =>
      simp
    | memory =>
      rw [← agedLive]
      cases existing : (records.aged .memory now).revoked fid with
      | none =>
        simp [Deadlines.live, existing]
      | some deadline =>
        -- The later of the two deadlines decides, whichever is kept.
        by_cases earlier : deadline < exp
        · rw [if_pos (.inr (by simpa using earlier)), Deadlines.set_live_same]
          apply Bool.eq_iff_iff.mpr
          simp only [Deadlines.live, existing, decide_true, Bool.true_and, Bool.or_eq_true,
            decide_eq_true_eq]
          omega
        · rw [if_neg (by simpa using earlier)]
          apply Bool.eq_iff_iff.mpr
          simp only [Deadlines.live, existing, decide_true, Bool.true_and, Bool.or_eq_true,
            decide_eq_true_eq]
          omega

private theorem apply_live {operation : StoreOperation} (later : now ≤ time) :
    (operation.apply backend now records).revoked.live time fid =
      (revocationOf fid (now, operation)).toList.foldl (FamilyRevocation.extend backend time)
        (records.revoked.live time fid) := by
  cases operation with
  | markRedeemed jti exp =>
    exact markRedeemed_revoked_live (le_refl _) later
  | isFamilyRevoked family =>
    rw [StoreOperation.apply, isFamilyRevoked_delivered (StoreCall.at_reply now)]
    exact aged_revoked_live later
  | prune => exact aged_revoked_live later
  | revokeFamily family exp =>
    by_cases same : family = fid
    · subst same
      simp only [StoreOperation.apply, revocationOf, if_true, Option.toList_some,
        List.foldl_cons, List.foldl_nil]
      exact revokeFamily_live later exp
    · simp only [StoreOperation.apply, revocationOf, if_neg same, Option.toList_none,
        List.foldl_nil]
      rcases done : records.revokeFamily backend (.at now) family exp with ⟨result, after⟩
      rcases revokeFamily_cases done with ⟨aged, ages, rfl | ⟨deadline, rfl⟩⟩
      · exact ages.revoked_live later
      · rw [Deadlines.set_live_other _ _ _ (Ne.symm same)]
        exact ages.revoked_live later

theorem run_live {initial final : RefreshStore} {operations : List TimedOperation}
    (run : Run (RefreshStore.step backend) unrestricted initial operations final)
    (later : final.now ≤ time) :
    final.records.revoked.live time fid =
      (revocationsOf fid operations).foldl (FamilyRevocation.extend backend time)
        (initial.records.revoked.live time fid) := by
  induction run with
  | nil => rfl
  | @cons current middle final operation operations _ taken rest induction =>
    have reached := (run_times rest).1
    simp only [RefreshStore.step, Option.ite_none_right_eq_some, Option.some.injEq] at taken
    rcases taken with ⟨_, rfl⟩
    rw [induction later, apply_live (le_trans reached later)]
    cases own : revocationOf fid operation with
    | none | some revocation => simp [revocationsOf, own]

private theorem isFamilyRevoked_at (fid : String) :
    (records.isFamilyRevoked backend (.at time) fid).1 = .ok (records.revoked.live time fid) := by
  rw [isFamilyRevoked_delivered (StoreCall.at_reply time), StoreCall.at_moment]

end

def Reaching (revocations : List FamilyRevocation) (time : Int) : Prop :=
  ∃ revocation ∈ revocations, time < revocation.exp

instance (revocations : List FamilyRevocation) (time : Int) :
    Decidable (Reaching revocations time) :=
  inferInstanceAs (Decidable (∃ revocation ∈ revocations, time < revocation.exp))

def lastEffective (revocations : List FamilyRevocation) : Option FamilyRevocation :=
  (revocations.filter fun revocation => revocation.time < revocation.exp).getLast?

section

variable {revocations : List FamilyRevocation} {time : Int} {answer : Bool}

private theorem foldl_extend_memory (past : ∀ revocation ∈ revocations, revocation.time ≤ time) :
    revocations.foldl (FamilyRevocation.extend .memory time) answer = true ↔
      answer = true ∨ Reaching revocations time := by
  induction revocations generalizing answer with
  | nil => simp [Reaching]
  | cons revocation revocations induction =>
    have headPast := past revocation List.mem_cons_self
    have restPast : ∀ other ∈ revocations, other.time ≤ time :=
      fun other member => past other (List.mem_cons_of_mem _ member)
    have head : FamilyRevocation.extend .memory time answer revocation = true ↔
        answer = true ∨ time < revocation.exp := by
      unfold FamilyRevocation.extend
      split
      · have : ¬ time < revocation.exp := by omega
        simp [this]
      · simp
    rw [List.foldl_cons, induction restPast, head, or_assoc]
    simp [Reaching]

theorem lastEffective_concat (revocation : FamilyRevocation) :
    lastEffective (revocations ++ [revocation]) =
      if revocation.time < revocation.exp then some revocation
      else lastEffective revocations := by
  unfold lastEffective
  split <;> simp [*]

theorem foldl_extend_redis :
    revocations.foldl (FamilyRevocation.extend .redis time) answer =
      match lastEffective revocations with
      | none => answer
      | some revocation => decide (time < revocation.exp) := by
  induction revocations using List.reverseRecOn with
  | nil => rfl
  | append_singleton revocations revocation induction =>
    rw [List.foldl_append, List.foldl_cons, List.foldl_nil, induction, lastEffective_concat,
      FamilyRevocation.extend]
    by_cases expired : revocation.exp ≤ revocation.time
    · rw [if_pos expired, if_neg (by omega)]
    · rw [if_neg expired, if_pos (by omega)]
      simp

theorem lastEffective_mem {revocation : FamilyRevocation}
    (found : lastEffective revocations = some revocation) : revocation ∈ revocations :=
  (List.mem_filter.mp (List.mem_of_getLast? found)).1

private theorem revocationsOf_past {backend : RefreshBackend} {initial final : RefreshStore}
    {operations : List TimedOperation} {fid : String}
    (run : Run (RefreshStore.step backend) unrestricted initial operations final) :
    ∀ revocation ∈ revocationsOf fid operations, revocation.time ≤ final.now := by
  intro revocation member
  rcases List.mem_filterMap.mp member with ⟨⟨moment, operation⟩, listed, own⟩
  have past := (run_times run).2 _ listed
  cases operation with
  | revokeFamily family exp =>
    rw [revocationOf, Option.ite_none_right_eq_some] at own
    rcases own with ⟨_, equal⟩
    cases equal
    exact past
  | markRedeemed | isFamilyRevoked | prune => cases own

end

/-- The family is reported as revoked exactly while some earlier revocation reaches beyond
the moment of the question, always in memory, and on Redis where the last revocation that had
an effect does so when any does. -/
theorem family_window_iff {backend : RefreshBackend} {initial final : RefreshStore}
    {operations : List TimedOperation} {fid : String} {time : Int}
    (run : Run (RefreshStore.step backend) unrestricted initial operations final)
    (clean : initial.records.revoked fid = none) (later : final.now ≤ time) :
    ((final.records.isFamilyRevoked backend (.at time) fid).1 = .ok true ↔
        Reaching (revocationsOf fid operations) time) ↔
      (backend = .redis → Reaching (revocationsOf fid operations) time →
        ∃ last, lastEffective (revocationsOf fid operations) = some last ∧ time < last.exp) := by
  have unrecorded : initial.records.revoked.live time fid = false := by simp [Deadlines.live, clean]
  rw [isFamilyRevoked_at, Except.ok.injEq, run_live run later, unrecorded]
  cases backend with
  | memory =>
    have past : ∀ revocation ∈ revocationsOf fid operations, revocation.time ≤ time :=
      fun revocation member => le_trans (revocationsOf_past run revocation member) later
    rw [foldl_extend_memory past]
    simp
  | redis =>
    rw [foldl_extend_redis]
    cases found : lastEffective (revocationsOf fid operations) with
    | none => simp
    | some last =>
      have member := lastEffective_mem found
      simp only [decide_eq_true_eq, forall_const, Option.some.injEq, exists_eq_left']
      constructor
      · exact fun agrees => agrees.mpr
      · exact fun covered => ⟨fun ahead => ⟨last, member, ahead⟩, covered⟩

def revokedTwice (first second : Int) : List TimedOperation :=
  [(0, .revokeFamily "f1" (ofUnix first)), (ofUnix 10, .revokeFamily "f1" (ofUnix second))]

theorem longer_revocation_extends : ∃ final,
    Run (RefreshStore.step .redis) unrestricted ⟨0, .empty⟩ (revokedTwice 50 100) final ∧
      ((final.records.isFamilyRevoked .redis (.at (ofUnix 60)) "f1").1 = .ok true ↔
        Reaching (revocationsOf "f1" (revokedTwice 50 100)) (ofUnix 60)) := by
  have executed : (execute (RefreshStore.step .redis) unrestricted ⟨0, .empty⟩
      (revokedTwice 50 100)).map RefreshStore.now = some (ofUnix 10) := by
    decide +kernel
  rcases Run.exists_of_execute _ executed with ⟨final, run, ended⟩
  refine ⟨final, run, (family_window_iff run rfl ?_).mpr ?_⟩
  · rw [ended]
    decide
  · exact fun _ _ => ⟨⟨ofUnix 10, ofUnix 100⟩, by decide +kernel, by decide⟩

/-- Asked after a minute, Redis has forgotten a revocation until a hundred seconds: the one
after it was until fifty. The memory store has not. -/
theorem shorter_revocation_shortens :
    Reaching (revocationsOf "f1" (revokedTwice 100 50)) (ofUnix 60) ∧
    (execute (RefreshStore.step .redis) unrestricted ⟨0, .empty⟩ (revokedTwice 100 50)).map
      (fun final => (final.now,
        (final.records.isFamilyRevoked .redis (.at (ofUnix 60)) "f1").1)) =
          some (ofUnix 10, .ok false) ∧
    (execute (RefreshStore.step .memory) unrestricted ⟨0, .empty⟩ (revokedTwice 100 50)).map
      (fun final => (final.now,
        (final.records.isFamilyRevoked .memory (.at (ofUnix 60)) "f1").1)) =
          some (ofUnix 10, .ok true) := by
  decide +kernel

end Parsec.Auth
