import Parsec.Foundation.Clock

/-! # Refresh-token rotation records

Which refresh tokens were redeemed and which families revoked, each until a deadline, in
the memory of one node or in a Redis shared by all. Every operation reads the clock first
and does its work in one atomic part afterwards: under the lock in memory, as one command
on Redis. -/

namespace Parsec.Auth

open Foundation

inductive RefreshBackend
  | memory
  | redis
  deriving DecidableEq

structure RefreshRecords where
  redeemed : Deadlines String
  revoked : Deadlines String

namespace RefreshRecords

def empty : RefreshRecords := { redeemed := .empty, revoked := .empty }

def prune (records : RefreshRecords) (now : Int) : RefreshRecords :=
  { redeemed := records.redeemed.prune now, revoked := records.revoked.prune now }

end RefreshRecords

inductive Reply
  | delivered
  | failed (applied : Bool) (cause : String)
  deriving DecidableEq

structure StoreCall where
  read : Int
  now : Int
  reply : Reply := .delivered

inductive StoreError
  | reused
  | other (text : String)
  deriving DecidableEq

def StoreError.text : StoreError → String
  | reused => "auth: refresh token already redeemed"
  | other text => text

def Reply.settle {Value : Type} (reply : Reply) (command : String) (before : RefreshRecords)
    (outcome : Except StoreError Value × RefreshRecords) :
    Except StoreError Value × RefreshRecords :=
  match reply with
  | .delivered => outcome
  | .failed applied cause =>
    (.error (.other (command ++ ": " ++ cause)), if applied then outcome.2 else before)

theorem Reply.settle_cases {Value : Type} {reply : Reply} {command : String}
    {before after : RefreshRecords} {outcome : Except StoreError Value × RefreshRecords}
    {result : Except StoreError Value}
    (done : reply.settle command before outcome = (result, after)) :
    outcome = (result, after) ∨
      (∃ text, result = .error (.other text)) ∧ (after = outcome.2 ∨ after = before) := by
  cases reply with
  | delivered => exact .inl done
  | failed applied cause =>
    cases applied with
    | true =>
      cases done
      exact .inr ⟨⟨_, rfl⟩, .inl rfl⟩
    | false =>
      cases done
      exact .inr ⟨⟨_, rfl⟩, .inr rfl⟩

namespace RefreshRecords

def markRedeemedMemory (records : RefreshRecords) (now : Int) (jti : String) (exp : Int) :
    Except StoreError Unit × RefreshRecords :=
  if exp ≤ now then (.ok (), records)
  else
    let pruned := records.prune now
    if pruned.redeemed.live now jti then (.error .reused, pruned)
    else (.ok (), { pruned with redeemed := pruned.redeemed.set jti exp })

def revokeFamilyMemory (records : RefreshRecords) (now : Int) (fid : String) (exp : Int) :
    Except StoreError Unit × RefreshRecords :=
  if exp ≤ now then (.ok (), records)
  else
    let pruned := records.prune now
    if (pruned.revoked fid).all fun existing => decide (existing < exp) then
      (.ok (), { pruned with revoked := pruned.revoked.set fid exp })
    else (.ok (), pruned)

def isFamilyRevokedMemory (records : RefreshRecords) (now : Int) (fid : String) :
    Except StoreError Bool × RefreshRecords :=
  let pruned := records.prune now
  (.ok (pruned.revoked.live now fid), pruned)

/-! ## The Redis store

The time to live is what was left at the clock reading; Redis counts it from the moment
the command runs. -/

def markRedeemedRedis (records : RefreshRecords) (call : StoreCall) (jti : String)
    (exp : Int) : Except StoreError Unit × RefreshRecords :=
  let ttl := exp - call.read
  if ttl ≤ 0 then (.ok (), records)
  else call.reply.settle "redis SETNX jti" records <|
    if records.redeemed.live call.now jti then (.error .reused, records)
    else (.ok (), { records with redeemed := records.redeemed.set jti (call.now + ttl) })

def revokeFamilyRedis (records : RefreshRecords) (call : StoreCall) (fid : String)
    (exp : Int) : Except StoreError Unit × RefreshRecords :=
  let ttl := exp - call.read
  if ttl ≤ 0 then (.ok (), records)
  else call.reply.settle "redis SET fid" records
    (.ok (), { records with revoked := records.revoked.set fid (call.now + ttl) })

def isFamilyRevokedRedis (records : RefreshRecords) (call : StoreCall) (fid : String) :
    Except StoreError Bool × RefreshRecords :=
  call.reply.settle "redis EXISTS fid" records (.ok (records.revoked.live call.now fid), records)

def markRedeemed (backend : RefreshBackend) (records : RefreshRecords) (call : StoreCall)
    (jti : String) (exp : Int) : Except StoreError Unit × RefreshRecords :=
  match backend with
  | .memory => records.markRedeemedMemory call.read jti exp
  | .redis => records.markRedeemedRedis call jti exp

def revokeFamily (backend : RefreshBackend) (records : RefreshRecords) (call : StoreCall)
    (fid : String) (exp : Int) : Except StoreError Unit × RefreshRecords :=
  match backend with
  | .memory => records.revokeFamilyMemory call.read fid exp
  | .redis => records.revokeFamilyRedis call fid exp

def isFamilyRevoked (backend : RefreshBackend) (records : RefreshRecords) (call : StoreCall)
    (fid : String) : Except StoreError Bool × RefreshRecords :=
  match backend with
  | .memory => records.isFamilyRevokedMemory call.read fid
  | .redis => records.isFamilyRevokedRedis call fid

/-- The records are unchanged or were pruned at `now`. -/
def Ages (records : RefreshRecords) (now : Int) (after : RefreshRecords) : Prop :=
  after = records ∨ after = records.prune now

namespace Ages

variable {records after : RefreshRecords} {now bound : Int} {key : String}

variable (ages : records.Ages now after)
include ages

theorem redeemed (lasts : records.redeemed.Lasts key bound) (before : now < bound) :
    after.redeemed.Lasts key bound := by
  rcases ages with rfl | rfl
  · exact lasts
  · exact lasts.prune before

variable {time : Int}

theorem redeemed_live (later : now ≤ time) :
    after.redeemed.live time key = records.redeemed.live time key := by
  rcases ages with rfl | rfl
  · rfl
  · exact Deadlines.prune_live later

theorem revoked (lasts : records.revoked.Lasts key bound) (before : now < bound) :
    after.revoked.Lasts key bound := by
  rcases ages with rfl | rfl
  · exact lasts
  · exact lasts.prune before

theorem revoked_live (later : now ≤ time) :
    after.revoked.live time key = records.revoked.live time key := by
  rcases ages with rfl | rfl
  · rfl
  · exact Deadlines.prune_live later

end Ages

variable {backend : RefreshBackend} {records after : RefreshRecords} {call : StoreCall}
  {jti : String} {exp : Int} {result : Except StoreError Unit}

/-- A redemption records the token until its expiry at least, and only when it was not
recorded. Otherwise it fails, or the token had expired when the clock was read. -/
theorem markRedeemed_cases (ordered : call.read ≤ call.now)
    (done : records.markRedeemed backend call jti exp = (result, after)) :
    ∃ aged, records.Ages call.read aged ∧
      ((after = aged ∧ (result = .ok () → exp ≤ call.read)) ∨
        ∃ deadline time, after = { aged with redeemed := aged.redeemed.set jti deadline } ∧
          exp ≤ deadline ∧ time ≤ call.now ∧ aged.redeemed.live time jti = false) := by
  cases backend with
  | memory =>
    simp only [markRedeemed, markRedeemedMemory] at done
    split at done
    · cases done
      exact ⟨records, .inl rfl, .inl ⟨rfl, fun _ => by assumption⟩⟩
    · refine ⟨records.prune call.read, .inr rfl, ?_⟩
      split at done
      · cases done
        exact .inl ⟨rfl, fun succeeded => by cases succeeded⟩
      · rename_i absent
        cases done
        exact .inr ⟨exp, call.read, rfl, le_refl _, ordered, by simpa using absent⟩
  | redis =>
    refine ⟨records, .inl rfl, ?_⟩
    simp only [markRedeemed, markRedeemedRedis] at done
    split at done
    · cases done
      exact .inl ⟨rfl, fun _ => by omega⟩
    · rcases Reply.settle_cases done with equal | ⟨⟨text, rfl⟩, applied⟩
      · split at equal
        · cases equal
          exact .inl ⟨rfl, fun succeeded => by cases succeeded⟩
        · rename_i absent
          cases equal
          exact .inr ⟨_, call.now, rfl, by omega, le_refl _, by simpa using absent⟩
      · rcases applied with rfl | rfl
        · split
          · exact .inl ⟨rfl, fun succeeded => by cases succeeded⟩
          · rename_i absent
            exact .inr ⟨_, call.now, rfl, by omega, le_refl _, by simpa using absent⟩
        · exact .inl ⟨rfl, fun succeeded => by cases succeeded⟩

variable {fid : String}

section

variable (ordered : call.read ≤ call.now)
include ordered

variable {bound : Int}

theorem markRedeemed_revoked (done : records.markRedeemed backend call jti exp = (result, after))
    (lasts : records.revoked.Lasts fid bound) (early : call.read < bound) :
    after.revoked.Lasts fid bound := by
  rcases markRedeemed_cases ordered done with ⟨aged, ages, ⟨rfl, _⟩ | ⟨_, _, rfl, _⟩⟩ <;>
    exact ages.revoked lasts early

theorem markRedeemed_revoked_live {time : Int} (later : call.now ≤ time) :
    (records.markRedeemed backend call jti exp).2.revoked.live time fid =
      records.revoked.live time fid := by
  rcases done : records.markRedeemed backend call jti exp with ⟨result, after⟩
  rcases markRedeemed_cases ordered done with ⟨aged, ages, ⟨rfl, _⟩ | ⟨_, _, rfl, _⟩⟩ <;>
    exact ages.revoked_live (by omega)

theorem markRedeemed_redeemed {key : String}
    (done : records.markRedeemed backend call jti exp = (result, after))
    (lasts : records.redeemed.Lasts key bound) (early : call.now < bound) :
    after.redeemed.Lasts key bound := by
  rcases markRedeemed_cases ordered done with
    ⟨aged, ages, ⟨rfl, _⟩ | ⟨deadline, time, rfl, _, timely, absent⟩⟩
  · exact ages.redeemed lasts (by omega)
  · have agedLasts := ages.redeemed lasts (by omega)
    by_cases same : key = jti
    · subst same
      rw [agedLasts.live (by omega)] at absent
      cases absent
    · exact agedLasts.set_other same

theorem markRedeemed_lasts (early : call.now < exp)
    (done : records.markRedeemed backend call jti exp = (.ok (), after)) :
    after.redeemed.Lasts jti exp := by
  rcases markRedeemed_cases ordered done with
    ⟨aged, ages, ⟨rfl, expired⟩ | ⟨deadline, _, rfl, reaches, _⟩⟩
  · have := expired rfl
    omega
  · exact .of_set reaches

theorem markRedeemed_refused (early : call.now < exp)
    (done : records.markRedeemed backend call jti exp = (result, after))
    (lasts : records.redeemed.Lasts jti exp) : result ≠ .ok () := by
  rintro rfl
  rcases markRedeemed_cases ordered done with
    ⟨aged, ages, ⟨rfl, expired⟩ | ⟨_, time, rfl, _, timely, absent⟩⟩
  · have := expired rfl
    omega
  · rw [(ages.redeemed lasts (by omega)).live (by omega)] at absent
    cases absent

theorem isFamilyRevoked_cases {result : Except StoreError Bool}
    (done : records.isFamilyRevoked backend call fid = (result, after)) :
    records.Ages call.read after ∧
      (result = .ok false → ∀ bound, records.revoked.Lasts fid bound → bound ≤ call.now) := by
  cases backend with
  | memory =>
    cases done
    refine ⟨.inr rfl, fun clean bound lasts => ?_⟩
    by_contra beyond
    have early : call.read < bound := by omega
    have live := (lasts.prune early).live early
    simp only [prune, live] at clean
    cases clean
  | redis =>
    rcases Reply.settle_cases done with equal | ⟨⟨text, rfl⟩, applied⟩
    · cases equal
      refine ⟨.inl rfl, fun clean bound lasts => ?_⟩
      by_contra beyond
      rw [lasts.live (by omega)] at clean
      cases clean
    · refine ⟨?_, fun clean => by cases clean⟩
      rcases applied with rfl | rfl <;> exact .inl rfl

end

theorem revokeFamily_cases (done : records.revokeFamily backend call fid exp = (result, after)) :
    ∃ aged, records.Ages call.read aged ∧
      (after = aged ∨ ∃ deadline, after =
        { aged with revoked := aged.revoked.set fid deadline }) := by
  cases backend with
  | memory =>
    simp only [revokeFamily, revokeFamilyMemory] at done
    split at done
    · cases done
      exact ⟨records, .inl rfl, .inl rfl⟩
    · split at done
      · cases done
        exact ⟨_, .inr rfl, .inr ⟨exp, rfl⟩⟩
      · cases done
        exact ⟨_, .inr rfl, .inl rfl⟩
  | redis =>
    refine ⟨records, .inl rfl, ?_⟩
    simp only [revokeFamily, revokeFamilyRedis] at done
    split at done
    · cases done
      exact .inl rfl
    · rcases Reply.settle_cases done with equal | ⟨_, rfl | rfl⟩
      · cases equal
        exact .inr ⟨_, rfl⟩
      · exact .inr ⟨_, rfl⟩
      · exact .inl rfl

theorem revokeFamily_redeemed {key : String} {bound : Int}
    (done : records.revokeFamily backend call fid exp = (result, after))
    (lasts : records.redeemed.Lasts key bound) (early : call.read < bound) :
    after.redeemed.Lasts key bound := by
  rcases revokeFamily_cases done with ⟨aged, ages, rfl | ⟨_, rfl⟩⟩ <;>
    exact ages.redeemed lasts early

theorem revokeFamily_lasts (ordered : call.read ≤ call.now) (before : call.now < exp)
    (done : records.revokeFamily backend call fid exp = (.ok (), after)) :
    after.revoked.Lasts fid exp := by
  cases backend with
  | memory =>
    simp only [revokeFamily, revokeFamilyMemory] at done
    rw [if_neg (by omega)] at done
    split at done
    · cases done
      exact .of_set (le_refl _)
    · rename_i kept
      cases done
      cases existing : (records.prune call.read).revoked fid with
      | none => simp [existing] at kept
      | some deadline =>
        refine ⟨deadline, existing, ?_⟩
        simpa [existing] using kept
  | redis =>
    simp only [revokeFamily, revokeFamilyRedis] at done
    rw [if_neg (by omega)] at done
    rcases Reply.settle_cases done with equal | ⟨⟨text, failed⟩, _⟩
    · cases equal
      exact .of_set (by omega)
    · cases failed

/-! ## A store that answers

Both stores go by one moment and keep a record from it for what was left at the clock
reading. -/

end RefreshRecords

def StoreCall.moment (call : StoreCall) : RefreshBackend → Int
  | .memory => call.read
  | .redis => call.now

theorem StoreCall.moment_bounds {call : StoreCall} (ordered : call.read ≤ call.now)
    (backend : RefreshBackend) :
    call.read ≤ call.moment backend ∧ call.moment backend ≤ call.now := by
  cases backend with
  | memory => exact ⟨le_refl _, ordered⟩
  | redis => exact ⟨ordered, le_refl _⟩

namespace RefreshRecords

def aged (records : RefreshRecords) (backend : RefreshBackend) (now : Int) : RefreshRecords :=
  match backend with
  | .memory => records.prune now
  | .redis => records

section

variable {backend : RefreshBackend} {records : RefreshRecords} {call : StoreCall}
  {now time : Int} {key : String}

theorem aged_redeemed_live (later : now ≤ time) :
    (records.aged backend now).redeemed.live time key = records.redeemed.live time key := by
  cases backend with
  | memory => exact Deadlines.prune_live later
  | redis => rfl

theorem aged_revoked_live (later : now ≤ time) :
    (records.aged backend now).revoked.live time key = records.revoked.live time key := by
  cases backend with
  | memory => exact Deadlines.prune_live later
  | redis => rfl

section

variable (delivered : call.reply = .delivered)
include delivered

theorem isFamilyRevoked_delivered (fid : String) :
    records.isFamilyRevoked backend call fid =
      (.ok (records.revoked.live (call.moment backend) fid), records.aged backend call.read) := by
  cases backend with
  | memory =>
    simp only [isFamilyRevoked, isFamilyRevokedMemory, prune, StoreCall.moment, aged,
      Deadlines.prune_live (le_refl _)]
  | redis =>
    simp only [isFamilyRevoked, isFamilyRevokedRedis, delivered, Reply.settle,
      StoreCall.moment, aged]

theorem markRedeemed_delivered (jti : String) (exp : Int) :
    records.markRedeemed backend call jti exp =
      if exp ≤ call.read then (.ok (), records)
      else if records.redeemed.live (call.moment backend) jti then
        (.error .reused, records.aged backend call.read)
      else (.ok (), { records.aged backend call.read with
        redeemed := (records.aged backend call.read).redeemed.set jti
          (call.moment backend + (exp - call.read)) }) := by
  cases backend with
  | memory =>
    simp only [markRedeemed, markRedeemedMemory, prune, StoreCall.moment, aged,
      Deadlines.prune_live (le_refl _), add_sub_cancel]
  | redis =>
    simp only [markRedeemed, markRedeemedRedis, delivered, Reply.settle, StoreCall.moment, aged]
    exact if_congr sub_nonpos rfl rfl

theorem revokeFamily_delivered (fid : String) (exp : Int) :
    records.revokeFamily backend call fid exp =
      (.ok (), if exp ≤ call.read then records
      else if backend = .redis ∨ ((records.aged backend call.read).revoked fid).all
          fun existing => decide (existing < exp) then
        { records.aged backend call.read with
          revoked := (records.aged backend call.read).revoked.set fid
            (call.moment backend + (exp - call.read)) }
      else records.aged backend call.read) := by
  cases backend with
  | memory =>
    simp only [revokeFamily, revokeFamilyMemory, StoreCall.moment, aged, add_sub_cancel,
      reduceCtorEq, false_or]
    split
    · rfl
    · split <;> rfl
  | redis =>
    simp only [revokeFamily, revokeFamilyRedis, delivered, Reply.settle, StoreCall.moment, aged,
      true_or, if_true]
    split
    · rw [if_pos (by omega)]
    · rw [if_neg (by omega)]

end

theorem markRedeemed_ok {jti : String} {exp : Int} {after : RefreshRecords}
    (done : records.markRedeemed backend call jti exp = (.ok (), after)) :
    (exp ≤ call.read ∧ after = records) ∨
      (call.read < exp ∧ records.redeemed.live (call.moment backend) jti = false ∧
        after = { records.aged backend call.read with
          redeemed := (records.aged backend call.read).redeemed.set jti
            (call.moment backend + (exp - call.read)) }) := by
  cases backend with
  | memory =>
    simp only [markRedeemed, markRedeemedMemory, prune, Deadlines.prune_live (le_refl _)] at done
    split at done
    · cases done
      exact .inl ⟨by assumption, rfl⟩
    · split at done
      · cases done
      · rename_i absent
        cases done
        refine .inr ⟨by omega, Bool.eq_false_of_not_eq_true absent, ?_⟩
        simp only [aged, prune, StoreCall.moment, add_sub_cancel]
  | redis =>
    simp only [markRedeemed, markRedeemedRedis] at done
    split at done
    · cases done
      exact .inl ⟨by omega, rfl⟩
    · rcases Reply.settle_cases done with equal | ⟨⟨text, failed⟩, _⟩
      · split at equal
        · cases equal
        · rename_i absent
          cases equal
          exact .inr ⟨by omega, Bool.eq_false_of_not_eq_true absent, rfl⟩
      · cases failed

end

end RefreshRecords

end Parsec.Auth
