import Parsec.Refresh.FamilyRevocation

/-! # Redemption records

Which redemptions leave a record, and how later attempts on the token are answered. The
verifier accepts a token up to its expiry and the leeway, the store records one only before
its expiry. -/

namespace Parsec.Refresh

open Foundation Channels Auth RefreshRecords

def Recorded (backend : RefreshBackend) (call : StoreCall) (jti : String)
    (before after : RefreshRecords) : Prop :=
  before.redeemed.live (call.moment backend) jti = false ∧
    after.redeemed.live (call.moment backend) jti = true

instance (backend : RefreshBackend) (call : StoreCall) (jti : String)
    (before after : RefreshRecords) : Decidable (Recorded backend call jti before after) :=
  inferInstanceAs (Decidable (_ ∧ _))

/-! ## The call that returns a pair -/

section

variable {jwt : Jwt} {backend : RefreshBackend} {records : RefreshRecords}

theorem markRedeemed_recorded_iff {after : RefreshRecords} {call : StoreCall} {jti : String}
    {exp : Int} (done : records.markRedeemed backend call jti exp = (.ok (), after)) :
    Recorded backend call jti records after ↔ call.read < exp := by
  rcases markRedeemed_ok done with ⟨expired, rfl⟩ | ⟨early, absent, rfl⟩
  · refine iff_of_false ?_ (by omega)
    rintro ⟨absent, present⟩
    rw [absent] at present
    cases present
  · refine iff_of_true ⟨absent, ?_⟩ early
    have ahead : call.moment backend < call.moment backend + (exp - call.read) := by omega
    rw [Deadlines.set_live_same]
    exact decide_eq_true ahead

theorem refreshAccess_pair {server : Server} {moments : Moments} {token : Text}
    {admitted : Admitted} (passed : authenticate jwt server moments.verify token = .ok admitted)
    (paired : returnsPair (refreshAccess jwt backend server moments token records).1 = true) :
    ∃ checked, records.isFamilyRevoked backend moments.check admitted.claims.fid =
        (.ok false, checked) ∧
      checked.markRedeemed backend moments.redeem admitted.claims.jti
        admitted.claims.expiresAt =
          (.ok (), (refreshAccess jwt backend server moments token records).2) := by
  by_cases legacy : admitted.claims.jti = ""
  · rw [refreshAccess_legacy passed legacy, issueLegacy_single] at paired
    cases paired
  · simp only [refreshAccess, passed, if_neg legacy] at paired ⊢
    rcases check : records.isFamilyRevoked backend moments.check admitted.claims.fid with
      ⟨revoked, checked⟩
    cases revoked with
    | error error => simp [check, familyVerdict, returnsPair] at paired
    | ok revoked =>
      cases revoked with
      | true => simp [check, familyVerdict, returnsPair] at paired
      | false =>
        refine ⟨checked, rfl, ?_⟩
        simp only [check, familyVerdict] at paired ⊢
        rcases mark : checked.markRedeemed backend moments.redeem admitted.claims.jti
          admitted.claims.expiresAt with ⟨redeemed, marked⟩
        cases redeemed with
        | ok _ => rfl
        | error error =>
          cases error with
          | reused | other text => simp [mark, returnsPair] at paired

end

/-! ## The calls after it -/

section

variable {jwt : Jwt} {backend : RefreshBackend} {since : Int} {records : RefreshRecords}
  {jti : String} {bound : Int}

theorem Effect.keeps_redeemed {moments : Moments} {claims : Claims} {after : RefreshRecords}
    {result : Except CodedError RefreshResult}
    (effect : Effect backend moments claims records result after) (ordered : moments.Ordered since)
    (lasts : records.redeemed.Lasts jti bound) (early : moments.issue < bound) :
    after.redeemed.Lasts jti bound := by
  rcases ordered with ⟨_, _, checkOrdered, _, redeemOrdered, _, _, _⟩
  cases effect with
  | stopped check _ =>
    have ages := (isFamilyRevoked_cases checkOrdered check).1
    exact ages.redeemed lasts (by omega)
  | reused check mark revoke =>
    have ages := (isFamilyRevoked_cases checkOrdered check).1
    have checked := ages.redeemed lasts (by omega)
    have marked := markRedeemed_redeemed redeemOrdered mark checked (by omega)
    exact revokeFamily_redeemed revoke marked (by omega)
  | redeemed check mark _ =>
    have ages := (isFamilyRevoked_cases checkOrdered check).1
    have checked := ages.redeemed lasts (by omega)
    exact markRedeemed_redeemed redeemOrdered mark checked (by omega)

/-- The token is recorded until `bound`, for as long as that lies ahead. -/
def Store.Redeemed (jti : String) (bound : Int) (store : Store) : Prop :=
  store.now < bound → store.records.redeemed.Lasts jti bound

theorem Store.Redeemed.step {current next : Store} {event : Event}
    (redeemed : current.Redeemed jti bound)
    (taken : Store.step jwt backend current event = some next) : next.Redeemed jti bound :=
  (Store.step_passes taken).keeps
    (fun effect ordered lasts early => effect.keeps_redeemed ordered lasts early)
    (fun lasts early => lasts.prune early) redeemed

variable {attempt : Call} {again : Admitted}
  (passed : authenticate jwt attempt.server attempt.moments.verify attempt.token = .ok again)
  (identified : again.claims.jti ≠ "") (ordered : attempt.moments.Ordered since)
  (reliable : attempt.moments.Reliable)
include passed identified ordered reliable

theorem attempt_on_recorded (lasts : records.redeemed.Lasts again.claims.jti again.claims.expiresAt)
    (early : attempt.moments.redeem.now < again.claims.expiresAt) :
    (attempt.outcome jwt backend records).1 = .error reuseDetected ∨
      (attempt.outcome jwt backend records).1 = .error familyRevoked := by
  have redeemOrdered := ordered.2.2.2.2.1
  have bounds := StoreCall.moment_bounds redeemOrdered backend
  have seen : ReuseSeen backend attempt.moments again.claims records :=
    ⟨by omega, lasts.live (by omega)⟩
  rw [Call.outcome, refreshAccess_reliable passed identified ordered reliable]
  split
  · exact .inr rfl
  · exact .inl rfl

theorem attempt_after_expiry (expired : again.claims.expiresAt ≤ attempt.moments.redeem.read) :
    (attempt.outcome jwt backend records).1 ≠ .error reuseDetected := by
  have unseen : ¬ ReuseSeen backend attempt.moments again.claims records := by
    rintro ⟨early, _⟩
    omega
  rw [Call.outcome, refreshAccess_reliable passed identified ordered reliable]
  split
  · simp [familyRevoked, reuseDetected, denied]
  · exact mapError_ne_reuse fun _ => ⟨_, rfl⟩

end

/-- A call that returns a pair put the token on record exactly when it read the clock before
the token's expiry. Later attempts on the token are refused if their redemption runs before
the expiry, and are not taken for a reuse if it starts afterwards. -/
theorem pair_recorded_iff {jwt : Jwt} {backend : RefreshBackend} {store : Store} {call : Call}
    {admitted : Admitted}
    (passed : authenticate jwt call.server call.moments.verify call.token = .ok admitted)
    (ordered : call.moments.Ordered store.now)
    (paired : returnsPair (call.outcome jwt backend store.records).1 = true) :
    (Recorded backend call.moments.redeem admitted.claims.jti store.records
        (call.outcome jwt backend store.records).2 ↔
      call.moments.redeem.read < admitted.claims.expiresAt) ∧
    ∀ (events : List Event) (later : Store) (attempt : Call) (again : Admitted),
      Run (Store.step jwt backend) unrestricted (store.after jwt backend call) events later →
      attempt.moments.Ordered later.now → attempt.moments.Reliable →
      attempt.token = call.token →
      authenticate jwt attempt.server attempt.moments.verify attempt.token = .ok again →
      (attempt.moments.redeem.now < admitted.claims.expiresAt →
        (attempt.outcome jwt backend later.records).1 = .error reuseDetected ∨
          (attempt.outcome jwt backend later.records).1 = .error familyRevoked) ∧
      (admitted.claims.expiresAt ≤ attempt.moments.redeem.read →
        (attempt.outcome jwt backend later.records).1 ≠ .error reuseDetected) := by
  rcases refreshAccess_pair passed paired with ⟨checked, check, mark⟩
  have identified : admitted.claims.jti ≠ "" := by
    intro legacy
    rw [Call.outcome, refreshAccess_legacy passed legacy, issueLegacy_single] at paired
    cases paired
  rcases ordered with ⟨_, _, checkOrdered, between, redeemOrdered, redeemed, revokeOrdered, issued⟩
  constructor
  · -- The family check ages the records, which is not seen at the redemption.
    have ages := (isFamilyRevoked_cases checkOrdered check).1
    have bounds := StoreCall.moment_bounds redeemOrdered backend
    rw [← markRedeemed_recorded_iff mark, Recorded, Recorded, ages.redeemed_live (by omega)]
    rfl
  · intro events later attempt again run attemptOrdered reliable same passedAgain
    have sameClaims : again.claims = admitted.claims := by
      have verified := authenticate_verified passedAgain
      rw [same] at verified
      exact Jwt.verify_unique (authenticate_verified passed) verified
    rw [← sameClaims] at identified mark ⊢
    have start : (store.after jwt backend call).Redeemed again.claims.jti
        again.claims.expiresAt := by
      intro early
      change call.moments.issue < again.claims.expiresAt at early
      exact markRedeemed_lasts redeemOrdered (by omega) mark
    have recorded := run.invariant (Store.Redeemed again.claims.jti again.claims.expiresAt)
      (fun _ _ _ holds _ taken => holds.step taken) start
    constructor
    · intro early
      have sinceEarly : later.now < again.claims.expiresAt := by
        simp only [Moments.Ordered] at attemptOrdered
        omega
      exact attempt_on_recorded passedAgain identified attemptOrdered reliable
        (recorded sinceEarly) early
    · intro expired
      exact attempt_after_expiry passedAgain identified attemptOrdered reliable expired

/-- The token redeemed after thirty minutes is on record, and its reuse a minute later is
refused. -/
theorem rotation_recorded :
    Recorded .redis rotationFirst.moments.redeem rotationAdmitted.claims.jti .empty
        (rotationFirst.outcome rotationJwt .redis .empty).2 ∧
      ((rotationReuse.outcome rotationJwt .redis (rotationRedeemed .redis).records).1 =
          .error reuseDetected ∨
        (rotationReuse.outcome rotationJwt .redis (rotationRedeemed .redis).records).1 =
          .error familyRevoked) := by
  have passed : authenticate rotationJwt rotationFirst.server rotationFirst.moments.verify
      rotationFirst.token = .ok rotationAdmitted := by
    decide +kernel
  have passedAgain : authenticate rotationJwt rotationReuse.server
      rotationReuse.moments.verify rotationReuse.token = .ok rotationAdmitted := by
    decide +kernel
  have ordered : rotationFirst.moments.Ordered 0 := by decide +kernel
  have orderedAgain : rotationReuse.moments.Ordered (rotationRedeemed .redis).now := by
    decide +kernel
  have paired : returnsPair (rotationFirst.outcome rotationJwt .redis .empty).1 = true := by
    decide +kernel
  have early : rotationFirst.moments.redeem.read < rotationAdmitted.claims.expiresAt := by
    decide +kernel
  have earlyAgain : rotationReuse.moments.redeem.now < rotationAdmitted.claims.expiresAt := by
    decide +kernel
  rcases @pair_recorded_iff rotationJwt .redis ⟨0, .empty⟩ rotationFirst rotationAdmitted passed
    ordered paired with ⟨recorded, refused⟩
  refine ⟨recorded.mpr early, ?_⟩
  exact (refused [] (rotationRedeemed .redis) rotationReuse rotationAdmitted (.nil _)
    orderedAgain (by decide) rfl passedAgain).1 earlyAgain

def PairedUnrecorded (backend : RefreshBackend) (first second : Call) : Prop :=
  let store := Store.after rotationJwt backend ⟨0, .empty⟩ first
  first.moments.Ordered 0 ∧ second.moments.Ordered store.now ∧ first.token = second.token ∧
    returnsPair (first.outcome rotationJwt backend .empty).1 = true ∧
    ¬ Recorded backend first.moments.redeem rotationAdmitted.claims.jti .empty store.records ∧
    returnsPair (second.outcome rotationJwt backend store.records).1 = true

instance (backend : RefreshBackend) (first second : Call) :
    Decidable (PairedUnrecorded backend first second) :=
  inferInstanceAs (Decidable (Moments.Ordered _ _ ∧ Moments.Ordered _ _ ∧ _ = _ ∧ _ = true ∧
    ¬ Recorded _ _ _ _ _ ∧ _ = true))

def lenientCall (minutes : Int) (jti access : UInt8) : Call :=
  let call := rotationCall minutes 0 jti access
  { call with server := { call.server with leeway := 2 * minute } }

/-- The token of an hour is redeemed for a pair and again for another: a minute after its
expiry, and without leeway at the instant of its expiry. -/
theorem expired_token_paired_twice :
    (∀ backend, PairedUnrecorded backend (lenientCall 61 5 6) (lenientCall 61 7 8)) ∧
      ∀ backend, PairedUnrecorded backend (rotationCall 60 0 5 6) (rotationCall 60 0 7 8) := by
  constructor
  · intro backend
    cases backend <;> decide +kernel
  · intro backend
    cases backend <;> decide +kernel

/-! ## Refreshes that fail

A refresh that failed is tried again. -/

/-! ## Calls on other tokens -/

def Bystander (jwt : Jwt) (claims : Claims) (_ : Store) : Event → Prop
  | .prune _ => True
  | .call call => ∀ admitted,
      authenticate jwt call.server call.moments.verify call.token = .ok admitted →
        admitted.claims.jti ≠ claims.jti ∧ admitted.claims.fid ≠ claims.fid

/-- Both stores answer alike about the token and its family, from `now` on. -/
def SameAnswers (claims : Claims) (now : Int) (records after : RefreshRecords) : Prop :=
  ∀ time, now ≤ time →
    after.redeemed.live time claims.jti = records.redeemed.live time claims.jti ∧
      after.revoked.live time claims.fid = records.revoked.live time claims.fid

section

variable {jwt : Jwt} {backend : RefreshBackend} {claims : Claims} {records after : RefreshRecords}
  {now : Int}

theorem SameAnswers.of_ages {moment : Int} (ages : records.Ages moment after)
    (later : moment ≤ now) :
    SameAnswers claims now records after := by
  intro time reached
  exact ⟨ages.redeemed_live (by omega), ages.revoked_live (by omega)⟩

theorem SameAnswers.trans {first second third : RefreshRecords} {later : Int}
    (earlier : SameAnswers claims now first second) (after : now ≤ later)
    (same : SameAnswers claims later second third) : SameAnswers claims later first third := by
  intro time reached
  rcases earlier time (by omega) with ⟨redeemed, revoked⟩
  rcases same time reached with ⟨redeemedAgain, revokedAgain⟩
  exact ⟨redeemedAgain.trans redeemed, revokedAgain.trans revoked⟩

variable {call : StoreCall} {result : Except StoreError Unit} {exp : Int}

theorem SameAnswers.isFamilyRevoked {fid : String} {revoked : Except StoreError Bool}
    (ordered : call.read ≤ call.now)
    (done : records.isFamilyRevoked backend call fid = (revoked, after)) :
    SameAnswers claims call.read records after :=
  .of_ages (isFamilyRevoked_cases ordered done).1 (le_refl _)

theorem SameAnswers.markRedeemed {jti : String} (ordered : call.read ≤ call.now)
    (other : jti ≠ claims.jti)
    (done : records.markRedeemed backend call jti exp = (result, after)) :
    SameAnswers claims call.now records after := by
  rcases markRedeemed_cases ordered done with
    ⟨aged, ages, ⟨rfl, _⟩ | ⟨deadline, _, rfl, _⟩⟩
  · exact .of_ages ages ordered
  · intro time reached
    rcases SameAnswers.of_ages ages ordered time reached with ⟨redeemed, revoked⟩
    refine ⟨?_, revoked⟩
    rw [Deadlines.set_live_other _ _ _ other.symm]
    exact redeemed

theorem SameAnswers.revokeFamily {fid : String} (ordered : call.read ≤ call.now)
    (other : fid ≠ claims.fid)
    (done : records.revokeFamily backend call fid exp = (result, after)) :
    SameAnswers claims call.now records after := by
  rcases revokeFamily_cases done with ⟨aged, ages, rfl | ⟨deadline, rfl⟩⟩
  · exact .of_ages ages ordered
  · intro time reached
    rcases SameAnswers.of_ages ages ordered time reached with ⟨redeemed, revoked⟩
    refine ⟨redeemed, ?_⟩
    rw [Deadlines.set_live_other _ _ _ other.symm]
    exact revoked

theorem Effect.sameAnswers {moments : Moments} {own : Claims} {since : Int}
    {result : Except CodedError RefreshResult}
    (effect : Effect backend moments own records result after) (ordered : moments.Ordered since)
    (otherToken : own.jti ≠ claims.jti) (otherFamily : own.fid ≠ claims.fid) :
    SameAnswers claims moments.issue records after := by
  rcases ordered with ⟨_, _, checkOrdered, _, redeemOrdered, _, revokeOrdered, _⟩
  cases effect with
  | stopped check _ =>
    exact .of_ages (isFamilyRevoked_cases checkOrdered check).1 (by omega)
  | reused check mark revoke =>
    have marked := (SameAnswers.isFamilyRevoked checkOrdered check).trans (by omega)
      (.markRedeemed redeemOrdered otherToken mark)
    have revoked := marked.trans (by omega) (.revokeFamily revokeOrdered otherFamily revoke)
    exact revoked.trans (by omega) fun _ _ => ⟨rfl, rfl⟩
  | redeemed check mark _ =>
    have marked := (SameAnswers.isFamilyRevoked checkOrdered check).trans (by omega)
      (.markRedeemed redeemOrdered otherToken mark)
    exact marked.trans (by omega) fun _ _ => ⟨rfl, rfl⟩

/-- The answers about the token are those of the store at `start`. -/
def Store.Untouched (claims : Claims) (start current : Store) : Prop :=
  SameAnswers claims current.now start.records current.records

theorem Store.Untouched.step {start current next : Store} {event : Event}
    (untouched : Store.Untouched claims start current)
    (bystander : Bystander jwt claims current event)
    (taken : Store.step jwt backend current event = some next) :
    Store.Untouched claims start next := by
  have passes := Store.step_passes taken
  refine SameAnswers.trans untouched passes.later ?_
  cases passes with
  | served ordered passed effect =>
    rcases bystander _ passed with ⟨otherToken, otherFamily⟩
    exact effect.sameAnswers ordered otherToken otherFamily
  | turnedAway _ => exact fun _ _ => ⟨rfl, rfl⟩
  | pruned _ => exact .of_ages (.inr rfl) (le_refl _)

end

/-! ## The call that is tried again -/

def issueFor (jwt : Jwt) (server : Server) (now : Int) (admitted : Admitted) :
    Except CodedError RefreshResult :=
  if admitted.claims.jti = "" then issueLegacy jwt server now admitted
  else issueRotated jwt server now admitted

def Call.Redeems (call : Call) (jwt : Jwt) (backend : RefreshBackend) (records : RefreshRecords)
    (fid : String) : Prop :=
  (∃ result, (call.outcome jwt backend records).1 = .ok result) ∧
    ∀ time, call.moments.issue ≤ time →
      (call.outcome jwt backend records).2.revoked.live time fid = records.revoked.live time fid

def Fresh (backend : RefreshBackend) (moments : Moments) (claims : Claims)
    (records : RefreshRecords) : Prop :=
  records.revoked.live (moments.check.moment backend) claims.fid = false ∧
    records.redeemed.live (moments.redeem.moment backend) claims.jti = false

instance (backend : RefreshBackend) (moments : Moments) (claims : Claims)
    (records : RefreshRecords) : Decidable (Fresh backend moments claims records) :=
  inferInstanceAs (Decidable (_ ∧ _))

theorem SameAnswers.fresh {backend : RefreshBackend} {moments : Moments} {claims : Claims}
    {records after : RefreshRecords} {now : Int} (same : SameAnswers claims now records after)
    (ordered : moments.Ordered now) :
    Fresh backend moments claims after ↔ Fresh backend moments claims records := by
  rcases ordered with ⟨_, _, checkOrdered, _, redeemOrdered, _⟩
  have check := (StoreCall.moment_bounds checkOrdered backend).1
  have redeem := (StoreCall.moment_bounds redeemOrdered backend).1
  rw [Fresh, Fresh, (same _ (by omega)).1, (same _ (by omega)).2]

section

variable {jwt : Jwt} {backend : RefreshBackend} {records : RefreshRecords} {retry : Call}
  {admitted : Admitted} {since : Int}

section

variable (passed : authenticate jwt retry.server retry.moments.verify retry.token = .ok admitted)
include passed

private theorem redeems_legacy (legacy : admitted.claims.jti = "")
    (issues : ∃ result, issueFor jwt retry.server retry.moments.issue admitted = .ok result) :
    retry.Redeems jwt backend records admitted.claims.fid := by
  rcases issues with ⟨result, issued⟩
  rw [issueFor, if_pos legacy] at issued
  rw [Call.Redeems, Call.outcome, refreshAccess_legacy passed legacy]
  exact ⟨⟨result, issued⟩, fun _ _ => rfl⟩

theorem redeems_iff_fresh (identified : admitted.claims.jti ≠ "")
    (ordered : retry.moments.Ordered since) (reliable : retry.moments.Reliable)
    (unexpired : retry.moments.redeem.now < admitted.claims.expiresAt)
    (issues : ∃ result, issueFor jwt retry.server retry.moments.issue admitted = .ok result) :
    retry.Redeems jwt backend records admitted.claims.fid ↔
      Fresh backend retry.moments admitted.claims records := by
  rcases issues with ⟨result, issued⟩
  rw [issueFor, if_neg identified] at issued
  rw [Call.Redeems, Call.outcome, refreshAccess_reliable passed identified ordered reliable]
  rcases ordered with ⟨_, _, checkOrdered, _, redeemOrdered, _, _, _⟩
  by_cases revoked : records.revoked.live (retry.moments.check.moment backend)
      admitted.claims.fid = true
  · rw [if_pos revoked]
    refine iff_of_false ?_ (by simp [Fresh, revoked])
    rintro ⟨⟨_, succeeded⟩, _⟩
    cases succeeded
  · rw [if_neg revoked]
    by_cases seen : ReuseSeen backend retry.moments admitted.claims records
    · rw [if_pos seen]
      refine iff_of_false ?_ (by simp [Fresh, seen.2])
      rintro ⟨⟨_, succeeded⟩, _⟩
      cases succeeded
    · rw [if_neg seen]
      refine iff_of_true ⟨⟨result, issued⟩, ?_⟩ ⟨Bool.eq_false_of_not_eq_true revoked, ?_⟩
      · intro time reached
        rw [markRedeemed_revoked_live redeemOrdered (by omega),
          aged_revoked_live (by omega)]
      · apply Bool.eq_false_of_not_eq_true
        exact fun live => seen ⟨by omega, live⟩

end

private theorem failed_records {failing : Call} {error : CodedError}
    (passed : authenticate jwt failing.server failing.moments.verify failing.token = .ok admitted)
    (identified : admitted.claims.jti ≠ "") (ordered : failing.moments.Ordered since)
    (reliable : failing.moments.Reliable)
    (failed : (failing.outcome jwt backend records).1 = .error error)
    (undenied : error ≠ reuseDetected ∧ error ≠ familyRevoked)
    (early : failing.moments.redeem.now < admitted.claims.expiresAt) :
    (failing.outcome jwt backend records).2.redeemed.Lasts admitted.claims.jti
      admitted.claims.expiresAt := by
  rw [Call.outcome, refreshAccess_reliable passed identified ordered reliable] at failed ⊢
  rcases ordered with ⟨_, _, _, between, redeemOrdered, _⟩
  split at failed
  · cases failed
    exact absurd rfl undenied.2
  · split at failed
    · cases failed
      exact absurd rfl undenied.1
    · rename_i clean unseen
      rw [if_neg clean, if_neg unseen]
      have looks := (StoreCall.moment_bounds redeemOrdered backend).1
      have absent : ¬ (records.aged backend failing.moments.check.read).redeemed.live
          (failing.moments.redeem.moment backend) admitted.claims.jti = true := by
        rw [aged_redeemed_live (by omega)]
        exact fun live => unseen ⟨by omega, live⟩
      have answered : ((records.aged backend failing.moments.check.read).markRedeemed backend
          failing.moments.redeem admitted.claims.jti admitted.claims.expiresAt).1 = .ok () := by
        rw [markRedeemed_delivered reliable.2.1, if_neg (by omega), if_neg absent]
      exact markRedeemed_lasts redeemOrdered early (Prod.ext answered rfl)

end

/-- A call failed, but not by a denial, and its token is presented again before it expires, with
nothing in between about it or its family. The retry redeems it exactly when it predates
rotation, or was fresh and the failed call did not get as far as the store. -/
theorem retry_redeems_iff {jwt : Jwt} {backend : RefreshBackend} {before later : Store}
    {failing retry : Call} {error : CodedError} {admitted : Admitted} {events : List Event}
    (ordered : failing.moments.Ordered before.now) (reliable : failing.moments.Reliable)
    (failed : (failing.outcome jwt backend before.records).1 = .error error)
    (undenied : error ≠ reuseDetected ∧ error ≠ familyRevoked)
    (run : Run (Store.step jwt backend) (Bystander jwt admitted.claims)
      (before.after jwt backend failing) events later)
    (retryOrdered : retry.moments.Ordered later.now) (retryReliable : retry.moments.Reliable)
    (again : retry.token = failing.token)
    (passed : authenticate jwt retry.server retry.moments.verify retry.token = .ok admitted)
    (unexpired : retry.moments.redeem.now < admitted.claims.expiresAt)
    (issues : ∃ result, issueFor jwt retry.server retry.moments.issue admitted = .ok result) :
    retry.Redeems jwt backend later.records admitted.claims.fid ↔
      admitted.claims.jti = "" ∨
        Fresh backend retry.moments admitted.claims before.records ∧
          ∃ refusal, authenticate jwt failing.server failing.moments.verify failing.token =
            .error refusal := by
  by_cases legacy : admitted.claims.jti = ""
  · exact iff_of_true (redeems_legacy passed legacy issues) (.inl legacy)
  rw [redeems_iff_fresh passed legacy retryOrdered retryReliable unexpired issues,
    or_iff_right legacy]
  cases first : authenticate jwt failing.server failing.moments.verify failing.token with
  | error refusal =>
    have untouched := run.invariant
      (Store.Untouched admitted.claims (before.after jwt backend failing))
      (fun _ _ _ holds bystander taken => holds.step bystander taken)
      (fun _ _ => ⟨rfl, rfl⟩)
    have unchanged : (before.after jwt backend failing).records = before.records := by
      simp only [Store.after, Call.outcome, refreshAccess, first]
    rw [SameAnswers.fresh untouched retryOrdered, unchanged]
    exact (and_iff_left ⟨refusal, rfl⟩).symm
  | ok earlier =>
    -- The failed call got past the store, and what it wrote there is still on record.
    have sameClaims : earlier.claims = admitted.claims := by
      have verified := authenticate_verified passed
      rw [again] at verified
      exact Jwt.verify_unique verified (authenticate_verified first)
    have start : (before.after jwt backend failing).Redeemed admitted.claims.jti
        admitted.claims.expiresAt := by
      intro early
      change failing.moments.issue < admitted.claims.expiresAt at early
      rw [← sameClaims] at legacy early ⊢
      have redeemEarly : failing.moments.redeem.now < earlier.claims.expiresAt := by
        simp only [Moments.Ordered] at ordered
        omega
      exact failed_records first legacy ordered reliable failed undenied redeemEarly
    have recorded := run.invariant
      (Store.Redeemed admitted.claims.jti admitted.claims.expiresAt)
      (fun _ _ _ holds _ taken => holds.step taken) start
    have redeemOrdered := retryOrdered.2.2.2.2.1
    have bounds := StoreCall.moment_bounds redeemOrdered backend
    have sinceEarly : later.now < admitted.claims.expiresAt := by
      simp only [Moments.Ordered] at retryOrdered
      omega
    have live : later.records.redeemed.live (retry.moments.redeem.moment backend)
        admitted.claims.jti = true :=
      (recorded sinceEarly).live (by omega)
    refine iff_of_false ?_ (by simp)
    rintro ⟨_, absent⟩
    rw [live] at absent
    cases absent

def Call.onChannel (call : Call) (state : State) (ttl : Int) : Call :=
  { call with server := { call.server with
      getChannel := fun name => .ok
        { name := name, state := state, ttl := ttl, createdAt := 0, lastActive := 0 } } }

/-- The channel is closed at thirty minutes and open again a minute later. -/
theorem closed_channel_retried :
    rotationReuse.Redeems rotationJwt .memory
      (Store.after rotationJwt .memory ⟨0, .empty⟩ (rotationFirst.onChannel .closed hour)).records
      rotationAdmitted.claims.fid := by
  have ordered : (rotationFirst.onChannel .closed hour).moments.Ordered 0 := by decide +kernel
  have failed : ((rotationFirst.onChannel .closed hour).outcome rotationJwt .memory .empty).1 =
      .error { code := .channelClosed, message := "channel is not open" } := by
    decide +kernel
  have retryOrdered : rotationReuse.moments.Ordered
      (Store.after rotationJwt .memory ⟨0, .empty⟩ (rotationFirst.onChannel .closed hour)).now := by
    decide +kernel
  have passed : authenticate rotationJwt rotationReuse.server rotationReuse.moments.verify
      rotationReuse.token = .ok rotationAdmitted := by
    decide +kernel
  have refused : authenticate rotationJwt (rotationFirst.onChannel .closed hour).server
      rotationFirst.moments.verify rotationFirst.token =
        .error { code := .channelClosed, message := "channel is not open" } := by
    decide +kernel
  have unexpired : rotationReuse.moments.redeem.now < rotationAdmitted.claims.expiresAt := by
    decide +kernel
  have paired : returnsPair (issueFor rotationJwt rotationReuse.server
      rotationReuse.moments.issue rotationAdmitted) = true := by
    decide +kernel
  have issues : ∃ result, issueFor rotationJwt rotationReuse.server rotationReuse.moments.issue
      rotationAdmitted = .ok result := by
    cases issued : issueFor rotationJwt rotationReuse.server rotationReuse.moments.issue
        rotationAdmitted with
    | error error =>
      rw [issued] at paired
      cases paired
    | ok result => exact ⟨result, rfl⟩
  have redeems := @retry_redeems_iff rotationJwt .memory ⟨0, .empty⟩
    (Store.after rotationJwt .memory ⟨0, .empty⟩ (rotationFirst.onChannel .closed hour))
    (rotationFirst.onChannel .closed hour) rotationReuse _ rotationAdmitted [] ordered (by decide)
    failed (by decide) (.nil _) retryOrdered (by decide) rfl passed unexpired issues
  exact redeems.mpr (.inr ⟨by decide, _, refused⟩)

/-- Issuing fails for the channel's short life. When the channel lives longer the token is
taken for reused and its family revoked. -/
def BurntByFailure (backend : RefreshBackend) (failing retry : Call) : Prop :=
  let store := Store.after rotationJwt backend ⟨0, .empty⟩ failing
  let retried := retry.outcome rotationJwt backend store.records
  failing.moments.Ordered 0 ∧ failing.moments.Reliable ∧
    (failing.outcome rotationJwt backend .empty).1 =
      .error (wrapped .authDenied "issue rotated pair" "auth: exp must be after iat") ∧
    retry.moments.Ordered store.now ∧ retry.moments.Reliable ∧ retry.token = failing.token ∧
    retried.1 = .error reuseDetected ∧
    retried.2.revoked.live retry.moments.issue rotationAdmitted.claims.fid = true

instance (backend : RefreshBackend) (failing retry : Call) :
    Decidable (BurntByFailure backend failing retry) :=
  inferInstanceAs (Decidable (Moments.Ordered _ _ ∧ Moments.Reliable _ ∧ _ = _ ∧
    Moments.Ordered _ _ ∧ Moments.Reliable _ ∧ _ = _ ∧ _ = _ ∧ _ = true))

theorem short_lived_channel_burns_token :
    BurntByFailure .memory (rotationFirst.onChannel .open (second / 2)) rotationReuse ∧
      BurntByFailure .redis (rotationFirst.onChannel .open (second / 2)) rotationReuse := by
  constructor <;> decide +kernel

end Parsec.Refresh
