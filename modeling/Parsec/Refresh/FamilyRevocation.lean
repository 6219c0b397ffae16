import Parsec.Foundation.Execution
import Parsec.Refresh.Access

/-! # Revoked families

Calls one after the other, at any times that do not go back, and the pruning of the memory
store between them. Once reuse was detected the family is refused until the expiry of the
token that was reused. The family's younger tokens expire later. -/

namespace Parsec.Refresh

open Foundation Channels Auth RefreshRecords

structure Call where
  server : Server
  moments : Moments
  token : Text

structure Store where
  now : Int
  records : RefreshRecords

inductive Event
  | call (call : Call)
  | prune (moment : Int)

def Call.outcome (call : Call) (jwt : Jwt) (backend : RefreshBackend)
    (records : RefreshRecords) : Except CodedError RefreshResult × RefreshRecords :=
  refreshAccess jwt backend call.server call.moments call.token records

variable {backend : RefreshBackend} {call : Call} {jwt : Jwt}

theorem Call.outcome_eq {records : RefreshRecords} {answer : Except CodedError RefreshResult}
    (answered : (call.outcome jwt backend records).1 = answer) :
    refreshAccess jwt backend call.server call.moments call.token records =
      (answer, (call.outcome jwt backend records).2) :=
  Prod.ext answered rfl

def Store.after (jwt : Jwt) (backend : RefreshBackend) (store : Store) (call : Call) : Store :=
  { now := call.moments.issue, records := (call.outcome jwt backend store.records).2 }

def Store.step (jwt : Jwt) (backend : RefreshBackend) : Step Store Event := fun store event =>
  match event with
  | .call call =>
    if call.moments.Ordered store.now then some (store.after jwt backend call) else none
  | .prune moment =>
    if backend = .memory ∧ store.now ≤ moment then
      some { now := moment, records := store.records.prune moment }
    else none

theorem Store.step_call {store : Store} (ordered : call.moments.Ordered store.now) :
    Store.step jwt backend store (.call call) = some (store.after jwt backend call) :=
  if_pos ordered

section

variable {backend : RefreshBackend} {moments : Moments} {claims : Claims} {since : Int}
  {records after : RefreshRecords} {result : Except CodedError RefreshResult}

variable (effect : Effect backend moments claims records result after)
  (ordered : moments.Ordered since)
include effect ordered

variable {bound : Int}

/-- A recorded family stays recorded: only a call of the family itself could write its
record, and that call is stopped by the check. -/
theorem Effect.keeps {fid : String} (lasts : records.revoked.Lasts fid bound)
    (early : moments.issue < bound) : after.revoked.Lasts fid bound := by
  rcases ordered with ⟨_, _, checkOrdered, _, redeemOrdered, _, _, _⟩
  cases effect with
  | stopped check _ =>
    exact (isFamilyRevoked_cases checkOrdered check).1.revoked lasts (by omega)
  | reused check mark revoke =>
    rcases isFamilyRevoked_cases checkOrdered check with ⟨checkAges, clean⟩
    have otherFamily : fid ≠ claims.fid := by
      rintro rfl
      have := clean rfl bound lasts
      omega
    have checked := checkAges.revoked lasts (by omega)
    have marked := markRedeemed_revoked redeemOrdered mark checked (by omega)
    rcases revokeFamily_cases revoke with ⟨aged, ages, rfl | ⟨deadline, rfl⟩⟩
    · exact ages.revoked marked (by omega)
    · exact (ages.revoked marked (by omega)).set_other otherFamily
  | redeemed check mark _ =>
    have checked := (isFamilyRevoked_cases checkOrdered check).1.revoked lasts
      (by omega)
    exact markRedeemed_revoked redeemOrdered mark checked (by omega)

theorem Effect.refuses (lasts : records.revoked.Lasts claims.fid bound)
    (early : moments.check.now < bound) : returnsPair result = false := by
  have checkOrdered := ordered.2.2.1
  cases effect with
  | stopped | reused => rfl
  | redeemed check =>
    have := (isFamilyRevoked_cases checkOrdered check).2 rfl bound lasts
    omega

theorem Effect.revokes (detected : result = .error reuseDetected)
    (early : moments.issue < claims.expiresAt) :
    after.revoked.Lasts claims.fid claims.expiresAt := by
  rcases ordered with ⟨_, _, _, _, _, _, revokeOrdered, _⟩
  cases effect with
  | stopped _ other => exact absurd (Except.error.inj detected) other
  | redeemed _ _ other => exact absurd detected other
  | @reused answer _ _ _ _ _ revoke =>
    cases answer with
    | error error => simp [revokeVerdict, wrapped, reuseDetected, denied] at detected
    | ok _ => exact revokeFamily_lasts revokeOrdered (by omega) revoke

end

section

variable {jwt : Jwt} {backend : RefreshBackend} {since : Int}

theorem Moments.Ordered.since_le {moments : Moments} (ordered : moments.Ordered since) :
    since ≤ moments.issue := by
  simp only [Moments.Ordered] at ordered
  omega

/-- All that a step does to the records: a call that reaches the store takes effect there, the
others leave it alone, and pruning removes what has expired. -/
inductive Store.Passes (jwt : Jwt) (backend : RefreshBackend) (current : Store) :
    Event → Store → Prop
  | served {call : Call} {admitted : Admitted} {result : Except CodedError RefreshResult}
      {records : RefreshRecords} (ordered : call.moments.Ordered current.now)
      (passed : authenticate jwt call.server call.moments.verify call.token = .ok admitted)
      (effect : Effect backend call.moments admitted.claims current.records result records) :
      Passes jwt backend current (.call call) ⟨call.moments.issue, records⟩
  | turnedAway {call : Call} (ordered : call.moments.Ordered current.now) :
      Passes jwt backend current (.call call) ⟨call.moments.issue, current.records⟩
  | pruned {moment : Int} (later : current.now ≤ moment) :
      Passes jwt backend current (.prune moment) ⟨moment, current.records.prune moment⟩

variable {current next : Store} {event : Event}

theorem Store.step_passes (taken : Store.step jwt backend current event = some next) :
    current.Passes jwt backend event next := by
  cases event with
  | call call =>
    simp only [Store.step, Option.ite_none_right_eq_some, Option.some.injEq] at taken
    rcases taken with ⟨ordered, rfl⟩
    rcases refreshAccess_cases with ⟨admitted, passed, effect⟩ | ⟨unchanged, _⟩
    · exact .served ordered passed effect
    · rw [Store.after, Call.outcome, unchanged]
      exact .turnedAway ordered
  | prune moment =>
    simp only [Store.step, Option.ite_none_right_eq_some, Option.some.injEq] at taken
    rcases taken with ⟨⟨_, later⟩, rfl⟩
    exact .pruned later

theorem Store.Passes.later {current next : Store} {event : Event}
    (passes : current.Passes jwt backend event next) : current.now ≤ next.now := by
  cases passes with
  | served ordered | turnedAway ordered => exact ordered.since_le
  | pruned later => exact later

variable {bound : Int}

/-- What calls and prunings before `bound` keep true of the records, a step keeps true of them
for as long as `bound` lies ahead. -/
theorem Store.Passes.keeps {Kept : RefreshRecords → Prop}
    (passes : current.Passes jwt backend event next)
    (calls : ∀ {moments : Moments} {claims : Claims} {since : Int}
      {records after : RefreshRecords} {result : Except CodedError RefreshResult},
      Effect backend moments claims records result after → moments.Ordered since →
        Kept records → moments.issue < bound → Kept after)
    (prunes : ∀ {records : RefreshRecords} {moment : Int},
      Kept records → moment < bound → Kept (records.prune moment))
    (kept : current.now < bound → Kept current.records) (early : next.now < bound) :
    Kept next.records := by
  have before := kept (lt_of_le_of_lt passes.later early)
  cases passes with
  | served ordered _ effect => exact calls effect ordered before early
  | turnedAway _ => exact before
  | pruned _ => exact prunes before early

theorem Call.revokes {call : Call} {records : RefreshRecords} {admitted : Admitted}
    (passed : authenticate jwt call.server call.moments.verify call.token = .ok admitted)
    (detected : (call.outcome jwt backend records).1 = .error reuseDetected)
    (ordered : call.moments.Ordered since)
    (early : call.moments.issue < admitted.claims.expiresAt) :
    (call.outcome jwt backend records).2.revoked.Lasts admitted.claims.fid
      admitted.claims.expiresAt := by
  rcases refreshAccess_cases with ⟨other, otherPassed, effect⟩ | ⟨_, _, undetected⟩
  · rw [passed] at otherPassed
    cases otherPassed
    exact effect.revokes ordered detected early
  · exact absurd detected (undetected admitted passed)

/-- The family is recorded until `bound`, for as long as that lies ahead. -/
def Store.Revoked (fid : String) (bound : Int) (store : Store) : Prop :=
  store.now < bound → store.records.revoked.Lasts fid bound

theorem Store.Revoked.step {fid : String} (revoked : current.Revoked fid bound)
    (taken : Store.step jwt backend current event = some next) : next.Revoked fid bound :=
  (Store.step_passes taken).keeps
    (fun effect ordered lasts early => effect.keeps ordered lasts early)
    (fun lasts early => lasts.prune early) revoked

/-- After a call that detected the reuse of a token, no later call on a token of the family
returns a pair as long as its family check runs before the reused token's expiry. -/
theorem revoked_family_refused {before detected later : Store} {reuse call : Call}
    {reused : Admitted} {claims : Claims} {events : List Event}
    (admitted : authenticate jwt reuse.server reuse.moments.verify reuse.token = .ok reused)
    (reuseDetection : (reuse.outcome jwt backend before.records).1 = .error reuseDetected)
    (taken : Store.step jwt backend before (.call reuse) = some detected)
    (run : Run (Store.step jwt backend) unrestricted detected events later)
    (ordered : call.moments.Ordered later.now)
    (verified : jwt.verify call.server.ring call.server.leeway call.moments.verify call.token
      (some .refresh) = .ok claims)
    (family : claims.fid = reused.claims.fid)
    (early : call.moments.check.now < reused.claims.expiresAt) :
    returnsPair (call.outcome jwt backend later.records).1 = false := by
  simp only [Store.step, Option.ite_none_right_eq_some, Option.some.injEq] at taken
  rcases taken with ⟨reuseOrdered, rfl⟩
  have start : (before.after jwt backend reuse).Revoked reused.claims.fid reused.claims.expiresAt :=
    Call.revokes admitted reuseDetection reuseOrdered
  have revoked := run.invariant (Store.Revoked reused.claims.fid reused.claims.expiresAt)
    (fun _ _ _ holds _ step => holds.step step) start
  rcases refreshAccess_cases with ⟨other, passed, effect⟩ | ⟨_, single, _⟩
  · have same : other.claims = claims := authenticate_claims passed verified
    have sinceEarly : later.now < reused.claims.expiresAt := by
      simp only [Moments.Ordered] at ordered
      omega
    have lasts := revoked sinceEarly
    rw [← family, ← same] at lasts
    exact effect.refuses ordered lasts early
  · exact single

end

/-! ## A family that outlives its revocation

A token of an hour is redeemed after thirty minutes and reused a minute later. Its successor,
issued for an hour at thirty minutes, is redeemed at sixty-one. -/

def rotationRoot : SignedSample :=
  plainFamily.token true 0 3600 "AQEBAQEBAQEBAQEBAQEBAQ"
    0x8bdc790b832d8b0cdbaf752fcc503925d2a797d194fb7448cc4b2d37694f5633

def rotationSuccessor : SignedSample :=
  plainFamily.token true 30 3600 "AwMDAwMDAwMDAwMDAwMDAw"
    0xa58d74e30341aed66fa212b4d2614191f66a05ba7c31d91905a0035e26bc2548

def rotationSamples : List SignedSample :=
  [rotationRoot,
    plainFamily.token false 30 300 "BAQEBAQEBAQEBAQEBAQEBA"
      0xbe7d308b597fba6dceb486619978123f6660f2e45f23b0c00d5ac11d859891d1,
    rotationSuccessor,
    plainFamily.token false 61 300 "BgYGBgYGBgYGBgYGBgYGBg"
      0x876d012f0603d2c894fb0d548ac6dfc4287f03aef6869f6196e2087e925635b6,
    plainFamily.token true 61 3600 "BQUFBQUFBQUFBQUFBQUFBQ"
      0x06b68f99eb88227b309d47b50df0eaa6799974944819b6b36f841a726d7d2c02]

def rotationJwt : Jwt := .ofSamples sampleHeader rotationSamples sampleSecret

def rotationCall (minutes : Int) (sample : Nat) (jti access : UInt8) : Call :=
  let now := ofUnix 1735300000 + minutes * minute
  let store : StoreCall := { read := now, now := now }
  { server :=
      { ring := (KeyRing.empty.add "k1" sampleSecret 0).2
        getChannel := fun name => .ok
          { name := name, state := .open, ttl := hour, createdAt := 0, lastActive := 0 }
        jtiDraw := some (.replicate 16 jti)
        accessDraw := some (.replicate 16 access) }
    moments := { verify := now, check := store, redeem := store, revoke := store, issue := now }
    token := ((rotationSamples[sample]?).map (SignedSample.token sampleHeader)).getD [] }

def rotationAdmitted : Admitted where
  claims := rotationRoot.claims
  channel := "private:shop.orders.o1"
  ttl := hour

def rotationFirst : Call := rotationCall 30 0 3 4

def rotationReuse : Call := rotationCall 31 0 7 8

def Call.family (call : Call) (jwt : Jwt) : Except CodedError String :=
  (authenticate jwt call.server call.moments.verify call.token).map
    fun admitted => admitted.claims.fid

def rotationRedeemed (backend : RefreshBackend) : Store :=
  Store.after rotationJwt backend { now := 0, records := .empty } rotationFirst

def rotationDetected (backend : RefreshBackend) : Store :=
  (rotationRedeemed backend).after rotationJwt backend rotationReuse

def RefreshedAfterReuse (backend : RefreshBackend) : Prop :=
  (rotationFirst.outcome rotationJwt backend .empty).1.map RefreshResult.refreshToken =
      .ok (rotationCall 61 2 5 6).token ∧
    (rotationReuse.outcome rotationJwt backend (rotationRedeemed backend).records).1 =
      .error reuseDetected ∧
    (rotationCall 61 2 5 6).family rotationJwt = rotationReuse.family rotationJwt ∧
    (rotationCall 61 2 5 6).moments.Ordered (rotationDetected backend).now ∧
    returnsPair ((rotationCall 61 2 5 6).outcome rotationJwt backend
      (rotationDetected backend).records).1 = true

instance (backend : RefreshBackend) : Decidable (RefreshedAfterReuse backend) :=
  inferInstanceAs (Decidable (_ = _ ∧ _ = _ ∧ _ = _ ∧ Moments.Ordered _ _ ∧ _ = true))

theorem revoked_family_refreshed : RefreshedAfterReuse .memory ∧ RefreshedAfterReuse .redis := by
  decide +kernel

/-- Twenty minutes before the reused token expires its successor is refused. -/
theorem revoked_family_refused_at_forty :
    returnsPair ((rotationCall 40 2 5 6).outcome rotationJwt .redis
      (rotationDetected .redis).records).1 = false := by
  have admitted : authenticate rotationJwt rotationReuse.server rotationReuse.moments.verify
      rotationReuse.token = .ok rotationAdmitted := by
    decide +kernel
  have detection : (rotationReuse.outcome rotationJwt .redis
      (rotationRedeemed .redis).records).1 = .error reuseDetected := by
    decide +kernel
  have ordered : rotationReuse.moments.Ordered (rotationRedeemed .redis).now := by decide +kernel
  have laterOrdered : (rotationCall 40 2 5 6).moments.Ordered (rotationDetected .redis).now := by
    decide +kernel
  have verified : rotationJwt.verify (rotationCall 40 2 5 6).server.ring
      (rotationCall 40 2 5 6).server.leeway (rotationCall 40 2 5 6).moments.verify
      (rotationCall 40 2 5 6).token (some .refresh) = .ok rotationSuccessor.claims := by
    decide +kernel
  refine revoked_family_refused admitted detection (Store.step_call ordered) (.nil _)
    laterOrdered verified rfl ?_
  decide +kernel

end Parsec.Refresh
