import Parsec.Auth.Issuer
import Parsec.Auth.RefreshStore

/-! # Redeeming a refresh token

`RefreshAccess` cut at its accesses to the rotation store. -/

namespace Parsec.Refresh

open Foundation Channels Auth

structure Server where
  ring : KeyRing
  leeway : Int := 0
  getChannel : Name → Except CodedError Channel
  issuer : Issuer := {}
  jtiDraw : IdDraw
  accessDraw : IdDraw

structure RefreshResult where
  accessToken : Text
  accessExpires : Int
  refreshToken : Text := []
  refreshExpires : Option Int := none
  rotated : Bool := false
  deriving DecidableEq

structure Admitted where
  claims : Claims
  channel : String
  ttl : Int
  deriving DecidableEq

def onlyChannel : List String → Option String
  | [channel] => some channel
  | _ => none

section

variable (jwt : Jwt) (server : Server) (now : Int)

def authenticate (token : Text) : Except CodedError Admitted := do
  let claims ← (jwt.verify server.ring server.leeway now token (some .refresh)).mapError mapErr
  let channel ← required (denied "refresh token has no channel scope") (onlyChannel claims.chs)
  let name ← (parseName channel).mapError fun error =>
    wrapped .authDenied "refresh channel invalid" error.text
  let found ← server.getChannel name
  ensure (found.state = .open) { code := .channelClosed, message := "channel is not open" }
  return { claims := claims, channel := channel, ttl := found.ttl }

def issueLegacy (admitted : Admitted) : Except CodedError RefreshResult := do
  let claims := admitted.claims
  let (access, expires) ← (server.issuer.issueAccess jwt server.ring now claims.sub
    admitted.channel claims.expiresAt claims.scopes server.accessDraw).mapError
      (wrapped .authDenied "issue access from refresh")
  return { accessToken := access, accessExpires := expires }

def issueRotated (admitted : Admitted) : Except CodedError RefreshResult := do
  let claims := admitted.claims
  let pair ← (server.issuer.issueRotatedPair jwt server.ring now claims.sub admitted.channel
    claims.fid admitted.ttl claims.scopes server.jtiDraw server.accessDraw).mapError
      (wrapped .authDenied "issue rotated pair")
  return { accessToken := pair.accessToken, accessExpires := pair.accessExpires,
           refreshToken := pair.refreshToken, refreshExpires := some pair.refreshExpires,
           rotated := true }

end

def familyVerdict : Except StoreError Bool → Except CodedError Unit
  | .error error => .error (wrapped .internal "refresh store family check" error.text)
  | .ok true => .error (denied "refresh family revoked")
  | .ok false => .ok ()

def reuseDetected : CodedError := denied "refresh token already redeemed; family revoked"

def revokeVerdict : Except StoreError Unit → CodedError
  | .error error => wrapped .internal "revoke leaked family" error.text
  | .ok () => reuseDetected

structure Moments where
  verify : Int
  check : StoreCall
  redeem : StoreCall
  revoke : StoreCall
  issue : Int

/-- The parts of a call run in order, none before `since`. -/
def Moments.Ordered (moments : Moments) (since : Int) : Prop :=
  since ≤ moments.verify ∧ moments.verify ≤ moments.check.read ∧
    moments.check.read ≤ moments.check.now ∧ moments.check.now ≤ moments.redeem.read ∧
    moments.redeem.read ≤ moments.redeem.now ∧ moments.redeem.now ≤ moments.revoke.read ∧
    moments.revoke.read ≤ moments.revoke.now ∧ moments.revoke.now ≤ moments.issue

instance (moments : Moments) (since : Int) : Decidable (moments.Ordered since) :=
  inferInstanceAs (Decidable (_ ≤ _ ∧ _))

def refreshAccess (jwt : Jwt) (backend : RefreshBackend) (server : Server) (moments : Moments)
    (token : Text) (records : RefreshRecords) :
    Except CodedError RefreshResult × RefreshRecords :=
  match authenticate jwt server moments.verify token with
  | .error error => (.error error, records)
  | .ok admitted =>
    let claims := admitted.claims
    if claims.jti = "" then (issueLegacy jwt server moments.issue admitted, records)
    else
      let (revoked, records) := records.isFamilyRevoked backend moments.check claims.fid
      match familyVerdict revoked with
      | .error error => (.error error, records)
      | .ok () =>
        let (redeemed, records) :=
          records.markRedeemed backend moments.redeem claims.jti claims.expiresAt
        match redeemed with
        | .error .reused =>
          let (answer, records) :=
            records.revokeFamily backend moments.revoke claims.fid claims.expiresAt
          (.error (revokeVerdict answer), records)
        | .error (.other text) =>
          (.error (wrapped .internal "refresh store redeem" text), records)
        | .ok () => (issueRotated jwt server moments.issue admitted, records)

def returnsPair : Except CodedError RefreshResult → Bool
  | .ok result => result.rotated
  | .error _ => false

inductive Effect (backend : RefreshBackend) (moments : Moments) (claims : Claims)
    (records : RefreshRecords) : Except CodedError RefreshResult → RefreshRecords → Prop
  | stopped {revoked error after} :
      records.isFamilyRevoked backend moments.check claims.fid = (revoked, after) →
      error ≠ reuseDetected → Effect backend moments claims records (.error error) after
  | reused {answer checked marked after} :
      records.isFamilyRevoked backend moments.check claims.fid = (.ok false, checked) →
      checked.markRedeemed backend moments.redeem claims.jti claims.expiresAt =
        (.error .reused, marked) →
      marked.revokeFamily backend moments.revoke claims.fid claims.expiresAt = (answer, after) →
      Effect backend moments claims records (.error (revokeVerdict answer)) after
  | redeemed {answer checked after result} :
      records.isFamilyRevoked backend moments.check claims.fid = (.ok false, checked) →
      checked.markRedeemed backend moments.redeem claims.jti claims.expiresAt = (answer, after) →
      result ≠ .error reuseDetected →
      Effect backend moments claims records result after

section

variable {jwt : Jwt} {backend : RefreshBackend} {server : Server} {moments : Moments}
  {token : Text} {records : RefreshRecords} {admitted : Admitted}
  {now : Int}

theorem authenticate_verified (passed : authenticate jwt server now token = .ok admitted) :
    jwt.verify server.ring server.leeway now token (some .refresh) = .ok admitted.claims := by
  simp only [authenticate, bind_eq_ok, mapError_eq_ok] at passed
  rcases passed with ⟨claims, verified, _, _, _, _, _, _, _, _, equal⟩
  cases equal
  exact verified

theorem authenticate_claims {claims : Claims}
    (passed : authenticate jwt server now token = .ok admitted)
    (verified : jwt.verify server.ring server.leeway now token (some .refresh) = .ok claims) :
    admitted.claims = claims := by
  have own := authenticate_verified passed
  rw [verified] at own
  exact (Except.ok.inj own).symm

theorem issueLegacy_single : returnsPair (issueLegacy jwt server now admitted) = false := by
  cases issued : issueLegacy jwt server now admitted with
  | error error => rfl
  | ok result =>
    simp only [issueLegacy, bind_eq_ok] at issued
    rcases issued with ⟨_, _, equal⟩
    cases equal
    rfl

theorem mapError_ne_reuse {Value : Type} {outcome : Except String Value} {code : Code}
    {message : String} {next : Value → Except CodedError RefreshResult}
    (succeeds : ∀ value, ∃ result, next value = .ok result) :
    (outcome.mapError (wrapped code message) >>= next) ≠ .error reuseDetected := by
  cases outcome with
  | error text => simp [Except.mapError, bind, Except.bind, wrapped, reuseDetected, denied]
  | ok value =>
    rcases succeeds value with ⟨result, equal⟩
    simp [Except.mapError, bind, Except.bind, equal]

section

variable (passed : authenticate jwt server moments.verify token = .ok admitted)
include passed

theorem refreshAccess_legacy (legacy : admitted.claims.jti = "") :
    refreshAccess jwt backend server moments token records =
      (issueLegacy jwt server moments.issue admitted, records) := by
  simp only [refreshAccess, passed, legacy, if_true]

theorem refreshAccess_effect (identified : admitted.claims.jti ≠ "") :
    Effect backend moments admitted.claims records
      (refreshAccess jwt backend server moments token records).1
      (refreshAccess jwt backend server moments token records).2 := by
  simp only [refreshAccess, passed, if_neg identified]
  rcases check : records.isFamilyRevoked backend moments.check admitted.claims.fid with
    ⟨revoked, checked⟩
  cases revoked with
  | error error =>
    exact .stopped check (by simp [wrapped, reuseDetected, denied])
  | ok revoked =>
    cases revoked with
    | true => exact .stopped check (by simp [reuseDetected, denied])
    | false =>
      simp only [familyVerdict]
      rcases mark : checked.markRedeemed backend moments.redeem admitted.claims.jti
        admitted.claims.expiresAt with ⟨redeemed, marked⟩
      cases redeemed with
      | ok _ =>
        exact .redeemed check mark (mapError_ne_reuse fun _ => ⟨_, rfl⟩)
      | error error =>
        cases error with
        | reused => exact .reused check mark rfl
        | other text =>
          exact .redeemed check mark (by simp [wrapped, reuseDetected, denied])

end

/-- A call has an effect on the store, or it was refused before the store was asked, or it
predates rotation. In the last two cases it returns no pair. -/
theorem refreshAccess_cases :
    (∃ admitted, authenticate jwt server moments.verify token = .ok admitted ∧
      Effect backend moments admitted.claims records
        (refreshAccess jwt backend server moments token records).1
        (refreshAccess jwt backend server moments token records).2) ∨
      (refreshAccess jwt backend server moments token records).2 = records ∧
        returnsPair (refreshAccess jwt backend server moments token records).1 = false ∧
        ∀ admitted, authenticate jwt server moments.verify token = .ok admitted →
          (refreshAccess jwt backend server moments token records).1 ≠ .error reuseDetected := by
  cases passed : authenticate jwt server moments.verify token with
  | error error =>
    have refused : refreshAccess jwt backend server moments token records =
        (.error error, records) := by
      simp only [refreshAccess, passed]
    rw [refused]
    exact .inr ⟨rfl, rfl, fun _ impossible => by cases impossible⟩
  | ok admitted =>
    by_cases legacy : admitted.claims.jti = ""
    · refine .inr ?_
      rw [refreshAccess_legacy passed legacy]
      exact ⟨rfl, issueLegacy_single, fun _ _ => mapError_ne_reuse fun _ => ⟨_, rfl⟩⟩
    · exact .inl ⟨admitted, rfl, refreshAccess_effect passed legacy⟩

def Moments.Reliable (moments : Moments) : Prop :=
  moments.check.reply = .delivered ∧ moments.redeem.reply = .delivered ∧
    moments.revoke.reply = .delivered

instance (moments : Moments) : Decidable moments.Reliable :=
  inferInstanceAs (Decidable (_ = _ ∧ _ = _ ∧ _ = _))

def familyRevoked : CodedError := denied "refresh family revoked"

def ReuseSeen (backend : RefreshBackend) (moments : Moments) (claims : Claims)
    (records : RefreshRecords) : Prop :=
  moments.redeem.read < claims.expiresAt ∧
    records.redeemed.live (moments.redeem.moment backend) claims.jti = true

instance (backend : RefreshBackend) (moments : Moments) (claims : Claims)
    (records : RefreshRecords) : Decidable (ReuseSeen backend moments claims records) :=
  inferInstanceAs (Decidable (_ ∧ _))

theorem refreshAccess_reliable
    (passed : authenticate jwt server moments.verify token = .ok admitted)
    (identified : admitted.claims.jti ≠ "") {since : Int} (ordered : moments.Ordered since)
    (reliable : moments.Reliable) :
    refreshAccess jwt backend server moments token records =
      if records.revoked.live (moments.check.moment backend) admitted.claims.fid then
        (.error familyRevoked, records.aged backend moments.check.read)
      else if ReuseSeen backend moments admitted.claims records then
        (.error reuseDetected, (((records.aged backend moments.check.read).aged backend
          moments.redeem.read).revokeFamily backend moments.revoke admitted.claims.fid
            admitted.claims.expiresAt).2)
      else
        (issueRotated jwt server moments.issue admitted,
          ((records.aged backend moments.check.read).markRedeemed backend moments.redeem
            admitted.claims.jti admitted.claims.expiresAt).2) := by
  rcases ordered with ⟨_, _, checkOrdered, between, redeemOrdered, _⟩
  rcases reliable with ⟨checkReply, redeemReply, revokeReply⟩
  have looks := (StoreCall.moment_bounds redeemOrdered backend).1
  have checkedLive : (records.aged backend moments.check.read).redeemed.live
      (moments.redeem.moment backend) admitted.claims.jti =
        records.redeemed.live (moments.redeem.moment backend) admitted.claims.jti :=
    RefreshRecords.aged_redeemed_live (by omega)
  simp only [refreshAccess, passed, if_neg identified,
    RefreshRecords.isFamilyRevoked_delivered checkReply]
  cases revoked : records.revoked.live (moments.check.moment backend) admitted.claims.fid with
  | true => rfl
  | false =>
    simp only [familyVerdict, RefreshRecords.markRedeemed_delivered redeemReply, checkedLive,
      ReuseSeen, Bool.false_eq_true, if_false]
    by_cases expired : admitted.claims.expiresAt ≤ moments.redeem.read
    · simp only [if_pos expired, Int.not_lt.mpr expired, false_and, if_false]
    · simp only [if_neg expired, Int.not_le.mp expired, true_and]
      cases redeemed : records.redeemed.live (moments.redeem.moment backend)
          admitted.claims.jti with
      | true =>
        simp only [if_true, RefreshRecords.revokeFamily_delivered revokeReply, revokeVerdict]
      | false => simp only [Bool.false_eq_true, if_false]

theorem authenticate_channel (passed : authenticate jwt server now token = .ok admitted) :
    admitted.claims.chs = [admitted.channel] := by
  simp only [authenticate, bind_eq_ok, required_eq_ok] at passed
  rcases passed with ⟨claims, _, channel, only, _, _, _, _, _, _, equal⟩
  cases equal
  cases listed : claims.chs with
  | nil => simp [listed, onlyChannel] at only
  | cons first rest =>
    cases rest with
    | nil =>
      simp only [listed, onlyChannel, Option.some.injEq] at only
      rw [only]
    | cons _ _ => simp [listed, onlyChannel] at only

variable {result : RefreshResult}

private theorem issueRotated_issued (only : admitted.claims.chs = [admitted.channel])
    (issued : issueRotated jwt server now admitted = .ok result) :
    IssuedWith jwt server.ring now admitted.claims.authority.withoutOverride result.accessToken ∧
      IssuedWith jwt server.ring now admitted.claims.authority.withoutOverride
        result.refreshToken := by
  rw [Claims.authority, only, Authority.withoutOverride]
  simp only [issueRotated, bind_eq_ok, mapError_eq_ok] at issued
  rcases issued with ⟨pair, signed, equal⟩
  cases equal
  have halves := Issuer.issueRotatedPair_issued signed
  exact ⟨halves.access, halves.refresh⟩

theorem issueLegacy_issued (only : admitted.claims.chs = [admitted.channel])
    (issued : issueLegacy jwt server now admitted = .ok result) :
    IssuedWith jwt server.ring now admitted.claims.authority.withoutOverride
      result.accessToken := by
  rw [Claims.authority, only, Authority.withoutOverride]
  simp only [issueLegacy, bind_eq_ok, mapError_eq_ok, Issuer.issueAccess] at issued
  rcases issued with ⟨access, ⟨_, valid, signed⟩, equal⟩
  cases equal
  exact Issuer.signAccess_issued (validateScopes_verbs valid) signed

variable {after : RefreshRecords}
  (returned : refreshAccess jwt backend server moments token records = (.ok result, after))
include returned

private theorem refreshAccess_ok :
    ∃ admitted, authenticate jwt server moments.verify token = .ok admitted ∧
      (issueLegacy jwt server moments.issue admitted = .ok result ∨
        issueRotated jwt server moments.issue admitted = .ok result) := by
  cases passed : authenticate jwt server moments.verify token with
  | error error => simp [refreshAccess, passed] at returned
  | ok admitted =>
    refine ⟨admitted, rfl, ?_⟩
    by_cases legacy : admitted.claims.jti = ""
    · rw [refreshAccess_legacy passed legacy] at returned
      exact .inl (Prod.mk.inj returned).1
    · simp only [refreshAccess, passed, if_neg legacy] at returned
      split at returned
      · cases (Prod.mk.inj returned).1
      · split at returned
        · cases (Prod.mk.inj returned).1
        · cases (Prod.mk.inj returned).1
        · exact .inr (Prod.mk.inj returned).1

theorem refreshAccess_issued :
    ∃ claims, jwt.verify server.ring server.leeway moments.verify token (some .refresh) =
        .ok claims ∧
      IssuedWith jwt server.ring moments.issue claims.authority.withoutOverride result.accessToken ∧
      (result.rotated = true →
        IssuedWith jwt server.ring moments.issue claims.authority.withoutOverride
          result.refreshToken) := by
  rcases refreshAccess_ok returned with ⟨admitted, passed, issued⟩
  have only := authenticate_channel passed
  refine ⟨admitted.claims, authenticate_verified passed, ?_⟩
  rcases issued with legacy | rotated
  · refine ⟨issueLegacy_issued only legacy, ?_⟩
    intro pair
    have single : returnsPair (issueLegacy jwt server moments.issue admitted) = false :=
      issueLegacy_single
    rw [legacy, returnsPair, pair] at single
    cases single
  · rcases issueRotated_issued only rotated with ⟨access, refresh⟩
    exact ⟨access, fun _ => refresh⟩

end

end Parsec.Refresh
