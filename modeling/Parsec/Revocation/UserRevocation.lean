import Parsec.Refresh.FamilyRevocation
import Parsec.Revocation.TokenBroker

/-! # Revoking a user

A revoked user's tokens are those issued up to the revocation. Redeeming a refresh token
does not ask the revocation store, and the access token it returns is issued then. -/

namespace Parsec.Revocation

open Foundation Channels Auth Subscribe Refresh Records

/-! ## Chains of redemptions -/

/-- The refresh tokens that can be obtained from `root`, by calls on any node, at any time
and with the rotation store in any state. -/
inductive Held (jwt : Jwt) (backend : RefreshBackend) (root : Text) : Text → Prop
  | root : Held jwt backend root root
  | rotated {token server moments records after result} :
      Held jwt backend root token →
      refreshAccess jwt backend server moments token records = (.ok result, after) →
      result.rotated = true → Held jwt backend root result.refreshToken

def BelongsTo (jwt : Jwt) (userID : String) (token : Text) : Prop :=
  ∀ ring leeway now expected claims,
    jwt.verify ring leeway now token expected = .ok claims → claims.sub = userID

structure SignedFor (jwt : Jwt) (userID : String) (token : Text) : Prop where
  signed : ∃ ring claims, jwt.sign ring claims = .ok token ∧ claims.sub = userID ∧
    ∀ scope ∈ claims.scopes, ∀ verb ∈ scope.verbs, verb.isValid = true

variable {jwt : Jwt} {userID : String} {token : Text}

theorem SignedFor.belongs (signedFor : SignedFor jwt userID token) (lawful : jwt.json.Lawful) :
    BelongsTo jwt userID token := by
  rcases signedFor.signed with ⟨ring, claims, signed, subject, known⟩
  intro verifier leeway now expected result verified
  rw [Jwt.verify_signed lawful known signed verified, subject]

section

variable {jwt : Jwt} {backend : RefreshBackend} {userID : String} {root token : Text}

variable (held : Held jwt backend root token) (lawful : jwt.json.Lawful)
  (signedFor : SignedFor jwt userID root)
include held lawful signedFor

theorem Held.belongs : BelongsTo jwt userID token := by
  induction held with
  | root => exact signedFor.belongs lawful
  | rotated _ returned rotated induction =>
    rcases refreshAccess_issued returned with ⟨claims, verified, _, refresh⟩
    rcases refresh rotated with ⟨signed, issued, _⟩
    intro ring leeway now expected result accepted
    rw [issued.verifies lawful accepted, issued.subject]
    exact induction _ _ _ _ _ verified

theorem Held.access {server : Server} {moments : Moments} {records after : RefreshRecords}
    {result : RefreshResult}
    (returned : refreshAccess jwt backend server moments token records = (.ok result, after))
    {verifier : VerifierState} {claims : Claims}
    (verified : verifier.verify jwt result.accessToken (some .access) = .ok claims) :
    claims.sub = userID ∧ claims.issuedAt = ofUnix (unix moments.issue) := by
  rcases refreshAccess_issued returned with ⟨redeemed, redeemedVerified, ⟨access, issued, _⟩, _⟩
  rw [issued.verifies lawful verified, issued.subject]
  refine ⟨held.belongs lawful signedFor _ _ _ _ _ redeemedVerified, ?_⟩
  rw [Claims.issuedAt, issued.issuedAt]

end

/-! ## The entry of a user -/

namespace Records

def forgetUser (records : Records) (userID : String) : Records :=
  { records with byUser := Function.update records.byUser userID none }

def Operation.Spares (userID : String) (entry : UserEntry) : Operation → Prop
  | .revoke _ _ _ => True
  | .revokeAllForUser _ _ _ other => other ≠ userID
  | .prune maxTTL now => now - entry.stored ≤ maxTTL

variable {backend : Backend} {userID : String} {reply : Reply}

theorem written_byUser {command : String} {before after : Records}
    (same : after.byUser userID = before.byUser userID) :
    (written backend reply command before after).2.byUser userID = before.byUser userID := by
  cases backend with
  | memory => exact same
  | redis =>
    cases reply with
    | delivered => exact same
    | failed applied cause =>
      cases applied with
      | true => exact same
      | false => rfl

variable {records : Records} {entry : UserEntry}

theorem apply_spares {operation : Operation} (found : records.byUser userID = some entry)
    (spares : operation.Spares userID entry) :
    (records.apply backend operation).byUser userID = some entry := by
  cases operation with
  | revoke now reply tokenID =>
    simp only [apply, revoke]
    split
    · exact found
    · refine (written_byUser ?_).trans found
      rfl
  | revokeAllForUser read now reply other =>
    simp only [apply, revokeAllForUser]
    split
    · exact found
    · rw [written_byUser (Function.update_of_ne (Ne.symm spares) _ _), found]
  | prune maxTTL now =>
    have kept : now - entry.stored ≤ maxTTL := spares
    simp only [apply, prune, found, Option.filter_some, kept, decide_true, if_true]

theorem applyAll_spares {operations : List Operation} (found : records.byUser userID = some entry)
    (spares : ∀ operation ∈ operations, operation.Spares userID entry) :
    (records.applyAll backend operations).byUser userID = some entry := by
  induction operations generalizing records with
  | nil => exact found
  | cons operation operations induction =>
    rw [List.forall_mem_cons] at spares
    exact induction (apply_spares found spares.1) spares.2

theorem revokeAllForUser_entry {revoked : Records} {read now : Int}
    (done : records.revokeAllForUser backend read now reply userID = (.ok (), revoked)) :
    userID ≠ "" ∧
      revoked.byUser userID =
        some { cutoff := some (cutoffOf backend read now), stored := now } := by
  unfold revokeAllForUser at done
  split at done
  · cases done
  · rename_i named
    refine ⟨named, ?_⟩
    cases backend with
    | memory =>
      cases done
      exact Function.update_self _ _ _
    | redis =>
      cases reply with
      | delivered =>
        cases done
        exact Function.update_self _ _ _
      | failed applied cause => cases done

theorem checkUserRevoked_iff {query : Query} {claims : Claims} {cutoff stored : Int}
    (named : claims.sub ≠ "")
    (found : records.byUser claims.sub = some { cutoff := some cutoff, stored := stored })
    (counted : counts query.backend query.maxTTL query.now stored = true) :
    checkUserRevoked (records.answers query) claims = .ok () ↔
      cutoff < claims.issuedAt ∧
        checkUserRevoked ((records.forgetUser claims.sub).answers query) claims = .ok () := by
  have answer : records.cutOff query claims.sub claims.issuedAt =
      decide (claims.issuedAt ≤ cutoff) := by
    simp [cutOff, found, counted]
  have forgotten : (records.forgetUser claims.sub).cutOff query claims.sub claims.issuedAt =
      false := by
    simp [cutOff, forgetUser]
  simp only [checkUserRevoked, if_neg named, answers, isUserRevoked, bind_eq_ok, mapError_eq_ok,
    ensure_eq_ok, answer, forgotten]
  cases query.backend with
  | memory => simp
  | redis =>
    cases query.userFault with
    | none => simp [named]
    | some cause => simp

end Records

/-! ## Access tokens from a chain -/

variable {records : Records} {query : Records.Query} {site : Site} {ch : Name}

theorem subscribeAuthorizer_asking_iff (hidden : ch.isPrivate = true) :
    subscribeAuthorizer jwt (asking site records query) userID ch token = .ok () ↔
      site.isOpen ch = true ∧ tokenAuth jwt site userID ch token = .ok () ∧
        ∃ claims, site.again.verify jwt token (some .access) = .ok claims ∧
          checkRevoked (records.answers query) claims = .ok () ∧
          checkUserRevoked (records.answers query) claims = .ok () := by
  have carried : tokenAuth jwt site userID ch token = .ok () → token ≠ [] := by
    intro accepted
    simp only [tokenAuth, hidden, if_true, bind_eq_ok, ensure_eq_ok] at accepted
    rcases accepted with ⟨_, _, _, carried, _⟩
    exact carried
  have tokens : tokenAuth jwt (asking site records query) userID ch token =
      tokenAuth jwt site userID ch token := rfl
  simp only [subscribeAuthorizer, bind_eq_ok, ensure_eq_ok, tokens]
  constructor
  · rintro ⟨_, opened, _, accepted, unrevoked⟩
    have some : ¬ (ch.isPrivate = false ∨ token = []) := by simp [hidden, carried accepted]
    simp only [revocationAuth, asking, if_neg some, bind_eq_ok, mapError_eq_ok] at unrevoked
    rcases unrevoked with ⟨claims, verified, _, byToken, byUser⟩
    exact ⟨opened, accepted, claims, verified, byToken, byUser⟩
  · rintro ⟨opened, accepted, claims, verified, byToken, byUser⟩
    have some : ¬ (ch.isPrivate = false ∨ token = []) := by simp [hidden, carried accepted]
    refine ⟨(), opened, (), accepted, ?_⟩
    simp only [revocationAuth, asking, if_neg some, bind_eq_ok, mapError_eq_ok]
    exact ⟨claims, verified, (), byToken, byUser⟩

theorem asking_accepted_iff {subscriber : String} {cutoff stored issuedAt : Int}
    (named : userID ≠ "")
    (found : records.byUser userID = some { cutoff := some cutoff, stored := stored })
    (counted : counts query.backend query.maxTTL query.now stored = true)
    (names : ∀ claims, site.again.verify jwt token (some .access) = .ok claims →
      claims.sub = userID ∧ claims.issuedAt = issuedAt) (hidden : ch.isPrivate = true) :
    subscribeAuthorizer jwt (asking site records query) subscriber ch token = .ok () ↔
      cutoff < issuedAt ∧
        subscribeAuthorizer jwt (asking site (records.forgetUser userID) query) subscriber ch
          token = .ok () := by
  rw [subscribeAuthorizer_asking_iff hidden, subscribeAuthorizer_asking_iff hidden]
  constructor
  · rintro ⟨opened, checked, claims, verified, byToken, byUser⟩
    rcases names claims verified with ⟨rfl, rfl⟩
    rcases (checkUserRevoked_iff named found counted).mp byUser with ⟨late, other⟩
    exact ⟨late, opened, checked, claims, verified, byToken, other⟩
  · rintro ⟨late, opened, checked, claims, verified, byToken, other⟩
    rcases names claims verified with ⟨rfl, rfl⟩
    have byUser := (checkUserRevoked_iff named found counted).mpr ⟨late, other⟩
    exact ⟨opened, checked, claims, verified, byToken, byUser⟩

/-- After the user was revoked, the authorizer refuses an access token from a chain exactly
if the second it was issued in began no later than the revocation, or if it would refuse the
token without the user's entry. -/
theorem refreshed_access_refused_iff {jwt : Jwt} (lawful : jwt.json.Lawful)
    {refreshBackend : RefreshBackend} {userID : String} {root token : Text}
    (signedFor : SignedFor jwt userID root) (held : Held jwt refreshBackend root token)
    {server : Server} {moments : Moments} {rotation after : RefreshRecords}
    {result : RefreshResult}
    (returned : refreshAccess jwt refreshBackend server moments token rotation =
      (.ok result, after))
    {backend : Backend} {records revoked : Records} {read now : Int} {reply : Reply}
    (done : records.revokeAllForUser backend read now reply userID = (.ok (), revoked))
    {later : List Records.Operation}
    (spared : ∀ operation ∈ later, operation.Spares userID
      { cutoff := some (cutoffOf backend read now), stored := now })
    {query : Records.Query}
    (counted : counts query.backend query.maxTTL query.now now = true)
    (site : Site) (subscriber : String) {ch : Name} (hidden : ch.isPrivate = true) :
    subscribeAuthorizer jwt (asking site (revoked.applyAll backend later) query) subscriber ch
        result.accessToken ≠ .ok () ↔
      ofUnix (unix moments.issue) ≤ cutoffOf backend read now ∨
        subscribeAuthorizer jwt
          (asking site ((revoked.applyAll backend later).forgetUser userID) query) subscriber ch
          result.accessToken ≠ .ok () := by
  rcases revokeAllForUser_entry done with ⟨named, entry⟩
  have found : (revoked.applyAll backend later).byUser userID = _ :=
    applyAll_spares entry spared
  rw [Ne, asking_accepted_iff named found counted
    (fun _ verified => held.access lawful signedFor returned verified) hidden, not_and_or,
    Int.not_lt]

/-! The user is revoked, and a minute later redeems a refresh token from half an hour ago. -/

def revokedAt : Int := ofUnix 1735300000 + 29 * minute

def usersRevoked : Records :=
  (empty.revokeAllForUser .memory revokedAt revokedAt .delivered "u1").2

def refreshedToken (sample : Nat) : Text :=
  ((rotationSamples[sample]?).map (SignedSample.token sampleHeader)).getD []

def refreshedResult : RefreshResult where
  accessToken := refreshedToken 1
  accessExpires := ofUnix 1735302100
  refreshToken := refreshedToken 2
  refreshExpires := some (ofUnix 1735305400)
  rotated := true

def refreshedSite : Site where
  isOpen := fun _ => true
  verifier := { ring := rotationFirst.server.ring, now := revokedAt + 2 * minute }
  again := { ring := rotationFirst.server.ring, now := revokedAt + 2 * minute }

def refreshedQuery : Records.Query := { backend := .memory, now := revokedAt + 2 * minute }

theorem revoked_user_refreshed_access_accepted :
    rotationJwt.sign rotationFirst.server.ring rotationRoot.claims = .ok rotationFirst.token ∧
      rotationRoot.claims.sub = "u1" ∧ rotationRoot.claims.issuedAt ≤ revokedAt ∧
      (empty.revokeAllForUser .memory revokedAt revokedAt .delivered "u1").1 = .ok () ∧
      revokedAt ≤ rotationFirst.moments.verify ∧
      (rotationFirst.outcome rotationJwt .memory .empty).1 = .ok refreshedResult ∧
      subscribeAuthorizer rotationJwt (asking refreshedSite usersRevoked refreshedQuery) "u1"
        grantChannel refreshedResult.accessToken = .ok () := by
  decide +kernel

theorem refreshed_access_refused_iff_of_rotation :
    subscribeAuthorizer rotationJwt
        (asking refreshedSite (usersRevoked.applyAll .memory []) refreshedQuery) "u1"
        grantChannel refreshedResult.accessToken ≠ .ok () ↔
      ofUnix (unix rotationFirst.moments.issue) ≤ revokedAt ∨
        subscribeAuthorizer rotationJwt
          (asking refreshedSite ((usersRevoked.applyAll .memory []).forgetUser "u1")
            refreshedQuery) "u1" grantChannel refreshedResult.accessToken ≠ .ok () := by
  have lawful : rotationJwt.json.Lawful :=
    Json.ofSamples_lawful (by decide +kernel) (by decide +kernel)
  have signed : rotationJwt.sign rotationFirst.server.ring rotationRoot.claims =
      .ok rotationFirst.token := by
    decide +kernel
  have signedFor : SignedFor rotationJwt "u1" rotationFirst.token :=
    ⟨_, rotationRoot.claims, signed, rfl, by simp [rotationRoot, FamilySample.token, plainFamily]⟩
  have answered : (rotationFirst.outcome rotationJwt .memory .empty).1 = .ok refreshedResult := by
    decide +kernel
  have done : empty.revokeAllForUser .memory revokedAt revokedAt .delivered "u1" =
      (.ok (), usersRevoked) := rfl
  exact refreshed_access_refused_iff lawful signedFor .root (Call.outcome_eq answered) done
    (by simp)
    (by decide +kernel) refreshedSite "u1" rfl

/-! ## How exact revoking a user is

A token carries the second it was issued in, a revocation the instant. Within the second of the
revocation a token issued after it looks like one issued before. -/

namespace Records

/-- When a revocation with this clock reading is written. The memory store reads the clock
as it writes, Redis writes when the command runs. -/
def writtenAt (read run : Int) : Backend → Int
  | .memory => read
  | .redis => run

private theorem cutoffOf_writtenAt (backend : Backend) (read run : Int) :
    cutoffOf backend read (writtenAt read run backend) = read := by
  cases backend <;> rfl

variable {maxTTL : Int} {now stored : Int}

theorem counts_memory : counts .memory maxTTL now stored = true ↔ now ≤ stored + maxTTL := by
  change decide (now - stored ≤ maxTTL) = true ↔ _
  rw [decide_eq_true_iff]
  omega

theorem counts_redis : counts .redis maxTTL now stored = true ↔ now < stored + maxTTL :=
  decide_eq_true_iff

/-- The operation is no revocation of the user, nor a pruning after `check`. -/
def Operation.Quiet (userID : String) (maxTTL check : Int) : Operation → Prop
  | .revoke _ _ _ => True
  | .revokeAllForUser _ _ _ other => other ≠ userID
  | .prune ttl now => ttl = maxTTL ∧ now ≤ check

variable {userID : String} {check : Int}

theorem Operation.Quiet.spares {entry : UserEntry} {operation : Operation}
    (quiet : operation.Quiet userID maxTTL check) (within : check ≤ entry.stored + maxTTL) :
    operation.Spares userID entry := by
  cases operation with
  | revoke => trivial
  | revokeAllForUser => exact quiet
  | prune ttl now =>
    rcases quiet with ⟨rfl, early⟩
    change now - entry.stored ≤ ttl
    omega

def askedAt (maxTTL check : Int) (backend : Backend) : Query :=
  { backend := backend, maxTTL := maxTTL, now := check }

private theorem isUserRevoked_askedAt {records : Records} {backend : Backend} (named : userID ≠ "")
    (issuedAt : Int) :
    records.isUserRevoked (askedAt maxTTL check backend) userID issuedAt =
      .ok (records.cutOff (askedAt maxTTL check backend) userID issuedAt) := by
  cases backend with
  | memory => rfl
  | redis => simp [isUserRevoked, askedAt, named]

end Records

/-- Both stores, at `check`, after the user was revoked with the clock reading `read`. Each
has its own history before that, and operations that are quiet about the user since. -/
structure UserRevoked (userID : String) (maxTTL read run check : Int)
    (final : Backend → Records) : Prop where
  ordered : read ≤ run
  within : check ≤ read + maxTTL
  history : ∀ backend, ∃ (before revoked : Records) (reply : Reply)
      (later : List Records.Operation),
    before.revokeAllForUser backend read (writtenAt read run backend) reply userID =
        (.ok (), revoked) ∧
      (∀ operation ∈ later, operation.Quiet userID maxTTL check) ∧
      final backend = revoked.applyAll backend later

section

variable {userID : String} {maxTTL read run check : Int} {final : Backend → Records}

variable (revoked : UserRevoked userID maxTTL read run check final)
include revoked

theorem UserRevoked.named : userID ≠ "" := by
  rcases revoked.history .memory with ⟨_, _, _, _, done, _⟩
  exact (revokeAllForUser_entry done).1

variable (backend : Backend)

theorem UserRevoked.entry : (final backend).byUser userID =
      some { cutoff := some read, stored := writtenAt read run backend } := by
  rcases revoked.history backend with ⟨before, after, reply, later, done, quiet, equal⟩
  have written := (revokeAllForUser_entry done).2
  rw [cutoffOf_writtenAt] at written
  have stored : read ≤ writtenAt read run backend := by
    cases backend with
    | memory => exact le_refl _
    | redis => exact revoked.ordered
  have within := revoked.within
  rw [equal]
  apply applyAll_spares written
  intro operation member
  refine (quiet operation member).spares ?_
  change check ≤ writtenAt read run backend + maxTTL
  omega

theorem UserRevoked.counted (before : check < run + maxTTL) (backend : Backend) :
    counts backend maxTTL check (writtenAt read run backend) = true := by
  cases backend with
  | memory => exact counts_memory.mpr revoked.within
  | redis => exact counts_redis.mpr before

theorem UserRevoked.cutOff_iff (issuedAt : Int) :
    (final backend).cutOff (askedAt maxTTL check backend) userID issuedAt = true ↔
      counts backend maxTTL check (writtenAt read run backend) = true ∧
        issuedAt ≤ read := by
  simp [cutOff, revoked.entry, askedAt]

theorem UserRevoked.same_answers_iff :
    (∀ issuedAt, (final .memory).isUserRevoked (askedAt maxTTL check .memory) userID
        issuedAt =
      (final .redis).isUserRevoked (askedAt maxTTL check .redis) userID issuedAt) ↔
        check < run + maxTTL := by
  simp only [isUserRevoked_askedAt revoked.named, Except.ok.injEq]
  have memory := revoked.cutOff_iff .memory
  have redis := revoked.cutOff_iff .redis
  rw [writtenAt, counts_memory] at memory
  rw [writtenAt, counts_redis] at redis
  constructor
  · intro same
    have atCutoff := (memory read).mpr ⟨revoked.within, le_refl _⟩
    rw [same read] at atCutoff
    exact ((redis read).mp atCutoff).1
  · intro before issuedAt
    apply Bool.eq_iff_iff.mpr
    rw [memory, redis]
    exact and_congr_left fun _ => iff_of_true revoked.within before

end

def Denies (jwt : Jwt) (site : Site) (records : Records) (query : Records.Query)
    (subscriber : String) (ch : Name) (token : Text) : Prop :=
  subscribeAuthorizer jwt (asking site records query) subscriber ch token ≠ .ok ()

/-- Tokens issued up to the revocation are denied, those issued after it are not denied because
of it, and the stores answer alike, exactly when the question comes before the last instant of
the entry and no token issued later in the second of the revocation would pass but for it. -/
theorem user_revocation_exact_iff {jwt : Jwt} (lawful : jwt.json.Lawful) {ring : KeyRing}
    {issue : Int} {authority : Authority} {token : Text}
    (issued : IssuedWith jwt ring issue authority token)
    {maxTTL read run check : Int} {final : Backend → Records}
    (revoked : UserRevoked authority.sub maxTTL read run check final)
    (site : Site) (subscriber : String) {ch : Name} (hidden : ch.isPrivate = true) :
    ((∀ backend,
        (issue ≤ read → Denies jwt site (final backend) (askedAt maxTTL check backend)
          subscriber ch token) ∧
        (read < issue →
          Denies jwt site (final backend) (askedAt maxTTL check backend) subscriber ch
            token →
          Denies jwt site ((final backend).forgetUser authority.sub)
            (askedAt maxTTL check backend) subscriber ch token)) ∧
      ∀ issuedAt,
        (final .memory).isUserRevoked (askedAt maxTTL check .memory) authority.sub
            issuedAt =
          (final .redis).isUserRevoked (askedAt maxTTL check .redis) authority.sub
            issuedAt) ↔
      check < run + maxTTL ∧
        (read < issue → ofUnix (unix issue) ≤ read → ∀ backend,
          Denies jwt site ((final backend).forgetUser authority.sub)
            (askedAt maxTTL check backend) subscriber ch token) := by
  rw [revoked.same_answers_iff, and_comm]
  apply and_congr_right
  intro before
  have names : ∀ claims, site.again.verify jwt token (some .access) = .ok claims →
      claims.sub = authority.sub ∧ claims.issuedAt = ofUnix (unix issue) := by
    intro claims verified
    rcases issued with ⟨signed, issued, _⟩
    rw [issued.verifies lawful verified, Claims.issuedAt, issued.issuedAt]
    exact ⟨issued.subject, rfl⟩
  have denies : ∀ backend,
      Denies jwt site (final backend) (askedAt maxTTL check backend) subscriber ch token ↔
        ofUnix (unix issue) ≤ read ∨
          Denies jwt site ((final backend).forgetUser authority.sub)
            (askedAt maxTTL check backend) subscriber ch token := by
    intro backend
    rw [Denies, Ne, asking_accepted_iff revoked.named (revoked.entry backend)
      (revoked.counted before backend) names hidden, not_and_or, Int.not_lt]
    rfl
  have truncated : ofUnix (unix issue) ≤ issue := by exact Int.ediv_mul_le issue (by decide)
  constructor
  · intro meets late sameSecond backend
    exact (meets backend).2 late ((denies backend).mpr (.inl sameSecond))
  · intro condition backend
    refine ⟨fun early => (denies backend).mpr (.inl (by omega)), ?_⟩
    intro late refused
    rcases (denies backend).mp refused with sameSecond | other
    · exact condition late sameSecond backend
    · exact other

/-- The user of the scenario is revoked at `read`, and nothing else happens. -/
def onlyRevoked (read : Int) (backend : Backend) : Records :=
  (empty.revokeAllForUser backend read read .delivered "u1").2

theorem later_token_unaffected :
    (∀ backend,
      (rotationFirst.moments.issue ≤ revokedAt →
        Denies rotationJwt refreshedSite (onlyRevoked revokedAt backend)
          (askedAt (24 * hour) (revokedAt + 2 * minute) backend) "u1" grantChannel
          refreshedResult.accessToken) ∧
      (revokedAt < rotationFirst.moments.issue →
        Denies rotationJwt refreshedSite (onlyRevoked revokedAt backend)
          (askedAt (24 * hour) (revokedAt + 2 * minute) backend) "u1" grantChannel
          refreshedResult.accessToken →
        Denies rotationJwt refreshedSite ((onlyRevoked revokedAt backend).forgetUser "u1")
          (askedAt (24 * hour) (revokedAt + 2 * minute) backend) "u1" grantChannel
          refreshedResult.accessToken)) ∧
    ∀ issuedAt,
      (onlyRevoked revokedAt .memory).isUserRevoked
          (askedAt (24 * hour) (revokedAt + 2 * minute) .memory) "u1" issuedAt =
        (onlyRevoked revokedAt .redis).isUserRevoked
          (askedAt (24 * hour) (revokedAt + 2 * minute) .redis) "u1" issuedAt := by
  have lawful : rotationJwt.json.Lawful :=
    Json.ofSamples_lawful (by decide +kernel) (by decide +kernel)
  have answered : (rotationFirst.outcome rotationJwt .memory .empty).1 = .ok refreshedResult := by
    decide +kernel
  have verified : rotationJwt.verify rotationFirst.server.ring rotationFirst.server.leeway
      rotationFirst.moments.verify rotationFirst.token (some .refresh) =
        .ok rotationRoot.claims := by
    decide +kernel
  have issued : IssuedWith rotationJwt rotationFirst.server.ring rotationFirst.moments.issue
      rotationRoot.claims.authority.withoutOverride refreshedResult.accessToken := by
    rcases refreshAccess_issued (Call.outcome_eq answered) with ⟨claims, own, access, _⟩
    rw [verified] at own
    cases own
    exact access
  have revoked : UserRevoked rotationRoot.claims.authority.withoutOverride.sub (24 * hour)
      revokedAt revokedAt (revokedAt + 2 * minute) (onlyRevoked revokedAt) := by
    refine ⟨le_refl _, by decide, fun backend => ?_⟩
    refine ⟨.empty, onlyRevoked revokedAt backend, .delivered, [], ?_, by simp, rfl⟩
    cases backend <;> rfl
  refine (user_revocation_exact_iff lawful issued revoked refreshedSite "u1" rfl).mpr ?_
  refine ⟨by decide, fun _ sameSecond => ?_⟩
  exact absurd sameSecond (by decide +kernel)

def shortlyBefore : Int := ofUnix 1735301800 + second / 5

def issuedAfter : Call :=
  { rotationFirst with
    moments := { rotationFirst.moments with issue := ofUnix 1735301800 + second / 2 } }

/-- A token issued after the revocation is denied because of it. In its last instant the
revocation counts in memory and not on Redis. -/
theorem same_second_denied :
    shortlyBefore < issuedAfter.moments.issue ∧
      (issuedAfter.outcome rotationJwt .memory .empty).1.map RefreshResult.accessToken =
        .ok (refreshedToken 1) ∧
      (∀ backend,
        subscribeAuthorizer rotationJwt
            (asking refreshedSite (onlyRevoked shortlyBefore backend)
              (askedAt (24 * hour) refreshedSite.verifier.now backend)) "u1"
            grantChannel (refreshedToken 1) = .error (denied "user tokens have been revoked") ∧
          subscribeAuthorizer rotationJwt
            (asking refreshedSite .empty
              (askedAt (24 * hour) refreshedSite.verifier.now backend)) "u1"
            grantChannel (refreshedToken 1) = .ok ()) ∧
      (onlyRevoked shortlyBefore .memory).isUserRevoked
          (askedAt (24 * hour) (shortlyBefore + 24 * hour) .memory) "u1" 0 = .ok true ∧
      (onlyRevoked shortlyBefore .redis).isUserRevoked
          (askedAt (24 * hour) (shortlyBefore + 24 * hour) .redis) "u1" 0 = .ok false := by
  refine ⟨by decide, by decide +kernel, fun backend => ?_, by decide, by decide⟩
  cases backend with
  | memory | redis => decide +kernel

end Parsec.Revocation
