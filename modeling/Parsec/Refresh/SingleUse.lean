import Parsec.Refresh.FamilyRevocation

/-! # Interleaved calls

Any number of calls on any number of nodes, cut at every access to the rotation store. Each
store operation is two steps, the clock reading and the atomic part. All clocks show the
same time; the time of a step is never before that of the step before. -/

namespace Parsec.Refresh

open Foundation Channels Auth

/-- Where a call stands. `read` is the clock reading of a store operation under way; a
redemption is kept with the time its atomic part ran. -/
inductive Stage
  | verifying (token : Text)
  | checking (admitted : Admitted) (read : Option Int)
  | redeeming (admitted : Admitted) (read : Option Int)
  | revoking (admitted : Admitted) (read : Option Int)
  | issuing (admitted : Admitted) (redeemedAt : Int)
  | issuingLegacy (admitted : Admitted)
  | returned (redemption : Option (Admitted × Int)) (result : Except CodedError RefreshResult)

def Stage.advance (jwt : Jwt) (backend : RefreshBackend) (server : Server) (reply : Reply)
    (now : Int) (records : RefreshRecords) : Stage → Option (Stage × RefreshRecords)
  | .verifying token =>
    match authenticate jwt server now token with
    | .error error => some (.returned none (.error error), records)
    | .ok admitted =>
      if admitted.claims.jti = "" then some (.issuingLegacy admitted, records)
      else some (.checking admitted none, records)
  | .checking admitted none => some (.checking admitted (some now), records)
  | .checking admitted (some read) =>
    let call : StoreCall := { read := read, now := now, reply := reply }
    let (revoked, records) := records.isFamilyRevoked backend call admitted.claims.fid
    match familyVerdict revoked with
    | .error error => some (.returned none (.error error), records)
    | .ok () => some (.redeeming admitted none, records)
  | .redeeming admitted none => some (.redeeming admitted (some now), records)
  | .redeeming admitted (some read) =>
    let call : StoreCall := { read := read, now := now, reply := reply }
    let (redeemed, records) :=
      records.markRedeemed backend call admitted.claims.jti admitted.claims.expiresAt
    match redeemed with
    | .error .reused => some (.revoking admitted none, records)
    | .error (.other text) =>
      some (.returned none (.error (wrapped .internal "refresh store redeem" text)), records)
    | .ok () => some (.issuing admitted now, records)
  | .revoking admitted none => some (.revoking admitted (some now), records)
  | .revoking admitted (some read) =>
    let call : StoreCall := { read := read, now := now, reply := reply }
    let (answer, records) :=
      records.revokeFamily backend call admitted.claims.fid admitted.claims.expiresAt
    some (.returned none (.error (revokeVerdict answer)), records)
  | .issuing admitted redeemedAt =>
    some (.returned (some (admitted, redeemedAt)) (issueRotated jwt server now admitted), records)
  | .issuingLegacy admitted =>
    some (.returned none (issueLegacy jwt server now admitted), records)
  | .returned _ _ => none

abbrev CallId := Nat

structure World where
  now : Int
  records : RefreshRecords
  calls : CallId → Option Stage

inductive Action
  | start (id : CallId) (token : Text)
  | advance (id : CallId) (now : Int) (server : Server) (reply : Reply)
  | prune (now : Int)

def World.step (jwt : Jwt) (backend : RefreshBackend) : Step World Action :=
  fun world action =>
    match action with
    | .start id token =>
      if world.calls id = none then
        some { world with calls := Function.update world.calls id (some (.verifying token)) }
      else none
    | .advance id now server reply =>
      if world.now ≤ now then do
        let stage ← world.calls id
        let (next, records) ← stage.advance jwt backend server reply now world.records
        return { now := now, records := records,
                 calls := Function.update world.calls id (some next) }
      else none
    | .prune now =>
      if backend = .memory ∧ world.now ≤ now then
        some { world with now := now, records := world.records.prune now }
      else none

/-! ## What a step of a call does -/

namespace Stage

def redemption : Stage → Option (Admitted × Int)
  | issuing admitted redeemedAt => some (admitted, redeemedAt)
  | returned redemption _ => redemption
  | _ => none

def reading : Stage → Option Int
  | checking _ read => read
  | redeeming _ read => read
  | revoking _ read => read
  | _ => none

def Keeps (records : RefreshRecords) (now : Int) (after : RefreshRecords) : Prop :=
  ∀ jti bound, now < bound → records.redeemed.Lasts jti bound → after.redeemed.Lasts jti bound

variable {backend : RefreshBackend} {server : Server} {reply : Reply}
  {records after : RefreshRecords} {stage : Stage}
  {jwt : Jwt} {now : Int} {next : Stage}

private theorem advance_cases (timely : ∀ read, stage.reading = some read → read ≤ now)
    (taken : stage.advance jwt backend server reply now records = some (next, after)) :
    Keeps records now after ∧ (∀ read, next.reading = some read → read ≤ now) ∧
      (next.redemption = stage.redemption ∨
        ∃ admitted call, stage.redemption = none ∧ next.redemption = some (admitted, now) ∧
          call.read ≤ call.now ∧ call.now = now ∧
          records.markRedeemed backend call admitted.claims.jti admitted.claims.expiresAt =
            (.ok (), after)) := by
  have kept : Keeps records now records := fun _ _ _ lasts => lasts
  cases stage with
  | verifying token =>
    simp only [advance] at taken
    split at taken
    · cases taken
      exact ⟨kept, by simp [reading], .inl rfl⟩
    · split at taken <;> cases taken <;> exact ⟨kept, by simp [reading], .inl rfl⟩
  | checking admitted read =>
    cases read with
    | none =>
      cases taken
      exact ⟨kept, by simp [reading], .inl rfl⟩
    | some read =>
      have ordered := timely read rfl
      simp only [advance] at taken
      rcases check : records.isFamilyRevoked backend
        { read := read, now := now, reply := reply } admitted.claims.fid with ⟨revoked, checked⟩
      have ages := (RefreshRecords.isFamilyRevoked_cases ordered check).1
      have keeps : Keeps records now checked := fun _ _ early lasts =>
        ages.redeemed lasts (by simp only; omega)
      simp only [check] at taken
      split at taken <;> cases taken <;> exact ⟨keeps, by simp [reading], .inl rfl⟩
  | redeeming admitted read =>
    cases read with
    | none =>
      cases taken
      exact ⟨kept, by simp [reading], .inl rfl⟩
    | some read =>
      have ordered := timely read rfl
      simp only [advance] at taken
      rcases mark : records.markRedeemed backend
        { read := read, now := now, reply := reply } admitted.claims.jti
        admitted.claims.expiresAt with ⟨redeemed, marked⟩
      have keeps : Keeps records now marked := fun _ _ early lasts =>
        RefreshRecords.markRedeemed_redeemed ordered mark lasts early
      simp only [mark] at taken
      split at taken
      · cases taken
        exact ⟨keeps, by simp [reading], .inl rfl⟩
      · cases taken
        exact ⟨keeps, by simp [reading], .inl rfl⟩
      · cases taken
        exact ⟨keeps, by simp [reading],
          .inr ⟨admitted, _, rfl, rfl, ordered, rfl, mark⟩⟩
  | revoking admitted read =>
    cases read with
    | none =>
      cases taken
      exact ⟨kept, by simp [reading], .inl rfl⟩
    | some read =>
      have ordered := timely read rfl
      simp only [advance] at taken
      rcases revoke : records.revokeFamily backend
        { read := read, now := now, reply := reply } admitted.claims.fid
        admitted.claims.expiresAt with ⟨answer, revoked⟩
      simp only [revoke] at taken
      cases taken
      refine ⟨fun _ _ early lasts => ?_, by simp [reading], .inl rfl⟩
      exact RefreshRecords.revokeFamily_redeemed revoke lasts (by simp only; omega)
  | issuing admitted redeemedAt | issuingLegacy admitted =>
    cases taken
    exact ⟨kept, by simp [reading], .inl rfl⟩
  | returned redemption result => cases taken

def Honest : Stage → Prop
  | returned none result => returnsPair result = false
  | _ => True

theorem Honest.advance
    (taken : stage.advance jwt backend server reply now records = some (next, after)) :
    next.Honest := by
  cases stage with
  | verifying token =>
    simp only [Stage.advance] at taken
    split at taken
    · cases taken
      rfl
    · split at taken <;> cases taken <;> trivial
  | checking admitted read =>
    cases read with
    | none =>
      cases taken
      trivial
    | some read =>
      simp only [Stage.advance] at taken
      split at taken
      · cases taken
        rfl
      · cases taken
        trivial
  | redeeming admitted read =>
    cases read with
    | none =>
      cases taken
      trivial
    | some read =>
      simp only [Stage.advance] at taken
      split at taken
      · cases taken
        trivial
      · cases taken
        rfl
      · cases taken
        trivial
  | revoking admitted read =>
    cases read with
    | none =>
      cases taken
      trivial
    | some read =>
      cases taken
      rfl
  | issuing admitted redeemedAt =>
    cases taken
    trivial
  | issuingLegacy admitted =>
    cases taken
    exact issueLegacy_single
  | returned redemption result => cases taken

end Stage

/-! ## Refresh tokens are single use

In every interleaving, at most one call is handed a pair for a token among those whose
redemption ran before the token's expiry. -/

def World.redemption (world : World) (id : CallId) : Option (Admitted × Int) :=
  (world.calls id).bind Stage.redemption

def World.RedeemedInTime (world : World) (id : CallId) (jti : String) (exp : Int) : Prop :=
  ∃ admitted time, world.redemption id = some (admitted, time) ∧
    admitted.claims.jti = jti ∧ admitted.claims.expiresAt = exp ∧ time < exp

structure World.Sound (world : World) : Prop where
  /-- No clock reading lies ahead. -/
  timely : ∀ id stage read, world.calls id = some stage → stage.reading = some read →
    read ≤ world.now
  /-- A redemption that ran in time is on record until the expiry. -/
  recorded : ∀ id jti exp, world.RedeemedInTime id jti exp → world.now < exp →
    world.records.redeemed.Lasts jti exp
  unique : ∀ first second jti exp, world.RedeemedInTime first jti exp →
    world.RedeemedInTime second jti exp → first = second

theorem World.Sound.of_idle {world : World} (idle : ∀ id, world.calls id = none) : world.Sound where
  timely := by simp [idle]
  recorded := by simp [World.RedeemedInTime, World.redemption, idle]
  unique := by simp [World.RedeemedInTime, World.redemption, idle]

/-! ## One step -/

section

variable {jwt : Jwt} {backend : RefreshBackend} {world : World} {next : World}

theorem World.Sound.carry (sound : world.Sound) (later : world.now ≤ next.now)
    (keeps : Stage.Keeps world.records next.now next.records)
    (same : ∀ id, next.redemption id = world.redemption id)
    (timely : ∀ id stage read, next.calls id = some stage → stage.reading = some read →
      read ≤ next.now) : next.Sound where
  timely := timely
  recorded := by
    intro id jti exp redeemed early
    have before : world.RedeemedInTime id jti exp := by
      simpa only [World.RedeemedInTime, same] using redeemed
    exact keeps jti exp early (sound.recorded id jti exp before (by omega))
  unique := by
    intro first second jti exp left right
    simp only [World.RedeemedInTime, same] at left right
    exact sound.unique first second jti exp left right

variable {id : CallId} {stage : Stage} {now : Int} {records : RefreshRecords}

theorem World.redemption_update {other : CallId} :
    World.redemption ⟨now, records, Function.update world.calls id (some stage)⟩ other =
      if other = id then stage.redemption else world.redemption other := by
  unfold World.redemption
  by_cases same : other = id
  · subst same
    simp
  · simp [same]

theorem World.Sound.timely_update (sound : world.Sound) (later : world.now ≤ now)
    (timely : ∀ read, stage.reading = some read → read ≤ now) :
    ∀ other found read, Function.update world.calls id (some stage) other = some found →
      found.reading = some read → read ≤ now := by
  intro other found read called reading
  by_cases same : other = id
  · subst same
    rw [Function.update_self] at called
    cases called
    exact timely read reading
  · rw [Function.update_of_ne same] at called
    have := sound.timely other found read called reading
    omega

theorem World.Sound.redeem (sound : world.Sound) {admitted : Admitted} {call : StoreCall}
    (later : world.now ≤ call.now) (ordered : call.read ≤ call.now)
    (redeemed : stage.redemption = some (admitted, call.now))
    (keeps : Stage.Keeps world.records call.now records)
    (timely : ∀ read, stage.reading = some read → read ≤ call.now)
    (marked : world.records.markRedeemed backend call admitted.claims.jti
      admitted.claims.expiresAt = (.ok (), records)) :
    World.Sound ⟨call.now, records, Function.update world.calls id (some stage)⟩ := by
  -- Another call that redeemed the token in time would have made this redemption fail.
  have alone : ∀ other exp, call.now < exp → admitted.claims.expiresAt = exp →
      ¬ world.RedeemedInTime other admitted.claims.jti exp := by
    rintro other exp early rfl before
    have lasts := sound.recorded other _ _ before (by omega)
    exact RefreshRecords.markRedeemed_refused ordered early marked lasts rfl
  have split : ∀ other jti exp,
      World.RedeemedInTime ⟨call.now, records, Function.update world.calls id (some stage)⟩
        other jti exp →
      (other = id ∧ admitted.claims.jti = jti ∧ admitted.claims.expiresAt = exp ∧
        call.now < exp) ∨ (other ≠ id ∧ world.RedeemedInTime other jti exp) := by
    rintro other jti exp ⟨token, time, found, tokenJti, tokenExp, early⟩
    rw [World.redemption_update] at found
    by_cases same : other = id
    · rw [if_pos same, redeemed] at found
      cases found
      exact .inl ⟨same, tokenJti, tokenExp, early⟩
    · rw [if_neg same] at found
      exact .inr ⟨same, token, time, found, tokenJti, tokenExp, early⟩
  refine ⟨sound.timely_update later timely, ?_, ?_⟩
  · intro other jti exp before early
    rcases split other jti exp before with ⟨_, rfl, rfl, _⟩ | ⟨_, before⟩
    · exact RefreshRecords.markRedeemed_lasts ordered early marked
    · exact keeps jti exp early (sound.recorded other jti exp before (by simp only at early; omega))
  · intro first second jti exp left right
    rcases split first jti exp left with ⟨rfl, rfl, rfl, early⟩ | ⟨_, leftBefore⟩
    · rcases split second _ _ right with ⟨rfl, _⟩ | ⟨_, rightBefore⟩
      · rfl
      · exact absurd rightBefore (alone second _ early rfl)
    · rcases split second jti exp right with ⟨_, rfl, rfl, early⟩ | ⟨_, rightBefore⟩
      · exact absurd leftBefore (alone first _ early rfl)
      · exact sound.unique first second jti exp leftBefore rightBefore

variable {action : Action}

theorem World.Sound.step (sound : world.Sound)
    (taken : World.step jwt backend world action = some next) : next.Sound := by
  cases action with
  | start id token =>
    simp only [World.step, Option.ite_none_right_eq_some, Option.some.injEq] at taken
    rcases taken with ⟨fresh, rfl⟩
    refine sound.carry (le_refl _) (fun _ _ _ lasts => lasts) (fun other => ?_)
      (sound.timely_update (le_refl _) (by simp [Stage.reading]))
    rw [World.redemption_update]
    split
    · rename_i same
      simp [World.redemption, same, fresh, Stage.redemption]
    · rfl
  | advance id now server reply =>
    simp only [World.step, Option.ite_none_right_eq_some, Option.bind_eq_bind,
      Option.bind_eq_some_iff] at taken
    rcases taken with ⟨later, stage, called, ⟨after, records⟩, advanced, equal⟩
    cases equal
    have past : ∀ read, stage.reading = some read → read ≤ now := fun read reading => by
      have := sound.timely id stage read called reading
      omega
    rcases Stage.advance_cases past advanced with ⟨keeps, timely, change⟩
    rcases change with unchanged | ⟨admitted, call, _, redeemed, ordered, rfl, marked⟩
    · refine sound.carry later keeps (fun other => ?_) (sound.timely_update later timely)
      rw [World.redemption_update]
      split
      · rename_i same
        simp [World.redemption, same, called, unchanged]
      · rfl
    · exact sound.redeem later ordered redeemed keeps timely marked
  | prune now =>
    simp only [World.step, Option.ite_none_right_eq_some, Option.some.injEq] at taken
    rcases taken with ⟨⟨_, later⟩, rfl⟩
    refine sound.carry later (fun _ _ early lasts => lasts.prune early) (fun _ => rfl) ?_
    intro id stage read called reading
    have := sound.timely id stage read called reading
    simp only
    omega

def World.Honest (world : World) : Prop :=
  ∀ id stage, world.calls id = some stage → stage.Honest

theorem World.Honest.update (honest : world.Honest) (stageHonest : stage.Honest) :
    World.Honest ⟨now, records, Function.update world.calls id (some stage)⟩ := by
  intro other found called
  by_cases same : other = id
  · subst same
    simp only [Function.update_self, Option.some.injEq] at called
    exact called ▸ stageHonest
  · simp only [Function.update_of_ne same] at called
    exact honest other found called

theorem World.Honest.step (honest : world.Honest)
    (taken : World.step jwt backend world action = some next) : next.Honest := by
  cases action with
  | start id token =>
    simp only [World.step, Option.ite_none_right_eq_some, Option.some.injEq] at taken
    rcases taken with ⟨_, rfl⟩
    exact honest.update trivial
  | advance id now server reply =>
    simp only [World.step, Option.ite_none_right_eq_some, Option.bind_eq_bind,
      Option.bind_eq_some_iff] at taken
    rcases taken with ⟨_, stage, _, ⟨after, records⟩, advanced, equal⟩
    cases equal
    exact honest.update (Stage.Honest.advance advanced)
  | prune now =>
    simp only [World.step, Option.ite_none_right_eq_some, Option.some.injEq] at taken
    rcases taken with ⟨_, rfl⟩
    exact honest

end

/-! ## Every interleaving -/

/-- The call returned a pair for a token it redeemed at `time`. -/
def World.PairFor (world : World) (id : CallId) (admitted : Admitted) (time : Int) : Prop :=
  ∃ result, world.calls id = some (.returned (some (admitted, time)) result) ∧
    returnsPair result = true

/-- A call that returned a pair redeemed its token; and of the calls that did so before the
expiry of one token, at most one returned a pair. -/
theorem refresh_token_single_use {jwt : Jwt} {backend : RefreshBackend} {initial final : World}
    {actions : List Action} (idle : ∀ id, initial.calls id = none)
    (run : Run (World.step jwt backend) unrestricted initial actions final) :
    (∀ id redemption result, final.calls id = some (.returned redemption result) →
      returnsPair result = true → ∃ admitted time, final.PairFor id admitted time) ∧
    ∀ first second left right leftTime rightTime, final.PairFor first left leftTime →
      final.PairFor second right rightTime → left.claims.jti = right.claims.jti →
      left.claims.exp = right.claims.exp → leftTime < left.claims.expiresAt →
      rightTime < right.claims.expiresAt → first = second := by
  have sound := run.invariant World.Sound (fun _ _ _ holds _ step => holds.step step)
    (.of_idle idle)
  have honest := run.invariant World.Honest (fun _ _ _ holds _ step => holds.step step)
    (fun id stage called => by simp [idle id] at called)
  constructor
  · intro id redemption result called pair
    cases redemption with
    | none =>
      have single : returnsPair result = false := honest id _ called
      rw [pair] at single
      cases single
    | some redemption => exact ⟨redemption.1, redemption.2, result, called, pair⟩
  · rintro first second left right leftTime rightTime ⟨_, leftCalled, _⟩ ⟨_, rightCalled, _⟩
      sameToken sameExpiry leftEarly rightEarly
    have expiry : right.claims.expiresAt = left.claims.expiresAt := by
      simp only [Claims.expiresAt, sameExpiry]
    refine sound.unique first second left.claims.jti left.claims.expiresAt
      ⟨left, leftTime, ?_, rfl, rfl, leftEarly⟩
      ⟨right, rightTime, ?_, sameToken.symm, expiry, expiry ▸ rightEarly⟩
    · simp [World.redemption, leftCalled, Stage.redemption]
    · simp [World.redemption, rightCalled, Stage.redemption]

def World.answer (world : World) (id : CallId) : Option (Except CodedError Bool) :=
  match world.calls id with
  | some (.returned _ result) => some (result.map RefreshResult.rotated)
  | _ => none

def twinCalls : List Action :=
  let advance (id : CallId) : Action :=
    .advance id rotationFirst.moments.verify rotationFirst.server .delivered
  [.start 0 rotationFirst.token, .start 1 rotationFirst.token] ++
    [0, 1, 0, 1, 0, 1, 0, 1, 0, 1, 0, 1, 1].map advance

theorem refresh_token_single_use_of_twins :
    ∃ final, Run (World.step rotationJwt .redis) unrestricted ⟨0, .empty, fun _ => none⟩
        twinCalls final ∧
      (final.answer 0, final.answer 1) = (some (.ok true), some (.error reuseDetected)) ∧
      ∀ first second left right leftTime rightTime, final.PairFor first left leftTime →
        final.PairFor second right rightTime → left.claims.jti = right.claims.jti →
        left.claims.exp = right.claims.exp → leftTime < left.claims.expiresAt →
        rightTime < right.claims.expiresAt → first = second := by
  rcases Run.exists_of_execute (fun final : World => (final.answer 0, final.answer 1))
    (show (execute (World.step rotationJwt .redis) unrestricted ⟨0, .empty, fun _ => none⟩
      twinCalls).map (fun final => (final.answer 0, final.answer 1)) =
        some (some (.ok true), some (.error reuseDetected)) by decide +kernel)
    with ⟨final, run, answers⟩
  exact ⟨final, run, answers, (refresh_token_single_use (fun _ => rfl) run).2⟩

end Parsec.Refresh
