import Parsec.Channels.StoreAgreement

/-! # When channels expire in Redis

The record of a channel keeps its lifetime in whole seconds, and the sweep compares instants in
milliseconds that it cuts from their digits. -/

namespace Parsec.Channels.RedisExpiry

open Foundation Registry

def requestedBy (key : String) : Call × Answer → Option Int
  | (.openPublic name ttl _, .opened (.ok _)) => if name.text = key then some ttl else none
  | (.createPrivate name ttl _, .opened (.ok _)) => if name.text = key then some ttl else none
  | _ => none

def activeBy (key : String) : Call × Answer → Option Int
  | (.openPublic name _ now, .opened (.ok _)) => if name.text = key then some now else none
  | (.createPrivate name _ now, .opened (.ok _)) => if name.text = key then some now else none
  | (.touch name now, .done (.ok _)) => if name.text = key then some now else none
  | _ => none

def requested (key : String) (past : List (Call × Answer)) : Option Int :=
  past.findSome? (requestedBy key)

def lastActivity (key : String) (past : List (Call × Answer)) : Option Int :=
  past.findSome? (activeBy key)

section Sweep

variable {nowMs : Int}

theorem sweepRecord_cases {record : ChannelRecord} {left : Option ChannelRecord}
    {kind : Option EventKind} (swept : RedisStore.sweepRecord nowMs record = some (left, kind)) :
    left = some record ∨
      (∃ lastMs, RedisStore.milliseconds record.lastActive = some lastMs ∧
        record.ttlSeconds * 1000 ≤ nowMs - lastMs) ∧
      (left = none ∨ left = some { record with state := .closed }) := by
  unfold RedisStore.sweepRecord at swept
  by_cases isOpen : record.state = .open
  · cases active : RedisStore.milliseconds record.lastActive with
    | none => simp [isOpen, active] at swept
    | some lastMs =>
      simp only [isOpen, ne_eq, not_true, if_false, active, Option.bind_eq_bind,
        Option.bind_some, readNumber_spell, ge_iff_le] at swept
      split at swept
      · rename_i expired
        refine .inr ⟨⟨lastMs, rfl, expired⟩, ?_⟩
        split at swept <;> simp_all
      · simp_all
  · simp_all

theorem sweepEntries_cases {entries : List RedisStore.Entry} (distinct : entries.NodupKeys)
    (key : String) :
    (RedisStore.sweepEntries nowMs entries).2.dlookup key = entries.dlookup key ∨
      ∃ record left kind, entries.dlookup key = some record ∧
        RedisStore.sweepRecord nowMs record = some (left, kind) ∧
        (RedisStore.sweepEntries nowMs entries).2.dlookup key = left := by
  induction entries with
  | nil => exact .inl rfl
  | cons entry entries induction =>
    rcases entry with ⟨field, record⟩
    rcases List.nodupKeys_cons.mp distinct with ⟨fresh, distinct⟩
    have absent : field ∉ (RedisStore.sweepEntries nowMs entries).2.keys := by
      intro member
      exact fresh ((RedisStore.keys_sweepEntries nowMs entries).subset member)
    simp only [RedisStore.sweepEntries]
    cases swept : RedisStore.sweepRecord nowMs record with
    | none => exact .inl rfl
    | some result =>
      rcases result with ⟨left, kind⟩
      by_cases same : key = field
      · subst same
        refine .inr ⟨record, left, kind, List.dlookup_cons_eq entries key record, swept, ?_⟩
        cases left with
        | none => exact List.dlookup_eq_none.mpr absent
        | some written =>
          exact List.dlookup_cons_eq (β := fun _ => ChannelRecord) _ key written
      · rw [List.dlookup_cons_ne entries ⟨field, record⟩ same]
        cases left with
        | none => exact induction distinct
        | some written =>
          simp only [Option.map_some, Option.toList_some, List.singleton_append]
          rw [List.dlookup_cons_ne (β := fun _ => ChannelRecord) _ ⟨field, written⟩ same]
          exact induction distinct

theorem sweep_cases (now : Int) (hash : RedisStore) (key : String) :
    (RedisStore.sweep now hash).2.lookup key = hash.lookup key ∨
      ∃ record, hash.lookup key = some record ∧
        (∃ nowMs lastMs, RedisStore.milliseconds now = some nowMs ∧
          RedisStore.milliseconds record.lastActive = some lastMs ∧
          record.ttlSeconds * 1000 ≤ nowMs - lastMs) ∧
        ((RedisStore.sweep now hash).2.lookup key = none ∨
          (RedisStore.sweep now hash).2.lookup key = some { record with state := .closed }) := by
  unfold RedisStore.sweep
  cases read : RedisStore.milliseconds now with
  | none => exact .inl rfl
  | some nowMs =>
    have written : ∀ answer : Except CodedError (List Event) × RedisStore,
        answer.2.lookup key = (RedisStore.sweepEntries nowMs hash.entries).2.dlookup key →
        answer.2.lookup key = hash.lookup key ∨
          ∃ record, hash.lookup key = some record ∧
            (∃ nowMs' lastMs, some nowMs = some nowMs' ∧
              RedisStore.milliseconds record.lastActive = some lastMs ∧
              record.ttlSeconds * 1000 ≤ nowMs' - lastMs) ∧
            (answer.2.lookup key = none ∨
              answer.2.lookup key = some { record with state := .closed }) := by
      intro answer same
      rw [same]
      rcases sweepEntries_cases hash.nodupKeys key with unchanged |
        ⟨record, left, kind, found, swept, after⟩
      · exact .inl unchanged
      · rcases sweepRecord_cases swept with rfl | ⟨⟨lastMs, active, expired⟩, changed⟩
        · exact .inl (after.trans found.symm)
        · rw [after]
          exact .inr ⟨record, found, ⟨nowMs, lastMs, rfl, active, expired⟩, changed⟩
    dsimp only
    split <;> exact written _ rfl

end Sweep

/-! ## Records and requests -/

structure Stamped (hash : RedisStore) (key : String) (step : Call × Answer)
    (record : ChannelRecord) : Prop where
  lifetime : (∃ ttl, requestedBy key step = some ttl ∧ record.ttlSeconds = wholeSeconds ttl) ∨
    requestedBy key step = none ∧
      ∃ old, hash.lookup key = some old ∧ record.ttlSeconds = old.ttlSeconds
  activity : activeBy key step = some record.lastActive ∨
    activeBy key step = none ∧
      ∃ old, hash.lookup key = some old ∧ record.lastActive = old.lastActive

section Stamps

variable {hash : RedisStore} {key : String} {record : ChannelRecord} {step : Call × Answer}

theorem Stamped.unchanged (found : hash.lookup key = some record)
    (unrequested : requestedBy key step = none) (inactive : activeBy key step = none) :
    Stamped hash key step record where
  lifetime := .inr ⟨unrequested, record, found, rfl⟩
  activity := .inr ⟨inactive, record, found, rfl⟩

variable {name : Name} {ttl now : Int} {written : ChannelRecord}

theorem stamped_insert
    (requests : ∀ key, requestedBy key step = if name.text = key then some ttl else none)
    (acts : ∀ key, activeBy key step = if name.text = key then some now else none)
    (lifetime : written.ttlSeconds = wholeSeconds ttl) (activity : written.lastActive = now)
    (found : (hash.insert name.text written).lookup key = some record) :
    Stamped hash key step record := by
  rcases Records.of_lookup_insert found with ⟨rfl, rfl⟩ | ⟨different, found⟩
  · exact ⟨.inl ⟨ttl, by simp [requests], lifetime⟩, .inl (by simp [acts, activity])⟩
  · exact .unchanged found (by simp [requests, different.symm]) (by simp [acts, different.symm])

theorem stamped_rewrite {field : String} {old : ChannelRecord}
    (before : hash.lookup field = some old)
    (found : (hash.insert field written).lookup key = some record)
    (unrequested : requestedBy key step = none) (inactive : activeBy key step = none)
    (lifetime : written.ttlSeconds = old.ttlSeconds)
    (activity : written.lastActive = old.lastActive) : Stamped hash key step record := by
  rcases Records.of_lookup_insert found with ⟨rfl, rfl⟩ | ⟨_, found⟩
  · exact ⟨.inr ⟨unrequested, old, before, lifetime⟩, .inr ⟨inactive, old, before, activity⟩⟩
  · exact .unchanged found unrequested inactive

theorem openPublic_stamped
    (found : (RedisStore.openPublic name ttl now hash).2.lookup key = some record) :
    Stamped hash key
      (.openPublic name ttl now, .opened (RedisStore.openPublic name ttl now hash).1) record := by
  unfold RedisStore.openPublic at found ⊢
  split at found
  · rename_i wrong
    rw [if_pos wrong]
    exact .unchanged found rfl rfl
  · rename_i right
    rw [if_neg right]
    cases opened : RedisStore.openedRecord name ttl now (hash.lookup name.text) with
    | error error =>
      rw [opened] at found
      exact .unchanged found rfl rfl
    | ok result =>
      rcases result with ⟨written, transition⟩
      rw [opened] at found
      have fields : written.ttlSeconds = wholeSeconds ttl ∧ written.lastActive = now := by
        unfold RedisStore.openedRecord at opened
        split at opened
        · split at opened
          · cases opened
          · cases opened
            exact ⟨rfl, rfl⟩
        · cases opened
          exact ⟨rfl, rfl⟩
      exact stamped_insert (fun _ => rfl) (fun _ => rfl) fields.1 fields.2 found

private theorem createPrivate_stamped
    (found : (RedisStore.createPrivate name ttl now hash).2.lookup key = some record) :
    Stamped hash key
      (.createPrivate name ttl now, .opened (RedisStore.createPrivate name ttl now hash).1)
      record := by
  unfold RedisStore.createPrivate at found ⊢
  split at found
  · rename_i wrong
    rw [if_pos wrong]
    exact .unchanged found rfl rfl
  · rename_i right
    rw [if_neg right]
    cases known : hash.lookup name.text with
    | some old =>
      rw [known] at found
      exact .unchanged found rfl rfl
    | none =>
      rw [known] at found
      exact stamped_insert (fun _ => rfl) (fun _ => rfl) rfl rfl found

theorem touch_stamped (found : (RedisStore.touch name now hash).2.lookup key = some record) :
    Stamped hash key (.touch name now, .done (RedisStore.touch name now hash).1) record := by
  unfold RedisStore.touch RedisStore.touchScript at found ⊢
  cases known : hash.lookup name.text with
  | none =>
    rw [known] at found
    exact .unchanged found rfl rfl
  | some old =>
    cases state : old.state with
    | deleted | closed =>
      simp only [known, state] at found ⊢
      exact .unchanged found rfl rfl
    | «open» =>
      simp only [known, state] at found ⊢
      rcases Records.of_lookup_insert found with ⟨rfl, rfl⟩ | ⟨different, found⟩
      · exact ⟨.inr ⟨rfl, old, known, rfl⟩, .inl (if_pos rfl)⟩
      · exact .unchanged found rfl (if_neg different.symm)

theorem delete_stamped (found : (RedisStore.delete name now hash).2.lookup key = some record) :
    Stamped hash key (.delete name now, .deleted (RedisStore.delete name now hash).1) record := by
  unfold RedisStore.delete RedisStore.deleteScript at found
  cases known : hash.lookup name.text with
  | none =>
    rw [known] at found
    exact .unchanged found rfl rfl
  | some old =>
    by_cases deleted : old.state = .deleted
    · simp only [known, deleted, if_true] at found
      exact .unchanged found rfl rfl
    · simp only [known, deleted, if_false] at found
      exact stamped_rewrite known found rfl rfl rfl rfl

theorem setDelta_stamped {enabled : Bool}
    (found : (RedisStore.setDelta name enabled hash).2.lookup key = some record) :
    Stamped hash key (.setDelta name enabled, .done (RedisStore.setDelta name enabled hash).1)
      record := by
  unfold RedisStore.setDelta RedisStore.setDeltaScript at found
  cases known : hash.lookup name.text with
  | none =>
    rw [known] at found
    exact .unchanged found rfl rfl
  | some old =>
    by_cases deleted : old.state = .deleted
    · simp only [known, deleted, if_true] at found
      exact .unchanged found rfl rfl
    · simp only [known, deleted, if_false] at found
      exact stamped_rewrite known found rfl rfl rfl rfl

private theorem sweep_stamped (found : (RedisStore.sweep now hash).2.lookup key = some record) :
    Stamped hash key (.sweep now, .swept (RedisStore.sweep now hash).1) record := by
  rcases sweep_cases now hash key with unchanged | ⟨old, before, _, gone | closed⟩
  · exact .unchanged (unchanged ▸ found) rfl rfl
  · rw [gone] at found
    cases found
  · rw [closed] at found
    cases found
    exact ⟨.inr ⟨rfl, old, before, rfl⟩, .inr ⟨rfl, old, before, rfl⟩⟩

private theorem serve_stamped {call : Call}
    (found : (RedisStore.serve hash call).2.lookup key = some record) :
    Stamped hash key (call, (RedisStore.serve hash call).1) record := by
  cases call with
  | get name | isOpen name => exact .unchanged found rfl rfl
  | openPublic name ttl now => exact openPublic_stamped found
  | createPrivate name ttl now => exact createPrivate_stamped found
  | touch name now => exact touch_stamped found
  | delete name now => exact delete_stamped found
  | setDelta name enabled => exact setDelta_stamped found
  | sweep now => exact sweep_stamped found

end Stamps

def Recorded (hash : RedisStore) (past : List (Call × Answer)) : Prop :=
  ∀ key record, hash.lookup key = some record →
    (∃ ttl, requested key past = some ttl ∧ record.ttlSeconds = wholeSeconds ttl) ∧
      lastActivity key past = some record.lastActive

theorem Recorded.step {hash : RedisStore} {past : List (Call × Answer)}
    (recorded : Recorded hash past) (call : Call) :
    Recorded (RedisStore.serve hash call).2 ((call, (RedisStore.serve hash call).1) :: past) := by
  intro key record found
  have stamped := serve_stamped found
  constructor
  · rcases stamped.lifetime with ⟨ttl, asked, kept⟩ | ⟨unasked, old, before, kept⟩
    · exact ⟨ttl, by rw [requested, List.findSome?_cons, asked], kept⟩
    · rcases (recorded key old before).1 with ⟨ttl, earlier, known⟩
      refine ⟨ttl, ?_, kept.trans known⟩
      rw [requested, List.findSome?_cons, unasked]
      exact earlier
  · rcases stamped.activity with active | ⟨inactive, old, before, kept⟩
    · rw [lastActivity, List.findSome?_cons, active]
    · rw [lastActivity, List.findSome?_cons, inactive, kept]
      exact (recorded key old before).2

theorem recorded_after (calls : List Call) :
    Recorded (RedisStore.serve.after ∅ calls) (RedisStore.serve.past ∅ calls) := by
  induction calls using List.reverseRecOn with
  | nil =>
    intro key record found
    simp at found
  | append_singleton calls call induction =>
    rw [Service.after_concat, Service.past_concat]
    exact induction.step call

/-! ## Early ends -/

/-- After the calls on an empty store a channel is open, with this lifetime requested last and
this last activity, and a sweep at `now` closes or deletes it. -/
structure Expires (calls : List Call) (now : Int) (key : String) (ttl active : Int) : Prop where
  isOpen : ∃ record, (RedisStore.serve.after ∅ calls).lookup key = some record ∧
    record.state = .open
  lifetime : requested key (RedisStore.serve.past ∅ calls) = some ttl
  activity : lastActivity key (RedisStore.serve.past ∅ calls) = some active
  ended : ∀ record, (RedisStore.sweep now (RedisStore.serve.after ∅ calls)).2.lookup key =
    some record → record.state ≠ .open

/-- The milliseconds of an instant lie between it and the epoch, less than one away. Within a
millisecond of the epoch there are none. -/
theorem milliseconds_bounds {instant ms : Int}
    (read : RedisStore.milliseconds instant = some ms) :
    (0 ≤ instant → 0 < ms ∧ 0 ≤ instant - ms * 10 ^ 6 ∧ instant - ms * 10 ^ 6 < 10 ^ 6) ∧
      (instant < 0 → ms < 0 ∧ instant - ms * 10 ^ 6 ≤ 0 ∧ -10 ^ 6 < instant - ms * 10 ^ 6) := by
  have ⟨large, cut⟩ : 10 ^ 6 ≤ instant.natAbs ∧ ms = instant.tdiv (10 ^ 6) :=
    tdiv_of_readNumber_take (by decide) read
  constructor
  · intro nonneg
    rw [Int.tdiv_eq_ediv_of_nonneg nonneg] at cut
    omega
  · intro negative
    have mirrored : -ms = (-instant) / 10 ^ 6 := by
      rw [cut, ← Int.neg_tdiv, Int.tdiv_eq_ediv_of_nonneg (by omega)]
    omega

variable {now active : Int}

/-- Cutting both instants to milliseconds brings them nearer by less than one, unless the epoch
lies between them; and then their order shows. -/
theorem elapsed_of_milliseconds {nowMs lastMs limit : Int} (forward : 0 ≤ limit)
    (read : RedisStore.milliseconds now = some nowMs)
    (last : RedisStore.milliseconds active = some lastMs) (passed : limit * 1000 ≤ nowMs - lastMs) :
    limit * second - 999999 ≤ now - active := by
  have nowBounds := milliseconds_bounds read
  have lastBounds := milliseconds_bounds last
  rw [second]
  omega

variable {ttl : Int}

theorem Expires.elapsed {calls : List Call} {key : String}
    (expires : Expires calls now key ttl active) (positive : 0 < ttl) :
    wholeSeconds ttl * second - 999999 ≤ now - active := by
  rcases expires.isOpen with ⟨record, found, isOpen⟩
  rcases recorded_after calls key record found with ⟨⟨asked, latest, kept⟩, last⟩
  rw [expires.lifetime] at latest
  rw [expires.activity] at last
  cases latest
  cases last
  rcases sweep_cases now (RedisStore.serve.after ∅ calls) key with unchanged |
    ⟨old, before, ⟨nowMs, lastMs, read, cut, passed⟩, _⟩
  · exact absurd isOpen (expires.ended record (unchanged.trans found))
  · rw [found] at before
    cases before
    rw [← kept]
    apply elapsed_of_milliseconds ?_ read cut passed
    rw [kept]
    exact wholeSeconds_nonneg positive.le

/-! ## The earliest end -/

def expiryName : Name := { visibility := .public, app := "shop", domain := "orders" }

theorem expires_after_whole_seconds (positive : 0 < ttl) :
    Expires [.openPublic expiryName ttl 1999999] ((1 + wholeSeconds ttl * 1000) * 10 ^ 6)
      expiryName.text ttl 1999999 := by
  have nonneg := wholeSeconds_nonneg positive.le
  rcases Int.eq_ofNat_of_zero_le nonneg with ⟨seconds, whole⟩
  have read : RedisStore.milliseconds ((1 + wholeSeconds ttl * 1000) * 10 ^ 6) =
      some ((1 + seconds * 1000 : Nat) : Int) := by
    apply StoreAgreement.milliseconds_whole (by omega)
    rw [whole]
    push_cast
    rfl
  have last : RedisStore.milliseconds 1999999 = some 1 := by decide +kernel
  have swept : RedisStore.sweepRecord ((1 + seconds * 1000 : Nat) : Int)
      (RedisStore.freshRecord expiryName ttl 1999999) =
        some (some { RedisStore.freshRecord expiryName ttl 1999999 with state := .closed },
          some .closed) := by
    simp only [RedisStore.sweepRecord, RedisStore.freshRecord, last, whole, readNumber_spell,
      ne_eq, not_true, if_false, Option.bind_eq_bind, Option.bind_some]
    rw [if_pos (by push_cast; omega), if_neg (by decide)]
  constructor
  · exact ⟨RedisStore.freshRecord expiryName ttl 1999999, rfl, rfl⟩
  · rfl
  · rfl
  · intro record found
    have only : ∀ entry ∈ (RedisStore.serve.after ∅
        [.openPublic expiryName ttl 1999999]).entries,
        RedisStore.sweepRecord ((1 + seconds * 1000 : Nat) : Int) entry.2 =
          some (some { entry.2 with state := .closed }, some .closed) := by
      intro entry listed
      cases List.mem_singleton.mp listed
      exact swept
    rcases @RedisStore.sweep_eq (fun record => some { record with state := .closed })
      (fun _ => some .closed) _ _ _ read only with ⟨written, result, lookup⟩
    rw [result, lookup] at found
    cases found
    simp

/-- No sweep ends a channel before the whole seconds of its lifetime have passed since its last
activity, less a millisecond. That is the lifetime itself, less a millisecond, exactly if the
lifetime is whole seconds or a nanosecond more, or is rounded up. -/
theorem sweep_never_early_iff {ttl : Int} (positive : 0 < ttl) (range : ttl < 2 ^ 63) :
    (∀ calls now key active, Expires calls now key ttl active →
      wholeSeconds ttl * second - 999999 ≤ now - active) ∧
      ((∀ calls now key active, Expires calls now key ttl active →
        ttl - 10 ^ 6 ≤ now - active) ↔ ttl % second ≤ 1 ∨ RoundsUp ttl) := by
  have whole := wholeSeconds_eq positive.le range
  have parts : second * (ttl / second) + ttl % second = ttl := Int.mul_ediv_add_emod ttl second
  have less : ttl % second < second := Int.emod_lt_of_pos ttl (by decide)
  refine ⟨fun calls now key active expires => expires.elapsed positive, ?_, ?_⟩
  · intro never
    have bound := never _ _ _ _ (expires_after_whole_seconds positive)
    by_cases up : RoundsUp ttl
    · exact .inr up
    · rw [whole, if_neg up, second] at bound
      rw [second] at parts ⊢
      omega
  · intro nearly calls now key active expires
    have bound := expires.elapsed positive
    rw [whole] at bound
    rw [second] at bound nearly parts less
    split at bound
    · omega
    · rename_i down
      have few := nearly.resolve_right down
      omega

theorem half_hour_never_early :
    30 * minute - 10 ^ 6 ≤ (1 + wholeSeconds (30 * minute) * 1000) * 10 ^ 6 - 1999999 := by
  apply (sweep_never_early_iff (by decide) (by decide)).2.mpr (.inl (by decide))
  exact expires_after_whole_seconds (by decide)

/-- A channel opened for 1.9 seconds is closed after one. -/
theorem closed_after_one_second :
    (RedisStore.serve.answers ∅
        [.openPublic expiryName (1900 * 10 ^ 6) (ofUnix 1735300000),
          .sweep (ofUnix 1735300001)]).map Answer.events =
      [[{ kind := .opened, name := expiryName, «at» := ofUnix 1735300000 }],
        [{ kind := .closed, name := expiryName, «at» := ofUnix 1735300001 }]] := by
  decide +kernel

end Parsec.Channels.RedisExpiry
