import Parsec.Channels.RedisStore

/-! # The two channel stores agree

Called one call at a time, the store in Redis mirrors the store in memory. -/

namespace Parsec.Channels

open Foundation Registry

abbrev RedisStore.serve : Service RedisStore Call Answer := RedisStore.asRegistry.service

namespace StoreAgreement

def WholeMilliseconds (instant : Int) : Prop :=
  ∃ count : Nat, 0 < count ∧ instant = count * 10 ^ 6

def Regular (call : Call) : Prop :=
  call.Accepted ∧
    match call with
    | .openPublic _ ttl now | .createPrivate _ ttl now => second ∣ ttl ∧ WholeMilliseconds now
    | .touch _ now | .delete _ now | .sweep now => WholeMilliseconds now
    | .get _ | .isOpen _ | .setDelta _ _ => True

def SameOutcome {Value : Type} : Except CodedError Value → Except CodedError Value → Prop
  | .ok value, .ok other => value = other
  | .error error, .error other => error.code = other.code
  | _, _ => False

def Alike : Answer → Answer → Prop
  | .found outcome, .found other => SameOutcome outcome other
  | .isOpen answer, .isOpen other => answer = other
  | .opened outcome, .opened other => SameOutcome outcome other
  | .done outcome, .done other => SameOutcome outcome other
  | .deleted outcome, .deleted other => SameOutcome outcome other
  | .swept (.ok events), .swept (.ok others) => ∀ event, event ∈ events ↔ event ∈ others
  | .swept (.error error), .swept (.error other) => error.code = other.code
  | _, _ => False

/-! ## Records of channels -/

def recordOf (channel : Channel) : ChannelRecord where
  name := channel.name.text
  visibility := channel.name.visibility.text
  state := channel.state
  ttlSeconds := wholeSeconds channel.ttl
  createdAt := channel.createdAt
  lastActive := channel.lastActive
  deltaEnabled := channel.deltaEnabled

structure Storable (channel : Channel) : Prop where
  accepted : channel.name.Accepted
  wholeTTL : second ∣ channel.ttl
  active : WholeMilliseconds channel.lastActive

variable {channel : Channel}

theorem recordOf_state : (recordOf channel).state = channel.state := rfl

theorem fromRecord_recordOf (storable : Storable channel) :
    fromRecord (recordOf channel) = .ok channel := by
  unfold fromRecord recordOf
  rw [storable.accepted.parseName_text, wholeSeconds_mul storable.wholeTTL]
  rfl

theorem milliseconds_whole {instant : Int} {count : Nat} (positive : 0 < count)
    (whole : instant = count * 10 ^ 6) :
    RedisStore.milliseconds instant = some (count : Int) := by
  have spelled : spell instant = Nat.toDigits 10 count ++ List.replicate 6 '0' := by
    rw [← toDigits_mul_pow count positive, ← spell_natCast, whole]
    norm_cast
  rw [RedisStore.milliseconds, spelled, List.length_append, List.length_replicate,
    Nat.add_sub_cancel, List.take_left, readNumber_toDigits]

structure Mirrors (store : MemoryStore) (hash : RedisStore) : Prop where
  keyed : store.Keyed
  storable : ∀ key channel, store.lookup key = some channel → Storable channel
  same : ∀ key, hash.lookup key = (store.lookup key).map recordOf

theorem mirrors_empty : Mirrors ∅ ∅ where
  keyed := MemoryStore.keyed_empty
  storable := by simp
  same := by simp

section Steps

variable {store : MemoryStore} {hash : RedisStore} {name : Name} {channel : Channel}

section

variable (mirrors : Mirrors store hash)
include mirrors

theorem Mirrors.insert (storable : Storable channel) (named : channel.name = name) :
    Mirrors (store.insert name.text channel) (hash.insert name.text (recordOf channel)) := by
  constructor
  · exact Records.forall_lookup_insert mirrors.keyed (by rw [named])
  · exact Records.forall_lookup_insert mirrors.storable storable
  · intro key
    by_cases same : key = name.text
    · subst same
      simp
    · rw [AList.lookup_insert_ne same, AList.lookup_insert_ne same, mirrors.same]

theorem Mirrors.name_eq (accepted : name.Accepted) (found : store.lookup name.text = some channel) :
    channel.name = name :=
  (mirrors.storable _ channel found).accepted.eq_of_text accepted (mirrors.keyed _ channel found)

theorem get_alike : SameOutcome (MemoryStore.get name store) (RedisStore.get name hash) := by
  unfold MemoryStore.get RedisStore.get
  rw [mirrors.same]
  cases found : store.lookup name.text with
  | none => rfl
  | some channel =>
    have read := fromRecord_recordOf (mirrors.storable _ channel found)
    by_cases isDeleted : channel.state = .deleted
    · simp [isDeleted, recordOf, SameOutcome]
    · simp only [isDeleted, Option.map_some, if_false]
      rw [recordOf_state, if_neg isDeleted, read]
      rfl

theorem get_eq (found : store.lookup name.text = some channel) (live : channel.state ≠ .deleted) :
    RedisStore.get name hash = .ok channel := by
  have alike : SameOutcome (MemoryStore.get name store) (RedisStore.get name hash) :=
    get_alike mirrors
  have stored : MemoryStore.get name store = .ok channel := by simp [MemoryStore.get, found, live]
  rw [stored] at alike
  cases read : RedisStore.get name hash with
  | error error => simp [read, SameOutcome] at alike
  | ok other =>
    rw [read] at alike
    exact congrArg _ (Eq.symm alike)

private theorem isOpen_alike : MemoryStore.isOpen name store = RedisStore.isOpen name hash := by
  unfold MemoryStore.isOpen RedisStore.isOpen
  cases found : store.lookup name.text with
  | none => simp [RedisStore.get, mirrors.same, found]
  | some channel =>
    by_cases live : channel.state = .deleted
    · simp [RedisStore.get, mirrors.same, found, live, recordOf]
    · rw [get_eq mirrors found live]

end

def Agrees (store : MemoryStore) (hash : RedisStore) (call : Call) : Prop :=
  Alike (MemoryStore.serve store call).1 (RedisStore.serve hash call).1 ∧
    Mirrors (MemoryStore.serve store call).2 (RedisStore.serve hash call).2

theorem freshRecord_eq (name : Name) (ttl now : Int) :
    RedisStore.freshRecord name ttl now = recordOf (MemoryStore.freshChannel name ttl now) :=
  rfl

theorem get_insert (mirrors : Mirrors store hash) (storable : Storable channel)
    (named : channel.name = name) (live : channel.state ≠ .deleted) :
    RedisStore.get name (hash.insert name.text (recordOf channel)) = .ok channel :=
  get_eq (mirrors.insert storable named) (AList.lookup_insert store) live

variable {now : Int}

variable (mirrors : Mirrors store hash) (accepted : name.Accepted)
include mirrors accepted

variable {ttl : Int}

private theorem openPublic_agrees (whole : second ∣ ttl) (instant : WholeMilliseconds now) :
    Agrees store hash (.openPublic name ttl now) := by
  simp only [Agrees, service, MemoryStore.asRegistry, RedisStore.asRegistry,
    MemoryStore.snapshotted, MemoryStore.openPublic, RedisStore.openPublic]
  by_cases isPublic : name.visibility = .public
  · simp only [isPublic, ne_eq, not_true, if_false, mirrors.same]
    cases found : store.lookup name.text with
    | none =>
      have storable : Storable (MemoryStore.freshChannel name ttl now) :=
        ⟨accepted, whole, instant⟩
      simp only [Option.map_none, RedisStore.openedRecord, freshRecord_eq]
      have got : RedisStore.get name (hash.insert name.text (recordOf _)) = .ok _ :=
        get_insert mirrors storable rfl (by simp [MemoryStore.freshChannel])
      rw [got]
      exact ⟨rfl, mirrors.insert storable rfl⟩
    | some channel =>
      by_cases isDeleted : channel.state = .deleted
      · simp only [Option.map_some, RedisStore.openedRecord, recordOf_state, isDeleted, if_true]
        exact ⟨rfl, mirrors⟩
      · have stored := mirrors.storable _ channel found
        have storable : Storable { channel with state := .open, lastActive := now, ttl := ttl } :=
          ⟨stored.accepted, whole, instant⟩
        have named := mirrors.name_eq accepted found
        simp only [Option.map_some, RedisStore.openedRecord, recordOf_state, isDeleted, if_false]
        have read : RedisStore.get name (hash.insert name.text
            { recordOf channel with
              state := .open, lastActive := now, ttlSeconds := wholeSeconds ttl }) = .ok _ :=
          get_insert mirrors storable named (by simp)
        rw [read]
        refine ⟨?_, mirrors.insert storable named⟩
        by_cases isClosed : channel.state = .closed <;>
          simp [Alike, SameOutcome, Except.map, Except.toOption, isClosed]
  · simp only [isPublic, ne_eq, not_false_eq_true, if_true]
    exact ⟨rfl, mirrors⟩

theorem createPrivate_agrees (whole : second ∣ ttl) (instant : WholeMilliseconds now) :
    Agrees store hash (.createPrivate name ttl now) := by
  simp only [Agrees, service, MemoryStore.asRegistry, RedisStore.asRegistry,
    MemoryStore.snapshotted, MemoryStore.createPrivate, RedisStore.createPrivate]
  by_cases isPrivate : name.visibility = .private
  · simp only [isPrivate, ne_eq, not_true, if_false, mirrors.same]
    cases found : store.lookup name.text with
    | none =>
      have storable : Storable (MemoryStore.freshChannel name ttl now) :=
        ⟨accepted, whole, instant⟩
      simp only [Option.map_none, freshRecord_eq]
      rw [fromRecord_recordOf storable]
      exact ⟨rfl, mirrors.insert storable rfl⟩
    | some channel => exact ⟨rfl, mirrors⟩
  · simp only [isPrivate, ne_eq, not_false_eq_true, if_true]
    exact ⟨rfl, mirrors⟩

theorem touch_agrees (instant : WholeMilliseconds now) : Agrees store hash (.touch name now) := by
  simp only [Agrees, service, MemoryStore.asRegistry, RedisStore.asRegistry, MemoryStore.touch,
    RedisStore.touch, RedisStore.touchScript, mirrors.same]
  cases found : store.lookup name.text with
  | none => exact ⟨rfl, mirrors⟩
  | some channel =>
    simp only [Option.map_some, recordOf_state]
    cases state : channel.state with
    | «open» =>
      have stored := mirrors.storable _ channel found
      have named := mirrors.name_eq accepted found
      exact ⟨rfl, mirrors.insert ⟨stored.accepted, stored.wholeTTL, instant⟩ named⟩
    | closed | deleted => exact ⟨rfl, mirrors⟩

theorem delete_agrees : Agrees store hash (.delete name now) := by
  simp only [Agrees, service, MemoryStore.asRegistry, RedisStore.asRegistry, MemoryStore.delete,
    RedisStore.delete, RedisStore.deleteScript, mirrors.same]
  cases found : store.lookup name.text with
  | none => exact ⟨rfl, mirrors⟩
  | some channel =>
    by_cases isDeleted : channel.state = .deleted
    · have unchanged : { channel with state := .deleted } = channel := by
        rw [← isDeleted]
      simp only [Option.map_some, recordOf_state, isDeleted, if_true, unchanged]
      have same := Records.lookup_reinsert found
      refine ⟨rfl, ?_, ?_, ?_⟩
      · intro key stored
        rw [same]
        exact mirrors.keyed key stored
      · intro key stored
        rw [same]
        exact mirrors.storable key stored
      · intro key
        rw [same, mirrors.same]
    · have stored := mirrors.storable _ channel found
      have named := mirrors.name_eq accepted found
      simp only [Option.map_some, recordOf_state, isDeleted, if_false]
      exact ⟨rfl, mirrors.insert ⟨stored.accepted, stored.wholeTTL, stored.active⟩ named⟩

theorem setDelta_agrees {enabled : Bool} : Agrees store hash (.setDelta name enabled) := by
  simp only [Agrees, service, MemoryStore.asRegistry, RedisStore.asRegistry, MemoryStore.setDelta,
    RedisStore.setDelta, RedisStore.setDeltaScript, mirrors.same]
  cases found : store.lookup name.text with
  | none => exact ⟨rfl, mirrors⟩
  | some channel =>
    by_cases isDeleted : channel.state = .deleted
    · simp only [Option.map_some, recordOf_state, isDeleted, if_true]
      exact ⟨rfl, mirrors⟩
    · have stored := mirrors.storable _ channel found
      have named := mirrors.name_eq accepted found
      simp only [Option.map_some, recordOf_state, isDeleted, if_false]
      exact ⟨rfl, mirrors.insert ⟨stored.accepted, stored.wholeTTL, stored.active⟩ named⟩

end Steps

/-! ## Sweeps -/

theorem isPrivate_iff (name : Name) : name.visibility.text = "private" ↔ name.isPrivate = true := by
  unfold Name.isPrivate
  cases name.visibility <;> simp [Visibility.text]

variable {now : Int}

theorem sweepRecord_recordOf (storable : Storable channel) {nowMs : Nat}
    (whole : now = nowMs * 10 ^ 6) :
    RedisStore.sweepRecord nowMs (recordOf channel) =
      some ((MemoryStore.sweepChannel now channel).1.map recordOf,
        (MemoryStore.sweepChannel now channel).2.map (·.kind)) := by
  obtain ⟨seconds, ttl⟩ := storable.wholeTTL
  obtain ⟨lastMs, positive, active⟩ := storable.active
  have last : RedisStore.milliseconds (recordOf channel).lastActive = some (lastMs : Int) :=
    milliseconds_whole positive active
  have limit : (recordOf channel).ttlSeconds = seconds := by
    have scaled := wholeSeconds_mul storable.wholeTTL
    change wholeSeconds channel.ttl = seconds
    rw [ttl, second] at scaled ⊢
    omega
  have expired : (nowMs : Int) - lastMs ≥ seconds * 1000 ↔
      ¬ now - channel.lastActive < channel.ttl := by
    rw [whole, active, ttl, second]
    omega
  have visible : (recordOf channel).visibility = "private" ↔ channel.name.isPrivate = true :=
    isPrivate_iff channel.name
  unfold RedisStore.sweepRecord MemoryStore.sweepChannel
  rw [last, limit, readNumber_spell, recordOf_state]
  by_cases idle : channel.state ≠ .open
  · simp [idle]
  · by_cases recent : now - channel.lastActive < channel.ttl
    · have notExpired : ¬ ((nowMs : Int) - lastMs ≥ seconds * 1000) := by
        rw [expired]
        exact not_not.mpr recent
      simp only [idle, recent, if_true, if_false, Option.bind_eq_bind, Option.bind_some]
      rw [if_neg notExpired]
      rfl
    · simp only [idle, recent, if_false, Option.bind_eq_bind, Option.bind_some]
      rw [if_pos (expired.mpr recent)]
      by_cases isPrivate : channel.name.isPrivate = true
      · rw [if_pos (visible.mpr isPrivate), if_pos isPrivate]
        rfl
      · rw [if_neg (visible.not.mpr isPrivate), if_neg isPrivate, ← limit]
        rfl

theorem sweepChannel_event {event : Event}
    (reported : (MemoryStore.sweepChannel now channel).2 = some event) :
    event = { kind := event.kind, name := channel.name, «at» := now } := by
  unfold MemoryStore.sweepChannel at reported
  split_ifs at reported <;> cases reported <;> rfl

theorem Storable.swept {left : Channel} (storable : Storable channel)
    (kept : (MemoryStore.sweepChannel now channel).1 = some left) : Storable left := by
  unfold MemoryStore.sweepChannel at kept
  split_ifs at kept <;> cases kept
  · exact storable
  · exact storable
  · exact ⟨storable.accepted, storable.wholeTTL, storable.active⟩

theorem rowEvent_accepted {name : Name} (accepted : name.Accepted) (kind : EventKind)
    (now : Int) :
    RedisStore.rowEvent now (name.text, kind) =
      some { kind := kind, name := name, «at» := now } := by
  simp [RedisStore.rowEvent, accepted.parseName_text, Except.toOption]

def leftRecord (nowMs : Nat) (record : ChannelRecord) : Option ChannelRecord :=
  ((RedisStore.sweepRecord nowMs record).map (·.1)).getD none

def reportedKind (nowMs : Nat) (record : ChannelRecord) : Option EventKind :=
  ((RedisStore.sweepRecord nowMs record).map (·.2)).getD none

section Sweep

variable {store : MemoryStore} {hash : RedisStore} {now : Int} {nowMs : Nat} {channel : Channel}

private theorem leftRecord_recordOf (storable : Storable channel) (whole : now = nowMs * 10 ^ 6) :
    leftRecord nowMs (recordOf channel) =
      (MemoryStore.sweepChannel now channel).1.map recordOf := by
  simp [leftRecord, sweepRecord_recordOf storable whole]

theorem reportedKind_recordOf (storable : Storable channel) (whole : now = nowMs * 10 ^ 6) :
    reportedKind nowMs (recordOf channel) =
      (MemoryStore.sweepChannel now channel).2.map (·.kind) := by
  simp [reportedKind, sweepRecord_recordOf storable whole]

variable (mirrors : Mirrors store hash)
include mirrors

theorem Mirrors.channel_of_record {key : String} {record : ChannelRecord}
    (found : hash.lookup key = some record) :
    ∃ channel, store.lookup key = some channel ∧ recordOf channel = record := by
  rw [mirrors.same] at found
  exact Option.map_eq_some_iff.mp found

theorem Mirrors.swept (whole : now = nowMs * 10 ^ 6) :
    ∀ entry ∈ hash.entries, RedisStore.sweepRecord nowMs entry.2 =
      some (leftRecord nowMs entry.2, reportedKind nowMs entry.2) := by
  intro entry member
  obtain ⟨channel, found, recorded⟩ :=
    mirrors.channel_of_record (AList.mem_lookup_iff.mpr member)
  have decided := sweepRecord_recordOf (mirrors.storable _ channel found) whole
  rw [recorded] at decided
  simp [leftRecord, reportedKind, decided]

theorem Mirrors.sweep_events (whole : now = nowMs * 10 ^ 6) (event : Event) :
    event ∈ store.entries.filterMap (fun entry => (MemoryStore.sweepChannel now entry.2).2) ↔
      event ∈ (hash.entries.filterMap fun entry =>
        (reportedKind nowMs entry.2).map fun kind => (entry.1, kind)).filterMap
          (RedisStore.rowEvent now) := by
  rw [Records.mem_report (fun channel => (MemoryStore.sweepChannel now channel).2),
    List.mem_filterMap]
  constructor
  · rintro ⟨key, channel, found, reported⟩
    have storable := mirrors.storable key channel found
    have own := mirrors.keyed key channel found
    refine ⟨(key, event.kind), List.mem_filterMap.mpr ⟨⟨key, recordOf channel⟩, ?_, ?_⟩, ?_⟩
    · apply Records.mem_entries.mpr
      rw [mirrors.same, found]
      rfl
    · simp [reportedKind_recordOf storable whole, reported]
    · rw [← own, rowEvent_accepted storable.accepted, ← sweepChannel_event reported]
  · rintro ⟨row, listed, parsed⟩
    obtain ⟨⟨key, record⟩, member, reported⟩ := List.mem_filterMap.mp listed
    obtain ⟨channel, found, rfl⟩ := mirrors.channel_of_record (Records.mem_entries.mp member)
    have storable := mirrors.storable key channel found
    have own := mirrors.keyed key channel found
    rw [reportedKind_recordOf storable whole, Option.map_map] at reported
    obtain ⟨original, sent, rfl⟩ := Option.map_eq_some_iff.mp reported
    refine ⟨key, channel, found, ?_⟩
    have same : RedisStore.rowEvent now (key, original.kind) = some event := parsed
    rw [← own, rowEvent_accepted storable.accepted, ← sweepChannel_event sent] at same
    rw [sent, same]

theorem sweep_agrees (instant : WholeMilliseconds now) : Agrees store hash (.sweep now) := by
  obtain ⟨nowMs, positive, whole⟩ := instant
  obtain ⟨written, result, lookups⟩ :=
    RedisStore.sweep_eq (milliseconds_whole positive whole) (mirrors.swept whole)
  have lookupsMemory := fun key =>
    Records.lookup_replaceAll (fun channel => (MemoryStore.sweepChannel now channel).1)
      store key
  simp only [Agrees, service, MemoryStore.asRegistry, RedisStore.asRegistry, MemoryStore.sweep,
    result]
  refine ⟨mirrors.sweep_events whole, mirrors.keyed.serve (.sweep now), ?_, ?_⟩
  · intro key channel found
    rw [lookupsMemory] at found
    obtain ⟨old, stored, kept⟩ := Option.bind_eq_some_iff.mp found
    exact (mirrors.storable key old stored).swept kept
  · intro key
    rw [lookups, lookupsMemory, mirrors.same]
    cases found : store.lookup key with
    | none => rfl
    | some channel => exact leftRecord_recordOf (mirrors.storable key channel found) whole

end Sweep

/-! ## Whole sequences of calls -/

theorem Mirrors.agrees {store : MemoryStore} {hash : RedisStore} (mirrors : Mirrors store hash)
    {call : Call} (regular : Regular call) : Agrees store hash call := by
  obtain ⟨accepted, whole⟩ := regular
  cases call with
  | get name => exact ⟨get_alike mirrors, mirrors⟩
  | isOpen name => exact ⟨isOpen_alike mirrors, mirrors⟩
  | openPublic name ttl now =>
    exact openPublic_agrees mirrors (accepted name rfl) whole.1 whole.2
  | createPrivate name ttl now =>
    exact createPrivate_agrees mirrors (accepted name rfl) whole.1 whole.2
  | touch name now => exact touch_agrees mirrors (accepted name rfl) whole
  | delete name now => exact delete_agrees mirrors (accepted name rfl)
  | setDelta name enabled => exact setDelta_agrees mirrors (accepted name rfl)
  | sweep now => exact sweep_agrees mirrors whole

theorem stores_agree (calls : List Call) (regular : ∀ call ∈ calls, Regular call) :
    List.Forall₂ Alike (MemoryStore.serve.answers ∅ calls) (RedisStore.serve.answers ∅ calls) :=
  MemoryStore.serve.answers_related RedisStore.serve Mirrors Alike
    (fun _ _ _ mirrors permitted => mirrors.agrees permitted) mirrors_empty regular

def invoice : Name :=
  { visibility := .private, app := "shop", domain := "invoices", id := "i1" }

def invoiceCalls : List Call :=
  [.createPrivate invoice second 1000000, .createPrivate invoice second 2000000,
    .touch invoice 3000000, .sweep 1003000000, .get invoice]

private theorem invoiceCalls_regular : ∀ call ∈ invoiceCalls, Regular call := by
  have accepted : invoice.Accepted := ⟨"private:shop.invoices.i1", by decide +kernel⟩
  have named : ∀ call : Call, call.name? = some invoice → call.Accepted := by
    intro call own name other
    rw [own] at other
    cases other
    exact accepted
  simp only [invoiceCalls, List.forall_mem_cons]
  refine ⟨⟨named _ rfl, dvd_rfl, 1, by decide, by decide⟩,
    ⟨named _ rfl, dvd_rfl, 2, by decide, by decide⟩,
    ⟨named _ rfl, 3, by decide, by decide⟩, ⟨?_, 1003, by decide, by decide⟩,
    ⟨named _ rfl, trivial⟩, by simp⟩
  intro name none
  cases none

theorem stores_agree_on_invoice :
    List.Forall₂ Alike (MemoryStore.serve.answers ∅ invoiceCalls)
      (RedisStore.serve.answers ∅ invoiceCalls) :=
  stores_agree invoiceCalls invoiceCalls_regular

end StoreAgreement

end Parsec.Channels
