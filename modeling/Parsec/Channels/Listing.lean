import Parsec.Channels.StoreAgreement

/-! # Listing and getting channels

Whether a store lists exactly the channels it also returns by name. The store in memory
lists the records of deleted channels too. -/

namespace Parsec.Channels

open Foundation Registry

def ListsWhatItGets {Stored : Type} (registry : Registry Stored) (stored : Stored) : Prop :=
  ∀ channel, channel ∈ registry.list stored ↔ registry.get channel.name stored = .ok channel

namespace MemoryStore

def Live (store : MemoryStore) : Prop :=
  ∀ key channel, store.lookup key = some channel → channel.state ≠ .deleted

variable {store : MemoryStore} {channel : Channel} {name : Name}

theorem get_eq_ok :
    get name store = .ok channel ↔
      store.lookup name.text = some channel ∧ channel.state ≠ .deleted := by
  unfold get
  cases found : store.lookup name.text with
  | none => simp
  | some stored =>
    by_cases isDeleted : stored.state = .deleted
    · simp only [isDeleted, if_true, reduceCtorEq, Option.some.injEq, false_iff]
      rintro ⟨rfl, live⟩
      exact live isDeleted
    · simp only [isDeleted, if_false, Except.ok.injEq, Option.some.injEq]
      constructor
      · rintro rfl
        exact ⟨rfl, isDeleted⟩
      · exact fun both => both.1

theorem mem_list (keyed : Keyed store) :
    channel ∈ list store ↔ store.lookup channel.name.text = some channel := by
  rw [list, List.mem_map]
  constructor
  · rintro ⟨⟨key, stored⟩, member, rfl⟩
    have found := AList.mem_lookup_iff.mpr member
    rw [keyed key stored found]
    exact found
  · intro found
    exact ⟨⟨channel.name.text, channel⟩, AList.mem_lookup_iff.mp found, rfl⟩

theorem listsWhatItGets_iff (keyed : Keyed store) :
    ListsWhatItGets asRegistry store ↔ Live store := by
  constructor
  · intro lists key channel found
    have listed := (mem_list keyed).mpr ((keyed key channel found).symm ▸ found)
    exact (get_eq_ok.mp ((lists channel).mp listed)).2
  · intro live channel
    rw [show asRegistry.list store = list store from rfl, mem_list keyed,
      show asRegistry.get = get from rfl, get_eq_ok]
    exact ⟨fun found => ⟨found, live _ channel found⟩, fun both => both.1⟩

variable {key : String}
  {kinds : List EventKind} {after : Option Channel}
  {call : Call}

theorem Change.stays_deleted (change : Change call key (some channel) kinds after)
    (isDeleted : channel.state = .deleted) : ∃ left, after = some left ∧ left.state = .deleted := by
  cases change with
  | kept => exact ⟨channel, rfl, isDeleted⟩
  | refreshed _ sameState => exact ⟨_, rfl, sameState.trans isDeleted⟩
  | reopened _ wasClosed _ => simp [isDeleted] at wasClosed
  | closed isOpen | removed isOpen _ => simp [isDeleted] at isOpen
  | deleted _ _ _ live => exact absurd isDeleted live

theorem Change.stays_live {before : Option Channel} (change : Change call key before kinds after)
    (live : ∀ channel, before = some channel → channel.state ≠ .deleted)
    (spared : ∀ name now, call = .delete name now → name.text = key → before = none) :
    ∀ channel, after = some channel → channel.state ≠ .deleted := by
  intro channel stored
  cases change with
  | kept => exact live channel stored
  | created =>
    cases stored
    simp [freshChannel]
  | refreshed _ sameState =>
    cases stored
    rw [sameState]
    exact live _ rfl
  | reopened _ _ isOpen =>
    cases stored
    simp [isOpen]
  | closed _ =>
    cases stored
    simp
  | removed _ _ => cases stored
  | deleted name deletes keyed _ => cases spared name _ deletes keyed

variable (calls : List Call)

theorem keyed_after : Keyed (serve.after ∅ calls) :=
  serve.after_invariant (fun _ => True) Keyed
    (fun _ call keyed _ => keyed.serve call) keyed_empty (fun _ _ => trivial)

private theorem deleted_after (keyed : Keyed store) (found : store.lookup key = some channel)
    (isDeleted : channel.state = .deleted) (calls : List Call) :
    ∃ left, (serve.after store calls).lookup key = some left ∧ left.state = .deleted := by
  have kept : ∀ store call,
      (Keyed store ∧ ∃ left, store.lookup key = some left ∧ left.state = .deleted) → True →
        Keyed (serve store call).2 ∧
          ∃ left, (serve store call).2.lookup key = some left ∧ left.state = .deleted := by
    rintro store call ⟨keyed, left, found, isDeleted⟩ _
    have change := changes keyed call key
    rw [found] at change
    exact ⟨keyed.serve call, change.stays_deleted isDeleted⟩
  have start : Keyed store ∧ ∃ left, store.lookup key = some left ∧ left.state = .deleted :=
    ⟨keyed, channel, found, isDeleted⟩
  have both := serve.after_invariant (fun _ => True) _ kept start
    (fun call (_ : call ∈ calls) => trivial)
  exact both.2

theorem lookup_delete (found : store.lookup name.text = some channel) (now : Int) :
    (serve store (.delete name now)).2.lookup name.text =
      some { channel with state := .deleted } := by
  simp [service, asRegistry, delete, found]

def Spared (calls : List Call) : Prop :=
  ∀ before name now after, calls = before ++ .delete name now :: after →
    (serve.after ∅ before).lookup name.text = none

theorem live_after_iff : Live (serve.after ∅ calls) ↔ Spared calls := by
  constructor
  · rintro live before name now after rfl
    by_contra some
    obtain ⟨channel, found⟩ := Option.ne_none_iff_exists'.mp some
    have keyed := (keyed_after before).serve (.delete name now)
    obtain ⟨left, kept, isDeleted⟩ := deleted_after keyed (lookup_delete found now) rfl after
    have final : serve.after ∅ (before ++ .delete name now :: after) =
        serve.after (serve (serve.after ∅ before) (.delete name now)).2 after :=
      serve.after_append ∅ before (.delete name now :: after)
    rw [← final] at kept
    exact live name.text left kept isDeleted
  · intro spared
    induction calls using List.reverseRecOn with
    | nil => simp [Live]
    | append_singleton calls call induction =>
      have earlier : Live (serve.after ∅ calls) := by
        apply induction
        rintro before name now after rfl
        exact spared before name now (after ++ [call]) (by simp)
      rw [serve.after_concat]
      intro key
      apply (changes (keyed_after calls) call key).stays_live (earlier key)
      rintro name now rfl rfl
      exact spared calls name now [] rfl

end MemoryStore

namespace RedisStore

def Named (hash : RedisStore) : Prop :=
  ∀ field record, hash.lookup field = some record → record.name = field

variable {record : ChannelRecord} {channel : Channel}

theorem fromRecord_eq_ok (read : fromRecord record = .ok channel) :
    channel.name.text = record.name := by
  unfold fromRecord at read
  cases parsed : parseName record.name with
  | error error => simp [parsed, Except.map] at read
  | ok name =>
    simp only [parsed, Except.map, Except.ok.injEq] at read
    rw [← read]
    exact text_of_parseName parsed

variable {hash : RedisStore}

theorem get_eq_ok {name : Name} :
    get name hash = .ok channel ↔
      ∃ record, hash.lookup name.text = some record ∧ listed record = some channel := by
  unfold get listed
  cases found : hash.lookup name.text with
  | none => simp
  | some record =>
    by_cases isDeleted : record.state = .deleted
    · simp [isDeleted]
    · cases read : fromRecord record <;> simp [isDeleted, read, Except.toOption]

theorem Named.listsWhatItGets (named : Named hash) : ListsWhatItGets asRegistry hash := by
  intro channel
  rw [show asRegistry.get = get from rfl, get_eq_ok,
    show asRegistry.list hash = hash.entries.filterMap fun entry => listed entry.2 from rfl,
    Records.mem_report]
  constructor
  · rintro ⟨field, record, found, shown⟩
    have own : channel.name.text = field := by
      rw [← named field record found]
      unfold listed at shown
      split_ifs at shown
      apply fromRecord_eq_ok
      cases read : fromRecord record <;> simp_all [Except.toOption]
    exact ⟨record, own ▸ found, shown⟩
  · rintro ⟨record, found, shown⟩
    exact ⟨channel.name.text, record, found, shown⟩

theorem Named.insert (named : Named hash) {field : String} (own : record.name = field) :
    Named (hash.insert field record) :=
  Records.forall_lookup_insert named own

variable {nowMs : Int}

private theorem sweepRecord_name {left : ChannelRecord} {kind : Option EventKind}
    (swept : sweepRecord nowMs record = some (some left, kind)) : left.name = record.name := by
  unfold sweepRecord at swept
  by_cases idle : record.state ≠ .open
  · rw [if_pos idle] at swept
    cases swept
    rfl
  · rw [if_neg idle] at swept
    obtain ⟨lastMs, _, rest⟩ := Option.bind_eq_some_iff.mp swept
    obtain ⟨ttl, _, rest⟩ := Option.bind_eq_some_iff.mp rest
    split_ifs at rest <;> cases rest <;> rfl

private theorem sweepEntries_named {entries : List Entry}
    (named : ∀ entry ∈ entries, entry.2.name = entry.1) :
    ∀ entry ∈ (sweepEntries nowMs entries).2, entry.2.name = entry.1 := by
  induction entries with
  | nil => simp [sweepEntries]
  | cons first entries induction =>
    have own := named first List.mem_cons_self
    have rest := induction fun entry member => named entry (List.mem_cons_of_mem _ member)
    unfold sweepEntries
    cases swept : sweepRecord nowMs first.2 with
    | none => exact named
    | some result =>
      obtain ⟨left, kind⟩ := result
      intro entry member
      cases left with
      | none => exact rest entry (by simpa using member)
      | some record =>
        rcases List.mem_cons.mp (by simpa using member) with rfl | later
        · exact (sweepRecord_name swept).trans own
        · exact rest entry later

theorem Named.sweep (named : Named hash) (now : Int) : Named (sweep now hash).2 := by
  unfold RedisStore.sweep
  cases milliseconds now with
  | none => exact named
  | some nowMs =>
    have kept : ∀ entry ∈ (sweepEntries nowMs hash.entries).2, entry.2.name = entry.1 := by
      apply sweepEntries_named
      intro entry member
      exact named entry.1 entry.2 (AList.mem_lookup_iff.mpr member)
    have written : ∀ nodup : (sweepEntries nowMs hash.entries).2.NodupKeys,
        Named { entries := (sweepEntries nowMs hash.entries).2, nodupKeys := nodup } := by
      intro nodup field record found
      exact kept ⟨field, record⟩ (Records.mem_entries.mpr found)
    dsimp only
    split <;> exact written _

theorem Named.serve (named : Named hash) (call : Call) : Named (serve hash call).2 := by
  cases call with
  | get name | isOpen name => exact named
  | openPublic name ttl now =>
    simp only [service, asRegistry, openPublic]
    split_ifs
    · exact named
    · cases found : hash.lookup name.text with
      | none => exact named.insert rfl
      | some record =>
        by_cases isDeleted : record.state = .deleted
        · simpa only [openedRecord, isDeleted, if_true] using named
        · simp only [openedRecord, isDeleted, if_false]
          exact named.insert (named _ record found)
  | createPrivate name ttl now =>
    simp only [service, asRegistry, createPrivate]
    split_ifs
    · exact named
    · cases found : hash.lookup name.text with
      | none => exact named.insert rfl
      | some record => exact named
  | touch name now =>
    simp only [service, asRegistry, touch, touchScript]
    cases found : hash.lookup name.text with
    | none => exact named
    | some record =>
      cases state : record.state with
      | «open» =>
        simp only [state]
        exact named.insert (named _ record found)
      | closed | deleted => simpa only [state] using named
  | delete name | setDelta name =>
    simp only [service, asRegistry, delete, deleteScript, setDelta, setDeltaScript]
    cases found : hash.lookup name.text with
    | none => exact named
    | some record =>
      by_cases isDeleted : record.state = .deleted
      · simpa only [isDeleted, if_true] using named
      · simp only [isDeleted, if_false]
        exact named.insert (named _ record found)
  | sweep now => exact named.sweep now

end RedisStore

/-- The store in Redis lists what it gets after any calls, the store in memory exactly when
no delete has found a channel. -/
theorem listsWhatItGets_after_iff (calls : List Call) :
    (ListsWhatItGets MemoryStore.asRegistry (MemoryStore.serve.after ∅ calls) ↔
        MemoryStore.Spared calls) ∧
      ListsWhatItGets RedisStore.asRegistry (RedisStore.serve.after ∅ calls) := by
  constructor
  · rw [MemoryStore.listsWhatItGets_iff (MemoryStore.keyed_after calls), MemoryStore.live_after_iff]
  · apply RedisStore.Named.listsWhatItGets
    apply RedisStore.serve.after_invariant (fun _ => True) RedisStore.Named
      (fun _ call named _ => named.serve call) ?_ (fun _ _ => trivial)
    simp [RedisStore.Named]

def news : Name := { visibility := .public, app := "shop", domain := "news" }

def openedThenDeleted : List Call := [.openPublic news minute 0, .delete news second]

/-- The deleted channel is still listed, though getting it finds nothing. -/
theorem openedThenDeleted_listed :
    (MemoryStore.asRegistry.list (MemoryStore.serve.after ∅ openedThenDeleted)).map
        (fun channel => (channel.name, channel.state)) = [(news, .deleted)] ∧
      (MemoryStore.asRegistry.get news (MemoryStore.serve.after ∅ openedThenDeleted)).toOption =
        none := by
  decide +kernel

end Parsec.Channels
