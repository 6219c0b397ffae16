import Parsec.Foundation.Clock
import Parsec.Foundation.Records
import Parsec.Foundation.Calls
import Parsec.Channels.Grammar

/-! # The channel store of a single node

A store performs the transitions of channels and reports each as an event. It emits
nothing itself. -/

namespace Parsec.Channels

open Foundation

inductive EventKind
  | opened
  | closed
  | deleted
  deriving DecidableEq

structure Event where
  kind : EventKind
  name : Name
  «at» : Int
  deriving DecidableEq

/-- The store interface over a type of records. No event stands for the zero event, and a
snapshot that may be nil is optional. -/
structure Registry (Stored : Type) where
  get : Name → Stored → Except CodedError Channel
  list : Stored → List Channel
  isOpen : Name → Stored → Bool
  openPublic : Name → Int → Int → Stored →
    Except CodedError (Option Channel × Option Event) × Stored
  createPrivate : Name → Int → Int → Stored →
    Except CodedError (Option Channel × Option Event) × Stored
  touch : Name → Int → Stored → Except CodedError Unit × Stored
  delete : Name → Int → Stored → Except CodedError (Option Event) × Stored
  setDelta : Name → Bool → Stored → Except CodedError Unit × Stored
  sweep : Int → Stored → Except CodedError (List Event) × Stored

abbrev MemoryStore := AList fun _ : String => Channel

namespace MemoryStore

def notFound (message : String) : CodedError := { code := .channelNotFound, message := message }

def freshChannel (name : Name) (ttl now : Int) : Channel where
  name := name
  state := .open
  ttl := ttl
  createdAt := now
  lastActive := now

def get (name : Name) (store : MemoryStore) : Except CodedError Channel :=
  match store.lookup name.text with
  | none => .error (notFound "no such channel")
  | some channel =>
    if channel.state = .deleted then .error (notFound "no such channel") else .ok channel

def list (store : MemoryStore) : List Channel := store.entries.map (·.2)

def isOpen (name : Name) (store : MemoryStore) : Bool :=
  match store.lookup name.text with
  | none => false
  | some channel => channel.state = .open

def openPublic (name : Name) (ttl now : Int) (store : MemoryStore) :
    Except CodedError (Channel × Option Event) × MemoryStore :=
  if name.visibility ≠ .public then
    (.error (invalidChannel "OpenPublic requires a public channel name"), store)
  else
    match store.lookup name.text with
    | some existing =>
      if existing.state = .deleted then
        (.error (notFound "channel was deleted; create a new one"), store)
      else
        let opened := { existing with state := .open, lastActive := now, ttl := ttl }
        let event :=
          if existing.state = .closed then some { kind := .opened, name := name, «at» := now }
          else none
        (.ok (opened, event), store.insert name.text opened)
    | none =>
      let channel := freshChannel name ttl now
      (.ok (channel, some { kind := .opened, name := name, «at» := now }),
        store.insert name.text channel)

def createPrivate (name : Name) (ttl now : Int) (store : MemoryStore) :
    Except CodedError (Channel × Option Event) × MemoryStore :=
  if name.visibility ≠ .private then
    (.error (invalidChannel "CreatePrivate requires a private channel name"), store)
  else
    match store.lookup name.text with
    | some _ => (.error { code := .channelExists, message := "channel already exists" }, store)
    | none =>
      let channel := freshChannel name ttl now
      (.ok (channel, some { kind := .opened, name := name, «at» := now }),
        store.insert name.text channel)

def touch (name : Name) (now : Int) (store : MemoryStore) : Except CodedError Unit × MemoryStore :=
  match store.lookup name.text with
  | none => (.error (notFound "no such channel"), store)
  | some channel =>
    match channel.state with
    | .deleted => (.error (notFound "channel deleted"), store)
    | .closed =>
      (.error { code := .channelClosed, message := "channel closed; reopen first" }, store)
    | .open => (.ok (), store.insert name.text { channel with lastActive := now })

def delete (name : Name) (now : Int) (store : MemoryStore) :
    Except CodedError (Option Event) × MemoryStore :=
  match store.lookup name.text with
  | none => (.error (notFound "no such channel"), store)
  | some channel =>
    let event :=
      if channel.state = .deleted then none
      else some { kind := .deleted, name := name, «at» := now }
    (.ok event, store.insert name.text { channel with state := .deleted })

def setDelta (name : Name) (enabled : Bool) (store : MemoryStore) :
    Except CodedError Unit × MemoryStore :=
  match store.lookup name.text with
  | none => (.error (notFound "no such channel"), store)
  | some channel =>
    if channel.state = .deleted then (.error (notFound "no such channel"), store)
    else (.ok (), store.insert name.text { channel with deltaEnabled := enabled })

def sweepChannel (now : Int) (channel : Channel) : Option Channel × Option Event :=
  if channel.state ≠ .open then (some channel, none)
  else if now - channel.lastActive < channel.ttl then (some channel, none)
  else if channel.name.isPrivate then
    (none, some { kind := .deleted, name := channel.name, «at» := now })
  else
    (some { channel with state := .closed },
      some { kind := .closed, name := channel.name, «at» := now })

def sweep (now : Int) (store : MemoryStore) : Except CodedError (List Event) × MemoryStore :=
  (.ok (store.entries.filterMap fun entry => (sweepChannel now entry.2).2),
    Records.replaceAll (fun channel => (sweepChannel now channel).1) store)

def snapshotted (result : Except CodedError (Channel × Option Event) × MemoryStore) :
    Except CodedError (Option Channel × Option Event) × MemoryStore :=
  (result.1.map fun (channel, event) => (some channel, event), result.2)

def asRegistry : Registry MemoryStore where
  get := get
  list := list
  isOpen := isOpen
  openPublic := fun name ttl now store => snapshotted (openPublic name ttl now store)
  createPrivate := fun name ttl now store => snapshotted (createPrivate name ttl now store)
  touch := touch
  delete := delete
  setDelta := setDelta
  sweep := sweep

end MemoryStore

end Parsec.Channels

/-! # The channel manager

The manager checks lifetimes, lets the store perform the transition and emits the event the
store reports. -/

namespace Parsec.Channels.Manager

open Foundation

def maxPrivateTTL : Int := hour

def defaultPublicTTL : Int := 30 * minute

section

variable {Records : Type} (registry : Registry Records) (now : Int) (records : Records)

abbrev Outcome (Value Records : Type) := Except CodedError Value × List Event × Records

def emitting {Value : Type} : Except CodedError (Value × Option Event) × Records →
    Outcome Value Records
  | (.error error, records) => (.error error, [], records)
  | (.ok (value, event), records) => (.ok value, event.toList, records)

def openPublic (name : Name) (ttl : Int) : Outcome (Option Channel) Records :=
  let ttl := if ttl = 0 then defaultPublicTTL else ttl
  emitting (registry.openPublic name ttl now records)

def createPrivate (name : Name) (ttl : Int) : Outcome (Option Channel) Records :=
  let ttl := if ttl ≤ 0 then 15 * minute else ttl
  if maxPrivateTTL < ttl then
    (.error { code := .channelTTLExceeds, message := "private channel TTL must be <= 1h" }, [],
      records)
  else
    emitting (registry.createPrivate name ttl now records)

def touch (name : Name) : Outcome Unit Records :=
  let (answer, records) := registry.touch name now records
  (answer, [], records)

def delete (name : Name) : Outcome Unit Records :=
  match registry.delete name now records with
  | (.error error, records) => (.error error, [], records)
  | (.ok event, records) => (.ok (), event.toList, records)

def sweep : Nat × List Event × Records :=
  match registry.sweep now records with
  | (.error _, records) => (0, [], records)
  | (.ok events, records) => (events.length, events, records)

end

/-! ## Calls -/

inductive Call
  | openPublic (name : Name) (ttl : Int)
  | createPrivate (name : Name) (ttl : Int)
  | touch (name : Name)
  | delete (name : Name)
  | sweep

def Call.perform {Records : Type} (registry : Registry Records) (now : Int) (records : Records) :
    Call → List Event × Records
  | openPublic name ttl => (Manager.openPublic registry now records name ttl).2
  | createPrivate name ttl => (Manager.createPrivate registry now records name ttl).2
  | touch name => (Manager.touch registry now records name).2
  | delete name => (Manager.delete registry now records name).2
  | sweep => (Manager.sweep registry now records).2

end Parsec.Channels.Manager

/-! ## The calls of a channel store

The whole interface of a store as one service, for sequences of calls on one store and for
comparing two. -/

namespace Parsec.Channels

open Foundation

namespace Registry

inductive Call
  | get (name : Name)
  | isOpen (name : Name)
  | openPublic (name : Name) (ttl now : Int)
  | createPrivate (name : Name) (ttl now : Int)
  | touch (name : Name) (now : Int)
  | delete (name : Name) (now : Int)
  | setDelta (name : Name) (enabled : Bool)
  | sweep (now : Int)
  deriving DecidableEq

inductive Answer
  | found (outcome : Except CodedError Channel)
  | isOpen (answer : Bool)
  | opened (outcome : Except CodedError (Option Channel × Option Event))
  | done (outcome : Except CodedError Unit)
  | deleted (outcome : Except CodedError (Option Event))
  | swept (outcome : Except CodedError (List Event))

namespace Answer

def events : Answer → List Event
  | .opened (.ok (_, event)) => event.toList
  | .deleted (.ok event) => event.toList
  | .swept (.ok events) => events
  | _ => []

def error? : Answer → Option CodedError
  | .found (.error error) => some error
  | .opened (.error error) => some error
  | .done (.error error) => some error
  | .deleted (.error error) => some error
  | .swept (.error error) => some error
  | _ => none

end Answer

namespace Call

def name? : Call → Option Name
  | .get name | .isOpen name | .openPublic name _ _ | .createPrivate name _ _ |
    .touch name _ | .delete name _ | .setDelta name _ => some name
  | .sweep _ => none

def Accepted (call : Call) : Prop := ∀ name ∈ call.name?, name.Accepted

end Call

def service {Stored : Type} (registry : Registry Stored) :
    Service Stored Call Answer := fun stored call =>
  match call with
  | .get name => (.found (registry.get name stored), stored)
  | .isOpen name => (.isOpen (registry.isOpen name stored), stored)
  | .openPublic name ttl now =>
    let (outcome, stored) := registry.openPublic name ttl now stored
    (.opened outcome, stored)
  | .createPrivate name ttl now =>
    let (outcome, stored) := registry.createPrivate name ttl now stored
    (.opened outcome, stored)
  | .touch name now =>
    let (outcome, stored) := registry.touch name now stored
    (.done outcome, stored)
  | .delete name now =>
    let (outcome, stored) := registry.delete name now stored
    (.deleted outcome, stored)
  | .setDelta name enabled =>
    let (outcome, stored) := registry.setDelta name enabled stored
    (.done outcome, stored)
  | .sweep now =>
    let (outcome, stored) := registry.sweep now stored
    (.swept outcome, stored)

end Registry

/-! ## Changes of records in memory

What one call does to the record under one key, and the events it returns for it. -/

open Registry

namespace MemoryStore

abbrev serve : Service MemoryStore Call Answer := asRegistry.service

def Keyed (store : MemoryStore) : Prop :=
  ∀ key channel, store.lookup key = some channel → channel.name.text = key

def keyKinds (key : String) (events : List Event) : List EventKind :=
  (events.filter fun event => event.name.text = key).map (·.kind)

/-- What a call can do to the record under a key: the record, the kinds of the events
returned for it, and the next record. -/
inductive Change (call : Call) (key : String) :
    Option Channel → List EventKind → Option Channel → Prop
  | kept (record : Option Channel) : Change call key record [] record
  | created (name : Name) (ttl now : Int) (named : call.name? = some name)
      (keyed : name.text = key) : Change call key none [.opened] (some (freshChannel name ttl now))
  | refreshed {channel changed : Channel} (sameName : changed.name = channel.name)
      (sameState : changed.state = channel.state) :
      Change call key (some channel) [] (some changed)
  | reopened {channel changed : Channel} (sameName : changed.name = channel.name)
      (wasClosed : channel.state = .closed) (isOpen : changed.state = .open) :
      Change call key (some channel) [.opened] (some changed)
  | closed {channel : Channel} (isOpen : channel.state = .open) :
      Change call key (some channel) [.closed] (some { channel with state := .closed })
  | removed {channel : Channel} (isOpen : channel.state = .open)
      (isPrivate : channel.name.isPrivate = true) :
      Change call key (some channel) [.deleted] none
  | deleted {channel : Channel} {now : Int} (name : Name) (deletes : call = .delete name now)
      (keyed : name.text = key) (live : channel.state ≠ .deleted) :
      Change call key (some channel) [.deleted] (some { channel with state := .deleted })

/-! ## Calls on one channel -/

section OneChannel

variable {store : MemoryStore} {call : Call} {name : Name} {key : String}

theorem keyKinds_own (kind : EventKind) (now : Int) :
    keyKinds name.text [{ kind := kind, name := name, «at» := now }] = [kind] := by
  simp [keyKinds]

variable {events : List Event}

theorem keyKinds_other (different : name.text ≠ key) (named : ∀ event ∈ events, event.name = name) :
    keyKinds key events = [] := by
  have none : ∀ event ∈ events, ¬ event.name.text = key := by
    intro event member
    rw [named event member]
    exact different
  simpa [keyKinds] using none

theorem change_insert {before : Option Channel} (found : store.lookup name.text = before)
    {channel : Channel} (named : ∀ event ∈ events, event.name = name)
    (own : Change call name.text before (keyKinds name.text events) (some channel)) :
    Change call key (store.lookup key) (keyKinds key events)
      ((store.insert name.text channel).lookup key) := by
  by_cases same : name.text = key
  · subst same
    rw [AList.lookup_insert, found]
    exact own
  · rw [AList.lookup_insert_ne (Ne.symm same), keyKinds_other same named]
    exact .kept _

def Changes (store : MemoryStore) (call : Call) : Prop :=
  ∀ key, Change call key (store.lookup key) (keyKinds key (serve store call).1.events)
    ((serve store call).2.lookup key)

variable (store : MemoryStore) (name : Name)

theorem changes_openPublic (ttl now : Int) : Changes store (.openPublic name ttl now) := by
  intro key
  simp only [service, asRegistry, snapshotted, openPublic]
  by_cases isPublic : name.visibility = .public
  · simp only [isPublic, ne_eq, not_true, if_false]
    cases found : store.lookup name.text with
    | none =>
      apply change_insert found
      · simp [Answer.events, Except.map]
      · exact (keyKinds_own .opened now) ▸ .created name ttl now rfl rfl
    | some channel =>
      by_cases isDeleted : channel.state = .deleted
      · simp only [isDeleted, if_true]
        exact .kept _
      · simp only [isDeleted, if_false]
        by_cases isClosed : channel.state = .closed
        · simp only [isClosed, if_true]
          apply change_insert found
          · simp [Answer.events, Except.map]
          · exact (keyKinds_own .opened now) ▸ .reopened rfl isClosed rfl
        · simp only [isClosed, if_false]
          apply change_insert found
          · simp [Answer.events, Except.map]
          · have isOpen : channel.state = .open := by
              cases state : channel.state <;> simp_all
            exact .refreshed rfl isOpen.symm
  · simp only [isPublic, ne_eq, not_false_eq_true, if_true]
    exact .kept _

theorem changes_createPrivate (ttl now : Int) : Changes store (.createPrivate name ttl now) := by
  intro key
  simp only [service, asRegistry, snapshotted, createPrivate]
  by_cases isPrivate : name.visibility = .private
  · simp only [isPrivate, ne_eq, not_true, if_false]
    cases found : store.lookup name.text with
    | none =>
      apply change_insert found
      · simp [Answer.events, Except.map]
      · exact (keyKinds_own .opened now) ▸ .created name ttl now rfl rfl
    | some channel => exact .kept _
  · simp only [isPrivate, ne_eq, not_false_eq_true, if_true]
    exact .kept _

theorem changes_touch (now : Int) : Changes store (.touch name now) := by
  intro key
  simp only [service, asRegistry, touch]
  cases found : store.lookup name.text with
  | none => exact .kept _
  | some channel =>
    cases state : channel.state with
    | «open» =>
      simp only [state]
      apply change_insert found
      · simp [Answer.events]
      · exact .refreshed rfl state.symm
    | closed | deleted =>
      simp only [state]
      exact .kept _

private theorem changes_delete (now : Int) : Changes store (.delete name now) := by
  intro key
  simp only [service, asRegistry, delete]
  cases found : store.lookup name.text with
  | none => exact .kept _
  | some channel =>
    by_cases isDeleted : channel.state = .deleted
    · simp only [isDeleted, if_true]
      apply change_insert found
      · simp [Answer.events]
      · exact .refreshed rfl isDeleted.symm
    · simp only [isDeleted, if_false]
      apply change_insert found
      · simp [Answer.events]
      · exact (keyKinds_own .deleted now) ▸ .deleted name rfl rfl isDeleted

theorem changes_setDelta (enabled : Bool) : Changes store (.setDelta name enabled) := by
  intro key
  simp only [service, asRegistry, setDelta]
  cases found : store.lookup name.text with
  | none => exact .kept _
  | some channel =>
    by_cases isDeleted : channel.state = .deleted
    · simp only [isDeleted, if_true]
      exact .kept _
    · simp only [isDeleted, if_false]
      apply change_insert found
      · simp [Answer.events]
      · exact .refreshed rfl rfl

end OneChannel

/-! ## A sweep -/

variable {store : MemoryStore}

theorem changes_sweep (keyed : Keyed store) (now : Int) : Changes store (.sweep now) := by
  intro key
  have named : ∀ entry ∈ store.entries, ∀ event, (sweepChannel now entry.2).2 = some event →
      decide (event.name.text = key) = decide (entry.1 = key) := by
    intro entry member event reported
    have own := keyed entry.1 entry.2 (AList.mem_lookup_iff.mpr member)
    have eventName : event.name = entry.2.name := by
      unfold sweepChannel at reported
      split_ifs at reported <;> cases reported <;> rfl
    rw [eventName, own]
  have events := Records.filter_report (fun channel => (sweepChannel now channel).2)
    store.nodupKeys (fun event => decide (event.name.text = key)) named
  have kinds : keyKinds key (serve store (.sweep now)).1.events =
      ((store.lookup key).bind fun channel => (sweepChannel now channel).2).toList.map (·.kind) :=
    congrArg (List.map Event.kind) events
  have next : (serve store (.sweep now)).2.lookup key =
      (store.lookup key).bind fun channel => (sweepChannel now channel).1 :=
    Records.lookup_replaceAll _ store key
  rw [kinds, next]
  cases found : store.lookup key with
  | none => exact .kept _
  | some channel =>
    simp only [Option.bind_some, sweepChannel]
    split_ifs with idle recent isPrivate
    · exact .kept _
    · exact .kept _
    · exact .removed (not_not.mp idle) isPrivate
    · exact .closed (not_not.mp idle)

theorem changes (keyed : Keyed store) (call : Call) : Changes store call := by
  cases call with
  | get name | isOpen name => exact fun key => .kept _
  | openPublic name ttl now => exact changes_openPublic store name ttl now
  | createPrivate name ttl now => exact changes_createPrivate store name ttl now
  | touch name now => exact changes_touch store name now
  | delete name now => exact changes_delete store name now
  | setDelta name enabled => exact changes_setDelta store name enabled
  | sweep now => exact changes_sweep keyed now

variable {call : Call}

theorem Change.stored_name {key : String} {before : Option Channel} {channel : Channel}
    {kinds : List EventKind} (change : Change call key before kinds (some channel)) :
    (call.name? = some channel.name ∧ channel.name.text = key) ∨
      ∃ old, before = some old ∧ old.name = channel.name := by
  cases change with
  | kept => exact .inr ⟨channel, rfl, rfl⟩
  | created name ttl now named keyed => exact .inl ⟨named, keyed⟩
  | refreshed sameName _ | reopened sameName _ _ => exact .inr ⟨_, rfl, sameName.symm⟩
  | closed _ | deleted _ _ _ _ => exact .inr ⟨_, rfl, rfl⟩

theorem event_name {event : Event} (returned : event ∈ (serve store call).1.events) :
    call.name? = some event.name ∨
      ∃ key channel, store.lookup key = some channel ∧ channel.name = event.name := by
  cases call with
  | get name | isOpen name | touch name now | setDelta name enabled => cases returned
  | openPublic name ttl now =>
    left
    simp only [service, asRegistry, snapshotted, openPublic] at returned
    split_ifs at returned
    · cases returned
    · split at returned
      · split_ifs at returned
        all_goals simp_all [Answer.events, Except.map, Call.name?]
      · simp_all [Answer.events, Except.map, Call.name?]
  | createPrivate name ttl now =>
    left
    simp only [service, asRegistry, snapshotted, createPrivate] at returned
    split_ifs at returned
    · cases returned
    · split at returned
      · cases returned
      · simp_all [Answer.events, Except.map, Call.name?]
  | delete name now =>
    left
    simp only [service, asRegistry, delete] at returned
    split at returned
    · cases returned
    · split_ifs at returned
      all_goals simp_all [Answer.events, Call.name?]
  | sweep now =>
    right
    obtain ⟨key, channel, found, reported⟩ := (Records.mem_report
      fun channel => (sweepChannel now channel).2).mp returned
    refine ⟨key, channel, found, ?_⟩
    unfold sweepChannel at reported
    split_ifs at reported <;> cases reported <;> rfl

theorem keyed_empty : Keyed ∅ := by
  intro key channel found
  simp at found

theorem Keyed.serve (keyed : Keyed store) (call : Call) : Keyed (serve store call).2 := by
  intro key channel found
  have change := changes keyed call key
  rw [found] at change
  rcases change.stored_name with ⟨_, own⟩ | ⟨old, stored, sameName⟩
  · exact own
  · rw [← sameName, keyed key old stored]

end MemoryStore

end Parsec.Channels
