import Parsec.Foundation.Decimal
import Parsec.Foundation.Float64
import Parsec.Channels.MemoryStore

/-! # The channel store in Redis

All nodes share one hash of records by the text of their names. An open is a transaction
that watches the hash; the other transitions are scripts that Redis runs one at a time. -/

namespace Parsec.Channels

open Foundation Registry

/-- The stored object. The numbers stand in it as decimal strings. -/
structure ChannelRecord where
  name : String
  visibility : String
  state : State
  ttlSeconds : Int
  createdAt : Int
  lastActive : Int
  deltaEnabled : Bool := false
  deriving DecidableEq

def fromRecord (record : ChannelRecord) : Except CodedError Channel :=
  (parseName record.name).map fun name =>
    { name := name, state := record.state, ttl := record.ttlSeconds * second,
      createdAt := record.createdAt, lastActive := record.lastActive,
      deltaEnabled := record.deltaEnabled }

abbrev RedisStore := Records ChannelRecord

namespace RedisStore

open MemoryStore (notFound)

def get (name : Name) (hash : RedisStore) : Except CodedError Channel :=
  match hash.lookup name.text with
  | none => .error (notFound "no such channel")
  | some record =>
    if record.state = .deleted then .error (notFound "no such channel") else fromRecord record

def listed (record : ChannelRecord) : Option Channel :=
  if record.state = .deleted then none else (fromRecord record).toOption

def list (hash : RedisStore) : List Channel := hash.entries.filterMap fun entry => listed entry.2

def isOpen (name : Name) (hash : RedisStore) : Bool :=
  match get name hash with
  | .error _ => false
  | .ok channel => channel.state = .open

def freshRecord (name : Name) (ttl now : Int) : ChannelRecord where
  name := name.text
  visibility := name.visibility.text
  state := .open
  ttlSeconds := wholeSeconds ttl
  createdAt := now
  lastActive := now

def openedRecord (name : Name) (ttl now : Int) :
    Option ChannelRecord → Except CodedError (ChannelRecord × Bool)
  | some record =>
    if record.state = .deleted then
      .error (notFound "channel was deleted; create a new one")
    else
      .ok ({ record with state := .open, lastActive := now, ttlSeconds := wholeSeconds ttl },
        record.state = .closed)
  | none => .ok (freshRecord name ttl now, true)

def openPublic (name : Name) (ttl now : Int) (hash : RedisStore) :
    Except CodedError (Option Channel × Option Event) × RedisStore :=
  if name.visibility ≠ .public then
    (.error (invalidChannel "OpenPublic requires a public channel name"), hash)
  else
    match openedRecord name ttl now (hash.lookup name.text) with
    | .error error => (.error error, hash)
    | .ok (record, transition) =>
      let written := hash.insert name.text record
      let event :=
        if transition then some { kind := .opened, name := name, «at» := now } else none
      (.ok ((get name written).toOption, event), written)

def createPrivate (name : Name) (ttl now : Int) (hash : RedisStore) :
    Except CodedError (Option Channel × Option Event) × RedisStore :=
  if name.visibility ≠ .private then
    (.error (invalidChannel "CreatePrivate requires a private channel name"), hash)
  else
    match hash.lookup name.text with
    | some _ => (.error { code := .channelExists, message := "channel already exists" }, hash)
    | none =>
      let record := freshRecord name ttl now
      (.ok ((fromRecord record).toOption, some { kind := .opened, name := name, «at» := now }),
        hash.insert name.text record)

inductive Reply
  | ok
  | closed
  | deleted
  | noop
  | notFound
  deriving DecidableEq

def touchScript (field : String) (now : Int) (hash : RedisStore) : Reply × RedisStore :=
  match hash.lookup field with
  | none => (.notFound, hash)
  | some record =>
    match record.state with
    | .deleted => (.notFound, hash)
    | .closed => (.closed, hash)
    | .open => (.ok, hash.insert field { record with lastActive := now })

def touch (name : Name) (now : Int) (hash : RedisStore) : Except CodedError Unit × RedisStore :=
  let (reply, written) := touchScript name.text now hash
  match reply with
  | .ok => (.ok (), written)
  | .closed =>
    (.error { code := .channelClosed, message := "channel closed; reopen first" }, written)
  | _ => (.error (notFound "no such channel"), written)

def deleteScript (field : String) (hash : RedisStore) : Reply × RedisStore :=
  match hash.lookup field with
  | none => (.notFound, hash)
  | some record =>
    if record.state = .deleted then (.noop, hash)
    else (.deleted, hash.insert field { record with state := .deleted })

def delete (name : Name) (now : Int) (hash : RedisStore) :
    Except CodedError (Option Event) × RedisStore :=
  let (reply, written) := deleteScript name.text hash
  match reply with
  | .deleted => (.ok (some { kind := .deleted, name := name, «at» := now }), written)
  | .noop => (.ok none, written)
  | _ => (.error (notFound "no such channel"), written)

def setDeltaScript (field : String) (enabled : Bool) (hash : RedisStore) : Reply × RedisStore :=
  match hash.lookup field with
  | none => (.notFound, hash)
  | some record =>
    if record.state = .deleted then (.notFound, hash)
    else (.ok, hash.insert field { record with deltaEnabled := enabled })

def setDelta (name : Name) (enabled : Bool) (hash : RedisStore) :
    Except CodedError Unit × RedisStore :=
  let (reply, written) := setDeltaScript name.text enabled hash
  match reply with
  | .notFound => (.error (notFound "no such channel"), written)
  | _ => (.ok (), written)

/-- `tonumber(string.sub(nanos, 1, -7))`: the number without its last six digits. -/
def milliseconds (nanos : Int) : Option Int :=
  readNumber ((spell nanos).take ((spell nanos).length - 6))

def sweepRecord (nowMs : Int) (record : ChannelRecord) :
    Option (Option ChannelRecord × Option EventKind) :=
  if record.state ≠ .open then some (some record, none)
  else do
    let lastMs ← milliseconds record.lastActive
    let ttl ← readNumber (spell record.ttlSeconds)
    if nowMs - lastMs ≥ ttl * 1000 then
      if record.visibility = "private" then some (none, some .deleted)
      else some (some { record with state := .closed }, some .closed)
    else some (some record, none)

abbrev Entry := Record ChannelRecord

def sweepEntries (nowMs : Int) : List Entry → Option (List (String × EventKind)) × List Entry
  | [] => (some [], [])
  | entry :: entries =>
    match sweepRecord nowMs entry.2 with
    | none => (none, entry :: entries)
    | some (left, kind) =>
      let (rows, swept) := sweepEntries nowMs entries
      (rows.map fun rows => (kind.map fun kind => (entry.1, kind)).toList ++ rows,
        (left.map fun record => ⟨entry.1, record⟩).toList ++ swept)

theorem keys_sweepEntries (nowMs : Int) (entries : List Entry) :
    (sweepEntries nowMs entries).2.keys.Sublist entries.keys := by
  induction entries with
  | nil => exact .slnil
  | cons entry entries induction =>
    unfold sweepEntries
    cases swept : sweepRecord nowMs entry.2 with
    | none => exact .refl _
    | some result =>
      obtain ⟨left, kind⟩ := result
      cases left with
      | none => exact induction.cons entry.1
      | some record => exact induction.cons_cons entry.1

variable {left : ChannelRecord → Option ChannelRecord} {kind : ChannelRecord → Option EventKind}
  {nowMs : Int}

private theorem sweepEntries_eq {entries : List Entry}
    (swept : ∀ entry ∈ entries, sweepRecord nowMs entry.2 = some (left entry.2, kind entry.2)) :
    sweepEntries nowMs entries =
      (some (entries.filterMap fun entry => (kind entry.2).map fun kind => (entry.1, kind)),
        entries.filterMap (Records.replaceRecord left)) := by
  induction entries with
  | nil => rfl
  | cons entry entries induction =>
    have first := swept entry List.mem_cons_self
    have rest := induction fun entry member => swept entry (List.mem_cons_of_mem _ member)
    rw [sweepEntries, first, rest]
    cases reported : kind entry.2 <;> cases kept : left entry.2 <;>
      simp [Records.replaceRecord, reported, kept]

def rowEvent (now : Int) (row : String × EventKind) : Option Event :=
  (parseName row.1).toOption.map fun name => { kind := row.2, name := name, «at» := now }

def sweepFailed : CodedError :=
  { code := .internal, message := "redis Sweep", cause := some "script error" }

def sweep (now : Int) (hash : RedisStore) : Except CodedError (List Event) × RedisStore :=
  match milliseconds now with
  | none => (.error sweepFailed, hash)
  | some nowMs =>
    let written : RedisStore :=
      { entries := (sweepEntries nowMs hash.entries).2
        nodupKeys := List.Nodup.sublist (keys_sweepEntries nowMs hash.entries) hash.nodupKeys }
    match (sweepEntries nowMs hash.entries).1 with
    | none => (.error sweepFailed, written)
    | some rows => (.ok (rows.filterMap (rowEvent now)), written)

theorem sweep_eq {now : Int} {hash : RedisStore} (read : milliseconds now = some nowMs)
    (swept : ∀ entry ∈ hash.entries,
      sweepRecord nowMs entry.2 = some (left entry.2, kind entry.2)) :
    ∃ written, sweep now hash =
        (.ok ((hash.entries.filterMap fun entry =>
          (kind entry.2).map fun kind => (entry.1, kind)).filterMap (rowEvent now)), written) ∧
      ∀ key, written.lookup key = (hash.lookup key).bind left := by
  have loop := sweepEntries_eq swept
  have nodup := List.Nodup.sublist (keys_sweepEntries nowMs hash.entries) hash.nodupKeys
  refine ⟨⟨(sweepEntries nowMs hash.entries).2, nodup⟩, ?_, ?_⟩
  · simp only [sweep, read, loop]
  · intro key
    change (sweepEntries nowMs hash.entries).2.dlookup key = _
    rw [loop]
    exact Records.dlookup_replaceRecord left hash.nodupKeys key

def asRegistry : Registry RedisStore where
  get := get
  list := list
  isOpen := isOpen
  openPublic := openPublic
  createPrivate := createPrivate
  touch := touch
  delete := delete
  setDelta := setDelta
  sweep := sweep

end RedisStore

end Parsec.Channels
