import Parsec.Foundation.Delimited
import Parsec.Foundation.Execution
import Parsec.Foundation.Fencing
import Parsec.Auth.RedisKeyRingStore

/-! # Saving rings to Secret Manager

`Save` cut at every call of the remote service, on any number of nodes. A version is appended
without a condition; only the text of the write lease is guarded, by the etag of the secret.
The clocks of the nodes are not related in any way. -/

namespace Parsec.SecretManager

open Foundation Auth

def millisecond : Int := 1000000

structure Lease where
  owner : Text
  expires : Int
  deriving DecidableEq

def decimal (number : Int) : Text :=
  if number < 0 then '-' :: Nat.toDigits 10 number.natAbs else Nat.toDigits 10 number.natAbs

def readDigits : Text → Option Nat
  | [] => none
  | text => text.foldlM
      (fun number digit =>
        if digit.isDigit then some (10 * number + (digit.toNat - '0'.toNat)) else none) 0

def parseInt64 (text : Text) : Option Int :=
  let number : Option Int :=
    match text with
    | '-' :: digits => (readDigits digits).map fun size => -(size : Int)
    | '+' :: digits => (readDigits digits).map Int.ofNat
    | digits => (readDigits digits).map Int.ofNat
  number.filter fun value => -2 ^ 63 ≤ value && value < 2 ^ 63

namespace Lease

def encode (lease : Lease) : Text := lease.owner ++ ':' :: decimal (lease.expires / millisecond)

end Lease

def parseLease (text : Text) : Option Lease :=
  match text.reverse.span (· ≠ ':') with
  | (_, []) => none
  | (digits, _ :: owner) =>
    if owner = [] then none
    else (parseInt64 digits.reverse).map fun milliseconds =>
      { owner := owner.reverse, expires := milliseconds * millisecond }

/-- A lease for somebody else that has not run out at `now`. -/
def heldByAnother (lock owner : Text) (now : Int) : Option Lease :=
  (parseLease lock).filter fun held => held.owner ≠ owner ∧ now < held.expires

theorem readDigits_toDigits (number : Nat) : readDigits (Nat.toDigits 10 number) = some number := by
  have read : ∀ (digits : Text) (value : Nat), (∀ digit ∈ digits, digit.isDigit = true) →
      digits.foldlM (fun number digit =>
        if digit.isDigit then some (10 * number + (digit.toNat - '0'.toNat)) else none) value =
          some (Nat.ofDigitChars 10 digits value) := by
    intro digits
    induction digits with
    | nil => exact fun _ _ => rfl
    | cons digit digits induction =>
      intro value all
      rw [List.foldlM_cons, if_pos (all digit List.mem_cons_self), Option.bind_eq_bind,
        Option.bind_some, induction _ fun other member => all other (.tail _ member)]
      rfl
  have all : ∀ digit ∈ Nat.toDigits 10 number, digit.isDigit = true := fun digit member =>
    Nat.isDigit_of_mem_toDigits (by decide) (by decide) member
  cases digits : Nat.toDigits 10 number with
  | nil => exact absurd digits Nat.toDigits_ne_nil
  | cons digit rest =>
    rw [digits] at all
    rw [readDigits, read _ _ all, ← digits, Nat.ofDigitChars_ten_toDigits]
    simp

theorem parseInt64_decimal {number : Int} (fits : -2 ^ 63 ≤ number ∧ number < 2 ^ 63) :
    parseInt64 (decimal number) = some number := by
  refine Option.filter_eq_some_iff.mpr ⟨?_, by simpa using fits⟩
  by_cases negative : number < 0
  · have size : -(number.natAbs : Int) = number := by omega
    simp only [decimal, if_pos negative, readDigits_toDigits]
    exact congrArg some size
  · have size : (number.natAbs : Int) = number := by omega
    have read := readDigits_toDigits number.natAbs
    cases digits : Nat.toDigits 10 number.natAbs with
    | nil => exact absurd digits Nat.toDigits_ne_nil
    | cons digit rest =>
      have isDigit : digit.isDigit = true :=
        Nat.isDigit_of_mem_toDigits (by decide) (by decide) (digits ▸ List.mem_cons_self)
      -- a digit is no sign
      have minus : digit ≠ '-' := by
        rintro rfl
        exact absurd isDigit (by decide)
      have plus : digit ≠ '+' := by
        rintro rfl
        exact absurd isDigit (by decide)
      rw [digits] at read
      simp [decimal, negative, digits, minus, plus, read, size]

theorem colon_not_mem_decimal (number : Int) : ':' ∉ decimal number := by
  have digits : ':' ∉ Nat.toDigits 10 number.natAbs := fun member =>
    absurd (Nat.isDigit_of_mem_toDigits (by decide) (by decide) member) (by decide)
  by_cases negative : number < 0 <;> simp [decimal, negative, digits]

namespace Lease

/-- Someone holds the lease, until a time whose milliseconds are a 64-bit number. -/
structure Writable (lease : Lease) : Prop where
  owned : lease.owner ≠ []
  fits : -2 ^ 63 ≤ lease.expires / millisecond ∧ lease.expires / millisecond < 2 ^ 63

private theorem encode_cut (lease : Lease) :
    lease.encode.reverse.span (· ≠ ':') =
      ((decimal (lease.expires / millisecond)).reverse, ':' :: lease.owner.reverse) := by
  have last : ':' ∉ (decimal (lease.expires / millisecond)).reverse := by
    rw [List.mem_reverse]
    exact colon_not_mem_decimal _
  rw [encode, List.reverse_append, List.reverse_cons, List.append_assoc]
  exact span_delimited last lease.owner.reverse

/-- A lease is read back with its owner, whatever the owner is called, and with its expiry in
whole milliseconds; leases of different owners are never written alike. -/
theorem lease_round_trip (lease : Lease) (writable : lease.Writable) :
    parseLease lease.encode =
        some { lease with expires := lease.expires / millisecond * millisecond } ∧
      ∀ other : Lease, other.owner ≠ lease.owner → other.encode ≠ lease.encode := by
  constructor
  · rw [parseLease, encode_cut]
    simp [writable.owned, parseInt64_decimal writable.fits]
  · intro other different same
    have cut := encode_cut other
    rw [same, encode_cut lease] at cut
    injection cut with times owners
    injection owners with colon owners
    exact different (List.reverse_injective owners.symm)

theorem colon_owner_read_back :
    parseLease (Lease.encode ⟨"node:7".toList, 1999999⟩) = some ⟨"node:7".toList, 1000000⟩ :=
  (lease_round_trip ⟨"node:7".toList, 1999999⟩ ⟨by decide, by decide⟩).1

end Lease

/-- `lock` is the text of the lease, empty when there is none. The etag counts the updates of
the secret; adding a version is not one. Version `n` is the entry before position `n`. -/
structure Secret where
  created : Bool
  etag : Nat
  lock : Text
  versions : List Snapshot

namespace Secret

def latest (secret : Secret) : Int := secret.versions.length

/-- `CreateSecret`. Creating it twice changes nothing. -/
def create (secret : Secret) : Secret :=
  if secret.created then secret
  else { secret with created := true, etag := secret.etag + 1, lock := [] }

def update (secret : Secret) (etag : Nat) (lock : Text) : Option Secret :=
  if secret.created ∧ secret.etag = etag then
    some { secret with etag := secret.etag + 1, lock := lock }
  else none

def add (secret : Secret) (body : Snapshot) : Secret :=
  { secret with versions := secret.versions ++ [body] }

end Secret

structure Config where
  nodeID : Text
  lockTTL : Int
  lockWait : Int

/-- What all nodes share: the format of a ring, the length of its text, how durations print
and the name of the secret. -/
structure Setting where
  codec : Codec
  size : Snapshot → Nat
  showDuration : Int → String
  secretName : String

def maxPayloadBytes : Nat := 64 * 1024

/-- How a call of the service ends. One that fails may have had its effect, and may claim
that the etag had moved. -/
inductive Answer
  | delivered
  | failed (applied contention : Bool) (text : String)
  deriving DecidableEq

def Answer.applies : Answer → Bool
  | delivered => true
  | failed applied _ _ => applied

/-- What a step meets: its clock readings in order, whether the caller has given up, and the
answer of the service. -/
structure Moment where
  now : Int := 0
  later : Int := 0
  cancelled : Option String := none
  answer : Answer := .delivered

/-- A call of `Save`: the encoded ring and `lastVersion` at the start. -/
structure Save where
  body : Snapshot
  expected : Int
  deriving DecidableEq

structure Saved extends Save where
  written : Int
  deriving DecidableEq

/-- Where `Save` stands, the next call of the service being the one it is named after. The
etag that a lease was written under is kept for the statements only, and so is the number
`current` after the comparison. -/
inductive Stage
  | idle
  | getSecret (body : Snapshot)
  | createSecret (body : Snapshot)
  | readLease (save : Save) (giveUp : Int)
  | writeLease (save : Save) (giveUp : Int) (etag : Nat) (mine : Lease)
  | readLatest (save : Save) (lease : Nat)
  | addVersion (save : Save) (lease : Nat) (current : Int)
  | readRelease (result : Except String Saved)
  | writeRelease (result : Except String Saved) (etag : Nat)

/-- `loads` are the version numbers that running loads have read and not yet recorded. -/
structure Node where
  lastVersion : Int := versionUnknown
  secretReady : Bool := false
  loads : List Int := []
  stage : Stage := .idle

/-- A step of `Save`: the node, the secret, and what `Save` returned if it did. -/
structure Advanced where
  node : Node
  secret : Secret
  returned : Option (Except String Saved) := none

section

variable (setting : Setting) (config : Config) (secret : Secret) (node : Node) (moment : Moment)

def Node.at (node : Node) (stage : Stage) : Node := { node with stage := stage }

def proceed (stage : Stage) : Advanced := { node := node.at stage, secret := secret }

def finish (result : Except String Saved) : Advanced :=
  { node := node.at .idle, secret := secret, returned := some result }

def waitBeforeRetry (giveUp : Int) : Except String Unit :=
  if giveUp < moment.later then .error ("gave up after " ++ setting.showDuration config.lockWait)
  else
    match moment.cancelled with
    | some text => .error text
    | none => .ok ()

def retry (save : Save) (giveUp : Int) (problem : String) : Advanced :=
  match waitBeforeRetry setting config moment giveUp with
  | .error text => finish secret node (.error (problem ++ ": " ++ text))
  | .ok () => proceed secret node (.readLease save giveUp)

def beginSave (body : Snapshot) : Advanced :=
  proceed secret { node with secretReady := true }
    (.readLease { body := body, expected := node.lastVersion } (moment.now + config.lockWait))

def getSecretError (text : String) : String :=
  "gcpsecretmanager: get secret " ++ setting.secretName ++ ": " ++ text

def advanceReadLease (save : Save) (giveUp : Int) : Advanced :=
  match moment.answer with
  | .failed _ _ text => finish secret node (.error (getSecretError setting text))
  | .delivered =>
    if secret.created = false then
      finish secret node (.error (getSecretError setting "secret not found"))
    else
      match heldByAnother secret.lock config.nodeID moment.now with
      | some held =>
        retry setting config secret node moment save giveUp
          ("gcpsecretmanager: keyring write lease held by " ++
            (String.ofList held.owner).quote ++ " for another " ++
            setting.showDuration (held.expires - moment.later))
      | none =>
        proceed secret node (.writeLease save giveUp secret.etag
          { owner := config.nodeID, expires := moment.later + config.lockTTL })

def takeLeaseError : String := "gcpsecretmanager: take keyring write lease"

def settleUpdate (etag : Nat) (lock : Text) : Secret :=
  if moment.answer.applies then (secret.update etag lock).getD secret else secret

def advanceWriteLease (save : Save) (giveUp : Int) (etag : Nat) (mine : Lease) : Advanced :=
  let after := settleUpdate secret moment etag mine.encode
  match moment.answer with
  | .delivered =>
    match secret.update etag mine.encode with
    | some updated => proceed updated node (.readLatest save updated.etag)
    | none => retry setting config secret node moment save giveUp takeLeaseError
  | .failed _ true _ => retry setting config after node moment save giveUp takeLeaseError
  | .failed _ false text => finish after node (.error (takeLeaseError ++ ": " ++ text))

def advanceReadLatest (save : Save) (lease : Nat) : Advanced :=
  match moment.answer with
  | .failed _ _ text =>
    proceed secret node (.readRelease (.error ("gcpsecretmanager: get latest version of " ++
      setting.secretName ++ ": " ++ text)))
  | .delivered =>
    if save.expected ≠ versionUnknown ∧ secret.latest ≠ save.expected then
      proceed secret node (.readRelease (.error errKeyRingConflict))
    else proceed secret node (.addVersion save lease secret.latest)

def advanceAddVersion (save : Save) : Advanced :=
  match moment.answer with
  | .failed applied _ text =>
    proceed (if applied then secret.add save.body else secret) node
      (.readRelease (.error ("gcpsecretmanager: add version to " ++ setting.secretName ++
        ": " ++ text)))
  | .delivered =>
    let written := (secret.add save.body).latest
    proceed (secret.add save.body) { node with lastVersion := written }
      (.readRelease (.ok { save with written := written }))

/-- Only a lease of this node is cleared; whatever happens, the result stands. -/
def advanceReadRelease (result : Except String Saved) : Advanced :=
  match moment.answer with
  | .failed _ _ _ => finish secret node result
  | .delivered =>
    match parseLease secret.lock with
    | none => finish secret node result
    | some held =>
      if held.owner ≠ config.nodeID then finish secret node result
      else proceed secret node (.writeRelease result secret.etag)

def advance : Option Advanced :=
  match node.stage with
  | .idle => none
  | .getSecret body =>
    match moment.answer with
    | .failed _ _ text => some (finish secret node (.error (getSecretError setting text)))
    | .delivered =>
      if secret.created then some (beginSave config secret node moment body)
      else some (proceed secret node (.createSecret body))
  | .createSecret body =>
    match moment.answer with
    | .failed applied _ text =>
      some (finish (if applied then secret.create else secret) node
        (.error ("gcpsecretmanager: create secret " ++ setting.secretName ++ ": " ++ text)))
    | .delivered => some (beginSave config secret.create node moment body)
  | .readLease save giveUp => some (advanceReadLease setting config secret node moment save giveUp)
  | .writeLease save giveUp etag mine =>
    some (advanceWriteLease setting config secret node moment save giveUp etag mine)
  | .readLatest save lease => some (advanceReadLatest setting secret node moment save lease)
  | .addVersion save _ _ => some (advanceAddVersion setting secret node moment save)
  | .readRelease result => some (advanceReadRelease config secret node moment result)
  | .writeRelease result etag => some (finish (settleUpdate secret moment etag []) node result)

def startSave (ring : KeyRing) : Advanced :=
  let body := encodeKeyRing setting.codec ring
  if maxPayloadBytes < setting.size body then
    finish secret node (.error ("gcpsecretmanager: keyring snapshot is " ++
      toString (setting.size body) ++ " bytes, over Secret Manager's " ++
      toString maxPayloadBytes ++ " byte version limit"))
  else if node.secretReady then beginSave config secret node moment body
  else proceed secret node (.getSecret body)

end

/-- `outside` is anyone else who edits the secret. A restarted process has forgotten
everything; what it was writing was applied before or not at all. -/
inductive Action
  | save (ring : KeyRing) (moment : Moment)
  | advance (moment : Moment)
  | access
  | record (position : Nat)
  | restart
  | outside (lock : Text)

/-- `returns` lists what the calls of `Save` returned, newest first. -/
structure World (NodeId : Type) where
  secret : Secret
  nodes : NodeId → Node
  returns : List (Except String Saved)

namespace World

variable {NodeId : Type}

def initial (secret : Secret) : World NodeId where
  secret := secret
  nodes := fun _ => {}
  returns := []

variable [DecidableEq NodeId]

def setNode (world : World NodeId) (name : NodeId) (node : Node) : World NodeId :=
  { world with nodes := Function.update world.nodes name node }

def settle (world : World NodeId) (name : NodeId) (advanced : Advanced) : World NodeId where
  secret := advanced.secret
  nodes := Function.update world.nodes name advanced.node
  returns := advanced.returned.toList ++ world.returns

def step (setting : Setting) (config : NodeId → Config) (world : World NodeId)
    (action : NodeId × Action) : Option (World NodeId) :=
  let name := action.1
  let node := world.nodes name
  match action.2 with
  | .save ring moment =>
    match node.stage with
    | .idle => some (world.settle name
        (startSave setting (config name) world.secret node moment ring))
    | _ => none
  | .advance moment =>
    (advance setting (config name) world.secret node moment).map (world.settle name)
  | .access =>
    some (world.setNode name { node with loads := node.loads ++ [world.secret.latest] })
  | .record position =>
    match node.loads[position]? with
    | none => none
    | some version =>
      some (world.setNode name
        { node with lastVersion := version, loads := node.loads.eraseIdx position })
  | .restart => some (world.setNode name {})
  | .outside lock =>
    some { world with secret := { world.secret with
      etag := world.secret.etag + 1, lock := lock } }

end World

end Parsec.SecretManager
