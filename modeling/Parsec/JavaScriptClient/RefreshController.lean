import Parsec.Foundation.Execution

/-! # The refresh controller of the JavaScript client

The asynchronous calls on one controller, cut at their `await`s. A call that has to refresh
either joins the refresh that is under way or leads one of its own; the refresh itself runs
beside the calls that wait for it. -/

namespace Parsec.JavaScriptClient

open Foundation

structure TokenPair where
  access : Option String
  accessExp : Option Int
  refresh : String
  refreshExp : Int
  deriving DecidableEq

structure RefreshTokenResponse where
  accessToken : String
  accessExpiresUnix : Int
  refreshToken : String := ""
  refreshExpiresUnix : Int := 0
  jsonCamelCase : Bool := false
  deriving DecidableEq

namespace RefreshTokenResponse

-- The body has the names of `service.proto` unless the server was told otherwise. It has the
-- numbers as texts, with which the controller calculates like with numbers.

def texts (response : RefreshTokenResponse) : List (String × String) :=
  if response.jsonCamelCase then
    [("accessToken", response.accessToken), ("refreshToken", response.refreshToken)]
  else [("access_token", response.accessToken), ("refresh_token", response.refreshToken)]

def numbers (response : RefreshTokenResponse) : List (String × Int) :=
  if response.jsonCamelCase then
    [("accessExpiresUnix", response.accessExpiresUnix),
      ("refreshExpiresUnix", response.refreshExpiresUnix)]
  else
    [("access_expires_unix", response.accessExpiresUnix),
      ("refresh_expires_unix", response.refreshExpiresUnix)]

end RefreshTokenResponse

inductive ParsecErrorCode
  | authDenied
  | authExpired
  | internal
  | other (code : String)
  deriving DecidableEq

inductive Failure
  | parsec (code : ParsecErrorCode) (message : String)
  | foreign (cause : String)
  deriving DecidableEq

def isTerminal : ParsecErrorCode → Bool
  | .authDenied | .authExpired => true
  | .internal | .other _ => false

def Failure.terminal : Failure → Bool
  | .parsec code _ => isTerminal code
  | .foreign _ => false

def TokenPair.next (current : TokenPair) (response : RefreshTokenResponse) : TokenPair where
  access := response.texts.lookup "accessToken"
  accessExp := response.numbers.lookup "accessExpiresUnix"
  refresh := ((response.texts.lookup "refreshToken").filter (· ≠ "")).getD current.refresh
  refreshExp :=
    ((response.numbers.lookup "refreshExpiresUnix").filter (0 < ·)).getD current.refreshExp

def TokenPair.Rotated (current : TokenPair) (response : RefreshTokenResponse) : Prop :=
  response.refreshToken ≠ "" ∧ response.refreshToken ≠ current.refresh

instance (current : TokenPair) (response : RefreshTokenResponse) :
    Decidable (current.Rotated response) :=
  inferInstanceAs (Decidable (_ ∧ _))

abbrev TaskId := Nat

abbrev TimerId := Nat

/-- Where a call of `ensureFresh`, `refreshNow` or `schedulePreemptive`, or of a timer, stands.
The store is asked when a call starts to wait and answers at some time before it goes on. -/
inductive Task
  | checking
  | checked (pair : Option TokenPair)
  | leading
  | joined (flight : TaskId)
  | scheduling
  | scheduled (pair : Option TokenPair)
  | finished (result : Option (Except Failure TokenPair))
  deriving DecidableEq

inductive Flight
  | reading
  | loaded (current : Option TokenPair)
  | calling (current : TokenPair)
  | clearing (failure : Failure)
  | cleared (failure : Failure)
  | saving (next : TokenPair)
  | saved (next : TokenPair)
  | settled (result : Except Failure TokenPair)

inductive Event
  | sent (refresh : String)
  | rotated (refresh : String)
  | onTerminal (failure : Failure)
  deriving DecidableEq

/-- `refreshing` names the call that leads the refresh under way. A refresh has the number of
the call that leads it. `log` exists for the statements only. -/
structure Controller where
  store : Option TokenPair
  refreshing : Option TaskId := none
  tasks : TaskId → Option Task := fun _ => none
  flights : TaskId → Option Flight := fun _ => none
  timer : Option TimerId := none
  armed : List TimerId := []
  disposed : Bool := false
  log : List Event := []

/-- What a call that goes on may ask for: the clock in milliseconds, the random delay and the
number of a new timer. -/
structure Surroundings where
  now : Int
  jitter : Int := 0
  timer : TimerId := 0

/-- What a refresh that goes on may be told: the answer of the server, how clearing the store
failed and whether it was cleared all the same. `scheduler` is the number of the call it
starts at its end. -/
structure Answer where
  reply : Except Failure RefreshTokenResponse := .error (.foreign "")
  clearFault : Option (Bool × String) := none
  scheduler : TaskId := 0

inductive Action
  | ensureFresh (id : TaskId)
  | refreshNow (id : TaskId)
  | schedulePreemptive (id : TaskId)
  | fire (timer : TimerId) (id : TaskId)
  | dispose
  | resume (id : TaskId) (surroundings : Surroundings)
  | advance (id : TaskId) (answer : Answer)

namespace Controller

def enter (controller : Controller) (id : TaskId) (task : Task) : Controller :=
  { controller with tasks := Function.update controller.tasks id (some task) }

def fly (controller : Controller) (id : TaskId) (flight : Flight) : Controller :=
  { controller with flights := Function.update controller.flights id (some flight) }

def note (controller : Controller) (event : Event) : Controller :=
  { controller with log := controller.log ++ [event] }

def clearTimeout (controller : Controller) : Controller :=
  { controller with armed := controller.armed.filter fun timer => controller.timer ≠ some timer }

def runRefresh (controller : Controller) (id : TaskId) : Controller :=
  match controller.refreshing with
  | some flight => controller.enter id (.joined flight)
  | none => { controller with refreshing := some id }.fly id .reading |>.enter id .leading

def ensureFresh (controller : Controller) (id : TaskId) : Controller :=
  if controller.disposed then
    controller.enter id (.finished (some (.error
      (.parsec .internal "refresh controller disposed"))))
  else controller.enter id .checking

def schedulePreemptive (controller : Controller) (id : TaskId) : Controller :=
  if controller.disposed then controller.enter id (.finished none)
  else controller.clearTimeout.enter id .scheduling

def dispose (controller : Controller) : Controller :=
  { controller.clearTimeout with disposed := true, timer := none }

def arm (skewSeconds : Int) (controller : Controller) (surroundings : Surroundings) :
    Option TokenPair → Controller
  | none => controller
  | some pair =>
    if ∃ accessExp ∈ pair.accessExp, accessExp = 0 ∨
        accessExp * 1000 - surroundings.now - skewSeconds * 1000 - surroundings.jitter ≤ 0 then
      controller
    else
      { controller with
        timer := some surroundings.timer
        armed := surroundings.timer :: controller.armed }

def resume (skewSeconds : Int) (controller : Controller) (id : TaskId)
    (surroundings : Surroundings) : Option Controller :=
  match controller.tasks id with
  | some .checking => some (controller.enter id (.checked controller.store))
  | some (.checked pair) =>
    match pair with
    | some pair =>
      if ∃ accessExp ∈ pair.accessExp, skewSeconds * 1000 < accessExp * 1000 - surroundings.now
      then
        some (controller.enter id (.finished (some (.ok pair))))
      else some (controller.runRefresh id)
    | none => some (controller.runRefresh id)
  | some .leading =>
    match controller.flights id with
    | some (.settled result) =>
      some ({ controller with refreshing := none }.enter id (.finished (some result)))
    | _ => none
  | some (.joined flight) =>
    match controller.flights flight with
    | some (.settled result) => some (controller.enter id (.finished (some result)))
    | _ => none
  | some .scheduling => some (controller.enter id (.scheduled controller.store))
  | some (.scheduled pair) =>
    some ((controller.arm skewSeconds surroundings pair).enter id (.finished none))
  | some (.finished _) | none => none

def expire (controller : Controller) (id : TaskId) : Controller :=
  let failure := Failure.parsec .authExpired "no refresh token available"
  (controller.note (.onTerminal failure)).fly id (.settled (.error failure))

def advance (controller : Controller) (id : TaskId) (answer : Answer) : Option Controller :=
  match controller.flights id with
  | some .reading => some (controller.fly id (.loaded controller.store))
  | some (.loaded none) => some (controller.expire id)
  | some (.loaded (some current)) =>
    if current.refresh = "" then some (controller.expire id)
    else some ((controller.note (.sent current.refresh)).fly id (.calling current))
  | some (.calling current) =>
    match answer.reply with
    | .error failure =>
      if failure.terminal then some (controller.fly id (.clearing failure))
      else some (controller.fly id (.settled (.error failure)))
    | .ok response =>
      let noted := if current.Rotated response then controller.note (.rotated current.refresh)
        else controller
      some (noted.fly id (.saving (current.next response)))
  | some (.clearing failure) =>
    match answer.clearFault with
    | none => some ({ controller with store := none }.fly id (.cleared failure))
    | some (applied, cause) =>
      let store := if applied then none else controller.store
      some ({ controller with store := store }.fly id (.settled (.error (.foreign cause))))
  | some (.cleared failure) =>
    some ((controller.note (.onTerminal failure)).fly id (.settled (.error failure)))
  | some (.saving next) => some ({ controller with store := some next }.fly id (.saved next))
  | some (.saved next) =>
    if controller.tasks answer.scheduler = none then
      some ((controller.schedulePreemptive answer.scheduler).fly id (.settled (.ok next)))
    else none
  | some (.settled _) | none => none

def opened (store : Option TokenPair) : Controller := { store := store }

def step (skewSeconds : Int) : Step Controller Action := fun controller action =>
  match action with
  | .ensureFresh id =>
    if controller.tasks id = none then some (controller.ensureFresh id) else none
  | .refreshNow id =>
    if controller.tasks id = none then some (controller.runRefresh id) else none
  | .schedulePreemptive id =>
    if controller.tasks id = none then some (controller.schedulePreemptive id) else none
  | .fire timer id =>
    if timer ∈ controller.armed ∧ controller.tasks id = none then
      some ({ controller with armed := controller.armed.erase timer }.runRefresh id)
    else none
  | .dispose => some controller.dispose
  | .resume id surroundings => controller.resume skewSeconds id surroundings
  | .advance id answer => controller.advance id answer

/-! ## What a step does -/

variable {controller next : Controller} {id other : TaskId}

theorem enter_tasks_self (task : Task) : (controller.enter id task).tasks id = some task :=
  Function.update_self _ _ _

theorem enter_tasks_other (task : Task) (different : other ≠ id) :
    (controller.enter id task).tasks other = controller.tasks other :=
  Function.update_of_ne different _ _

variable (flight : Flight)

theorem fly_flights_self : (controller.fly id flight).flights id = some flight :=
  Function.update_self _ _ _

theorem fly_flights_other (different : other ≠ id) :
    (controller.fly id flight).flights other = controller.flights other :=
  Function.update_of_ne different _ _

inductive Resumes (controller : Controller) (id : TaskId) : Controller → Prop
  | moved {task after} :
      controller.tasks id = some task → task ≠ .leading → after ≠ .leading →
      Resumes controller id (controller.enter id after)
  | ran {pair} :
      controller.tasks id = some (.checked pair) →
      Resumes controller id (controller.runRefresh id)
  | led {result} :
      controller.tasks id = some .leading →
      controller.flights id = some (.settled result) →
      Resumes controller id
        ({ controller with refreshing := none }.enter id (.finished (some result)))
  | armed {pair timer armed} :
      controller.tasks id = some (.scheduled pair) →
      Resumes controller id
        ({ controller with timer := timer, armed := armed }.enter id (.finished none))

theorem resumes_of_resume {skewSeconds : Int} {surroundings : Surroundings}
    (taken : controller.resume skewSeconds id surroundings = some next) :
    Resumes controller id next := by
  unfold resume at taken
  cases called : controller.tasks id with
  | none => simp [called] at taken
  | some task =>
    rw [called] at taken
    cases task with
    | checking | scheduling =>
      cases taken
      exact .moved called (by simp) (by simp)
    | checked pair =>
      cases pair with
      | none =>
        cases taken
        exact .ran called
      | some pair =>
        simp only at taken
        split at taken
        · cases taken
          exact .moved called (by simp) (by simp)
        · cases taken
          exact .ran called
    | leading =>
      simp only at taken
      split at taken
      · rename_i settled
        cases taken
        exact .led called settled
      · cases taken
    | joined flight =>
      simp only at taken
      split at taken
      · cases taken
        exact .moved called (by simp) (by simp)
      · cases taken
    | scheduled pair =>
      cases taken
      have armed : ∃ timer armed, controller.arm skewSeconds surroundings pair =
          { controller with timer := timer, armed := armed } := by
        unfold arm
        split
        · exact ⟨_, _, rfl⟩
        · split <;> exact ⟨_, _, rfl⟩
      rcases armed with ⟨timer, armed, equal⟩
      rw [equal]
      exact .armed called
    | finished result => cases taken

inductive Advances (controller : Controller) (id : TaskId) (answer : Answer) : Controller → Prop
  | loaded :
      controller.flights id = some .reading →
      Advances controller id answer (controller.fly id (.loaded controller.store))
  | expired {current} :
      controller.flights id = some (.loaded current) →
      Advances controller id answer (controller.expire id)
  | sent {current} :
      controller.flights id = some (.loaded (some current)) →
      Advances controller id answer
        ((controller.note (.sent current.refresh)).fly id (.calling current))
  | failed {current failure} :
      controller.flights id = some (.calling current) → answer.reply = .error failure →
      Advances controller id answer (controller.fly id
        (if failure.terminal then .clearing failure else .settled (.error failure)))
  | kept {current response} :
      controller.flights id = some (.calling current) → answer.reply = .ok response →
      ¬ current.Rotated response →
      Advances controller id answer (controller.fly id (.saving (current.next response)))
  | rotated {current response} :
      controller.flights id = some (.calling current) → answer.reply = .ok response →
      current.Rotated response →
      Advances controller id answer ((controller.note (.rotated current.refresh)).fly id
        (.saving (current.next response)))
  | cleared {failure} :
      controller.flights id = some (.clearing failure) →
      Advances controller id answer ({ controller with store := none }.fly id (.cleared failure))
  | uncleared {failure cause} {applied : Bool} :
      controller.flights id = some (.clearing failure) →
      Advances controller id answer
        ({ controller with store := if applied then none else controller.store }.fly id
          (.settled (.error (.foreign cause))))
  | ended {failure} :
      controller.flights id = some (.cleared failure) →
      Advances controller id answer
        ((controller.note (.onTerminal failure)).fly id (.settled (.error failure)))
  | saved {pair} :
      controller.flights id = some (.saving pair) →
      Advances controller id answer ({ controller with store := some pair }.fly id (.saved pair))
  | settled {pair} :
      controller.flights id = some (.saved pair) → controller.tasks answer.scheduler = none →
      Advances controller id answer
        ((controller.schedulePreemptive answer.scheduler).fly id (.settled (.ok pair)))

theorem advances_of_advance {answer : Answer} (taken : controller.advance id answer = some next) :
    Advances controller id answer next := by
  unfold advance at taken
  cases found : controller.flights id with
  | none => simp [found] at taken
  | some flight =>
    rw [found] at taken
    cases flight with
    | reading =>
      cases taken
      exact .loaded found
    | loaded current =>
      cases current with
      | none =>
        cases taken
        exact .expired found
      | some current =>
        simp only at taken
        split at taken
        · cases taken
          exact .expired found
        · cases taken
          exact .sent found
    | calling current =>
      simp only at taken
      split at taken
      · rename_i failure replied
        have moved : Advances controller id answer _ := .failed found replied
        split at taken
        · rename_i terminal
          cases taken
          rw [if_pos terminal] at moved
          exact moved
        · rename_i passing
          cases taken
          rw [if_neg passing] at moved
          exact moved
      · rename_i response replied
        split at taken
        · rename_i rotated
          cases taken
          exact .rotated found replied rotated
        · rename_i kept
          cases taken
          exact .kept found replied kept
    | clearing failure =>
      simp only at taken
      split at taken
      · cases taken
        exact .cleared found
      · cases taken
        exact .uncleared found
    | cleared failure =>
      cases taken
      exact .ended found
    | saving pair =>
      cases taken
      exact .saved found
    | saved pair =>
      simp only at taken
      split at taken
      · rename_i free
        cases taken
        exact .settled found free
      · cases taken
    | settled result => cases taken

end Controller

/-! ## Disposing of a controller

`dispose` clears the timer the controller knows of and refuses new calls of two methods. What was
waiting at that moment goes on, and `refreshNow` never asks. -/

def Task.undecided : Task → Bool
  | .checking | .checked _ | .scheduling | .scheduled _ => true
  | .leading | .joined _ | .finished _ => false

def Flight.unsent : Flight → Bool
  | .reading | .loaded _ => true
  | _ => false

namespace Controller

def requests (controller : Controller) : List String :=
  controller.log.filterMap fun
    | .sent refresh => some refresh
    | .rotated _ | .onTerminal _ => none

structure Decided (controller : Controller) : Prop where
  tasks : ∀ id task, controller.tasks id = some task → task.undecided = false
  flights : ∀ id flight, controller.flights id = some flight → flight.unsent = false

structure Quiet (controller : Controller) : Prop extends controller.Decided where
  timers : ∀ timer ∈ controller.armed, controller.timer = some timer

structure Retired (requests : List String) (controller : Controller) : Prop
    extends controller.Decided where
  disposed : controller.disposed = true
  armed : controller.armed = []
  silent : controller.requests = requests

def Unforced (_ : Controller) : Action → Prop
  | .refreshNow _ => False
  | _ => True

variable {controller next : Controller} {id : TaskId}

theorem Decided.enter (decided : controller.Decided) {task : Task}
    (settled : task.undecided = false) : (controller.enter id task).Decided where
  flights := decided.flights
  tasks := by
    intro other found entered
    rcases eq_or_ne other id with rfl | different
    · rw [enter_tasks_self] at entered
      cases entered
      exact settled
    · rw [enter_tasks_other task different] at entered
      exact decided.tasks other found entered

theorem Decided.fly (decided : controller.Decided) {flight : Flight}
    (sent : flight.unsent = false) : (controller.fly id flight).Decided where
  tasks := decided.tasks
  flights := by
    intro other found entered
    rcases eq_or_ne other id with rfl | different
    · rw [fly_flights_self] at entered
      cases entered
      exact sent
    · rw [fly_flights_other flight different] at entered
      exact decided.flights other found entered

variable {requests : List String}

section

variable (retired : Retired requests controller)
include retired

theorem Retired.enter {task : Task} (settled : task.undecided = false) :
    Retired requests (controller.enter id task) :=
  ⟨retired.toDecided.enter settled, retired.disposed, retired.armed, retired.silent⟩

theorem Retired.fly {flight : Flight} (sent : flight.unsent = false) :
    Retired requests (controller.fly id flight) :=
  ⟨retired.toDecided.fly sent, retired.disposed, retired.armed, retired.silent⟩

theorem Retired.note {event : Event} (quiet : ∀ refresh, event ≠ .sent refresh) :
    Retired requests (controller.note event) := by
  refine ⟨⟨retired.tasks, retired.flights⟩, retired.disposed, retired.armed, ?_⟩
  rw [← retired.silent, Controller.requests, Controller.note, List.filterMap_append]
  cases event with
  | sent refresh => exact absurd rfl (quiet refresh)
  | rotated | onTerminal => simp [Controller.requests]

variable {skewSeconds : Int}

theorem Retired.resume {surroundings : Surroundings}
    (taken : controller.resume skewSeconds id surroundings = some next) :
    Retired requests next := by
  unfold Controller.resume at taken
  cases called : controller.tasks id with
  | none => simp [called] at taken
  | some task =>
    have decided := retired.tasks id task called
    rw [called] at taken
    cases task with
    | checking | checked | scheduling | scheduled => cases decided
    | finished => cases taken
    | leading =>
      dsimp only at taken
      split at taken
      · cases taken
        have idle : Retired requests { controller with refreshing := none } :=
          ⟨⟨retired.tasks, retired.flights⟩, retired.disposed, retired.armed, retired.silent⟩
        exact idle.enter rfl
      · cases taken
    | joined flight =>
      dsimp only at taken
      split at taken
      · cases taken
        exact retired.enter rfl
      · cases taken

theorem Retired.advance {answer : Answer} (advances : Advances controller id answer next) :
    Retired requests next := by
  have stored : ∀ store, Retired requests { controller with store := store } := fun _ =>
    ⟨⟨retired.tasks, retired.flights⟩, retired.disposed, retired.armed, retired.silent⟩
  cases advances with
  | loaded found | expired found | sent found => cases retired.flights id _ found
  | failed =>
    split <;> exact retired.fly rfl
  | kept => exact retired.fly rfl
  | rotated | ended => exact (retired.note (by simp)).fly rfl
  | cleared | uncleared | saved => exact (stored _).fly rfl
  | settled =>
    rw [schedulePreemptive, if_pos retired.disposed]
    exact (retired.enter rfl).fly rfl

theorem Retired.step {action : Action} (unforced : Unforced controller action)
    (taken : step skewSeconds controller action = some next) : Retired requests next := by
  cases action with
  | refreshNow => cases unforced
  | ensureFresh id | schedulePreemptive id =>
    simp only [Controller.step, Controller.ensureFresh, Controller.schedulePreemptive,
      retired.disposed, if_true] at taken
    split_ifs at taken
    cases taken
    exact retired.enter rfl
  | fire timer id => simp [Controller.step, retired.armed] at taken
  | dispose =>
    cases taken
    refine ⟨⟨retired.tasks, retired.flights⟩, rfl, ?_, retired.silent⟩
    simp [Controller.dispose, clearTimeout, retired.armed]
  | resume id surroundings => exact retired.resume taken
  | advance id answer => exact retired.advance (advances_of_advance taken)

end

theorem Quiet.dispose (quiet : controller.Quiet) :
    Retired controller.requests controller.dispose := by
  refine ⟨⟨quiet.tasks, quiet.flights⟩, rfl, ?_, rfl⟩
  apply List.filter_eq_nil_iff.mpr
  intro timer armed
  simp [quiet.timers timer armed]

end Controller

/-- When nothing is waiting at the moment of `dispose` that would refresh or set a timer, and no
timer has been lost, no request is sent and no timer is pending afterwards, as long as
`refreshNow` is not called. -/
theorem quiet_dispose_final {controller final : Controller} (quiet : controller.Quiet)
    {skewSeconds : Int} {actions : List Action}
    (run : Run (Controller.step skewSeconds) Controller.Unforced controller.dispose actions final) :
    final.requests = controller.requests ∧ final.armed = [] := by
  have retired := run.invariant (Controller.Retired controller.requests)
    (fun _ _ _ holds unforced taken => holds.step unforced taken) quiet.dispose
  exact ⟨retired.silent, retired.armed⟩

def heldPair : TokenPair where
  access := some "a1"
  accessExp := some 1000
  refresh := "r1"
  refreshExp := 0

theorem refused_after_dispose :
    ∃ final, Run (Controller.step 30) Controller.Unforced
        (Controller.opened (some heldPair)).dispose [.ensureFresh 0, .schedulePreemptive 1] final ∧
      final.requests = [] ∧ final.armed = [] := by
  have quiet : (Controller.opened (some heldPair)).Quiet := ⟨⟨nofun, nofun⟩, nofun⟩
  have run : Run (Controller.step 30) Controller.Unforced
      (Controller.opened (some heldPair)).dispose [.ensureFresh 0, .schedulePreemptive 1] _ :=
    .cons trivial rfl (.cons trivial rfl (.nil _))
  exact ⟨_, run, quiet_dispose_final quiet run⟩

def outcome (actions : List Action) : Option (List String × List TimerId) :=
  (execute (Controller.step 30) unrestricted (.opened (some heldPair)) actions).map
    fun final => (final.requests, final.armed)

/-- A refresh after `dispose`, a refresh and a timer decided on before it, and a timer that was
forgotten. -/
theorem dispose_overtaken :
    outcome [.dispose, .refreshNow 0, .advance 0 {}, .advance 0 {}] = some (["r1"], []) ∧
      outcome [.ensureFresh 0, .dispose, .resume 0 { now := 2000000 },
        .resume 0 { now := 2000000 }, .advance 0 {}, .advance 0 {}] = some (["r1"], []) ∧
      outcome [.schedulePreemptive 0, .dispose, .resume 0 { now := 0 },
        .resume 0 { now := 0, timer := 1 }] = some ([], [1]) ∧
      outcome [.schedulePreemptive 0, .schedulePreemptive 1, .resume 0 { now := 0 },
        .resume 1 { now := 0 }, .resume 0 { now := 0, timer := 1 },
        .resume 1 { now := 0, timer := 2 }, .dispose] = some ([], [1]) := by
  decide +kernel

end Parsec.JavaScriptClient
