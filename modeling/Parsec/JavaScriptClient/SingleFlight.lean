import Parsec.JavaScriptClient.RefreshController

/-! # One refresh at a time

The call that leads a refresh is the one the controller's state names, from before the first
`await` of the refresh until after its last. -/

namespace Parsec.JavaScriptClient

open Foundation

namespace Controller

variable {controller : Controller} {id : TaskId}

/-! ## Refreshes do not overlap -/

def Flying (controller : Controller) (id : TaskId) : Prop :=
  ∃ flight, controller.flights id = some flight ∧ ∀ result, flight ≠ .settled result

structure Single (controller : Controller) : Prop where
  leading : ∀ id, controller.tasks id = some .leading → controller.refreshing = some id
  flying : ∀ id, controller.Flying id → controller.tasks id = some .leading

variable {other : TaskId}

theorem Single.unique (single : controller.Single) (first : controller.Flying id)
    (second : controller.Flying other) : id = other := by
  have one := single.leading id (single.flying id first)
  have two := single.leading other (single.flying other second)
  rw [one] at two
  exact Option.some.inj two

theorem Single.idle (single : controller.Single) (idle : controller.refreshing = none) :
    controller.tasks id ≠ some .leading := by
  intro leads
  rw [single.leading id leads] at idle
  cases idle

theorem flying_fly_other {flight : Flight} (different : other ≠ id) :
    (controller.fly id flight).Flying other ↔ controller.Flying other := by
  unfold Flying
  rw [fly_flights_other flight different]

theorem Single.enter (single : controller.Single) {task : Task}
    (before : controller.tasks id ≠ some .leading) (after : task ≠ .leading) :
    (controller.enter id task).Single where
  leading := by
    intro other leads
    by_cases same : other = id
    · subst same
      rw [enter_tasks_self] at leads
      exact absurd (Option.some.inj leads) after
    · rw [enter_tasks_other task same] at leads
      exact single.leading other leads
  flying := by
    intro other flying
    have leads := single.flying other flying
    by_cases same : other = id
    · subst same
      exact absurd leads before
    · rw [enter_tasks_other task same]
      exact leads

theorem Single.fly (single : controller.Single) (flight : Flight) (flying : controller.Flying id) :
    (controller.fly id flight).Single where
  leading := single.leading
  flying := by
    intro other after
    by_cases same : other = id
    · subst same
      exact single.flying other flying
    · exact single.flying other ((flying_fly_other same).mp after)

section

variable (single : controller.Single)
include single

theorem Single.runRefresh (before : controller.tasks id ≠ some .leading) :
    (controller.runRefresh id).Single := by
  unfold Controller.runRefresh
  split
  · exact single.enter before (by simp)
  · rename_i idle
    constructor
    · intro other leads
      by_cases same : other = id
      · subst same
        rfl
      · rw [enter_tasks_other _ same] at leads
        exact absurd leads (single.idle idle)
    · intro other flying
      by_cases same : other = id
      · subst same
        exact enter_tasks_self _
      · exact absurd (single.flying other ((flying_fly_other same).mp flying)) (single.idle idle)

theorem Single.finish {result : Except Failure TokenPair}
    (leads : controller.tasks id = some .leading)
    (settled : controller.flights id = some (.settled result)) :
    ({ controller with refreshing := none }.enter id (.finished (some result))).Single := by
  have only : ∀ other, other ≠ id → controller.tasks other ≠ some .leading := by
    intro other different too
    have one := single.leading id leads
    rw [single.leading other too] at one
    exact different (Option.some.inj one)
  constructor
  · intro other too
    by_cases same : other = id
    · subst same
      rw [enter_tasks_self] at too
      cases too
    · rw [enter_tasks_other _ same] at too
      exact absurd too (only other same)
  · intro other flying
    have before := single.flying other flying
    by_cases same : other = id
    · subst same
      rcases flying with ⟨flight, found, under⟩
      rw [show controller.flights other = some flight from found] at settled
      exact absurd (Option.some.inj settled) (under result)
    · exact absurd before (only other same)

theorem Single.of_eq {other : Controller} (tasks : other.tasks = controller.tasks)
    (flights : other.flights = controller.flights)
    (refreshing : other.refreshing = controller.refreshing) : other.Single where
  leading := fun id leads => by
    rw [refreshing]
    exact single.leading id (tasks ▸ leads)
  flying := fun id ⟨flight, found, under⟩ => by
    rw [tasks]
    exact single.flying id ⟨flight, flights ▸ found, under⟩

theorem Single.schedulePreemptive (before : controller.tasks id = none) :
    (controller.schedulePreemptive id).Single := by
  unfold Controller.schedulePreemptive
  split
  · exact single.enter (by simp [before]) (by simp)
  · have cleared : controller.clearTimeout.Single := single.of_eq rfl rfl rfl
    exact cleared.enter (by simp [Controller.clearTimeout, before]) (by simp)

end

variable {next : Controller}

theorem Single.resume (single : controller.Single) (resumes : Resumes controller id next) :
    next.Single := by
  cases resumes with
  | moved called before after => exact single.enter (by simp [called, before]) after
  | ran called => exact single.runRefresh (by simp [called])
  | led leads settled => exact single.finish leads settled
  | @armed pair timer armed called =>
    have same : Single { controller with timer := timer, armed := armed } :=
      single.of_eq rfl rfl rfl
    exact same.enter (by simp [called]) (by simp)

variable {answer : Answer}

theorem Advances.flying (advances : Advances controller id answer next) : controller.Flying id := by
  cases advances <;> exact ⟨_, by assumption, by simp⟩

theorem Single.advance (single : controller.Single)
    (advances : Advances controller id answer next) :
    next.Single := by
  have flying := advances.flying
  -- A refresh goes on in a controller that differs in its store and log only.
  have moves : ∀ (store : Option TokenPair) (log : List Event) (flight : Flight),
      ({ controller with store := store, log := log }.fly id flight).Single := by
    intro store log flight
    have same : Single { controller with store := store, log := log } :=
      single.of_eq rfl rfl rfl
    exact same.fly flight flying
  cases advances with
  | loaded | failed | kept => exact moves controller.store controller.log _
  | expired | sent | rotated | ended => exact moves controller.store _ _
  | cleared | uncleared | saved => exact moves _ controller.log _
  | settled found free =>
    apply (single.schedulePreemptive free).fly
    unfold Controller.schedulePreemptive
    split <;> exact flying

theorem Single.step (single : controller.Single) {skewSeconds : Int} {action : Action}
    (taken : Controller.step skewSeconds controller action = some next) : next.Single := by
  cases action with
  | ensureFresh id =>
    simp only [Controller.step, Option.ite_none_right_eq_some, Option.some.injEq] at taken
    rcases taken with ⟨free, rfl⟩
    unfold Controller.ensureFresh
    split <;> exact single.enter (by simp [free]) (by simp)
  | refreshNow id =>
    simp only [Controller.step, Option.ite_none_right_eq_some, Option.some.injEq] at taken
    rcases taken with ⟨free, rfl⟩
    exact single.runRefresh (by simp [free])
  | schedulePreemptive id =>
    simp only [Controller.step, Option.ite_none_right_eq_some, Option.some.injEq] at taken
    rcases taken with ⟨free, rfl⟩
    exact single.schedulePreemptive free
  | fire timer id =>
    simp only [Controller.step, Option.ite_none_right_eq_some, Option.some.injEq] at taken
    rcases taken with ⟨⟨_, free⟩, rfl⟩
    have same : Single { controller with armed := controller.armed.erase timer } :=
      single.of_eq rfl rfl rfl
    exact same.runRefresh (by simp [free])
  | dispose =>
    cases taken
    exact single.of_eq rfl rfl rfl
  | resume id surroundings => exact single.resume (resumes_of_resume taken)
  | advance id answer => exact single.advance (advances_of_advance taken)

/-! ## Spent tokens are not sent -/

end Controller

def Flight.Clean (log : List Event) : Flight → Prop
  | .loaded current => ∀ pair, current = some pair → .rotated pair.refresh ∉ log
  | .calling pair => .rotated pair.refresh ∉ log ∧ .sent pair.refresh ∈ log
  | .saving pair => .rotated pair.refresh ∉ log
  | .reading | .clearing _ | .cleared _ | .saved _ | .settled _ => True

def Flight.presented : Flight → Option TokenPair
  | .calling current => some current
  | .reading | .loaded _ | .clearing _ | .cleared _ | .saving _ | .saved _ | .settled _ => none

def SentOnce (log : List Event) : Prop :=
  ∀ before after token, log = before ++ .rotated token :: after → .sent token ∉ after

variable {log : List Event} {event : Event}

theorem SentOnce.concat (once : SentOnce log)
    (unspent : ∀ token, event = .sent token → .rotated token ∉ log) :
    SentOnce (log ++ [event]) := by
  intro before after token split
  rcases split_concat split with ⟨_, _, rfl⟩ | ⟨rest, rfl, earlier⟩
  · exact List.not_mem_nil
  · rw [List.mem_append, List.mem_singleton]
    rintro (sent | rfl)
    · exact once before rest token earlier sent
    · apply unspent token rfl
      rw [earlier]
      exact List.mem_append_right _ List.mem_cons_self

theorem rotated_of_concat (other : ∀ token, event ≠ .rotated token) {token : String}
    (member : .rotated token ∈ log ++ [event]) : .rotated token ∈ log := by
  rw [List.mem_append, List.mem_singleton] at member
  rcases member with earlier | equal
  · exact earlier
  · exact absurd equal.symm (other token)

theorem TokenPair.next_refresh {current : TokenPair} {response : RefreshTokenResponse}
    (named : response.jsonCamelCase = true) :
    (current.next response).refresh =
      if current.Rotated response then response.refreshToken else current.refresh := by
  have read : response.texts.lookup "refreshToken" = some response.refreshToken := by
    simp [RefreshTokenResponse.texts, named, List.lookup]
  rw [TokenPair.next, read, Option.filter_some]
  by_cases empty : response.refreshToken = ""
  · simp [TokenPair.Rotated, empty]
  · by_cases same : response.refreshToken = current.refresh
    · simp [TokenPair.Rotated, ← same, empty]
    · simp [TokenPair.Rotated, empty, same]

namespace Controller

variable {controller : Controller} {id : TaskId}

structure Clean (controller : Controller) : Prop where
  sent : ∀ token, .rotated token ∈ controller.log → .sent token ∈ controller.log
  store : (∀ id pair, controller.flights id ≠ some (.saving pair)) →
    ∀ pair, controller.store = some pair → .rotated pair.refresh ∉ controller.log
  flights : ∀ id flight, controller.flights id = some flight → flight.Clean controller.log
  once : SentOnce controller.log

theorem Clean.of_eq (clean : controller.Clean) {other : Controller}
    (store : other.store = controller.store) (flights : other.flights = controller.flights)
    (log : other.log = controller.log) : other.Clean where
  sent := by
    rw [log]
    exact clean.sent
  store := by
    rw [store, flights, log]
    exact clean.store
  flights := by
    rw [flights, log]
    exact clean.flights
  once := by
    rw [log]
    exact clean.once

theorem not_saving_of_unique (single : controller.Single) (flying : controller.Flying id)
    (other : ∀ pair, controller.flights id ≠ some (.saving pair)) :
    ∀ id pair, controller.flights id ≠ some (.saving pair) := by
  intro second pair saving
  have same := single.unique flying ⟨_, saving, by simp⟩
  subst same
  exact other pair saving

variable {flight : Flight}

theorem Clean.stored (clean : controller.Clean) (single : controller.Single)
    (found : controller.flights id = some flight) (flying : ∀ result, flight ≠ .settled result)
    (other : ∀ pair, flight ≠ .saving pair) :
    ∀ pair, controller.store = some pair → .rotated pair.refresh ∉ controller.log := by
  apply clean.store
  apply not_saving_of_unique single ⟨flight, found, flying⟩
  intro pair saving
  rw [found] at saving
  exact other pair (Option.some.inj saving)

theorem clean_fly (single : controller.Single) (flying : controller.Flying id)
    {store : Option TokenPair} {log : List Event}
    (sent : ∀ token, .rotated token ∈ log → .sent token ∈ log)
    (stored : (∀ pair, flight ≠ .saving pair) →
      ∀ pair, store = some pair → .rotated pair.refresh ∉ log) (own : flight.Clean log)
    (once : SentOnce log) :
    ({ controller with store := store, log := log }.fly id flight).Clean where
  sent := sent
  store := by
    intro none pair
    apply stored
    intro pair equal
    apply none id pair
    rw [fly_flights_self, equal]
  flights := by
    intro other found held
    by_cases same : other = id
    · subst same
      rw [fly_flights_self] at held
      cases held
      exact own
    · rw [fly_flights_other flight same] at held
      -- Every other refresh has settled and holds nothing.
      have settled : ∃ result, found = .settled result := by
        by_contra under
        push Not at under
        exact same (single.unique ⟨found, held, under⟩ flying)
      rcases settled with ⟨result, rfl⟩
      trivial
  once := once

section

variable (clean : controller.Clean) (single : controller.Single)
include clean single

section

variable (found : controller.flights id = some flight) (flying : ∀ result, flight ≠ .settled result)
  (other : ∀ pair, flight ≠ .saving pair)
include found flying other

theorem Clean.noted {event : Event} (quiet : ∀ token, event ≠ .rotated token)
    (unspent : ∀ token, event = .sent token → .rotated token ∉ controller.log) {after : Flight}
    (own : after.Clean (controller.log ++ [event])) :
    ((controller.note event).fly id after).Clean := by
  refine clean_fly single ⟨flight, found, flying⟩ ?_ ?_ own (clean.once.concat unspent)
  · intro token member
    exact List.mem_append_left _ (clean.sent token (rotated_of_concat quiet member))
  · intro _ pair held member
    exact clean.stored single found flying other pair held (rotated_of_concat quiet member)

theorem Clean.report (failure : Failure) :
    ((controller.note (.onTerminal failure)).fly id (.settled (.error failure))).Clean :=
  clean.noted single found flying other (by simp) (by simp) trivial

end

theorem Clean.send {current : TokenPair}
    (found : controller.flights id = some (.loaded (some current))) :
    ((controller.note (.sent current.refresh)).fly id (.calling current)).Clean := by
  have unspent : .rotated current.refresh ∉ controller.log :=
    clean.flights id _ found current rfl
  refine clean.noted single found (by simp) (by simp) (by simp) ?_ ⟨?_, ?_⟩
  · rintro token ⟨⟩
    exact unspent
  · exact fun member => unspent (rotated_of_concat (by simp) member)
  · exact List.mem_append_right _ List.mem_cons_self

end

/-- All answers come from a server with the option. It gives out no refresh token that it was
sent before, the one it answers to apart. -/
def Served (jsonCamelCase : Bool) (controller : Controller) : Action → Prop
  | .advance id answer =>
    ∀ current ∈ (controller.flights id).bind Flight.presented,
      ∀ response ∈ answer.reply.toOption, response.jsonCamelCase = jsonCamelCase ∧
        (current.Rotated response → .sent response.refreshToken ∉ controller.log)
  | .ensureFresh _ | .refreshNow _ | .schedulePreemptive _ | .fire _ _ | .dispose
  | .resume _ _ => True

instance (jsonCamelCase : Bool) (controller : Controller) :
    DecidablePred (Served jsonCamelCase controller)
  | .advance id answer =>
    inferInstanceAs (Decidable (∀ current ∈ (controller.flights id).bind Flight.presented,
      ∀ response ∈ answer.reply.toOption, response.jsonCamelCase = jsonCamelCase ∧
        (current.Rotated response → .sent response.refreshToken ∉ controller.log)))
  | .ensureFresh _ | .refreshNow _ | .schedulePreemptive _ | .fire _ _ | .dispose
  | .resume _ _ => isTrue trivial

section

variable (clean : controller.Clean) (single : controller.Single)
include clean single

theorem Clean.rotate {current : TokenPair} {response : RefreshTokenResponse}
    (found : controller.flights id = some (.calling current))
    (rotated : current.Rotated response) (named : response.jsonCamelCase = true)
    (new : .sent response.refreshToken ∉ controller.log) :
    ((controller.note (.rotated current.refresh)).fly id
      (.saving (current.next response))).Clean := by
  refine clean_fly single ⟨_, found, by simp⟩ ?_ ?_ ?_ (clean.once.concat (by simp))
  · intro token member
    rw [List.mem_append, List.mem_singleton] at member
    apply List.mem_append_left
    rcases member with earlier | equal
    · exact clean.sent token earlier
    · cases equal
      exact (clean.flights id _ found).2
  · exact fun saving => absurd rfl (saving _)
  · rw [Flight.Clean, TokenPair.next_refresh named, if_pos rotated, List.mem_append,
      List.mem_singleton]
    rintro (earlier | equal)
    · exact new (clean.sent _ earlier)
    · exact rotated.2 (Event.rotated.inj equal)

variable {next : Controller}

theorem Clean.advance {answer : Answer} (served : Served true controller (.advance id answer))
    (advances : Advances controller id answer next) : next.Clean := by
  have flying := advances.flying
  cases advances with
  | loaded found =>
    have stored := clean.stored single found (by simp) (by simp)
    exact clean_fly single flying clean.sent (fun _ => stored) stored clean.once
  | expired found | ended found => exact clean.report single found (by simp) (by simp) _
  | sent found => exact clean.send single found
  | failed found replied =>
    refine clean_fly single flying clean.sent ?_ ?_ clean.once
    · exact fun _ => clean.stored single found (by simp) (by simp)
    · split <;> trivial
  | kept found replied kept =>
    have named := (served _ (by rw [found]; rfl) _ (by rw [replied]; rfl)).1
    refine clean_fly single flying clean.sent ?_ ?_ clean.once
    · exact fun saving => absurd rfl (saving _)
    · rw [Flight.Clean, TokenPair.next_refresh named, if_neg kept]
      exact (clean.flights id _ found).1
  | rotated found replied rotated =>
    rcases served _ (by rw [found]; rfl) _ (by rw [replied]; rfl) with ⟨named, new⟩
    exact clean.rotate single found rotated named (new rotated)
  | cleared found =>
    exact clean_fly single flying clean.sent (fun _ _ held => by cases held) trivial clean.once
  | @uncleared failure applied cause found =>
    refine clean_fly single flying clean.sent ?_ trivial clean.once
    intro _ pair held
    split at held
    · cases held
    · exact clean.stored single found (by simp) (by simp) pair held
  | saved found =>
    refine clean_fly single flying clean.sent ?_ trivial clean.once
    intro _ pair held
    cases held
    exact clean.flights id _ found
  | @settled pair found free =>
    have stored := clean.stored single found (by simp) (by simp)
    have moved : (controller.fly id (.settled (.ok pair))).Clean :=
      clean_fly single flying clean.sent (fun _ => stored) trivial clean.once
    refine moved.of_eq ?_ ?_ ?_
    all_goals
      unfold Controller.schedulePreemptive
      split <;> rfl

theorem Clean.runRefresh : (controller.runRefresh id).Clean := by
  unfold Controller.runRefresh
  split
  · exact clean.of_eq rfl rfl rfl
  · rename_i idle
    have none : ∀ other pair, controller.flights other ≠ some (.saving pair) :=
      fun other pair saving =>
        single.idle idle (single.flying other ⟨_, saving, by simp⟩)
    refine
      { sent := clean.sent
        store := fun _ => clean.store none
        flights := ?_
        once := clean.once }
    intro other flight found
    by_cases same : other = id
    · subst same
      have reading : flight = .reading :=
        (Option.some.inj ((fly_flights_self _).symm.trans found)).symm
      subst reading
      trivial
    · exact clean.flights other flight ((fly_flights_other _ same).symm.trans found)

theorem Clean.step {skewSeconds : Int} {action : Action} (served : Served true controller action)
    (taken : Controller.step skewSeconds controller action = some next) : next.Clean := by
  cases action with
  | ensureFresh id | schedulePreemptive id =>
    simp only [Controller.step, Controller.ensureFresh, Controller.schedulePreemptive,
      Option.ite_none_right_eq_some, Option.some.injEq] at taken
    rcases taken with ⟨_, rfl⟩
    split <;> exact clean.of_eq rfl rfl rfl
  | refreshNow id =>
    simp only [Controller.step, Option.ite_none_right_eq_some, Option.some.injEq] at taken
    rcases taken with ⟨_, rfl⟩
    exact clean.runRefresh single
  | fire timer id =>
    simp only [Controller.step, Option.ite_none_right_eq_some, Option.some.injEq] at taken
    rcases taken with ⟨_, rfl⟩
    have same : Clean { controller with armed := controller.armed.erase timer } :=
      clean.of_eq rfl rfl rfl
    exact same.runRefresh (single.of_eq rfl rfl rfl)
  | dispose =>
    cases taken
    exact clean.of_eq rfl rfl rfl
  | resume id surroundings =>
    cases resumes_of_resume taken with
    | moved | led | armed => exact clean.of_eq rfl rfl rfl
    | ran => exact clean.runRefresh single
  | advance id answer => exact clean.advance single served (advances_of_advance taken)

end

variable (store : Option TokenPair)

theorem single_opened : (opened store).Single where
  leading := fun _ leads => by cases leads
  flying := fun _ ⟨_, found, _⟩ => by cases found

theorem clean_opened : (opened store).Clean where
  sent := fun _ member => by cases member
  store := fun _ _ _ => List.not_mem_nil
  flights := fun _ _ found => by cases found
  once := fun _ _ _ split => by simp [opened] at split

end Controller

open Controller (Served)

variable {skewSeconds : Int} {store : Option TokenPair} {actions : List Action} {final : Controller}

private theorem single_of_run {permitted : Controller → Action → Prop}
    (run : Run (Controller.step skewSeconds) permitted (.opened store) actions final) :
    final.Single :=
  run.invariant Controller.Single (fun _ _ _ single _ taken => single.step taken)
    (Controller.single_opened store)

private theorem sentOnce_of_run
    (run : Run (Controller.step skewSeconds) (Served true) (.opened store) actions final) :
    SentOnce final.log := by
  have both := run.invariant (fun controller => controller.Single ∧ controller.Clean)
    (fun _ _ _ holds served taken => ⟨holds.1.step taken, holds.2.step holds.1 served taken⟩)
    ⟨Controller.single_opened store, Controller.clean_opened store⟩
  exact both.2.once

def twoRefreshes (jsonCamelCase : Bool) : List Action :=
  let response : RefreshTokenResponse :=
    { accessToken := "a2", accessExpiresUnix := 900, refreshToken := "r2"
      jsonCamelCase := jsonCamelCase }
  [.refreshNow 0, .advance 0 {}, .advance 0 {}, .advance 0 { reply := .ok response },
    .advance 0 {}, .advance 0 { scheduler := 1 }, .resume 0 { now := 0 }, .refreshNow 2,
    .advance 2 {}, .advance 2 {}]

def requestsOf (skewSeconds : Int) (jsonCamelCase : Bool) : Option (List Event) :=
  (execute (Controller.step skewSeconds) (Served jsonCamelCase) (.opened (some heldPair))
    (twoRefreshes jsonCamelCase)).map Controller.log

private theorem requestsOf_proto (skewSeconds : Int) :
    requestsOf skewSeconds false = some [.sent "r1", .rotated "r1", .sent "r1"] := by
  rfl

/-- In any interleaving of the calls and timers of a controller at most one exchange is under
way. That a refresh token that was exchanged for another one is never sent again holds just for
servers that write lowerCamelCase names. -/
theorem refresh_single_flight_iff (skewSeconds : Int) (jsonCamelCase : Bool) :
    (∀ store actions final,
      Run (Controller.step skewSeconds) unrestricted (.opened store) actions final →
      ∀ id other current pair, final.flights id = some (.calling current) →
        final.flights other = some (.calling pair) → id = other) ∧
    ((∀ store actions final,
      Run (Controller.step skewSeconds) (Served jsonCamelCase) (.opened store) actions final →
      SentOnce final.log) ↔ jsonCamelCase = true) := by
  refine ⟨fun store actions final run id other current pair calling too => ?_, ?_, ?_⟩
  · exact (single_of_run run).unique ⟨_, calling, by simp⟩ ⟨_, too, by simp⟩
  · intro once
    by_contra proto
    rw [Bool.not_eq_true] at proto
    subst proto
    rcases Run.exists_of_execute _ (requestsOf_proto skewSeconds) with ⟨final, run, log⟩
    refine once _ _ final run [.sent "r1"] [.sent "r1"] "r1" log ?_
    exact List.mem_singleton_self _
  · rintro rfl store actions final run
    exact sentOnce_of_run run

/-- What the server of this repository does: the spent token is sent once more. -/
theorem spent_token_sent_again :
    requestsOf 30 false = some [.sent "r1", .rotated "r1", .sent "r1"] ∧
      requestsOf 30 true = some [.sent "r1", .rotated "r1", .sent "r2"] := by
  decide +kernel

end Parsec.JavaScriptClient
