import TransactionalTest.Scenario.Session

/-!
# Running a scenario

Takes the steps of a script one after the other and says what each of them changed.

* `Script.take` — one step, with the steps that hook bodies take;
* `StepReport` — a step's reply and what is new since the step before;
* `Script.run` — the whole scenario, and the state it ends in.
-/

namespace TransactionalTest

namespace Scenario

/-- How deeply the hook bodies of a scenario may take steps. -/
def maxDepth : Nat := 256

/-- What one step did. -/
structure StepReport where
  reply : Reply
  /-- How many contexts are published afterwards. -/
  live : Nat
  /-- The state of the key that the step is about. -/
  state : Option LifecycleState
  /-- The new entries of the call log. -/
  calls : List String
  /-- The replies of steps that hook bodies took. -/
  nested : List Reply
  /-- The new events of each manager, managers in order. -/
  events : List (String × ManagerEvent)
  /-- The new reports. -/
  reports : List LogEvent

/-- What a manager has come to. -/
structure ManagerSummary where
  id : String
  openCount : Nat
  eventCount : Nat
  /-- The committed value of every key that a step wrote. -/
  committed : List (String × Option String)

/-- What a key has come to. -/
structure KeySummary where
  key : String
  /-- Its state in each controller. -/
  states : List LifecycleState
  isPublished : Bool

/-- What a scenario did. -/
structure ScenarioReport where
  /-- The reports of the set-up. -/
  setUp : List LogEvent
  steps : List StepReport
  managers : List ManagerSummary
  keys : List KeySummary
  live : Nat

namespace Script

/-! ### Steps -/

/-- Take steps one after the other. -/
def takeAll (perform : Performer) : List Step → Stage → List Reply × Stage
  | [], w => ([], w)
  | step :: steps, w =>
    let (reply, w) := perform step w
    let (replies, w) := takeAll perform steps w
    (reply :: replies, w)

/-- Remember the key that a request names. -/
def noteKey (r : Request) (w : Stage) : Stage :=
  match r.key? with
  | some key => Session.modify (fun s => { s with keys := s.keys ++ [key] }) w
  | none => w

/-- Take a step on a thread.  `depth` bounds how deeply steps and hook bodies nest. -/
def take (s : Script) : Nat → Nat → Performer
  | 0, _, _, w => (.tooDeep, w)
  | depth + 1, thread, .ask i r, w =>
    match s.controller? i with
    | some c => Session.perform s (s.take depth thread) thread c r (noteKey r w)
    | none => (.unknown "controller", w)
  | depth + 1, _, .thread steps, w =>
    let n := w.app.threads + 1
    let (replies, w) :=
      takeAll (s.take depth n) steps (Session.modify (fun x => { x with threads := n }) w)
    (.several replies, w)

/-! ### Reports -/

/-- The state of the key that a step is about: that of the test it names, else the key it
names. -/
def stateAfter (s : Script) (w : Stage) : Step → Option LifecycleState
  | .thread _ => none
  | .ask i r =>
    let key := match (r.test?.bind fun t => w.app.tests.find? t) with
      | some b => some b.key
      | none => r.key?.map .named
    match key, s.controller? i with
    | some key, some c => some (c.state key w)
    | _, _ => none

/-- The events of each manager that are new between two worlds. -/
def newEvents (s : Script) (before after : Stage) : List (String × ManagerEvent) :=
  s.managers.flatMap fun e =>
    ((after.store e.2).events.drop (before.store e.2).events.length).map fun x => (e.1, x)

/-- Take a step of the script and report on it. -/
def step (s : Script) (x : Step) (w : Stage) : StepReport × Stage :=
  let before := Session.modify (fun a => { a with calls := [], nested := [] }) w
  let (reply, after) := s.take maxDepth 0 x before
  ({ reply := reply
     live := after.live
     state := s.stateAfter after x
     calls := after.app.calls
     nested := after.app.nested
     events := s.newEvents before after
     reports := (after.chronicle.drop before.chronicle.length).filterMap Occurrence.report? },
    after)

/-- Take the steps of the script and report on each. -/
def reportAll (s : Script) : List Step → Stage → List StepReport × Stage
  | [], w => ([], w)
  | x :: xs, w =>
    let (report, w) := s.step x w
    let (reports, w) := s.reportAll xs w
    (report :: reports, w)

/-- The world in which the script's controllers have been set up. -/
def setUp (s : Script) : Stage :=
  s.controllers.zipIdx.foldl (fun w e => (Controller.create e.2 e.1 w).2) { app := {} }

/-- What a manager has come to. -/
def managerSummary (w : Stage) (id : String) (m : Manager) : ManagerSummary :=
  let store := w.store m
  let keys := ((w.app.writes.filter fun x => x.1 == id).map Prod.snd).eraseDups
  ⟨id, store.openCount, store.events.length, keys.map fun k => (k, store.committedValue? k)⟩

/-- What a key has come to. -/
def keySummary (s : Script) (w : Stage) (key : String) : KeySummary :=
  let states := s.controllers.zipIdx.map fun e => Controller.state ⟨e.2, e.1⟩ (.named key) w
  ⟨key, states, (w.context? (.named key)).isSome⟩

/-- Run the scenario. -/
def run (s : Script) : ScenarioReport :=
  let start := s.setUp
  let (reports, w) := s.reportAll s.steps start
  let keys := w.app.keys.eraseDups.mergeSort TextOrder.le
  ⟨start.reports, reports, s.managers.map fun e => managerSummary w e.1 e.2,
    keys.map (s.keySummary w), w.live⟩

end Script

end Scenario

end TransactionalTest
