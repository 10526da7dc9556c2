import TransactionalTest.Scenario.Reply

/-!
# Sessions

What a running scenario keeps besides the library's own state, and how one request is carried
out.

* `Session` — tests, contexts in hand, the call log and the replies of nested steps;
* `Session.perform` — one request.

A hook body may take steps.  How a step is taken is a parameter here (`nested`); the knot is tied
in the module on runs.
-/

namespace TransactionalTest

namespace Scenario

/-- A test that a script has bound. -/
structure BoundTest where
  cls : TestClass
  method : Method
  subject : SubjectScript
  key : ExecutionKey

/-- What a running scenario keeps for itself. -/
structure Session where
  tests : Table String BoundTest := []
  /-- The contexts that are not published. -/
  contexts : Table String Context := []
  /-- The call log, oldest first. -/
  calls : List String := []
  /-- The replies of steps that hook bodies took. -/
  nested : List Reply := []
  /-- The keys that steps have named. -/
  keys : List String := []
  /-- The manager and key of every write that reached a manager. -/
  writes : List (String × String) := []
  /-- How many threads have been started. -/
  threads : Nat := 0

/-- The world of a running scenario. -/
abbrev Stage := World Session

/-- How a step is taken. -/
abbrev Performer := Step → Stage → Reply × Stage

namespace Session

/-- Change the session alone. -/
def modify (f : Session → Session) (w : Stage) : Stage := { w with app := f w.app }

/-! ### Hook bodies -/

/-- The body of a hook: its actions in order, up to the first failure. -/
def runActions (nested : Performer) : List Action → HookBody Session
  | [], w => (.ok (), w)
  | .note text :: rest, w =>
    runActions nested rest (modify (fun s => { s with calls := s.calls ++ [text] }) w)
  | .fail failure :: _, w => (.error failure, w)
  | .step step propagate :: rest, w =>
    let (reply, w) := nested step w
    match (if propagate then reply.failure? else none) with
    | some failure => (.error failure, w)
    | none =>
      runActions nested rest (modify (fun s => { s with nested := s.nested ++ [reply] }) w)

/-- The test object of a script: refusals first, then the bound bodies. -/
def subject (nested : Performer) (s : SubjectScript) : Subject Session := fun hook w =>
  match s.refusals.find? (hook.declaringClass, hook.signature) with
  | some (name, reason) => (.error (.notInvocable name reason), w)
  | none =>
    Bindings.subject (s.bodies.map fun e => (e.1, runActions nested e.2)) hook w

/-- The run of a bound test. -/
def testRun (nested : Performer) (b : BoundTest) : TestRun Session :=
  ⟨b.cls, b.method, subject nested b.subject, b.key⟩

/-! ### Requests -/

/-- The key that a step means: the named one, else that of its thread. -/
def keyOf (thread : Nat) : Option String → ExecutionKey
  | some name => .named name
  | none => .thread thread

/-- A context as its owner sees it. -/
def view (w : Stage) (c : Context) : ContextView := ⟨c, c.isActive w⟩

/-- Work with something that the script names, if it is there. -/
def withNamed {ρ : Type} (name : String) (x : Option ρ) (f : ρ → Reply × Stage) (w : Stage) :
    Reply × Stage :=
  match x with
  | some x => f x
  | none => (.unknown name, w)

/-- Work on a context in hand and show it, or its error, afterwards. -/
def onContext (id : String)
    (f : Context → Stage → Except LifecycleError Unit × Context × Stage) (w : Stage) :
    Reply × Stage :=
  withNamed id (w.app.contexts.find? id) (w := w) fun c =>
    let (r, c, w) := f c w
    let w := modify (fun s => { s with contexts := s.contexts.insert id c }) w
    match r with
    | .ok () => (.context (view w c), w)
    | .error e => (.failed e, w)

/-- Steer the transaction of a key. -/
def inTest (key : ExecutionKey) (call : InTestCall) (w : Stage) : Reply × Stage :=
  match call with
  | .isActive => (.flag (InTest.isActive key w), w)
  | .isFlaggedForRollback =>
    let (r, w) := InTest.isFlaggedForRollback key w
    (.ofFlag r, w)
  | .flagForRollback =>
    let (r, w) := InTest.flagForRollback key w
    (.ofUnit r, w)
  | .flagForCommit =>
    let (r, w) := InTest.flagForCommit key w
    (.ofUnit r, w)
  | .finish =>
    let (r, w) := InTest.finish key w
    (.ofUnit r, w)
  | .start =>
    let (r, w) := InTest.start key w
    (.ofUnit r, w)

/-- Stage a write and remember which key it was for. -/
def writeTo (id : String) (m : Manager) (status : Option Status) (k v : String) (w : Stage) :
    Reply × Stage :=
  match status with
  | none => (.noHandle, w)
  | some status =>
    let w := modify (fun s => { s with writes := s.writes ++ [(id, k)] }) w
    let (r, w) := w.write m status k v
    (.ofRequest r, w)

/-- The handle of the n-th transaction that has begun, counted from one. -/
def handle? (tx : Nat) (w : Stage) : Option Status :=
  if tx = 0 then none else w.handles[tx - 1]?

/-- Answer with a description of the looked-up manager. -/
def lookedUp (strict : Bool) (m : Option Manager) : Reply :=
  .lookedUp m strict (Inspect.record "TransactionManagerLookup"
    [("container", Inspect.quoted "ManagerContainer"), ("strict", Inspect.flag strict)])

/-- What is declared for a method of a class. -/
def metadataOf (c : TestClass) (m : Method) : Reply :=
  .metadata
    { signature := m.signature
      intent := c.attributeOf? m
      rollback := c.rollbackOf? m
      configuration := c.configuration?
      resolved := c.intentOf? m }
    (Inspect.record "TransactionAttributeResolver"
      [("metadata", Inspect.quoted "MetadataSource")])

/-- Requests to the registry. -/
def performRegistry (s : Script) (r : Request) (w : Stage) : Option (Reply × Stage) :=
  match r with
  | .register name manager qualifiers primary =>
    some <| withNamed manager (s.managers.find? manager) (w := w) fun m =>
      let entry : Registration := ⟨name, qualifiers, primary, m⟩
      match w.register entry with
      | (.ok (), w) => (.registered w.registry.registrations.length entry.inspect, w)
      | (.error e, w) => (.lookupFailed e, w)
  | .addSelector manager =>
    some <| withNamed manager (s.managers.find? manager) (w := w) fun m =>
      (.done, w.addSelector m)
  | .registry =>
    let entries := w.registry.registrations
    some (.registry entries.length entries.isEmpty w.registry.inspect, w)
  | .byQualifier qualifier =>
    some (match w.registry.byQualifier qualifier with
      | .ok m => (.text m.name, w)
      | .error e => (.lookupFailed e, w))
  | .byName name =>
    some (match w.managerByName name with
      | (.ok m, w) => (.ofManager m, w)
      | (.error e, w) => (.lookupFailed e, w))
  | .lookup strict test qualifier name =>
    some (match w.lookup strict test qualifier name with
      | (.ok m, w) => (lookedUp strict m, w)
      | (.error e, w) => (.failed (.managerLookup e), w))
  | _ => none

/-- Requests about classes. -/
def performClass (s : Script) (nested : Performer) (r : Request) (w : Stage) :
    Option (Reply × Stage) :=
  let withClass (name : String) (f : TestClass → Reply × Stage) : Reply × Stage :=
    withNamed name (s.classes.find? name) f w
  match r with
  | .describeClass name => some (withClass name fun c => (.describedClass c, w))
  | .compareClasses a b =>
    some (withClass a fun a => withClass b fun b =>
      (.comparedClasses (decide (a.id = b.id)) (a.sameContents b), w))
  | .findMethod name method =>
    some (withClass name fun c => (.ofOption .method (c.findMethod? method), w))
  | .metadata name (.named method) =>
    some (withClass name fun c => (.ofOption (metadataOf c) (c.findMethod? method), w))
  | .metadata name (.declared other index) =>
    some (withClass name fun c => withClass other fun d =>
      (.ofOption (metadataOf c) (d.leaf.methods[index]?), w))
  | .discover name phase => some (withClass name fun c => (.hooks (c.discover phase), w))
  | .hooksFor name phase =>
    some (withClass name fun c =>
      let (hooks, w) := s.runner.hooksFor c phase w
      (.cachedHooks hooks (s.runner.cachedCount w), w))
  | .runHooks test phase =>
    some (withNamed test (w.app.tests.find? test) (w := w) fun b =>
      let run := match phase with
        | .beforeTransaction => s.runner.runBefore
        | .afterTransaction => s.runner.runAfter
      match run (testRun nested b) w with
      | (.ok (), w) => (.hooksRun (s.runner.cachedCount w), w)
      | (.error e, w) => (.failed e, w))
  | .configuration name =>
    some (withClass name fun c =>
      let (a, w) := s.resolver.resolve c w
      (.configuration a (s.resolver.cachedCount w) (s.resolver.inspect w), w))
  | _ => none

/-- Bind a method of a class as a test. -/
def newTest (c : TestClass) (id method : String) (subject : SubjectScript) (key : ExecutionKey)
    (w : Stage) : Reply × Stage :=
  match TestRun.bind c method (Session.subject (fun _ w => (.tooDeep, w)) subject) key with
  | .error e => (.failed e, w)
  | .ok t =>
    (.test
      { name := t.name
        display := t.display
        inspection := t.inspect
        method := t.method
        className := c.name
        subject := subject.inspect },
      modify (fun s => { s with tests := s.tests.insert id ⟨c, t.method, subject, key⟩ }) w)

/-- Requests about tests. -/
def performTest (s : Script) (nested : Performer) (thread : Nat) (c : Controller) (r : Request)
    (w : Stage) : Option (Reply × Stage) :=
  let withTest (id : String) (f : TestRun Session → Reply × Stage) : Reply × Stage :=
    withNamed id (w.app.tests.find? id) (fun b => f (testRun nested b)) w
  match r with
  | .newTest id className method subject key =>
    some (withNamed className (s.classes.find? className) (w := w) fun cls =>
      match subject with
      | none => newTest cls id method [] (keyOf thread key) w
      | some name =>
        withNamed name (s.subjects.find? name) (w := w) fun subject =>
          newTest cls id method subject (keyOf thread key) w)
  | .before test =>
    some (withTest test fun t =>
      let (r, w) := c.beforeTest t w
      (.ofUnit r, w))
  | .after test =>
    some (withTest test fun t =>
      let (r, w) := c.afterTest t w
      (.ofUnit r, w))
  | .state key => some (.state (c.state (.named key) w), w)
  | .rollback test =>
    some (withTest test fun t =>
      let (default, w) := c.isDefaultRollback t w
      let (effective, w) := c.isRollback t w
      (.rollback default effective, w))
  | .transactionManager test qualifier =>
    some (withTest test fun t =>
      match c.transactionManager t qualifier w with
      | (.ok m, w) => (.ofManager m, w)
      | (.error e, w) => (.failed (.managerLookup e), w))
  | .classConfiguration name =>
    some (withNamed name (s.classes.find? name) (w := w) fun cls =>
      let (a, w) := c.configurationAttributes cls w
      (.attributes a, w))
  | .controller => some (.controller c.config w.live (c.inspect w), w)
  | .inTest key call => some (inTest (keyOf thread key) call w)
  | _ => none

/-- Requests to managers. -/
def performManager (s : Script) (r : Request) (w : Stage) : Option (Reply × Stage) :=
  let withManager (id : String) (f : Manager → Reply × Stage) : Reply × Stage :=
    withNamed id (s.managers.find? id) f w
  match r with
  | .write key manager k v =>
    some (withManager manager fun m =>
      writeTo manager m ((w.context? (.named key)).bind Context.status) k v w)
  | .begin manager intent =>
    some (withManager manager fun m =>
      match w.begin m intent with
      | (.ok status, w) => (.status status, w)
      | (.error e, w) => (.transactionFailed e, w))
  | .finish manager tx rollback =>
    some (withManager manager fun m =>
      match handle? tx w with
      | none => (.noHandle, w)
      | some status =>
        let (r, w) := w.finish m status rollback
        (.ofRequest r, w))
  | .isCompleted manager tx =>
    some (withManager manager fun m =>
      match handle? tx w with
      | none => (.noHandle, w)
      | some status => (.flag ((w.store m).isCompleted status), w))
  | .stage manager tx k v =>
    some (withManager manager fun m => writeTo manager m (handle? tx w) k v w)
  | .committed manager k =>
    some (withManager manager fun m => (.ofOption .text ((w.store m).committedValue? k), w))
  | .openCount manager => some (withManager manager fun m => (.number (w.store m).openCount, w))
  | .failNextBegin manager reason =>
    some (withManager manager fun m => (.done, w.failNextBegin m reason))
  | .failNextFinish manager reason =>
    some (withManager manager fun m => (.done, w.failNextFinish m reason))
  | _ => none

/-- Requests about contexts. -/
def performContext (s : Script) (thread : Nat) (r : Request) (w : Stage) :
    Option (Reply × Stage) :=
  let drop (id : String) (w : Stage) : Stage :=
    modify (fun x => { x with contexts := x.contexts.erase id }) w
  match r with
  | .context id testName manager intent rollback =>
    some (withNamed manager (s.managers.find? manager) (w := w) fun m =>
      let c : Context :=
        { testName := testName, manager := m, intent := intent, flaggedForRollback := rollback }
      (.context (view w c), modify (fun x => { x with contexts := x.contexts.insert id c }) w))
  | .contextStart id => some (onContext id Context.start w)
  | .contextFinish id => some (onContext id Context.finish w)
  | .contextFlag id rollback =>
    some (onContext id (fun c w => (.ok (), { c with flaggedForRollback := rollback }, w)) w)
  | .contextInfo id => some (onContext id (fun c w => (.ok (), c, w)) w)
  | .publish id key =>
    some (withNamed id (w.app.contexts.find? id) (w := w) fun c =>
      let (r, w) := w.publish (.named key) c
      (.ofUnit r, drop id w))
  | .tryPublish id key =>
    some (withNamed id (w.app.contexts.find? id) (w := w) fun c =>
      match w.tryPublish (.named key) c with
      | (none, w) => (.published, drop id w)
      | (some c, w) => (.rejected (view w c), w))
  | .take key id =>
    some (match w.take (.named key) with
      | (none, w) => (.nothing, w)
      | (some c, w) =>
        (.context (view w c), modify (fun x => { x with contexts := x.contexts.insert id c }) w))
  | .current key =>
    some (.ofOption (fun c => .context (view w c)) (w.context? (keyOf thread key)), w)
  | .holder key =>
    some (.slot w.live w.contexts.isEmpty (w.context? (keyOf thread key)).isSome, w)
  | _ => none

/-- Carry out a request to a controller. -/
def perform (s : Script) (nested : Performer) (thread : Nat) (c : Controller) (r : Request)
    (w : Stage) : Reply × Stage :=
  ((performRegistry s r w).orElse fun _ =>
    (performClass s nested r w).orElse fun _ =>
    (performTest s nested thread c r w).orElse fun _ =>
    (performManager s r w).orElse fun _ =>
    performContext s thread r w).getD (.unknown "", w)

end Session

end Scenario

end TransactionalTest
