import TransactionalTest.Proofs.Alarms
import TransactionalTest.Proofs.Intents
import TransactionalTest.Proofs.Remembered

/-!
# The nearest declaration

Three things are looked up along the hierarchy of a test's class, each by a walk of its own: the
rollback flag by signature, the configuration and the transactional intent by level.  The method
itself is found by name, which says less than its signature.

* `TestClass.flagOf?` : the first flag that some levels declare for a signature;
* `TestClass.rollbackOf?_of_bound` : for the method that a name is bound to it is the flag in force;
* `TestClass.findMethod?_of_near`, `TestClass.rollbackOf?_of_near`,
  `TestClass.configuration?_of_near`, `TestClass.intentOf?_of_near` : farther levels make no
  difference;
* `Controller.isRollback_fst`, `Controller.transactionManager_fst` : a controller goes by this;
* `Controller.nearest_declaration` : where the settings of a test come from.
-/

namespace TransactionalTest

variable {α : Type}

/-! ### Three walks -/

namespace TestClass

variable {c c' : TestClass} {near far far' : List Level} {name : String} {m : Method}

/-- The first rollback flag that is declared for a method of this signature. -/
def flagOf? (levels : List Level) (s : Signature) : Option Bool :=
  ((levels.flatMap Level.methods).filter fun d => d.signature == s).findSome? Method.rollback

theorem flagOf?_append (near far : List Level) (s : Signature) :
    flagOf? (near ++ far) s = (flagOf? near s).or (flagOf? far s) := by
  simp only [flagOf?, List.flatMap_append, List.filter_append, List.findSome?_append]

/-- The method that a name is bound to is the first of its signature, so that to look at its own
flag first is no exception to the walk. -/
theorem rollbackOf?_of_bound (h : c.findMethod? name = some m) :
    c.rollbackOf? m = flagOf? c.hierarchy m.signature := by
  obtain ⟨hname, nearer, rest, hmethods, hother⟩ := List.find?_eq_some_iff_append.1 h
  have hnearer : nearer.filter (fun d => d.signature == m.signature) = [] := by
    refine List.filter_eq_nil_iff.2 fun d hd hs => ?_
    have hd' := hother d hd
    rw [Method.name, beq_iff_eq.1 hs, ← Method.name, hname] at hd'
    cases hd'
  have hwalk : flagOf? c.hierarchy m.signature = m.rollback.or
      ((rest.filter fun d => d.signature == m.signature).findSome? Method.rollback) := by
    rw [flagOf?, ← allMethods, hmethods, List.filter_append, hnearer, List.nil_append,
      List.filter_cons, if_pos (beq_self_eq_true _), List.findSome?_cons]
    cases m.rollback <;> rfl
  show m.rollback.or (flagOf? c.hierarchy m.signature) = _
  rw [hwalk]
  cases m.rollback <;> rfl

/-! ### Farther levels -/

/-- The method of this name that comes first on these levels. -/
def boundOn? (levels : List Level) (name : String) : Option Method :=
  (levels.flatMap Level.methods).find? fun m => m.name == name

theorem boundOn?_append (near far : List Level) (name : String) :
    boundOn? (near ++ far) name = (boundOn? near name).or (boundOn? far name) := by
  rw [boundOn?, List.flatMap_append, List.find?_append]
  rfl

/-- Where a flag is declared for a signature, there is a method of its name. -/
theorem isSome_boundOn? {s : Signature} (h : (flagOf? near s).isSome = true) :
    (boundOn? near s.name).isSome = true := by
  obtain ⟨d, hd, -⟩ := List.findSome?_isSome_iff.1 h
  obtain ⟨hmem, hs⟩ := List.mem_filter.1 hd
  refine List.find?_isSome.2 ⟨d, hmem, ?_⟩
  rw [Method.name, beq_iff_eq.1 hs]
  exact beq_self_eq_true _

section

variable (hc : c.hierarchy = near ++ far) (hc' : c'.hierarchy = near ++ far')
include hc hc'

/-- Classes that begin with the same levels bind a name to the same method, if these levels have
one. -/
theorem findMethod?_of_near (h : (boundOn? near name).isSome = true) :
    c'.findMethod? name = c.findMethod? name := by
  show boundOn? c'.hierarchy name = boundOn? c.hierarchy name
  rw [hc, hc', boundOn?_append, boundOn?_append, Option.or_of_isSome h, Option.or_of_isSome h]

theorem rollbackOf?_of_near (hm : c.findMethod? name = some m)
    (h : (flagOf? near m.signature).isSome = true) :
    c'.findMethod? name = some m ∧ c'.rollbackOf? m = c.rollbackOf? m := by
  have hname : m.name = name := by simpa using List.find?_some hm
  have hbound : c'.findMethod? name = some m :=
    (findMethod?_of_near hc hc' (hname ▸ isSome_boundOn? h)).trans hm
  refine ⟨hbound, ?_⟩
  rw [rollbackOf?_of_bound hbound, rollbackOf?_of_bound hm, hc, hc', flagOf?_append,
    flagOf?_append, Option.or_of_isSome h, Option.or_of_isSome h]

theorem configuration?_of_near (h : (near.findSome? Level.configuration).isSome = true) :
    c'.configuration? = c.configuration? := by
  rw [configuration?, configuration?, hc, hc', List.findSome?_append, List.findSome?_append,
    Option.or_of_isSome h, Option.or_of_isSome h]

theorem intentOf?_of_near (hne : near ≠ [])
    (h : (m.transactional.or (near.findSome? Level.transactional)).isSome = true) :
    c'.intentOf? m = c.intentOf? m := by
  obtain ⟨l, near, rfl⟩ := List.exists_cons_of_ne_nil hne
  have hname : c'.name = c.name := by
    rw [name, name, (List.cons.inj hc).1, (List.cons.inj hc').1]
  rw [intentOf?, intentOf?, hname, attributeOf?, attributeOf?, hc, hc', List.findSome?_append,
    List.findSome?_append, ← Option.or_assoc, ← Option.or_assoc, Option.or_of_isSome h,
    Option.or_of_isSome h]

end

end TestClass

/-! ### Settings of a test -/

theorem TestRun.of_bind {cls : TestClass} {name : String} {s : Subject α} {key : ExecutionKey}
    {t : TestRun α} (h : bind cls name s key = .ok t) :
    ∃ m, cls.findMethod? name = some m ∧ m.name = name ∧ t = ⟨cls, m, s, key⟩ := by
  unfold bind at h
  cases hm : cls.findMethod? name with
  | none =>
    rw [hm] at h
    cases h
  | some m =>
    rw [hm] at h
    exact ⟨m, rfl, by simpa using List.find?_some hm, (Except.ok.inj h).symm⟩

namespace Controller

variable {c : Controller} {t : TestRun α} {w : World α}

/-- A controller that remembers what is declared answers the nearest configuration of a class, else
its own settings. -/
theorem configurationAttributes_fst (h : c.Recalls w) (cls : TestClass) :
    (c.configurationAttributes cls w).1 =
      ⟨(cls.configuration?.map ClassConfiguration.transactionManager).getD
          c.config.defaultTransactionManager,
        (cls.configuration?.map ClassConfiguration.defaultRollback).getD
          c.config.defaultRollback⟩ := by
  rw [configurationAttributes, h.resolve_fst, ConfigurationResolver.attributesOf]
  cases cls.configuration? <;> rfl

theorem isRollback_fst (h : c.Recalls w) (t : TestRun α) :
    (c.isRollback t w).1 = ((t.cls.rollbackOf? t.method).or
      (t.cls.configuration?.map ClassConfiguration.defaultRollback)).getD
        c.config.defaultRollback := by
  show (t.cls.rollbackOf? t.method).getD (c.configurationAttributes t.cls w).1.defaultRollback = _
  rw [configurationAttributes_fst h]
  cases t.cls.rollbackOf? t.method <;> rfl

theorem transactionManager_fst (h : c.Recalls w) (t : TestRun α) (qualifier : Option String) :
    (c.transactionManager t qualifier w).1 = (w.lookup c.config.strictManagerResolution t.name
      qualifier ((t.cls.configuration?.map ClassConfiguration.transactionManager).getD
        c.config.defaultTransactionManager)).1 := by
  have hregistry : (c.configurationAttributes t.cls w).2.registry = w.registry :=
    (c.resolver.quiet_resolve t.cls w).registry
  show (World.lookup c.config.strictManagerResolution t.name qualifier
    (c.configurationAttributes t.cls w).1.managerName (c.configurationAttributes t.cls w).2).1 = _
  rw [World.lookup_fst_congr _ _ _ _ hregistry, configurationAttributes_fst h]

/-- What a before-test phase asks of managers when its hooks are through it asks with the intent of
its test. -/
theorem Asks.intent {r : Except LifecycleError Unit} {requests : List Occurrence}
    (h : Asks t r requests) {m : Manager} {a : Attribute} {o : Except TransactionError Status}
    (ho : .begun m a o ∈ requests) : t.intent? = some a := by
  cases h with
  | nothing => cases ho
  | refused intent =>
    cases List.mem_singleton.1 ho
    exact intent
  | begun intent =>
    cases List.mem_singleton.1 ho
    exact intent
  | undone intent =>
    rcases List.mem_cons.1 ho with ho | ho
    · cases ho
      exact intent
    · cases List.mem_singleton.1 ho

/-- A before-test phase asks for nothing, or it admits its test, and what it asks for when the hooks
are through it asks for with the intent of the test. -/
theorem requests_beforeTest (c : Controller) (t : TestRun α) (w : World α) :
    (c.beforeTest t w).2.proceedings = w.proceedings ∨
      ∃ m a w₁, ∃ requests : List Occurrence, c.Admits t m a w w₁ ∧
        (c.beforeTest t w).2.proceedings =
          (c.prepared t w₁).2.proceedings ++ requests.flatMap (told t.name) ∧
        ∀ m' a' r, .begun m' a' r ∈ requests → a' = a := by
  rcases c.admits_or_uneventful t w with ⟨m, a, w₁, hadmits⟩ | ⟨-, hworld⟩
  · obtain ⟨requests, hasks, hworld⟩ :=
      proceedings_setUp (c := c) hadmits.intent m (c.requested t.key w₁)
    refine .inr ⟨m, a, w₁, requests, hadmits, ?_, fun m' a' r hr => ?_⟩
    · rw [hadmits.beforeTest, proceedings_enter hadmits.idle, hworld]
      rfl
    · exact Option.some.inj ((hasks.intent hr).symm.trans hadmits.intent)
  · exact .inl hworld

/-- What is declared for a test on its class, which has bound it by this name, and what comes of
it. -/
structure FromNearest (cls : TestClass) (name : String) (t : TestRun α) : Prop where
  /-- The first flag that is declared for the signature of the method, else that of the nearest
  configuration, else that of the controller's own settings. -/
  rollback : ∀ (c : Controller) (w : World α), c.Recalls w → (c.isRollback t w).1 =
    ((TestClass.flagOf? cls.hierarchy t.method.signature).or
      ((cls.hierarchy.findSome? Level.configuration).map ClassConfiguration.defaultRollback)).getD
        c.config.defaultRollback
  /-- The name of the manager in the same configuration, else in the controller's own settings. -/
  manager : ∀ (c : Controller) (w : World α), c.Recalls w → ∀ qualifier,
    (c.transactionManager t qualifier w).1 =
      (w.lookup c.config.strictManagerResolution t.name qualifier
        (((cls.hierarchy.findSome? Level.configuration).map
          ClassConfiguration.transactionManager).getD c.config.defaultTransactionManager)).1
  /-- The intent of the method, else that of the nearest level with one, with a name. -/
  intent : t.intent? = (t.method.transactional.or (cls.hierarchy.findSome? Level.transactional)).map
    fun a => { a with name := a.name.or (some (cls.leaf.name ++ "." ++ name)) }
  /-- When the hooks of the test are through, its transaction is started with this intent. -/
  started : ∀ (c : Controller) (w : World α), (c.beforeTest t w).2.proceedings = w.proceedings ∨
    ∃ m a w₁, ∃ requests : List Occurrence, c.Admits t m a w w₁ ∧
      (c.beforeTest t w).2.proceedings =
        (c.prepared t w₁).2.proceedings ++ requests.flatMap (told t.name) ∧
      ∀ m' a' r, .begun m' a' r ∈ requests → a' = a
  /-- And so is every transaction that is started by its body, on a key that was free, while no
  other test is started on the key. -/
  restarted : ∀ (ι : Type) (controllers : ι → Controller)
    (ops : List (Operation ι (KeepsIntent t.key t.intent?))) (w : World α),
    w.context? t.key = none →
      (∀ i t', .before i t' ∈ ops → t'.key = t.key → t'.intent? = t.intent?) →
      ∀ step : BodyStep, BeginsWith t.intent? (Operation.runAll controllers ops w)
        (step.run t.key (Operation.runAll controllers ops w)).2

/-- Two classes that begin with the same levels do not differ in what these levels declare for the
tests of this name. -/
structure AgreeNear (cls cls' : TestClass) (near : List Level) (name : String) (m : Method) :
    Prop where
  method : (TestClass.boundOn? near name).isSome = true → cls'.findMethod? name = some m
  rollback : (TestClass.flagOf? near m.signature).isSome = true →
    cls'.findMethod? name = some m ∧ cls'.rollbackOf? m = cls.rollbackOf? m
  configuration : (near.findSome? Level.configuration).isSome = true →
    cls'.configuration? = cls.configuration?
  intent : (m.transactional.or (near.findSome? Level.transactional)).isSome = true →
    cls'.intentOf? m = cls.intentOf? m

theorem fromNearest_of_bind {cls : TestClass} {name : String} {s : Subject α}
    {key : ExecutionKey} (hbind : TestRun.bind cls name s key = .ok t) :
    FromNearest cls name t := by
  obtain ⟨m, hm, rfl, rfl⟩ := TestRun.of_bind hbind
  exact {
    rollback c w h := by
      rw [isRollback_fst h, TestClass.rollbackOf?_of_bound hm]
      rfl
    manager c w h := transactionManager_fst h _
    intent := by
      rw [TestRun.intent?, TestClass.intentOf?, TestClass.attributeOf?]
      refine congrArg (Option.map · _) (funext fun a => ?_)
      cases ha : a.name <;> simp [Attribute.forTest, ha, TestClass.name]
    started c w := c.requests_beforeTest _ w
    restarted ι controllers ops w hfree hown step :=
      BodyStep.beginsWith_run (Operation.bears_runAll ops hown (.of_none hfree)) step }

/-- **The settings of a test come from the nearest declaration.**  Let a test be bound by name, on
any class.  A controller that remembers nothing but what is declared (`Call.recalls_runAll`) rolls
back as says the first flag that is declared for the signature of the method, on any level; else as
the nearest configuration says; else as its own settings say.  It takes the name of the manager from
the same configuration, else from its own settings.  The intent is the method's own, else that of
the nearest level with one, under the name of the test unless it has a name; with it managers are
asked to begin, when the test is started and when its body starts a transaction.  What is declared
farther away, or comes to be, makes no difference to what is declared near. -/
theorem nearest_declaration {cls : TestClass} {name : String} {s : Subject α}
    {key : ExecutionKey} (hbind : TestRun.bind cls name s key = .ok t) :
    FromNearest cls name t ∧ ∀ (cls' : TestClass) (near far far' : List Level), near ≠ [] →
      cls.hierarchy = near ++ far → cls'.hierarchy = near ++ far' →
        AgreeNear cls cls' near name t.method := by
  refine ⟨fromNearest_of_bind hbind, fun cls' near far far' hne hc hc' => ?_⟩
  obtain ⟨m, hm, -, rfl⟩ := TestRun.of_bind hbind
  exact {
    method h := (TestClass.findMethod?_of_near hc hc' h).trans hm
    rollback := TestClass.rollbackOf?_of_near hc hc' hm
    configuration := TestClass.configuration?_of_near hc hc'
    intent := TestClass.intentOf?_of_near hc hc' hne }

end Controller

namespace Sample

/-- A test without a word about transactions. -/
def post : Method := { signature := ⟨"post", []⟩ }

/-- A level that declares everything, the flag for the method that the test overrides. -/
def ledgers : Level where
  name := "LedgerTest"
  transactional := some { readOnly := true }
  configuration := some ⟨"accounts", false⟩
  methods := [{ post with rollback := some true }]

/-- A class that inherits it. -/
def journals : TestClass where
  id := 3
  leaf := { name := "JournalTest", methods := [post] }
  ancestors := [ledgers]

end Sample

/-- Everything comes from the level of the ancestor, also for the transaction that the body starts;
and another ancestor above it makes no difference. -/
theorem Controller.nearest_declaration_inherited :
    let key := ExecutionKey.thread 0
    let t : TestRun Unit := ⟨Sample.journals, Sample.post, Bindings.subject [], key⟩
    let guarded : GuardedRun (KeepsIntent key t.intent?) :=
      { toTestRun := t, within := Bindings.subject_within (fun _ h => h) nofun }
    let v := Operation.runAll Sample.pair [.before true guarded, .body key .finish] Sample.start
    let named : Attribute := { readOnly := true, name := some "JournalTest.post" }
    TestRun.bind Sample.journals "post" (Bindings.subject []) key = .ok t ∧
      (Sample.controller.isRollback t Sample.start).1 = true ∧
      (Sample.controller.transactionManager t none Sample.start).1 = .ok (some Sample.accounts) ∧
      t.intent? = some named ∧
      BeginsWith t.intent? v (BodyStep.start.run key v).2 ∧
      ∀ far : Level, ({ Sample.journals with ancestors := [Sample.ledgers, far] }).rollbackOf?
        Sample.post = some true := by
  intro key t guarded v named
  have hbind : TestRun.bind Sample.journals "post" (Bindings.subject []) key = .ok t := rfl
  obtain ⟨hsettings, hfarther⟩ := nearest_declaration hbind
  have hrecalls : Sample.controller.Recalls Sample.start := .of_empty rfl rfl
  have hrestarted := hsettings.restarted Bool Sample.pair
    [.before true guarded, .body key .finish] Sample.start rfl (by
      intro i t' ht' _
      rcases List.mem_cons.1 ht' with h | h
      · cases h
        rfl
      · cases List.mem_singleton.1 h) .start
  refine ⟨hbind, (hsettings.rollback _ _ hrecalls).trans (by decide +kernel),
    (hsettings.manager _ _ hrecalls none).trans (by decide +kernel),
    hsettings.intent.trans (by decide +kernel), hrestarted, fun far => ?_⟩
  have hsame := hfarther { Sample.journals with ancestors := [Sample.ledgers, far] }
    Sample.journals.hierarchy [] [far] (List.cons_ne_nil _ _) rfl rfl
  exact (hsame.rollback (by decide +kernel)).2.trans (by decide +kernel)

end TransactionalTest
