import TransactionalTest.Attribute
import TransactionalTest.Text.Inspect

/-!
# Test classes

What a test class hierarchy declares, level by level.

* `Signature` — the identity of a method;
* `HookPhase`, `ClassConfiguration`, `Method` — what a level declares;
* `TestClass` — a class object: its own level and those of its ancestors;
* `TestClass.findMethod?` — the method that a test name is bound to.

A class object has an identity besides its contents.  Two objects of equal contents are different
values of `TestClass`, so a table keyed by `TestClass` is keyed by object.
-/

namespace TransactionalTest

/-! ### Signatures -/

/-- A method's identity: its name and its parameter types in order. -/
structure Signature where
  name : String
  parameterTypes : List String := []
  deriving DecidableEq, Repr, Inhabited

namespace Signature

/-- The name with the parameter types in parentheses. -/
def display (s : Signature) : String :=
  s.name ++ "(" ++ String.intercalate ", " s.parameterTypes ++ ")"

/-- A method of signature `s` is hidden by one of signature `t` declared nearer to the leaf. -/
def isShadowedBy (s t : Signature) : Bool :=
  s.name == t.name && s.parameterTypes == t.parameterTypes

theorem isShadowedBy_iff {s t : Signature} : s.isShadowedBy t = true ↔ s = t := by
  cases s; cases t; simp [isShadowedBy]

/-- The signature in inspection text. -/
def inspect (s : Signature) : String :=
  Inspect.record "MethodSignature"
    [("name", Inspect.quoted s.name), ("parameter_types", Inspect.texts s.parameterTypes)]

end Signature

/-! ### Declarations of one level -/

/-- Which side of the transaction boundary a hook runs on. -/
inductive HookPhase where
  | beforeTransaction
  | afterTransaction
  deriving DecidableEq, Repr, Inhabited

namespace HookPhase

/-- Both phases. -/
def all : List HookPhase := [beforeTransaction, afterTransaction]

/-- The name of the phase. -/
def text : HookPhase → String
  | beforeTransaction => "before_transaction"
  | afterTransaction => "after_transaction"

/-- The phase of this name. -/
def ofText? (s : String) : Option HookPhase := all.find? fun p => p.text == s

@[simp] theorem ofText?_text (p : HookPhase) : ofText? p.text = some p := by
  cases p <;> decide

/-- The phase in inspection text. -/
def inspect : HookPhase → String
  | beforeTransaction => "BeforeTransaction"
  | afterTransaction => "AfterTransaction"

end HookPhase

/-- The transaction configuration of a class. -/
structure ClassConfiguration where
  /-- The manager's name; the empty name asks for the unique or primary manager. -/
  transactionManager : String
  defaultRollback : Bool
  deriving DecidableEq, Repr, Inhabited

namespace ClassConfiguration

/-- The configuration in inspection text. -/
def inspect (c : ClassConfiguration) : String :=
  Inspect.record "ClassConfiguration"
    [("transaction_manager", Inspect.quoted c.transactionManager),
      ("default_rollback", Inspect.flag c.defaultRollback)]

end ClassConfiguration

/-- A method declared on a test class, with what is attached to it. -/
structure Method where
  signature : Signature
  hook : Option HookPhase := none
  transactional : Option Attribute := none
  rollback : Option Bool := none
  deriving DecidableEq, Repr, Inhabited

/-- The name of the method. -/
def Method.name (m : Method) : String := m.signature.name

/-- One level of a class hierarchy. -/
structure Level where
  name : String
  transactional : Option Attribute := none
  configuration : Option ClassConfiguration := none
  methods : List Method := []
  deriving DecidableEq, Repr, Inhabited

/-! ### Class objects -/

/-- A class object: who it is, its own level and the levels of its ancestors, nearest first. -/
structure TestClass where
  id : Nat
  leaf : Level
  ancestors : List Level := []
  deriving DecidableEq, Repr, Inhabited

namespace TestClass

/-- The name of the class. -/
def name (c : TestClass) : String := c.leaf.name

/-- The levels of the class, most derived first. -/
def hierarchy (c : TestClass) : List Level := c.leaf :: c.ancestors

/-- A class of this level that extends `parent`. -/
def extend (id : Nat) (leaf : Level) (parent : TestClass) : TestClass :=
  ⟨id, leaf, parent.hierarchy⟩

@[simp] theorem hierarchy_extend (id : Nat) (leaf : Level) (parent : TestClass) :
    (extend id leaf parent).hierarchy = leaf :: parent.hierarchy := rfl

/-- Every declared method, most derived level first, in declaration order within a level. -/
def allMethods (c : TestClass) : List Method := c.hierarchy.flatMap Level.methods

/-- The method that a name is bound to: the first of that name. -/
def findMethod? (c : TestClass) (name : String) : Option Method :=
  c.allMethods.find? fun m => m.name == name

/-- The two class objects declare the same, whoever they are. -/
def sameContents (a b : TestClass) : Bool := a.hierarchy == b.hierarchy

/-! ### Nearest declarations -/

/-- The transactional intent of a method: its own, else that of the nearest level with one. -/
def attributeOf? (c : TestClass) (m : Method) : Option Attribute :=
  m.transactional.or (c.hierarchy.findSome? Level.transactional)

/-- The rollback flag declared for a method: its own, else the first one declared with the same
signature, most derived level first. -/
def rollbackOf? (c : TestClass) (m : Method) : Option Bool :=
  m.rollback.or ((c.allMethods.filter fun d => d.signature == m.signature).findSome?
    Method.rollback)

/-- The configuration of the nearest level with one. -/
def configuration? (c : TestClass) : Option ClassConfiguration :=
  c.hierarchy.findSome? Level.configuration

/-- The intent of a method, its transaction named after the test unless the declaration named
it. -/
def intentOf? (c : TestClass) (m : Method) : Option Attribute :=
  (c.attributeOf? m).map (·.forTest (c.name ++ "." ++ m.name))

end TestClass

end TransactionalTest
