import TransactionalTest.World

/-!
# Class configuration

The manager's name and default rollback flag of a class, resolved once per class object.

* `ConfigurationResolver.attributesOf` — the answer as the declarations give it;
* `ConfigurationResolver.resolve` — the same with a cache.
-/

namespace TransactionalTest

/-- Resolves the configuration of classes; `fallback` holds where none is declared. -/
structure ConfigurationResolver where
  owner : OwnerId
  fallback : ConfigurationAttributes
  deriving DecidableEq, Repr

namespace ConfigurationResolver

variable {α : Type}

/-- What holds for a class: the nearest declaration, else the fallback. -/
def attributesOf (r : ConfigurationResolver) (c : TestClass) : ConfigurationAttributes :=
  match c.configuration? with
  | some d => ⟨d.transactionManager, d.defaultRollback⟩
  | none => r.fallback

/-- What holds for a class, remembered from the first time on. -/
def resolve (r : ConfigurationResolver) (c : TestClass) (w : World α) :
    ConfigurationAttributes × World α :=
  match w.configurationCache.find? (r.owner, c) with
  | some a => (a, w)
  | none =>
    let a := r.attributesOf c
    let w := (w.report (.configurationRead c.configuration? c.name)).report
      (.configurationResolved a c.name)
    (a, { w with configurationCache := w.configurationCache.insert (r.owner, c) a })

/-- How many classes are remembered. -/
def cachedCount (r : ConfigurationResolver) (w : World α) : Nat :=
  w.configurationCache.countP fun e => e.1.1 == r.owner

/-- The resolver in inspection text. -/
def inspect (r : ConfigurationResolver) (w : World α) : String :=
  Inspect.record "ConfigurationResolver"
    [("fallback", r.fallback.inspect), ("cached_classes", toString (r.cachedCount w))]

end ConfigurationResolver

end TransactionalTest
