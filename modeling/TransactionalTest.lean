import TransactionalTest.Interchange.Decode
import TransactionalTest.Json.Reader
import TransactionalTest.Json.Writer
import TransactionalTest.Logging.Console
import TransactionalTest.Proofs.BeforeHooks
import TransactionalTest.Proofs.BodyErrors
import TransactionalTest.Proofs.Coherence
import TransactionalTest.Proofs.Custody
import TransactionalTest.Proofs.ExactlyOnce
import TransactionalTest.Proofs.FailedSetUp
import TransactionalTest.Proofs.Guard
import TransactionalTest.Proofs.HookCauses
import TransactionalTest.Proofs.Interleaving
import TransactionalTest.Proofs.Journal
import TransactionalTest.Proofs.Layering
import TransactionalTest.Proofs.NearestDeclaration
import TransactionalTest.Proofs.Pairing
import TransactionalTest.Proofs.ReadBack
import TransactionalTest.Proofs.Reentrancy
import TransactionalTest.Proofs.RegistrationOrder
import TransactionalTest.Proofs.Replay
import TransactionalTest.Proofs.RollbackGuarantee
import TransactionalTest.Proofs.Steering
import TransactionalTest.Proofs.Strictness
import TransactionalTest.Proofs.Transitions
import TransactionalTest.Proofs.Transparency
import TransactionalTest.Proofs.Verbatim
import TransactionalTest.Scenario.Run
import TransactionalTest.Settings.Load
