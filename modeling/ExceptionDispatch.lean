import ExceptionDispatch.Machine.Standard
import ExceptionDispatch.Proofs.BuiltinSearch
import ExceptionDispatch.Proofs.Commutation
import ExceptionDispatch.Proofs.ConstructionDepth
import ExceptionDispatch.Proofs.DepthLimit
import ExceptionDispatch.Proofs.EnvironmentGrammar
import ExceptionDispatch.Proofs.HeapHistory
import ExceptionDispatch.Proofs.LineSearch
import ExceptionDispatch.Proofs.Messages
import ExceptionDispatch.Proofs.OnceOnly
import ExceptionDispatch.Proofs.RegistryHistory
import ExceptionDispatch.Proofs.Replacement
import ExceptionDispatch.Proofs.Safety
import ExceptionDispatch.Proofs.Termination
import ExceptionDispatch.Session.Run
import ExceptionDispatch.Settings.Environment
