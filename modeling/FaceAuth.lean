import FaceAuth.Daemon.Cleanup
import FaceAuth.Daemon.Expiry
import FaceAuth.Daemon.Listener
import FaceAuth.Liveness.Soundness
import FaceAuth.Storage.Generations
import FaceAuth.Daemon.Ownership
import FaceAuth.Daemon.Cancellation
import FaceAuth.Daemon.Commit
import FaceAuth.Daemon.Survival
import FaceAuth.Daemon.Relay
import FaceAuth.Daemon.Disconnect
import FaceAuth.Storage.FailureAtomicity
import FaceAuth.Storage.Codec
import FaceAuth.Daemon.SessionOrder
import FaceAuth.Daemon.ContinuousFace
import FaceAuth.Storage.SealedKey
import FaceAuth.Daemon.ProgressBudget
import FaceAuth.Daemon.Retry
import FaceAuth.Daemon.GrantIssuer
import FaceAuth.Enrollment.Soundness
import FaceAuth.Pam.Patience
import FaceAuth.Management.Contract
import FaceAuth.Daemon.SupervisorOutcome
import FaceAuth.Ui.Experience
import FaceAuth.Ui.SettingsIsolation
import FaceAuth.Transport.Stream
import FaceAuth.Transport.AcceptAccount
import FaceAuth.Inference.Shapes
import FaceAuth.Capture.Alignment
import FaceAuth.Daemon.PadDecision
import FaceAuth.Enrollment.Refusal
import FaceAuth.Capture.Spec
import FaceAuth.Daemon.Workability
import FaceAuth.Daemon.Prompts
import FaceAuth.Inference.Suppression
import FaceAuth.Inference.Axis
import FaceAuth.Inference.Resample
import FaceAuth.Quality.Aggregate
import FaceAuth.Quality.Encoding
import FaceAuth.Quality.Percentile
import FaceAuth.Storage.BlobCodec
import FaceAuth.Daemon.Shutdown
import FaceAuth.Daemon.Accumulator
import FaceAuth.Storage.SharedFile
import FaceAuth.Transport.SecureListener
import FaceAuth.Daemon.Assembly
import FaceAuth.Daemon.StateProgress
import FaceAuth.Daemon.PeerExecutable
