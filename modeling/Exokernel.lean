import Exokernel.Proofs.Abi.EnvId
import Exokernel.Proofs.Kernel.Destruction
import Exokernel.Proofs.Kernel.ForkPoint
import Exokernel.Proofs.Kernel.FrameAccounts
import Exokernel.Proofs.Kernel.Generations
import Exokernel.Proofs.Kernel.Images
import Exokernel.Proofs.Kernel.PageOutcomes
import Exokernel.Proofs.Kernel.RejectedImages
import Exokernel.Proofs.Kernel.SendOutcomes
import Exokernel.Proofs.Kernel.UserBuffers
import Exokernel.Proofs.Kernel.Wakeups
import Exokernel.Proofs.Memory.RoundTrip
import Exokernel.Proofs.NonInterference
import Exokernel.Proofs.PageViews
import Exokernel.Proofs.TimerTurns
import Exokernel.Proofs.User.ConsoleInput
import Exokernel.Proofs.User.FailedFork
import Exokernel.Proofs.User.ForkLayout
import Exokernel.Proofs.User.Messages
import Exokernel.Proofs.User.NestedFaults
import Exokernel.Proofs.User.Resumption
import Exokernel.Proofs.User.Script
import Exokernel.Proofs.User.Termination
import Exokernel.Proofs.UserAccesses
