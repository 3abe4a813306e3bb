import Nearest.Command
import Nearest.Main
import Nearest.Proofs.Handing
import Nearest.Proofs.Interrupted
import Nearest.Proofs.Lengths
import Nearest.Proofs.Lifetimes
import Nearest.Proofs.Merging
import Nearest.Proofs.Ordering
import Nearest.Proofs.Plans
import Nearest.Proofs.Restarts
import Nearest.Proofs.Selecting
import Nearest.Proofs.Tallying
import Nearest.Proofs.Writing
