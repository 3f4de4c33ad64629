import Signpost.Program.Listing
import Signpost.Proofs.BarePath
import Signpost.Proofs.BuiltShape
import Signpost.Proofs.Collapse
import Signpost.Proofs.Lifecycle
import Signpost.Proofs.Machine.Mentions
import Signpost.Proofs.Pattern.Language
import Signpost.Proofs.Pattern.Positions
import Signpost.Proofs.Pattern.Shape
import Signpost.Proofs.Pattern.Splitting
import Signpost.Proofs.Positional
import Signpost.Proofs.Program.Commutation
import Signpost.Proofs.Program.Conservation
import Signpost.Proofs.Program.Limits
import Signpost.Proofs.Program.Registration
import Signpost.Proofs.Program.Simulation
import Signpost.Proofs.RoundTrip
import Signpost.Proofs.Segmentation
import Signpost.Proofs.Spec.Serialization
import Signpost.Proofs.Tables
import Signpost.Proofs.Tree.Copies
import Signpost.Proofs.Tree.Declarations
import Signpost.Proofs.Tree.Levels
import Signpost.Proofs.Tree.Quoting
import Signpost.Service
