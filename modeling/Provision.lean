import Provision.Document.Printer
import Provision.Document.WellFormed
import Provision.Main
import Provision.Proofs.Calendar.Timestamp
import Provision.Proofs.CommandLine.Installation
import Provision.Proofs.Document.Appending
import Provision.Proofs.Document.Closing
import Provision.Proofs.Document.Dependency
import Provision.Proofs.Document.Indentation
import Provision.Proofs.Document.Layout
import Provision.Proofs.Document.Location
import Provision.Proofs.Document.Numbering
import Provision.Proofs.Document.Operand
import Provision.Proofs.Document.Printing
import Provision.Proofs.Document.Reading
import Provision.Proofs.Document.RoundTrip
import Provision.Proofs.Document.Statement
import Provision.Proofs.Document.Step
import Provision.Proofs.Document.Swallowing
import Provision.Proofs.Document.Trail
import Provision.Proofs.Document.Trailing
import Provision.Proofs.Document.WellFormed
import Provision.Proofs.Files.Paths
import Provision.Proofs.Graph.Bookkeeping
import Provision.Proofs.Graph.Precedence
import Provision.Proofs.Graph.Table
import Provision.Proofs.Index.Gathering
import Provision.Proofs.Index.Normalization
import Provision.Proofs.Journal.Appending
import Provision.Proofs.Pass.Blindness
import Provision.Proofs.Pass.Chronicle
import Provision.Proofs.Pass.Coverage
import Provision.Proofs.Pass.Outputs
import Provision.Proofs.Pass.Work
import Provision.Proofs.Recipe.Forwarding
import Provision.Proofs.Recipe.Locality
import Provision.Proofs.Recipe.Shape
import Provision.Proofs.Recipe.Wrapper
