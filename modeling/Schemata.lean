import Schemata.Issue.Json
import Schemata.Issue.Reading
import Schemata.Result
import Schemata.Session
import Schemata.Standard
import Schemata.Proofs.Outcome
import Schemata.Proofs.Tree
import Schemata.Proofs.Visiting
import Schemata.Proofs.Complaints
import Schemata.Proofs.Structural
import Schemata.Proofs.IssueTree
import Schemata.Proofs.Consultation
import Schemata.Proofs.Containment
import Schemata.Proofs.Variation
import Schemata.Proofs.Modes
import Schemata.Proofs.Reporting
import Schemata.Proofs.Location
import Schemata.Proofs.Recording
import Schemata.Proofs.Origin
import Schemata.Proofs.Annotation
import Schemata.Proofs.Pipeline
import Schemata.Proofs.Yielding
import Schemata.Proofs.RoundTrip
import Schemata.Proofs.Tables
import Schemata.Proofs.FixedPoint
import Schemata.Proofs.Leniency
import Schemata.Proofs.Strictness
import Schemata.Proofs.Extension
import Schemata.Proofs.Absence
import Schemata.Proofs.Projection
import Schemata.Proofs.Sharing
import Schemata.Proofs.Calls
import Schemata.Proofs.Isolation
import Schemata.Proofs.Scoping
import Schemata.Proofs.Rebuilding
import Schemata.Proofs.Traversal
import Schemata.Proofs.Regrouping
import Schemata.Proofs.Wrapping
import Schemata.Proofs.Amounts
import Schemata.Proofs.Bounds
import Schemata.Proofs.Exactness
import Schemata.Proofs.Configuration
import Schemata.Proofs.Branching
import Schemata.Proofs.Tagging
import Schemata.Proofs.Rejection
import Schemata.Proofs.Readability
import Schemata.Proofs.Reflexivity
import Schemata.Proofs.Relocation
import Schemata.Proofs.Serialization
