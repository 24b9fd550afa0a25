import OrderedChoice.Main
import OrderedChoice.Proofs.Assurance
import OrderedChoice.Proofs.WellNested
import OrderedChoice.Proofs.Alignment
import OrderedChoice.Proofs.Lockstep
import OrderedChoice.Proofs.Locality
import OrderedChoice.Proofs.Loops
import OrderedChoice.Proofs.Sessions
import OrderedChoice.Proofs.Steps
import OrderedChoice.Proofs.Explanation
import OrderedChoice.Proofs.Reporting
import OrderedChoice.Proofs.Loading
import OrderedChoice.Proofs.Annotation
import OrderedChoice.Proofs.Entries
import OrderedChoice.Proofs.Sufficiency
import OrderedChoice.Proofs.Grouping
import OrderedChoice.Proofs.Silence
import OrderedChoice.Proofs.Commands
import OrderedChoice.Proofs.Placement
import OrderedChoice.Proofs.Attempts
import OrderedChoice.Proofs.Tariff
import OrderedChoice.Proofs.Expense
import OrderedChoice.Proofs.Vacuity
import OrderedChoice.Proofs.Findings
import OrderedChoice.Proofs.Chains
import OrderedChoice.Proofs.Reading
import OrderedChoice.Proofs.Displacement
import OrderedChoice.Proofs.Selection
import OrderedChoice.Proofs.Unnesting
import OrderedChoice.Proofs.Course
import OrderedChoice.Proofs.Retelling
import OrderedChoice.Proofs.Transcript
import OrderedChoice.Proofs.Bracketing
import OrderedChoice.Proofs.Decoration
import OrderedChoice.Proofs.Bounds
import OrderedChoice.Proofs.Arithmetic
import OrderedChoice.Proofs.CrossReferences
import OrderedChoice.Proofs.Registration
