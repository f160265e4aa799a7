import Introspection.Transcript
import Introspection.Proofs.Applicability
import Introspection.Proofs.CallLines
import Introspection.Proofs.Deprecation
import Introspection.Proofs.Locations
import Introspection.Proofs.Malformed
import Introspection.Proofs.NamedLookups
import Introspection.Proofs.Partition
import Introspection.Proofs.SortedLists
import Introspection.Proofs.Notation
import Introspection.Proofs.OwnNode
import Introspection.Proofs.Pruning
import Introspection.Proofs.Rearranging
import Introspection.Proofs.Recasing
import Introspection.Proofs.RoundTrip
import Introspection.Proofs.TrueErrors
import Introspection.Proofs.UpperSnake
