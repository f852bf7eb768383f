import Formula.Context
import Formula.Main
import Formula.Proofs.Acceptance
import Formula.Proofs.Labels
import Formula.Proofs.LineEndings
import Formula.Proofs.Conversation
import Formula.Proofs.ExitStatus
import Formula.Proofs.Reports
import Formula.Proofs.Coloring
import Formula.Proofs.Spans
import Formula.Proofs.Nodes
import Formula.Proofs.Locus
import Formula.Proofs.Pinning
import Formula.Proofs.CompactForm
import Formula.Proofs.OutlineForm
import Formula.Proofs.Switches
import Formula.Proofs.Capacity
import Formula.Proofs.Descents
import Formula.Proofs.Freshness
import Formula.Proofs.Cursor
import Formula.Proofs.LongestTokens
