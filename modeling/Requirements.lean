import Requirements.Graph.Journal
import Requirements.Main
import Requirements.Proofs.Builder
import Requirements.Proofs.Folding
import Requirements.Proofs.Declared
import Requirements.Proofs.Interleaving
import Requirements.Proofs.Placement
import Requirements.Proofs.Arity
import Requirements.Proofs.Sections
import Requirements.Proofs.Acceptance
import Requirements.Pattern.Step
import Requirements.Proofs.Quoting
import Requirements.Proofs.Frame
import Requirements.Proofs.Failure
import Requirements.Proofs.Scope
import Requirements.Proofs.Naming
import Requirements.Proofs.Exchange
import Requirements.Proofs.Handles
import Requirements.Proofs.Remarks
import Requirements.Proofs.Continuation
import Requirements.Proofs.Recovery
import Requirements.Proofs.Concatenation
import Requirements.Proofs.Overrides
import Requirements.Proofs.Ancestors
import Requirements.Proofs.FoldOrder
import Requirements.Proofs.Layers
import Requirements.Proofs.Unnamed
import Requirements.Proofs.Nearest
import Requirements.Proofs.SingleUse
import Requirements.Proofs.Spans
import Requirements.Proofs.Runs
import Requirements.Proofs.Repetition
import Requirements.Proofs.RegularNames
import Requirements.Proofs.SourceWords
import Requirements.Proofs.Branches
import Requirements.Proofs.Redeclared
import Requirements.Proofs.References
import Requirements.Proofs.UseWords
import Requirements.Proofs.Documents
import Requirements.Proofs.Dialects
import Requirements.Proofs.HollowValues
import Requirements.Proofs.Sentinels
import Requirements.Proofs.Regeneration
import Requirements.Proofs.MacroTables
import Requirements.Proofs.LastNames
