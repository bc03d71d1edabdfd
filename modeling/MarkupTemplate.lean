import MarkupTemplate.Document.Select
import MarkupTemplate.Engine
import MarkupTemplate.Tag.Custom
import MarkupTemplate.Value.Inspect
import MarkupTemplate.Proofs.Scope.Index
import MarkupTemplate.Proofs.Scope.Position
import MarkupTemplate.Proofs.Scope.WellFormed
import MarkupTemplate.Proofs.Scope.System
import MarkupTemplate.Proofs.Held
import MarkupTemplate.Proofs.Scope.Map
import MarkupTemplate.Proofs.Scoping.Agree
import MarkupTemplate.Proofs.Scoping.Projection
import MarkupTemplate.Proofs.Simulation.Levels
import MarkupTemplate.Proofs.Simulation.Stages
import MarkupTemplate.Proofs.Scoping.Forget
import MarkupTemplate.Proofs.Scoping.Refinement
import MarkupTemplate.Proofs.Resolved.Soundness
import MarkupTemplate.Proofs.Nesting.Termination
import MarkupTemplate.Proofs.Scope.Isolation
import MarkupTemplate.Proofs.Layout.Rendering
import MarkupTemplate.Proofs.Placement.Malformed
import MarkupTemplate.Proofs.Declared.Passing
import MarkupTemplate.Proofs.Outside.Independence
import MarkupTemplate.Proofs.Placement.Provenance
import MarkupTemplate.Proofs.Scope.Checkpoint
import MarkupTemplate.Proofs.Balance.Blocks
import MarkupTemplate.Proofs.Reshaping.Rendering
import MarkupTemplate.Proofs.Placement.Retrying
import MarkupTemplate.Proofs.Scope.Reset
import MarkupTemplate.Proofs.Binding.Calls
import MarkupTemplate.Proofs.Indentation.Interpolation
import MarkupTemplate.Proofs.Indentation.Composing
import MarkupTemplate.Proofs.Placement.LineStarts
import MarkupTemplate.Proofs.Contents.Flattening
import MarkupTemplate.Proofs.Modules.History
import MarkupTemplate.Proofs.Markup.Formatting
import MarkupTemplate.Proofs.Markup.Attributes
import MarkupTemplate.Proofs.Excerpts
import MarkupTemplate.Proofs.Selection.Order
import MarkupTemplate.Proofs.Selection.Classes
