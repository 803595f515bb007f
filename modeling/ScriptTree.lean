import ScriptTree.Main
import ScriptTree.Proofs.Node.RoundTrip
import ScriptTree.Proofs.JavaScript.Comments
import ScriptTree.Proofs.Build.Invariant
import ScriptTree.Proofs.Build.Terms
import ScriptTree.Proofs.Comment.Seams
import ScriptTree.Proofs.JavaScript.Opening
import ScriptTree.Proofs.JavaScript.Strip
import ScriptTree.Proofs.JavaScript.Sequence
import ScriptTree.Proofs.Comment.Lines
import ScriptTree.Proofs.Operator.ReadBack
import ScriptTree.Proofs.Json.Nesting
import ScriptTree.Proofs.Number.Finite
import ScriptTree.Proofs.Json.ReadValues
import ScriptTree.Proofs.Node.Depth
import ScriptTree.Proofs.Node.NormalForm
import ScriptTree.Proofs.Files
import ScriptTree.Proofs.Command.RenderToFile
import ScriptTree.Proofs.Comment.Block
import ScriptTree.Proofs.Comment.Restore
import ScriptTree.Proofs.JavaScript.Accepted
import ScriptTree.Proofs.Node.Comments
import ScriptTree.Proofs.Number.Rounding
import ScriptTree.Proofs.Build.Radix
import ScriptTree.Proofs.Build.NumberForm
import ScriptTree.Proofs.Text.Bytes
import ScriptTree.Proofs.Build.Concatenation
import ScriptTree.Proofs.Build.NumberLayers
import ScriptTree.Proofs.Json.Tokens
import ScriptTree.Proofs.Operator.Loading
import ScriptTree.Proofs.Build.HostBlanks
import ScriptTree.Proofs.Operator.Listing
import ScriptTree.Proofs.Text.Blank
import ScriptTree.Proofs.JavaScript.PropertyNames
