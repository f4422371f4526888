import ScriptGraph.Command.Directory
import ScriptGraph.Main
import ScriptGraph.Proofs.Agreement
import ScriptGraph.Proofs.Script.Termination
import ScriptGraph.Proofs.Source.Scope
import ScriptGraph.Proofs.StraightLine
import ScriptGraph.Proofs.Source.Act
import ScriptGraph.Proofs.Source.Supply
import ScriptGraph.Proofs.Source.Initial
import ScriptGraph.Proofs.Source.Inline
import ScriptGraph.Proofs.Rearrangement
import ScriptGraph.Proofs.Script.Order
import ScriptGraph.Proofs.Script.Recall
import ScriptGraph.Proofs.Source.Surface
import ScriptGraph.Proofs.Source.Terminator
import ScriptGraph.Proofs.Source.Constants
import ScriptGraph.Proofs.Script.Renaming
import ScriptGraph.Proofs.Source.Renaming
import ScriptGraph.Proofs.Script.Debugging
import ScriptGraph.Proofs.Script.Failing
import ScriptGraph.Proofs.Graph.Document
import ScriptGraph.Proofs.Script.Reporting
import ScriptGraph.Proofs.Script.Store
import ScriptGraph.Proofs.Graph.Connections
import ScriptGraph.Proofs.Source.Nesting
import ScriptGraph.Proofs.Surplus
import ScriptGraph.Proofs.Extension
import ScriptGraph.Proofs.Outputs
import ScriptGraph.Proofs.Arguments
import ScriptGraph.Proofs.Script.Branch
import ScriptGraph.Proofs.Script.Rounds
import ScriptGraph.Proofs.Script.Slice
import ScriptGraph.Proofs.Switch
import ScriptGraph.Proofs.Script.Conversion
import ScriptGraph.Proofs.Script.Encoding
import ScriptGraph.Proofs.Script.Comparison
import ScriptGraph.Proofs.Requests
import ScriptGraph.Proofs.Graph.Ids
import ScriptGraph.Proofs.Decimal.Leading
import ScriptGraph.Proofs.Kind.Registrations
