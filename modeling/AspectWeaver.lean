import AspectWeaver.Advice
import AspectWeaver.Advice.Standard
import AspectWeaver.Calling
import AspectWeaver.Chain
import AspectWeaver.ClassTable
import AspectWeaver.Directive
import AspectWeaver.Event
import AspectWeaver.Failure
import AspectWeaver.Kind
import AspectWeaver.Level
import AspectWeaver.Method
import AspectWeaver.Named
import AspectWeaver.Parameters
import AspectWeaver.Program
import AspectWeaver.Receiver
import AspectWeaver.Refusal
import AspectWeaver.Registry
import AspectWeaver.Registry.Loading
import AspectWeaver.Scenario.Perform
import AspectWeaver.Scenario.Play
import AspectWeaver.Scenario.Render
import AspectWeaver.Scenario.Script
import AspectWeaver.Settings
import AspectWeaver.Settings.Error
import AspectWeaver.Settings.FileSystem
import AspectWeaver.Settings.Policy
import AspectWeaver.Text.Blank
import AspectWeaver.Text.Hidden
import AspectWeaver.Text.LetterCase
import AspectWeaver.Text.Lowercase
import AspectWeaver.Text.Quoted
import AspectWeaver.Toml
import AspectWeaver.Toml.Reader
import AspectWeaver.Toml.Tree
import AspectWeaver.Value
import AspectWeaver.Value.Compact
import AspectWeaver.Weave
import AspectWeaver.Word64
import AspectWeaver.World
import AspectWeaver.Woven
import AspectWeaver.Proofs.History
import AspectWeaver.Proofs.Recording
import AspectWeaver.Proofs.Record
import AspectWeaver.Proofs.Notes
import AspectWeaver.Proofs.Tracking
import AspectWeaver.Proofs.WriteBack
import AspectWeaver.Proofs.Isolation
import AspectWeaver.Proofs.Transparency
import AspectWeaver.Proofs.Schedule
import AspectWeaver.Proofs.Reachable
import AspectWeaver.Proofs.Building
import AspectWeaver.Proofs.Weaving
import AspectWeaver.Proofs.CallOrder
import AspectWeaver.Proofs.ByValue
import AspectWeaver.Proofs.FailedWeaving
import AspectWeaver.Proofs.Reweaving
import AspectWeaver.Proofs.InfoOnce
import AspectWeaver.Proofs.NestedWeaving
import AspectWeaver.Proofs.Signature
import AspectWeaver.Proofs.CallContract
import AspectWeaver.Proofs.Operations
import AspectWeaver.Proofs.Performed
import AspectWeaver.Proofs.Report
import AspectWeaver.Proofs.Resuming
import AspectWeaver.Proofs.Grammar
import AspectWeaver.Proofs.Layout
import AspectWeaver.Proofs.CommentStyle
import AspectWeaver.Proofs.Requests
import AspectWeaver.Proofs.Diagnostics
import AspectWeaver.Proofs.Naming
import AspectWeaver.Proofs.KeptContract
import AspectWeaver.Proofs.Blame
import AspectWeaver.Proofs.Conservation
import AspectWeaver.Proofs.Independence
import AspectWeaver.Proofs.Policies
import AspectWeaver.Proofs.Tally
import AspectWeaver.Proofs.ErrorFlow
import AspectWeaver.Proofs.Stacking
import AspectWeaver.Proofs.JoinPoints
import AspectWeaver.Proofs.Partition
import AspectWeaver.Proofs.Locality
import AspectWeaver.Proofs.ByteOrder
import AspectWeaver.Proofs.RegistrationOrder
import AspectWeaver.Proofs.ParameterAccess
import AspectWeaver.Proofs.AutoLoading
import AspectWeaver.Proofs.LetterCase
import AspectWeaver.Proofs.Validation
import AspectWeaver.Proofs.ArgumentBinding
