import ScriptBridge.Binding.Callables
import ScriptBridge.Binding.ClassFile
import ScriptBridge.Binding.Execution
import ScriptBridge.Binding.Marshalling
import ScriptBridge.Binding.Registration
import ScriptBridge.Binding.Selector
import ScriptBridge.Binding.Wrapper
import ScriptBridge.Command.Arguments
import ScriptBridge.Command.Directive
import ScriptBridge.Command.Filter
import ScriptBridge.Command.Run
import ScriptBridge.Database.Entry
import ScriptBridge.Database.Lexeme
import ScriptBridge.Database.Reader
import ScriptBridge.Declared.Banned
import ScriptBridge.Declared.BasicType
import ScriptBridge.Declared.CanonicalId
import ScriptBridge.Declared.Target
import ScriptBridge.Files.Basic
import ScriptBridge.Files.Tree
import ScriptBridge.Generation.Plan
import ScriptBridge.Generation.Run
import ScriptBridge.Keyed
import ScriptBridge.Log
import ScriptBridge.Main
import ScriptBridge.Native.Classes
import ScriptBridge.Native.Type
import ScriptBridge.Native.Vector3
import ScriptBridge.Numeric.Binary
import ScriptBridge.Numeric.Shortest
import ScriptBridge.Numeric.Whole
import ScriptBridge.Proofs.Binding.Callables
import ScriptBridge.Proofs.Binding.ClassFile
import ScriptBridge.Proofs.Binding.Definitions
import ScriptBridge.Proofs.Binding.Execution
import ScriptBridge.Proofs.Binding.Exposed
import ScriptBridge.Proofs.Binding.Functions
import ScriptBridge.Proofs.Binding.Linkage
import ScriptBridge.Proofs.Binding.ModuleFile
import ScriptBridge.Proofs.Binding.Names
import ScriptBridge.Proofs.Binding.Overloads
import ScriptBridge.Proofs.Binding.Printing
import ScriptBridge.Proofs.Binding.ReceiverSource
import ScriptBridge.Proofs.Binding.ResultType
import ScriptBridge.Proofs.Binding.Verdicts
import ScriptBridge.Proofs.Binding.WellNamed
import ScriptBridge.Proofs.Command.Ending
import ScriptBridge.Proofs.Command.Strict
import ScriptBridge.Proofs.Declared.Arguments
import ScriptBridge.Proofs.Declared.BasicType
import ScriptBridge.Proofs.Declared.Brackets
import ScriptBridge.Proofs.Declared.CanonicalId
import ScriptBridge.Proofs.Declared.Decomposition
import ScriptBridge.Proofs.Declared.Qualified
import ScriptBridge.Proofs.Declared.Sense
import ScriptBridge.Proofs.Declared.Shapes
import ScriptBridge.Proofs.Declared.Spelling
import ScriptBridge.Proofs.Declared.TypeGrammar
import ScriptBridge.Proofs.Declared.WriteBack
import ScriptBridge.Proofs.Files.Repetition
import ScriptBridge.Proofs.Files.Tree
import ScriptBridge.Proofs.Generation.Deposit
import ScriptBridge.Proofs.Generation.Directory
import ScriptBridge.Proofs.Generation.Everything
import ScriptBridge.Proofs.Generation.GlobalName
import ScriptBridge.Proofs.Generation.Locality
import ScriptBridge.Proofs.Generation.Overwriting
import ScriptBridge.Proofs.Generation.Repetition
import ScriptBridge.Proofs.Generation.Requests
import ScriptBridge.Proofs.Generation.Submission
import ScriptBridge.Proofs.Generation.WellNamed
import ScriptBridge.Proofs.Numeric.Exact
import ScriptBridge.Proofs.Numeric.Significant
import ScriptBridge.Proofs.Outcome
import ScriptBridge.Proofs.Script.Ancestry
import ScriptBridge.Proofs.Script.CallTree
import ScriptBridge.Proofs.Script.Calls
import ScriptBridge.Proofs.Script.CompleteHandle
import ScriptBridge.Proofs.Script.ConstData
import ScriptBridge.Proofs.Script.Construction
import ScriptBridge.Proofs.Script.Conversion
import ScriptBridge.Proofs.Script.Convertible
import ScriptBridge.Proofs.Script.Evolution
import ScriptBridge.Proofs.Script.FieldType
import ScriptBridge.Proofs.Script.FixedBinding
import ScriptBridge.Proofs.Script.Frame
import ScriptBridge.Proofs.Script.GlobalName
import ScriptBridge.Proofs.Script.Handle
import ScriptBridge.Proofs.Script.HandleInvariant
import ScriptBridge.Proofs.Script.ListObject
import ScriptBridge.Proofs.Script.ListRoundTrip
import ScriptBridge.Proofs.Script.Live
import ScriptBridge.Proofs.Script.Lookup
import ScriptBridge.Proofs.Script.Numbering
import ScriptBridge.Proofs.Script.Publication
import ScriptBridge.Proofs.Script.Reachability
import ScriptBridge.Proofs.Script.ReceiverClass
import ScriptBridge.Proofs.Script.ReceiverFrame
import ScriptBridge.Proofs.Script.RoundTrip
import ScriptBridge.Proofs.Script.ScriptRun
import ScriptBridge.Proofs.Script.SharedCell
import ScriptBridge.Proofs.Script.Simulation
import ScriptBridge.Proofs.Script.StaticField
import ScriptBridge.Proofs.Script.TypeTest
import ScriptBridge.Proofs.Symbol.Duplicate
import ScriptBridge.Proofs.Symbol.Naming
import ScriptBridge.Proofs.Symbol.PlainNames
import ScriptBridge.Proofs.Symbol.Registry
import ScriptBridge.Proofs.Text.Quoted
import ScriptBridge.Proofs.Token.Identifier
import ScriptBridge.Proofs.Token.Joint
import ScriptBridge.Proofs.Token.Keyword
import ScriptBridge.Proofs.Token.Layout
import ScriptBridge.Proofs.Token.Lexeme
import ScriptBridge.Proofs.Token.Phrases
import ScriptBridge.Proofs.Token.Reading
import ScriptBridge.Proofs.Token.Spacing
import ScriptBridge.Proofs.Token.Structure
import ScriptBridge.Script.Body
import ScriptBridge.Script.Bound
import ScriptBridge.Script.ConvertError
import ScriptBridge.Script.Engine
import ScriptBridge.Script.Interface
import ScriptBridge.Script.InvocationError
import ScriptBridge.Script.Layout
import ScriptBridge.Script.Marshal
import ScriptBridge.Script.Method
import ScriptBridge.Script.Object
import ScriptBridge.Script.Store
import ScriptBridge.Script.Value
import ScriptBridge.Session.Probe
import ScriptBridge.Symbol.Declaration
import ScriptBridge.Symbol.Exposure
import ScriptBridge.Symbol.Load
import ScriptBridge.Symbol.Naming
import ScriptBridge.Symbol.Registry
import ScriptBridge.Text.Alphabet
import ScriptBridge.Text.Concealed
import ScriptBridge.Text.Digits
import ScriptBridge.Text.LetterCase
import ScriptBridge.Text.Letters
import ScriptBridge.Text.Octets
import ScriptBridge.Text.Pattern
import ScriptBridge.Text.Pieces
import ScriptBridge.Text.Quoted
import ScriptBridge.Text.Runs
import ScriptBridge.Text.Terminal
import ScriptBridge.Text.Words
import ScriptBridge.Token.Basic
import ScriptBridge.Token.Compose
import ScriptBridge.Token.Identifier
import ScriptBridge.Token.Layout
