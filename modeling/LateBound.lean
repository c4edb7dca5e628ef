import LateBound.AllowList
import LateBound.Arguments
import LateBound.Builtin
import LateBound.Builtin.Args
import LateBound.Builtin.List
import LateBound.Builtin.Math
import LateBound.Builtin.Number
import LateBound.Builtin.Object
import LateBound.Builtin.Text
import LateBound.Dialogue
import LateBound.Disk
import LateBound.Engine
import LateBound.Evaluate
import LateBound.Expr
import LateBound.Expr.Cache
import LateBound.Expr.Parse
import LateBound.Failure
import LateBound.Gate
import LateBound.Host
import LateBound.HostType
import LateBound.HostType.Build
import LateBound.HostType.Native
import LateBound.HostType.Registry
import LateBound.Imports
import LateBound.Initialiser
import LateBound.Machine
import LateBound.Main
import LateBound.Memory
import LateBound.Notice
import LateBound.Number.Binary
import LateBound.Number.Decimal
import LateBound.Number.Integer
import LateBound.Number.Power
import LateBound.Number.Root
import LateBound.Program
import LateBound.RecentMap
import LateBound.Resolution.Coerce
import LateBound.Resolution.Invoke
import LateBound.Resolution.Match
import LateBound.Resolution.Search
import LateBound.Sample.Counter
import LateBound.Sample.Greeter
import LateBound.Sample.Point
import LateBound.Script
import LateBound.Session
import LateBound.Settings
import LateBound.Settings.Edit
import LateBound.Settings.File
import LateBound.Settings.Load
import LateBound.Source
import LateBound.SyntaxError
import LateBound.Template
import LateBound.Text.Alphabetic
import LateBound.Text.Blank
import LateBound.Text.Case
import LateBound.Text.Hash
import LateBound.Text.LetterCase
import LateBound.Text.Printable
import LateBound.Text.Quoted
import LateBound.Text.Ranges
import LateBound.Text.Search
import LateBound.Text.Styled
import LateBound.Token
import LateBound.Token.Scan
import LateBound.Toml
import LateBound.Toml.Outline
import LateBound.Toml.Read
import LateBound.Toml.Reader
import LateBound.Toml.Scalar
import LateBound.Toml.Write
import LateBound.Value
import LateBound.Value.Convert
import LateBound.Proofs.Coupling
import LateBound.Proofs.EngineCoupling
import LateBound.Proofs.Veil
import LateBound.Proofs.Discretion
import LateBound.Proofs.Blindness
import LateBound.Proofs.DiscreetBuiltins
import LateBound.Proofs.SearchCoupling
import LateBound.Proofs.Twins
import LateBound.Proofs.Twins.Resolution
import LateBound.Proofs.Twins.Evaluation
import LateBound.Observation
import LateBound.Proofs.Twins.Engine
import LateBound.Proofs.Transparency
import LateBound.Proofs.Confinement
import LateBound.Proofs.Grammar
import LateBound.Proofs.TreeHeight
import LateBound.Proofs.GrammarComplete
import LateBound.Proofs.Tiling
import LateBound.Proofs.NodeSpans
import LateBound.Proofs.SyntaxPlaces
import LateBound.Proofs.Diagnostics
import LateBound.Proofs.Unambiguity
import LateBound.Proofs.Lineage
import LateBound.Proofs.Precedence
import LateBound.Proofs.Payloads
import LateBound.Proofs.Passing
import LateBound.Proofs.Relocation
import LateBound.Proofs.Lexemes
import LateBound.Proofs.Lexed
import LateBound.Proofs.Segments
import LateBound.Proofs.BracketDepth
import LateBound.Proofs.Silence
import LateBound.Proofs.Replay
import LateBound.Proofs.Positional
import LateBound.Proofs.Construction
import LateBound.Proofs.ConstructorCalls
import LateBound.Proofs.Recency
import LateBound.Proofs.TokenPlaces
import LateBound.Proofs.Spacing
import LateBound.Proofs.Muting
import LateBound.Proofs.Reticence
import LateBound.Proofs.Expansion
import LateBound.Proofs.Inquiries
import LateBound.Proofs.Importing
import LateBound.Proofs.ImportTables
import LateBound.Proofs.SessionCoupling
import LateBound.Proofs.Reloading
import LateBound.Proofs.WholePlaceholder
import LateBound.Proofs.FieldWrites
import LateBound.Proofs.BalancedSegments
import LateBound.Proofs.NamedInitialisers
import LateBound.Proofs.Faithful
import LateBound.Proofs.ImportedNames
import LateBound.Proofs.Subtyping
import LateBound.Proofs.DottedNames
import LateBound.Proofs.Causes
import LateBound.Proofs.Accounts
import LateBound.Proofs.AccountSoundness
import LateBound.Proofs.Cascades
import LateBound.Proofs.BoundedInitialisers
import LateBound.Proofs.Admission
import LateBound.Proofs.Hashing
import LateBound.Proofs.ReadingBack
import LateBound.Proofs.Rounding
import LateBound.Proofs.Settling
import LateBound.Proofs.BalancedBrackets
import LateBound.Proofs.StringLiterals
import LateBound.Proofs.IntegerLiterals
import LateBound.Proofs.NestedSpans
import LateBound.Proofs.TreeTexts
import LateBound.Proofs.NativeCalls
import LateBound.Proofs.Offsets
import LateBound.Proofs.EngineCalls
import LateBound.Proofs.TextMethods
import LateBound.Proofs.Splitting
import LateBound.Proofs.FloorDivision
import LateBound.Proofs.FloatOrder
import LateBound.Proofs.WholeExtrema
import LateBound.Proofs.EnumConstants
import LateBound.Proofs.Bookkeeping
import LateBound.Proofs.TopLevel
import LateBound.Proofs.Merging
import LateBound.Proofs.Lines
import LateBound.Proofs.Underlining
