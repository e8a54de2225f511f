import OperatorLowering.Check
import OperatorLowering.CommandLine
import OperatorLowering.CommandLine.Arguments
import OperatorLowering.CommandLine.Files
import OperatorLowering.CommandLine.Help
import OperatorLowering.Config
import OperatorLowering.Config.Reader
import OperatorLowering.Conversion
import OperatorLowering.Diagnostic
import OperatorLowering.EarlyExit
import OperatorLowering.Error
import OperatorLowering.Expr
import OperatorLowering.Expr.Codec
import OperatorLowering.Json
import OperatorLowering.Json.Decoder
import OperatorLowering.Json.Number
import OperatorLowering.Json.Printer
import OperatorLowering.Json.Reader
import OperatorLowering.Lowering
import OperatorLowering.Lowering.Cast
import OperatorLowering.Lowering.Codec
import OperatorLowering.Lowering.Convert
import OperatorLowering.Lowering.Resolve
import OperatorLowering.Main
import OperatorLowering.Numeric.Binary
import OperatorLowering.Numeric.Number
import OperatorLowering.Numeric.NumericType
import OperatorLowering.Numeric.Primitive
import OperatorLowering.Numeric.Shortest
import OperatorLowering.Numeric.Suggestion
import OperatorLowering.Operator
import OperatorLowering.Program
import OperatorLowering.Program.Codec
import OperatorLowering.Promotion
import OperatorLowering.Proofs.Arithmetic
import OperatorLowering.Proofs.ArithmeticType
import OperatorLowering.Proofs.CastValue
import OperatorLowering.Proofs.Checking
import OperatorLowering.Proofs.Closest
import OperatorLowering.Proofs.ConversionTyping
import OperatorLowering.Proofs.Declarations
import OperatorLowering.Proofs.Decoding
import OperatorLowering.Proofs.Evaluation
import OperatorLowering.Proofs.Execution
import OperatorLowering.Proofs.ExitMonotonicity
import OperatorLowering.Proofs.ExitSoundness
import OperatorLowering.Proofs.ExprCodec
import OperatorLowering.Proofs.Layout
import OperatorLowering.Proofs.LevelOverrides
import OperatorLowering.Proofs.Lexing
import OperatorLowering.Proofs.LosslessLexing
import OperatorLowering.Proofs.NullSafety
import OperatorLowering.Proofs.OperatorReports
import OperatorLowering.Proofs.ProgramCodec
import OperatorLowering.Proofs.Promotion
import OperatorLowering.Proofs.QueryErrors
import OperatorLowering.Proofs.QueryText
import OperatorLowering.Proofs.Reachability
import OperatorLowering.Proofs.Scanning
import OperatorLowering.Proofs.StaticType
import OperatorLowering.Proofs.Tree
import OperatorLowering.Query
import OperatorLowering.Query.Parser
import OperatorLowering.Registry
import OperatorLowering.Scope
import OperatorLowering.Session
import OperatorLowering.Span
import OperatorLowering.Text.Blank
import OperatorLowering.Text.EditDistance
import OperatorLowering.Text.Escaped
import OperatorLowering.Text.Name
import OperatorLowering.Text.Quoted
import OperatorLowering.Text.Reader
import OperatorLowering.Token
import OperatorLowering.Token.Lexer
import OperatorLowering.Toml
import OperatorLowering.Toml.Document
import OperatorLowering.Toml.Scalar
import OperatorLowering.Toml.Table
import OperatorLowering.Toml.Text
import OperatorLowering.TypeName
import OperatorLowering.Proofs.IntegralCasts
import OperatorLowering.Proofs.RegistryHistory
import OperatorLowering.Proofs.BigNumbers
import OperatorLowering.Proofs.Template
import OperatorLowering.Proofs.EditDistance
import OperatorLowering.Proofs.QuerySpans
import OperatorLowering.Proofs.Suggestion
import OperatorLowering.Proofs.TypeQuestions
