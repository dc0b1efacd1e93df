import LedPattern.Color.Name
import LedPattern.Color.Rgb
import LedPattern.Color.Scheme
import LedPattern.CommandLine.Arguments
import LedPattern.CommandLine.FileTree
import LedPattern.CommandLine.Request
import LedPattern.CommandLine.Run
import LedPattern.Compile
import LedPattern.Decimal.Shortest
import LedPattern.Effect
import LedPattern.Intent.Basic
import LedPattern.Intent.Line
import LedPattern.Intent.Section
import LedPattern.Json.Fault
import LedPattern.Json.Number
import LedPattern.Json.Quoted
import LedPattern.Json.Read
import LedPattern.Json.Skip
import LedPattern.Json.Value
import LedPattern.Main
import LedPattern.Pattern.Basic
import LedPattern.Pattern.Encode
import LedPattern.Pattern.Json
import LedPattern.Pattern.Params
import LedPattern.Program.Basic
import LedPattern.Program.Header
import LedPattern.Program.Listing
import LedPattern.Program.Payload
import LedPattern.Proofs.Color.Grammar
import LedPattern.Proofs.Color.Resolve
import LedPattern.Proofs.Color.Tokens
import LedPattern.Proofs.Color.Written
import LedPattern.Proofs.CommandLine.Delivery
import LedPattern.Proofs.CommandLine.FileTree
import LedPattern.Proofs.CommandLine.Verdict
import LedPattern.Proofs.CommandLine.WarningLines
import LedPattern.Proofs.Compile
import LedPattern.Proofs.Effect
import LedPattern.Proofs.Intent.LastWriter
import LedPattern.Proofs.Intent.Layout
import LedPattern.Proofs.Intent.Line
import LedPattern.Proofs.Intent.Printed
import LedPattern.Proofs.Intent.Words
import LedPattern.Proofs.Intent.Written
import LedPattern.Proofs.Json.Grammar
import LedPattern.Proofs.Json.Literal
import LedPattern.Proofs.Json.Skip
import LedPattern.Proofs.Json.Unambiguous
import LedPattern.Proofs.Json.Written
import LedPattern.Proofs.Pattern.Canonical
import LedPattern.Proofs.Pattern.Encode
import LedPattern.Proofs.Pattern.Json
import LedPattern.Proofs.Pattern.Labels
import LedPattern.Proofs.Pattern.Levels
import LedPattern.Proofs.Pattern.Members
import LedPattern.Proofs.Pattern.ReadBack
import LedPattern.Proofs.Pattern.Recompile
import LedPattern.Proofs.Pattern.Warnings
import LedPattern.Proofs.Program.Acceptance
import LedPattern.Proofs.Program.Damage
import LedPattern.Proofs.Program.Image
import LedPattern.Proofs.Program.Layout
import LedPattern.Proofs.Program.Listing
import LedPattern.Proofs.Program.Reheaded
import LedPattern.Proofs.Program.Unpainted
import LedPattern.Proofs.Source
import LedPattern.Proofs.Text.Case
import LedPattern.Proofs.Text.Decimal
import LedPattern.Proofs.Text.Hexadecimal
import LedPattern.Proofs.Text.Numeral
import LedPattern.Proofs.Text.Quoted
import LedPattern.Proofs.Text.Split
import LedPattern.Proofs.Text.Strip
import LedPattern.Proofs.Text.Utf8
import LedPattern.Proofs.WordFamily
import LedPattern.Quantity
import LedPattern.Report
import LedPattern.Source
import LedPattern.Terminal.Ink
import LedPattern.Text.Basic
import LedPattern.Text.GraphemeExtend
import LedPattern.Text.Hexadecimal
import LedPattern.Text.Numeral
import LedPattern.Text.Quoted
import LedPattern.Text.Unprintable
import LedPattern.Text.Utf8
import LedPattern.Warning
import LedPattern.WordFamily
