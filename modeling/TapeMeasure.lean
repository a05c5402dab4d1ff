import TapeMeasure.Calculation
import TapeMeasure.Decimal
import TapeMeasure.Decimal.Display
import TapeMeasure.Decimal.Precision
import TapeMeasure.Decimal.Text
import TapeMeasure.Double
import TapeMeasure.Double.Text
import TapeMeasure.Event
import TapeMeasure.Expression
import TapeMeasure.Expression.Grammar
import TapeMeasure.Expression.Parse
import TapeMeasure.Json
import TapeMeasure.Json.Bytes
import TapeMeasure.Json.Reader
import TapeMeasure.Json.Writer
import TapeMeasure.JsonString
import TapeMeasure.Keypad
import TapeMeasure.Limiter
import TapeMeasure.Limiter.Window
import TapeMeasure.Problem
import TapeMeasure.Proofs.Calculation.Breakdown
import TapeMeasure.Proofs.Calculation.Causes
import TapeMeasure.Proofs.Calculation.Continued
import TapeMeasure.Proofs.Calculation.Length
import TapeMeasure.Proofs.Calculation.Marks
import TapeMeasure.Proofs.Calculation.RoundTrip
import TapeMeasure.Proofs.Calculation.Units
import TapeMeasure.Proofs.Calculation.Unrecognized
import TapeMeasure.Proofs.Decimal.Display
import TapeMeasure.Proofs.Decimal.FourPlaces
import TapeMeasure.Proofs.Decimal.Value
import TapeMeasure.Proofs.Double.Exact
import TapeMeasure.Proofs.Double.Finite
import TapeMeasure.Proofs.Double.Order
import TapeMeasure.Proofs.Double.Range
import TapeMeasure.Proofs.Double.Rounding
import TapeMeasure.Proofs.Except
import TapeMeasure.Proofs.Expression.Amount
import TapeMeasure.Proofs.Expression.Bound
import TapeMeasure.Proofs.Expression.Derivation
import TapeMeasure.Proofs.Expression.Divisor
import TapeMeasure.Proofs.Expression.Join
import TapeMeasure.Proofs.Expression.Lookahead
import TapeMeasure.Proofs.Expression.Mixed
import TapeMeasure.Proofs.Expression.Operand
import TapeMeasure.Proofs.Expression.Sign
import TapeMeasure.Proofs.Expression.Sum
import TapeMeasure.Proofs.Expression.Viability
import TapeMeasure.Proofs.Keypad.Consistency
import TapeMeasure.Proofs.Keypad.Failure
import TapeMeasure.Proofs.Keypad.Memory
import TapeMeasure.Proofs.Keypad.Mode
import TapeMeasure.Proofs.Limiter.Answers
import TapeMeasure.Proofs.Limiter.Clock
import TapeMeasure.Proofs.Limiter.Denial
import TapeMeasure.Proofs.Limiter.Entries
import TapeMeasure.Proofs.Limiter.Eviction
import TapeMeasure.Proofs.Limiter.Refinement
import TapeMeasure.Proofs.Limiter.Shape
import TapeMeasure.Proofs.Limiter.Wait
import TapeMeasure.Proofs.Limiter.Window
import TapeMeasure.Proofs.Quantity.Arithmetic
import TapeMeasure.Proofs.Quantity.Cancellation
import TapeMeasure.Proofs.Quantity.FeetInches
import TapeMeasure.Proofs.Quantity.Nearest
import TapeMeasure.Proofs.Quantity.NormalForm
import TapeMeasure.Proofs.Quantity.Range
import TapeMeasure.Proofs.Quantity.ReadBack
import TapeMeasure.Proofs.Quantity.Sixteenths
import TapeMeasure.Proofs.Quantity.TotalInches
import TapeMeasure.Proofs.Rounding
import TapeMeasure.Proofs.Service.Reply
import TapeMeasure.Proofs.Service.Run
import TapeMeasure.Proofs.Service.Standard
import TapeMeasure.Proofs.Service.Wait
import TapeMeasure.Proofs.Text.Digit
import TapeMeasure.Proofs.Text.NumericRun
import TapeMeasure.Proofs.Token.Append
import TapeMeasure.Proofs.Token.Canonical
import TapeMeasure.Proofs.Token.Concatenation
import TapeMeasure.Proofs.Token.Layout
import TapeMeasure.Proofs.Token.Lexeme
import TapeMeasure.Proofs.Token.Numeral
import TapeMeasure.Proofs.Token.Occurrence
import TapeMeasure.Proofs.Token.Place
import TapeMeasure.Proofs.Token.Scan
import TapeMeasure.Proofs.Token.Sign
import TapeMeasure.Proofs.Token.Width
import TapeMeasure.Proofs.Token.Written
import TapeMeasure.Quantity
import TapeMeasure.Quantity.Arithmetic
import TapeMeasure.Quantity.Display
import TapeMeasure.Record
import TapeMeasure.Rounding
import TapeMeasure.Service.Answer
import TapeMeasure.Service.Counted
import TapeMeasure.Service.Endpoint
import TapeMeasure.Service.Framework
import TapeMeasure.Service.Message
import TapeMeasure.Service.Request
import TapeMeasure.Service.Server
import TapeMeasure.Service.Settings
import TapeMeasure.Service.Standard
import TapeMeasure.Service.Standard.Body
import TapeMeasure.Service.Standard.Issue
import TapeMeasure.Service.Standard.Origin
import TapeMeasure.Service.Standard.Path
import TapeMeasure.Text.Abbreviation
import TapeMeasure.Text.Blank
import TapeMeasure.Text.CodePoint
import TapeMeasure.Text.DecimalDigit
import TapeMeasure.Text.Digit
import TapeMeasure.Text.Encoding
import TapeMeasure.Text.NumericRun
import TapeMeasure.Text.Printable
import TapeMeasure.Text.Quoted
import TapeMeasure.Text.Split
import TapeMeasure.Token
import TapeMeasure.Token.Marks
import TapeMeasure.Token.Scan
import TapeMeasure.Token.Spelling
