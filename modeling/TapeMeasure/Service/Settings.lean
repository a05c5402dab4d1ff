import TapeMeasure.Limiter
import TapeMeasure.Text.Blank
import TapeMeasure.Text.Split

/-!
# Settings of the service

The limits of the service, and the origins from which browsers may call it.
-/

namespace TapeMeasure

namespace Service

open Text

/-- The origins in a list separated by commas; blanks around them and empty ones do not count. -/
def originsOf (text : String) : List String :=
  (((splitAt ',' text.toList).map trim).filter (· ≠ [])).map String.ofList

/-- What can be set. -/
structure Settings where
  appName : String
  maxExpressionLength : Int
  limits : Limiter.Config
  /-- Whether clients are told apart by the address that a proxy reports. -/
  trustForwardedFor : Bool
  /-- The allowed origins, separated by commas. -/
  allowedOrigins : String
  /-- The schemes of applications whose origins are all allowed. -/
  allowedSchemes : List String
  deriving DecidableEq, Repr

/-- The settings unless something else is set. -/
def Settings.default : Settings where
  appName := "Measure Calculator"
  maxExpressionLength := 256
  limits := ⟨30, .ofInt 60, 10000⟩
  trustForwardedFor := true
  allowedOrigins := "https://calculator.onsiteclub.ca,https://app.onsiteclub.ca," ++
    "https://localhost,http://localhost:5173,http://localhost:3000"
  allowedSchemes := ["capacitor", "ionic"]

end Service

end TapeMeasure
