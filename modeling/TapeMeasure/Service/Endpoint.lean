/-!
# Endpoints

What the service serves, by path and method.
-/

namespace TapeMeasure

namespace Service

/-- What the service serves. -/
inductive Endpoint where
  | health
  | calculation
  deriving DecidableEq, Repr

namespace Endpoint

/-- The path of an endpoint. -/
def path : Endpoint → String
  | health => "/health"
  | calculation => "/calculate"

/-- The one method that an endpoint serves. -/
def method : Endpoint → String
  | health => "GET"
  | calculation => "POST"

end Endpoint

end Service

end TapeMeasure
