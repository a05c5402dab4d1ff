import TapeMeasure.Service.Endpoint

/-!
# Paths

Where the path of a message leads.  A path may end with a line end; a path with slashes at its end
is not served, and its client is sent to the path without them.

* `Endpoint.ofPath?`: the endpoint that a path leads to.
* `isPage`: the paths that lead to documentation.
* `isRedirected`: the paths whose clients are sent elsewhere.
-/

namespace TapeMeasure

namespace Service

/-- Whether a path leads to a page; a line end behind it does not matter. -/
def leadsTo (path page : String) : Bool :=
  path == page || path == page ++ "\n"

/-- The endpoint that a path leads to. -/
def Endpoint.ofPath? (path : String) : Option Endpoint :=
  [health, calculation].find? fun endpoint => leadsTo path endpoint.path

/-- The path of an endpoint leads to it. -/
@[simp] theorem Endpoint.ofPath?_path (endpoint : Endpoint) :
    ofPath? endpoint.path = some endpoint := by
  cases endpoint <;> decide

/-- A path without the slashes at its end. -/
def withoutSlashes (path : String) : String :=
  String.ofList (path.toList.reverse.dropWhile (· == '/')).reverse

/-- Whether a path leads to a page that documents the service. -/
def isPage (path : String) : Bool :=
  ["/openapi.json", "/docs", "/docs/oauth2-redirect", "/redoc"].any (leadsTo path)

/-- Whether the client of a path is sent to the path without the slashes at its end. -/
def isRedirected (path : String) : Bool :=
  let target := withoutSlashes path
  path.toList.getLast? == some '/' && ((Endpoint.ofPath? target).isSome || isPage target)

end Service

end TapeMeasure
