import Gatehouse.Api.Handler

/-!
# The router

Every request passes the same layers. A preflight request is answered at once; then the access layer
decides by the operation that the path names, whether or not there is such a route; then the request
goes to the handler of its route, if the route takes its method.
-/

namespace Gatehouse.Api

open Http (Request Response)

/-- The path of a request target: what stands in front of query and fragment, without the scheme and
host that a target may start with. -/
def pathOf (target : String) : String :=
  let cut := target.toList.takeWhile fun c => c != '?' && c != '#'
  let path := match cut with
    | '/' :: _ => cut
    | _ =>
      match cut.dropWhile (· != ':') with
      | ':' :: '/' :: '/' :: rest => rest.dropWhile (· != '/')
      | _ => cut
  String.ofList path

/-- The verdict of the access layer on a path. -/
def admission (app : Application) (now : Moment) (path : String) (headers : Http.Headers) :
    Except Fault (Option Token.Claims) :=
  match Access.operationOf? path with
  | some operation => Access.authorize app.authority app.policy now operation headers
  | none => .ok none

/-- The methods that an answer has to name: those of the route, if it does not take this one. -/
def allowFor (method : String) : Option Route → List String
  | some route => if route.methods.contains method then [] else route.methods
  | none => []

/-- What is done with a request that the access layer lets through. -/
def dispatch (app : Application) (occasion : Occasion) (verified : Option Token.Claims)
    (request : Request) : Option Route → Program Response
  | some route =>
    if route.methods.contains request.method then handle app occasion verified request route
    else pure (answer 405 .empty)
  | none => pure (answer 404 .empty)

def respond (app : Application) (occasion : Occasion) (request : Request) : Program Response :=
  let path := pathOf request.target
  let route := Route.ofPath? path
  let allow := allowFor request.method route
  if request.method = "OPTIONS" then pure ⟨200, .empty, allow, true⟩
  else
    match admission app occasion.now path request.headers with
    | .error fault => pure { faultAnswer fault with allow }
    | .ok verified => do
      let response ← dispatch app occasion verified request route
      pure { response with allow }

end Gatehouse.Api
