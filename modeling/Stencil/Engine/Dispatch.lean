import Stencil.Engine.Basic
import Stencil.Text.Quote
/-!
# Routes

An application maps route keys to actions. A route is matched against the keys longest first,
and among keys of one length in byte order; the first key the route starts with wins. What
follows the key, split at `/` with empty pieces dropped, is the action's arguments.

The page application has the single key `/`: it renders the view below `App` that the arguments
name, or `App/Index` when there are none.
-/

namespace Stencil

/-- What a matched route does. -/
inductive Action where
  /-- Renders the page the arguments name below `App`, or its index. -/
  | page
  /-- Renders the view below `App` named for the matched key. -/
  | view
  /-- Renders a named view. -/
  | viewAt (name : String)
  /-- Describes the matched key, the arguments and the number of tags. -/
  | echo

/-- An application: its route keys, each with its action. -/
structure Application where
  routes : List (String × Action)

/-- The folder of application views. -/
def appViewPrefix : String := "App"

/-- The page rendered for an empty route. -/
def defaultPage : String := "Index"

namespace Application

/-- The page application: every route renders an application view. -/
def pages : Application := ⟨[("/", .page)]⟩

/-- Whether a key is tried before another: longer first, then in byte order. -/
def triedBefore (a b : String) : Bool :=
  a.length > b.length || (a.length == b.length && decide (a ≤ b))

/-- The first key, in the order they are tried, that a route starts with, and its action. -/
def matchRoute (app : Application) (route : String) : Option (String × Action) :=
  (app.routes.mergeSort fun a b => triedBefore a.1 b.1).find? fun r => route.startsWith r.1

end Application

/-- A list of texts as a bracketed list of quoted texts. -/
def quotedList (xs : List String) : String :=
  "[" ++ " ".intercalate (xs.map Text.quote) ++ "]"

/-- A route with a leading slash: the route itself, or the route after a slash. -/
def rootedRoute (route : String) : String :=
  if route.startsWith "/" then route else "/" ++ route

/-- The arguments a route passes to the action of a key it starts with: what follows the key, cut
at `/`, with the empty pieces dropped. -/
def routeArgs (route key : String) : List String :=
  ((String.ofList (route.toList.drop key.length)).splitOn "/").filter (!·.isEmpty)

namespace Engine

/-- Runs the action matched at a key, with the route's arguments and the tags. -/
def runAction (key : String) (args : List String) (tags : NameMap String) :
    Action → EngineM (Except Fault String)
  | .page =>
    let args := if args.isEmpty then [defaultPage] else args
    render (appViewPrefix ++ "/" ++ "/".intercalate args) tags
  | .view =>
    let keyName := if key.startsWith "/" then String.ofList (key.toList.drop 1) else key
    render (appViewPrefix ++ "/" ++ keyName) tags
  | .viewAt n => render n tags
  | .echo =>
    let keyName := if key.startsWith "/" then String.ofList (key.toList.drop 1) else key
    return .ok ("route=" ++ Text.quote keyName ++ " args=" ++ quotedList args ++ " tags=" ++
      toString tags.size)

/-- Sends a route to an application, with tags; `none` stands for no application at all. -/
def dispatch (app : Option Application) (route : String) (tags : NameMap String) :
    EngineM (Except Fault String) := do
  match app with
  | none => return .error (.condition .noApplication)
  | some app =>
    let route := rootedRoute route
    match app.matchRoute route with
    | none =>
      return .error (((Fault.condition .actionNotFound).wrap "cannot dispatch").about "route" route)
    | some (key, action) => runAction key (routeArgs route key) tags action

end Engine

end Stencil
