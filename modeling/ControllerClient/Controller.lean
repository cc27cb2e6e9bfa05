import ControllerClient.Client
import ControllerClient.Route.Address
import ControllerClient.Source.Statement

/-!
Controllers: classes whose methods are endpoints, found in source text without
running it. A file designates its controller by a call, decorators of the class
give the prefix, and decorators of the methods give verbs and paths.
-/

namespace ControllerClient

/-- Where the prefix of a controller comes from: its source text, or the place of its file. -/
inductive RoutePrefix where
  | written (text : Text)
  | ofLocation
deriving DecidableEq, Repr

structure MethodRoute where
  verb : Text
  path : Text
deriving DecidableEq, Repr

structure Controller where
  name : Text
  routePrefix : RoutePrefix
  endpoints : Table MethodRoute
deriving DecidableEq, Repr

namespace Controller

open Source

def calledName? : Expr → Option Text
  | .call (.name id) _ => some id
  | .call (.member _ member) _ => some member
  | _ => none

def literal? : Expr → Option Text
  | .constant (.text content) => some content
  | _ => none

def positional? : Argument → Option Expr
  | .positional value => some value
  | .starred value => some (.starred value)
  | _ => none

def argumentsOf : Expr → List Argument
  | .call _ arguments => arguments
  | _ => []

def firstArgument? (call : Expr) : Option Expr := (argumentsOf call).findSome? positional?

def valueOf? : Stmt → Option Expr
  | .assigned _ value => some value
  | .annotated _ _ value => value
  | .expression value => some value
  | _ => none

def marker : Text := "define_expose".toList

/-- The name that a statement designates, empty if it designates something without a name. -/
def designated? (statement : Stmt) : Option Text :=
  match valueOf? statement with
  | none => none
  | some value =>
    if calledName? value = some marker then
      match firstArgument? value with
      | some (.name id) => some id
      | _ => some []
    else none

structure ClassSource where
  name : Text
  body : List Stmt
  decorators : List Expr

def classOf? : Stmt → Option ClassSource
  | .classDefinition name _ body decorators => some ⟨name, body, decorators⟩
  | _ => none

/-- The class that the first designation names, among the classes in front of it. -/
def findClass? (statements : List Stmt) : Option ClassSource :=
  match statements.findSome? designated? with
  | none | some [] => none
  | some name =>
    let earlier := statements.takeWhile fun statement => (designated? statement).isNone
    (earlier.filterMap classOf?).find? (·.name = name)

def prefixDecorator : Text := "Controller".toList

def pathOption : Text := "path".toList

def fileName : Text := "__file__".toList

def hasPathKey (entries : List (Option Expr × Expr)) : Bool :=
  entries.any fun (key, _) => key.bind literal? = some pathOption

def hasPathName (arguments : List Argument) : Bool :=
  arguments.any fun
    | .keyword name _ => name = pathOption
    | _ => false

def hasPathOption (decorator : Expr) : Bool :=
  match firstArgument? decorator with
  | some (.dict entries) => hasPathKey entries
  | _ => hasPathName (argumentsOf decorator)

/-- The prefix that a decorator gives; of an option only its name counts. -/
def prefixOf (decorator : Expr) : RoutePrefix :=
  match (firstArgument? decorator).bind literal? with
  | some text => .written text
  | none =>
    if hasPathOption decorator then .written pathOption
    else match firstArgument? decorator with
      | some (.name id) => if id = fileName then .ofLocation else .written []
      | _ => .written []

def classPrefix (decorators : List Expr) : RoutePrefix :=
  match decorators.find? fun decorator => calledName? decorator = some prefixDecorator with
  | some decorator => prefixOf decorator
  | none => .written []

def wildcardVerb : Text := "PATH_HAS_WILDCARD".toList

def verbs : List (Text × Text) :=
  ["Delete", "Get", "Head", "Options", "Patch", "Post", "Put"].flatMap fun name =>
    let verb := name.toList.map Text.upperLetter
    [(name.toList, verb), (verb.map fun c => Char.ofNat (c.toNat + 32), verb)]

def isWildcard (c : Char) : Bool := c = '?' || c = '+' || c = '*' || c = '(' || c = ')'

def routeOf (verb : Text) (path : Option Text) : MethodRoute :=
  match path with
  | none => ⟨verb, []⟩
  | some path =>
    if path.any isWildcard then ⟨wildcardVerb, []⟩
    else if path.head? = some '/' then ⟨verb, path⟩
    else ⟨verb, '/' :: path⟩

def decoratedRoute? (decorator : Expr) : Option MethodRoute := do
  let verb ← verbs.lookup (← calledName? decorator)
  some (routeOf verb ((firstArgument? decorator).bind literal?))

def methodRoute (decorators : List Expr) : MethodRoute :=
  (decorators.findSome? decoratedRoute?).getD ⟨"GET".toList, []⟩

def isSpecialName (name : Text) : Bool :=
  (Text.after? ['_', '_'] name).isSome && (Text.after? ['_', '_'] name.reverse).isSome

def endpoint? : Stmt → Option (Text × MethodRoute)
  | .function _ name _ _ _ decorators =>
    if isSpecialName name then none else some (name, methodRoute decorators)
  | _ => none

/-- What the call that designates a controller gives back when it runs: its argument. -/
def designate {α : Type} (designated : α) : α := designated

def ofStatements? (statements : List Stmt) : Option Controller := do
  let found ← findClass? statements
  some { name := found.name
         routePrefix := classPrefix found.decorators
         endpoints := Table.ofList (found.body.filterMap endpoint?) }

def ofSource (file source : Text) : Except Failure Controller := do
  if file.contains '\x00' then .error (.shape .nullInFileName)
  else match ofStatements? (← Source.read source) with
  | some controller => .ok controller
  | none => .error (.noControllerFound file)

def prefixAt (controller : Controller) (disk : Disk) (config : Config) (file : Text) :
    Except Failure Text :=
  match controller.routePrefix with
  | .written text => .ok text
  | .ofLocation => Route.ofFile disk config (.str "src".toList) (Path.ofText file)

def rows (controller : Controller) : Table Value :=
  controller.endpoints.map fun (name, route) => (name, .tuple [.str route.verb, .str route.path])

def client (controller : Controller) (routePrefix : Text) (config : Config) :
    Except Failure Client :=
  Client.build (.str routePrefix) controller.rows config.base (some controller.name)

def clientCode (disk : Disk) (config : Config) (file source : Text) : Except Failure Text := do
  let controller ← ofSource file source
  let routePrefix ← controller.prefixAt disk config file
  .ok (← controller.client routePrefix config).code

end Controller

end ControllerClient
