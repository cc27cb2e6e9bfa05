import ControllerClient.Proofs.Controller.Calls

/-!
The routes of a controller's methods. Of several definitions of one name the last
counts, and its first decorator that asks for a verb decides: with a literal that
holds a wildcard there is no route to call, and otherwise there is one of a verb.
-/

namespace ControllerClient

namespace Controller

open Source

/-- A statement defines a method of a name, with decorators. -/
inductive Defines (name : Text) (decorators : List Expr) : Stmt → Prop where
  | function (isAsync : Bool) (parameters : Parameters) (result : Option Expr) (body : List Stmt) :
      Defines name decorators (.function isAsync name parameters result body decorators)

/-- The last definition of a name in a class has some decorators. -/
def IsLastDefinition (name : Text) (decorators : List Expr) (body : List Stmt) : Prop :=
  ∃ before definition after, body = before ++ definition :: after ∧
    Defines name decorators definition ∧
      ∀ other ∈ after, ∀ others, ¬ Defines name others other

section Definitions

variable {name : Text} {decorators : List Expr} {statement : Stmt} {body : List Stmt}

theorem endpoint?_of_defines (defines : Defines name decorators statement)
    (ordinary : isSpecialName name = false) :
    endpoint? statement = some (name, methodRoute decorators) := by
  cases defines with
  | function => simp [endpoint?, ordinary]

theorem defines_of_endpoint? {route : MethodRoute}
    (found : endpoint? statement = some (name, route)) :
    ∃ decorators, Defines name decorators statement := by
  cases statement with
  | function isAsync name' parameters result body decorators =>
      rw [endpoint?] at found
      split at found
      · cases found
      · cases found
        exact ⟨decorators, .function isAsync parameters result body⟩
  | _ => cases found

theorem exists_isLastDefinition {definition : Stmt} (present : definition ∈ body)
    (defines : Defines name decorators definition) :
    ∃ decorators, IsLastDefinition name decorators body := by
  -- The last definition is the first one from behind.
  rcases forall_not_or_isFirst (fun statement => ∃ decorators, Defines name decorators statement)
      body.reverse with none | ⟨last, after, before, split, ⟨decorators, found⟩, others⟩
  · exact absurd ⟨decorators, defines⟩ (none definition (List.mem_reverse.mpr present))
  · refine ⟨decorators, before.reverse, last, after.reverse, ?_, found, ?_⟩
    · rw [← List.reverse_reverse body, split]
      simp
    · intro other later others' defined
      exact others other (List.mem_reverse.mp later) ⟨others', defined⟩

theorem lookup_of_isLastDefinition (last : IsLastDefinition name decorators body)
    (ordinary : isSpecialName name = false) :
    (Table.ofList (body.filterMap endpoint?)).lookup name = some (methodRoute decorators) := by
  obtain ⟨before, definition, after, rfl, defines, others⟩ := last
  rw [List.filterMap_append, List.filterMap_cons, endpoint?_of_defines defines ordinary]
  apply Table.lookup_ofList_append
  rintro ⟨other, route⟩ later rfl
  obtain ⟨statement, present, found⟩ := List.mem_filterMap.mp later
  obtain ⟨decorators, defined⟩ := defines_of_endpoint? found
  exact others statement present decorators defined

theorem exists_route_of_mem (ordinary : isSpecialName name = false)
    (present : name ∈ (Table.ofList (body.filterMap endpoint?)).map (·.1)) :
    ∃ decorators, IsLastDefinition name decorators body ∧
      (Table.ofList (body.filterMap endpoint?)).lookup name = some (methodRoute decorators) := by
  obtain ⟨⟨_, route⟩, inTable, rfl⟩ := List.mem_map.mp present
  obtain ⟨definition, inBody, found⟩ := List.mem_filterMap.mp (Table.mem_of_mem_ofList inTable)
  obtain ⟨decorators, defines⟩ := defines_of_endpoint? found
  obtain ⟨last, isLast⟩ := exists_isLastDefinition inBody defines
  exact ⟨last, isLast, lookup_of_isLastDefinition isLast ordinary⟩

end Definitions

def wildcards : List Char := "?+*()".toList

theorem isWildcard_iff (c : Char) : isWildcard c = true ↔ c ∈ wildcards := by
  simp [isWildcard, wildcards, or_assoc]

/-- The first decorator that asks for a verb has in front a literal with a wildcard. -/
def HasWildcard (decorators : List Expr) : Prop :=
  ∃ decorator verb arguments text, IsFirst IsVerbCall decorator decorators ∧
    AsksFor verb arguments decorator ∧
      firstPositional? arguments = some (.constant (.text text)) ∧ ∃ c ∈ text, c ∈ wildcards

def endpointVerbs : List Text :=
  [ "DELETE".toList, "GET".toList, "HEAD".toList, "OPTIONS".toList, "PATCH".toList,
    "POST".toList, "PUT".toList ]

/-- What can be called: a verb with a path that is empty or begins with a slash. -/
structure IsCallable (route : MethodRoute) : Prop where
  verb : route.verb ∈ endpointVerbs
  start : route.path = [] ∨ route.path.head? = some '/'
  plain : ∀ c ∈ route.path, c ∉ wildcards

theorem literal?_eq_some_iff {value : Expr} {text : Text} :
    literal? value = some text ↔ value = .constant (.text text) := by
  constructor
  · intro literal
    unfold literal? at literal
    split at literal
    · cases literal
      rfl
    · cases literal
  · rintro rfl
    rfl

theorem mem_endpointVerbs {name verb : Text} (spelled : (name, verb) ∈ decoratorVerbs) :
    verb ∈ endpointVerbs := by
  have each : ∀ entry ∈ decoratorVerbs, entry.2 ∈ endpointVerbs := by decide
  exact each _ spelled

theorem any_isWildcard_iff (text : Text) :
    text.any isWildcard = true ↔ ∃ c ∈ text, c ∈ wildcards := by
  simp [List.any_eq_true, isWildcard_iff]

theorem methodRoute_of_hasWildcard {decorators : List Expr} (wildcard : HasWildcard decorators) :
    methodRoute decorators = ⟨wildcardVerb, []⟩ := by
  obtain ⟨decorator, verb, arguments, text, first, asks, literal, found⟩ := wildcard
  rw [methodRoute_of_isFirst first asks, literal]
  change routeOf verb (some text) = _
  rw [routeOf, if_pos ((any_isWildcard_iff text).mpr found)]

theorem isCallable_routeOf {verb : Text} {path : Option Text} (one : verb ∈ endpointVerbs)
    (plain : ∀ text, path = some text → ¬ ∃ c ∈ text, c ∈ wildcards) :
    IsCallable (routeOf verb path) := by
  cases path with
  | none => exact ⟨one, Or.inl rfl, List.forall_mem_nil _⟩
  | some text =>
      have free := plain text rfl
      have each : ∀ c ∈ text, c ∉ wildcards := fun c present wild => free ⟨c, present, wild⟩
      rw [routeOf, if_neg (mt (any_isWildcard_iff text).mp free)]
      split
      · next slash => exact ⟨one, Or.inr slash, each⟩
      · exact ⟨one, Or.inr rfl, List.forall_mem_cons.mpr ⟨by decide, each⟩⟩

/-- A method without such a decorator has a route that can be called. -/
theorem isCallable_methodRoute {decorators : List Expr} (plain : ¬ HasWildcard decorators) :
    IsCallable (methodRoute decorators) := by
  rcases forall_not_or_isFirst IsVerbCall decorators with none | ⟨decorator, first⟩
  · rw [methodRoute_of_forall_not none]
    exact ⟨by decide, Or.inl rfl, List.forall_mem_nil _⟩
  · obtain ⟨_, _, _, ⟨verb, arguments, asks⟩, _⟩ := id first
    rw [methodRoute_of_isFirst first asks]
    obtain ⟨name, spelled, _⟩ := id asks
    apply isCallable_routeOf (mem_endpointVerbs spelled)
    intro text path found
    obtain ⟨value, positional, literal⟩ := Option.bind_eq_some_iff.mp path
    rw [literal?_eq_some_iff.mp literal] at positional
    exact plain ⟨decorator, verb, arguments, text, first, asks, positional, found⟩

end Controller

end ControllerClient
