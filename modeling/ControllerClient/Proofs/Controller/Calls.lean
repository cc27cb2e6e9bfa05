import ControllerClient.Controller
import ControllerClient.Proofs.Table

/-!
The calls that a controller's source consists of: which name is called, which
argument stands in front, and which call of a kind comes first. What a method's
decorators, a class's decorators and a designation give follows from these.
-/

namespace ControllerClient.Controller

open Source

/-- An item is the first of a list with a property. -/
def IsFirst {α : Type} (holds : α → Prop) (item : α) (items : List α) : Prop :=
  ∃ before after, items = before ++ item :: after ∧ holds item ∧ ∀ other ∈ before, ¬ holds other

section First

variable {α β : Type} {holds : α → Prop} {item : α} {items : List α}

theorem findSome?_of_isFirst {f : α → Option β} (kind : ∀ item, holds item ↔ (f item).isSome = true)
    (first : IsFirst holds item items) : items.findSome? f = f item := by
  obtain ⟨before, after, rfl, here, none⟩ := first
  obtain ⟨result, found⟩ := Option.isSome_iff_exists.mp ((kind item).mp here)
  rw [found, List.findSome?_eq_some_iff]
  refine ⟨before, item, after, rfl, found, fun other present => ?_⟩
  have nothing := none other present
  rw [kind, Bool.not_eq_true, Option.isSome_eq_false_iff, Option.isNone_iff_eq_none] at nothing
  exact nothing

theorem findSome?_of_forall_not {f : α → Option β}
    (kind : ∀ item, holds item ↔ (f item).isSome = true) (none : ∀ item ∈ items, ¬ holds item) :
    items.findSome? f = Option.none := by
  rw [List.findSome?_eq_none_iff]
  intro item present
  have nothing := none item present
  rw [kind, Bool.not_eq_true, Option.isSome_eq_false_iff, Option.isNone_iff_eq_none] at nothing
  exact nothing

theorem isFirst_cons (here : holds item) (rest : List α) : IsFirst holds item (item :: rest) :=
  ⟨[], rest, rfl, here, fun _ present => absurd present List.not_mem_nil⟩

/-- Either nothing has a property, or something has it first. -/
theorem forall_not_or_isFirst (holds : α → Prop) (items : List α) :
    (∀ item ∈ items, ¬ holds item) ∨ ∃ item, IsFirst holds item items := by
  induction items with
  | nil => exact Or.inl fun item present => absurd present List.not_mem_nil
  | cons head rest ih =>
      by_cases here : holds head
      · exact Or.inr ⟨head, isFirst_cons here rest⟩
      · rcases ih with none | ⟨item, before, after, rfl, found, none⟩
        · exact Or.inl (List.forall_mem_cons.mpr ⟨here, none⟩)
        · exact Or.inr ⟨item, head :: before, after, rfl, found,
            List.forall_mem_cons.mpr ⟨here, none⟩⟩

end First

inductive Calls (name : Text) (arguments : List Argument) : Expr → Prop where
  | plain : Calls name arguments (.call (.name name) arguments)
  | member (owner : Expr) : Calls name arguments (.call (.member owner name) arguments)

def firstPositional? (arguments : List Argument) : Option Expr := arguments.findSome? positional?

section Calls

variable {name : Text} {arguments : List Argument} {call : Expr}

theorem Calls.calledName?_eq (calls : Calls name arguments call) :
    calledName? call = some name := by
  cases calls with
  | plain => rfl
  | member owner => rfl

theorem Calls.argumentsOf_eq (calls : Calls name arguments call) :
    argumentsOf call = arguments := by
  cases calls with
  | plain => rfl
  | member owner => rfl

theorem Calls.firstArgument?_eq (calls : Calls name arguments call) :
    firstArgument? call = firstPositional? arguments := by
  rw [firstArgument?, calls.argumentsOf_eq, firstPositional?]

theorem calledName?_eq_some_iff :
    calledName? call = some name ↔ ∃ arguments, Calls name arguments call := by
  constructor
  · intro called
    unfold calledName? at called
    split at called
    · next id arguments =>
        cases called
        exact ⟨arguments, .plain⟩
    · next owner member arguments =>
        cases called
        exact ⟨arguments, .member owner⟩
    · cases called
  · rintro ⟨arguments, calls⟩
    exact calls.calledName?_eq

end Calls

/-- A statement designates a controller by a call, whatever it does with the result. -/
inductive Designates (arguments : List Argument) : Stmt → Prop where
  | assigned (targets : List Expr) {value : Expr} (calls : Calls marker arguments value) :
      Designates arguments (.assigned targets value)
  | annotated (target note : Expr) {value : Expr} (calls : Calls marker arguments value) :
      Designates arguments (.annotated target note (some value))
  | expression {value : Expr} (calls : Calls marker arguments value) :
      Designates arguments (.expression value)

def IsDesignation (statement : Stmt) : Prop := ∃ arguments, Designates arguments statement

def nameAmong (arguments : List Argument) : Text :=
  match firstPositional? arguments with
  | some (.name id) => id
  | _ => []

theorem nameAmong_of_name {arguments : List Argument} {name : Text}
    (named : firstPositional? arguments = some (.name name)) : nameAmong arguments = name := by
  rw [nameAmong, named]

theorem firstPositional?_of_nameAmong {arguments : List Argument}
    (some_ : nameAmong arguments ≠ []) :
    firstPositional? arguments = some (.name (nameAmong arguments)) := by
  unfold nameAmong at some_ ⊢
  split at some_
  · next name named => exact named
  · exact absurd rfl some_

theorem designated?_of_designates {arguments : List Argument} {statement : Stmt}
    (designates : Designates arguments statement) :
    designated? statement = some (nameAmong arguments) := by
  have called {value : Expr} (calls : Calls marker arguments value)
      (same : valueOf? statement = some value) :
      designated? statement = some (nameAmong arguments) := by
    unfold designated? nameAmong
    rw [same]
    dsimp only
    rw [if_pos calls.calledName?_eq, calls.firstArgument?_eq]
    cases firstPositional? arguments with
    | none => rfl
    | some argument => cases argument <;> rfl
  cases designates with
  | assigned targets calls => exact called calls rfl
  | annotated target note calls => exact called calls rfl
  | expression calls => exact called calls rfl

theorem isDesignation_iff (statement : Stmt) :
    IsDesignation statement ↔ (designated? statement).isSome = true := by
  constructor
  · rintro ⟨arguments, designates⟩
    rw [designated?_of_designates designates]
    rfl
  · intro designated
    unfold designated? at designated
    split at designated
    · cases designated
    · next value same =>
        split at designated
        · next called =>
            obtain ⟨arguments, calls⟩ := calledName?_eq_some_iff.mp called
            refine ⟨arguments, ?_⟩
            cases statement with
            | assigned targets other =>
                cases same
                exact .assigned targets calls
            | annotated target note other =>
                cases same
                exact .annotated target note calls
            | expression other =>
                cases same
                exact .expression calls
            | _ => cases same
        · cases designated

def decoratorVerbs : List (Text × Text) :=
  [ ("Delete".toList, "DELETE".toList), ("delete".toList, "DELETE".toList),
    ("Get".toList, "GET".toList), ("get".toList, "GET".toList),
    ("Head".toList, "HEAD".toList), ("head".toList, "HEAD".toList),
    ("Options".toList, "OPTIONS".toList), ("options".toList, "OPTIONS".toList),
    ("Patch".toList, "PATCH".toList), ("patch".toList, "PATCH".toList),
    ("Post".toList, "POST".toList), ("post".toList, "POST".toList),
    ("Put".toList, "PUT".toList), ("put".toList, "PUT".toList) ]

theorem verbs_eq : verbs = decoratorVerbs := by decide

/-- A decorator asks for a verb by a call with arguments. -/
def AsksFor (verb : Text) (arguments : List Argument) (decorator : Expr) : Prop :=
  ∃ name, (name, verb) ∈ decoratorVerbs ∧ Calls name arguments decorator

def IsVerbCall (decorator : Expr) : Prop := ∃ verb arguments, AsksFor verb arguments decorator

theorem lookup_verbs {name verb : Text} :
    verbs.lookup name = some verb ↔ (name, verb) ∈ decoratorVerbs := by
  rw [verbs_eq]
  exact Table.lookup_eq_some_iff_mem (by decide)

section Decorators

variable {verb : Text} {arguments : List Argument} {decorator : Expr} {decorators : List Expr}

theorem AsksFor.decoratedRoute?_eq (asks : AsksFor verb arguments decorator) :
    decoratedRoute? decorator = some (routeOf verb ((firstPositional? arguments).bind literal?)) := by
  obtain ⟨name, spelled, calls⟩ := asks
  unfold decoratedRoute?
  rw [calls.calledName?_eq, calls.firstArgument?_eq]
  change (verbs.lookup name).bind _ = _
  rw [lookup_verbs.mpr spelled]
  rfl

theorem isVerbCall_iff (decorator : Expr) :
    IsVerbCall decorator ↔ (decoratedRoute? decorator).isSome = true := by
  constructor
  · rintro ⟨verb, arguments, asks⟩
    rw [asks.decoratedRoute?_eq]
    rfl
  · intro decorated
    obtain ⟨route, found⟩ := Option.isSome_iff_exists.mp decorated
    obtain ⟨name, called, found⟩ := Option.bind_eq_some_iff.mp found
    obtain ⟨verb, spelled, _⟩ := Option.bind_eq_some_iff.mp found
    obtain ⟨arguments, calls⟩ := calledName?_eq_some_iff.mp called
    exact ⟨verb, arguments, name, lookup_verbs.mp spelled, calls⟩

theorem methodRoute_of_isFirst (first : IsFirst IsVerbCall decorator decorators)
    (asks : AsksFor verb arguments decorator) :
    methodRoute decorators = routeOf verb ((firstPositional? arguments).bind literal?) := by
  rw [methodRoute, findSome?_of_isFirst isVerbCall_iff first, asks.decoratedRoute?_eq]
  rfl

theorem methodRoute_of_forall_not (none : ∀ decorator ∈ decorators, ¬ IsVerbCall decorator) :
    methodRoute decorators = ⟨"GET".toList, []⟩ := by
  rw [methodRoute, findSome?_of_forall_not isVerbCall_iff none]
  rfl

end Decorators

end ControllerClient.Controller
