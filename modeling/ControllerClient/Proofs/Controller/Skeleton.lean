import ControllerClient.Proofs.Controller.Calls
import ControllerClient.Workspace

/-!
What of a file its description depends on: the first designation, the decorators
of the class that it names, and the decorators of that class's methods. Two files
that agree in these describe the same controller, or fail alike.
-/

namespace ControllerClient.Controller

open Source

/--
Decorators of methods whose first calls for a verb, if there are any, ask for the same verb with
the same argument in front.
-/
inductive SameRoute : List Expr → List Expr → Prop where
  | unasked {decorators others : List Expr}
      (none : ∀ decorator ∈ decorators, ¬ IsVerbCall decorator)
      (noOther : ∀ other ∈ others, ¬ IsVerbCall other) : SameRoute decorators others
  | asked {decorators others : List Expr} {decorator other : Expr} {verb : Text}
      {arguments otherArguments : List Argument} (first : IsFirst IsVerbCall decorator decorators)
      (asks : AsksFor verb arguments decorator) (firstOther : IsFirst IsVerbCall other others)
      (otherAsks : AsksFor verb otherArguments other)
      (same : firstPositional? arguments = firstPositional? otherArguments) :
      SameRoute decorators others

/-- Methods of one name whose decorators ask for the same route. -/
inductive SameMethod : Stmt → Stmt → Prop where
  | mk (isAsync otherAsync : Bool) (name : Text) (parameters otherParameters : Parameters)
      (result otherResult : Option Expr) (body otherBody : List Stmt)
      {decorators otherDecorators : List Expr} (route : SameRoute decorators otherDecorators) :
      SameMethod (.function isAsync name parameters result body decorators)
        (.function otherAsync name otherParameters otherResult otherBody otherDecorators)

def isMethod : Stmt → Bool
  | .function _ name _ _ _ _ => !isSpecialName name
  | _ => false

def IsPrefixCall (decorator : Expr) : Prop := ∃ arguments, Calls prefixDecorator arguments decorator

/-- Decorators of classes whose first calls for a prefix, if any, have the same arguments. -/
inductive SamePrefix : List Expr → List Expr → Prop where
  | unasked {decorators others : List Expr}
      (none : ∀ decorator ∈ decorators, ¬ IsPrefixCall decorator)
      (noOther : ∀ other ∈ others, ¬ IsPrefixCall other) : SamePrefix decorators others
  | asked {decorators others : List Expr} {decorator other : Expr} {arguments : List Argument}
      (first : IsFirst IsPrefixCall decorator decorators)
      (calls : Calls prefixDecorator arguments decorator)
      (firstOther : IsFirst IsPrefixCall other others)
      (otherCalls : Calls prefixDecorator arguments other) : SamePrefix decorators others

inductive SameClass : Stmt → Stmt → Prop where
  | mk (name : Text) (bases otherBases : List Argument) {body otherBody : List Stmt}
      {decorators otherDecorators : List Expr} (routePrefix : SamePrefix decorators otherDecorators)
      (methods : List.Forall₂ SameMethod (body.filter isMethod) (otherBody.filter isMethod)) :
      SameClass (.classDefinition name bases body decorators)
        (.classDefinition name otherBases otherBody otherDecorators)

def isClassNamed (name : Text) : Stmt → Bool
  | .classDefinition own _ _ _ => own = name
  | _ => false

/--
Files whose first designations have the same argument in front, and in front of these the same
classes of the name that is designated, if it is a name.
-/
inductive SameSkeleton : List Stmt → List Stmt → Prop where
  | undesignated {statements others : List Stmt}
      (none : ∀ statement ∈ statements, ¬ IsDesignation statement)
      (noOther : ∀ other ∈ others, ¬ IsDesignation other) : SameSkeleton statements others
  | designated {front otherFront : List Stmt} {designation other : Stmt}
      {arguments otherArguments : List Argument}
      (none : ∀ statement ∈ front, ¬ IsDesignation statement)
      (noOther : ∀ statement ∈ otherFront, ¬ IsDesignation statement)
      (designates : Designates arguments designation)
      (otherDesignates : Designates otherArguments other)
      (same : firstPositional? arguments = firstPositional? otherArguments)
      (classes : ∀ name, firstPositional? arguments = some (.name name) →
        List.Forall₂ SameClass (front.filter (isClassNamed name))
          (otherFront.filter (isClassNamed name)))
      (later otherLater : List Stmt) :
      SameSkeleton (front ++ designation :: later) (otherFront ++ other :: otherLater)

theorem SameRoute.methodRoute_eq {decorators others : List Expr}
    (same : SameRoute decorators others) : methodRoute decorators = methodRoute others := by
  cases same with
  | unasked none noOther =>
      rw [methodRoute_of_forall_not none, methodRoute_of_forall_not noOther]
  | asked first asks firstOther otherAsks same =>
      rw [methodRoute_of_isFirst first asks, methodRoute_of_isFirst firstOther otherAsks, same]

theorem SameMethod.endpoint?_eq {method other : Stmt} (same : SameMethod method other) :
    endpoint? method = endpoint? other := by
  cases same with
  | mk isAsync otherAsync name _ _ _ _ _ _ route =>
      rw [endpoint?, endpoint?, route.methodRoute_eq]

theorem filterMap_endpoint? (body : List Stmt) :
    body.filterMap endpoint? = (body.filter isMethod).filterMap endpoint? := by
  induction body with
  | nil => rfl
  | cons member body ih =>
      by_cases method : isMethod member = true
      · rw [List.filter_cons_of_pos method, List.filterMap_cons, List.filterMap_cons, ih]
      · have nothing : endpoint? member = none := by
          cases member with
          | function isAsync name parameters result inner decorators =>
              simpa [isMethod, endpoint?] using method
          | _ => rfl
        rw [List.filter_cons_of_neg method, List.filterMap_cons_none nothing, ih]

theorem filterMap_endpoint?_eq {methods others : List Stmt}
    (same : List.Forall₂ SameMethod methods others) :
    methods.filterMap endpoint? = others.filterMap endpoint? := by
  induction same with
  | nil => rfl
  | cons here _ ih => rw [List.filterMap_cons, List.filterMap_cons, here.endpoint?_eq, ih]

theorem prefixOf_eq_of_calls {arguments : List Argument} {decorator other : Expr}
    (calls : Calls prefixDecorator arguments decorator)
    (otherCalls : Calls prefixDecorator arguments other) : prefixOf decorator = prefixOf other := by
  have firsts : firstArgument? decorator = firstArgument? other :=
    calls.firstArgument?_eq.trans otherCalls.firstArgument?_eq.symm
  unfold prefixOf hasPathOption
  rw [firsts, calls.argumentsOf_eq, otherCalls.argumentsOf_eq]

theorem classPrefix_of_isFirst {decorators : List Expr} {decorator : Expr}
    (first : IsFirst IsPrefixCall decorator decorators) :
    classPrefix decorators = prefixOf decorator := by
  obtain ⟨before, after, rfl, ⟨arguments, calls⟩, none⟩ := first
  have found : (before ++ decorator :: after).find?
      (fun decorator => calledName? decorator = some prefixDecorator) = some decorator := by
    rw [List.find?_eq_some_iff_append]
    refine ⟨decide_eq_true calls.calledName?_eq, before, after, rfl, fun other present => ?_⟩
    have otherwise := fun called => none other present (calledName?_eq_some_iff.mp called)
    simpa using otherwise
  unfold classPrefix
  simp only [found]

theorem classPrefix_of_forall_not {decorators : List Expr}
    (none : ∀ decorator ∈ decorators, ¬ IsPrefixCall decorator) :
    classPrefix decorators = .written [] := by
  have absent : decorators.find? (fun decorator => calledName? decorator = some prefixDecorator) =
      .none := by
    rw [List.find?_eq_none]
    intro decorator present called
    exact none decorator present (calledName?_eq_some_iff.mp (of_decide_eq_true called))
  unfold classPrefix
  simp only [absent]

theorem SamePrefix.classPrefix_eq {decorators others : List Expr}
    (same : SamePrefix decorators others) : classPrefix decorators = classPrefix others := by
  cases same with
  | unasked none noOther =>
      rw [classPrefix_of_forall_not none, classPrefix_of_forall_not noOther]
  | asked first calls firstOther otherCalls =>
      rw [classPrefix_of_isFirst first, classPrefix_of_isFirst firstOther]
      exact prefixOf_eq_of_calls calls otherCalls

def ofClass (found : ClassSource) : Controller :=
  { name := found.name
    routePrefix := classPrefix found.decorators
    endpoints := Table.ofList (found.body.filterMap endpoint?) }

theorem ofStatements?_eq (statements : List Stmt) :
    ofStatements? statements = (findClass? statements).map ofClass := by
  unfold ofStatements?
  cases findClass? statements with
  | none => rfl
  | some found => rfl

theorem SameClass.ofClass_eq {definition other : Stmt} (same : SameClass definition other) :
    (classOf? definition).map ofClass = (classOf? other).map ofClass := by
  cases same with
  | mk name bases otherBases routePrefix methods =>
      have endpoints := filterMap_endpoint?_eq methods
      rw [← filterMap_endpoint?, ← filterMap_endpoint?] at endpoints
      simp only [classOf?, Option.map_some, ofClass, routePrefix.classPrefix_eq, endpoints]

theorem find?_classOf? (name : Text) (front : List Stmt) :
    (front.filterMap classOf?).find? (·.name = name) =
      (front.filter (isClassNamed name)).head?.bind classOf? := by
  induction front with
  | nil => rfl
  | cons statement front ih =>
      cases statement with
      | classDefinition own bases body decorators =>
          by_cases same : own = name
          · simp [classOf?, isClassNamed, same]
          · simp [classOf?, isClassNamed, same, ih]
      | _ => exact ih

section Designated

variable {front : List Stmt} {designation : Stmt} {arguments : List Argument}

/-- The class that is found is the first of its name in front of the first designation. -/
theorem findClass?_of_designates (none : ∀ statement ∈ front, ¬ IsDesignation statement)
    (designates : Designates arguments designation) (later : List Stmt) :
    findClass? (front ++ designation :: later) =
      if nameAmong arguments = [] then .none
      else (front.filter (isClassNamed (nameAmong arguments))).head?.bind classOf? := by
  have named := designated?_of_designates designates
  have isFirst : IsFirst IsDesignation designation (front ++ designation :: later) :=
    ⟨front, later, rfl, ⟨arguments, designates⟩, none⟩
  have found : (front ++ designation :: later).findSome? designated? = some (nameAmong arguments) :=
    (findSome?_of_isFirst isDesignation_iff isFirst).trans named
  have earlier : (front ++ designation :: later).takeWhile
      (fun statement => (designated? statement).isNone) = front := by
    rw [List.takeWhile_append_of_pos, List.takeWhile_cons_of_neg, List.append_nil]
    · rw [named]
      exact Bool.false_ne_true
    · intro statement present
      have nothing := none statement present
      rw [isDesignation_iff, Bool.not_eq_true, Option.isSome_eq_false_iff] at nothing
      exact nothing
  unfold findClass?
  rw [found]
  cases nameAmong arguments with
  | nil => rfl
  | cons c rest =>
      dsimp only
      rw [earlier, find?_classOf?, if_neg (List.cons_ne_nil c rest)]

theorem findClass?_of_forall_not {statements : List Stmt}
    (none : ∀ statement ∈ statements, ¬ IsDesignation statement) :
    findClass? statements = .none := by
  unfold findClass?
  rw [findSome?_of_forall_not isDesignation_iff none]

end Designated

theorem head?_bind_ofClass {classes others : List Stmt}
    (same : List.Forall₂ SameClass classes others) :
    (classes.head?.bind classOf?).map ofClass = (others.head?.bind classOf?).map ofClass := by
  cases same with
  | nil => rfl
  | cons here _ => exact here.ofClass_eq

/-- Files with the same skeleton describe the same controller, or none. -/
theorem SameSkeleton.ofStatements?_eq {statements others : List Stmt}
    (same : SameSkeleton statements others) : ofStatements? statements = ofStatements? others := by
  rw [Controller.ofStatements?_eq, Controller.ofStatements?_eq]
  cases same with
  | undesignated none noOther =>
      rw [findClass?_of_forall_not none, findClass?_of_forall_not noOther]
  | @designated front otherFront _ _ arguments otherArguments none noOther designates
      otherDesignates same classes later otherLater =>
      have names : nameAmong arguments = nameAmong otherArguments := by
        unfold nameAmong
        rw [same]
      rw [findClass?_of_designates none designates,
        findClass?_of_designates noOther otherDesignates, ← names]
      by_cases nameless : nameAmong arguments = []
      · rw [if_pos nameless, if_pos nameless]
      · rw [if_neg nameless, if_neg nameless]
        apply head?_bind_ofClass
        exact classes _ (firstPositional?_of_nameAmong nameless)

theorem SameSkeleton.ofSource_eq {source other : Text} {statements others : List Stmt}
    (reads : Source.read source = .ok statements) (otherReads : Source.read other = .ok others)
    (same : SameSkeleton statements others) (file : Text) :
    ofSource file source = ofSource file other := by
  unfold ofSource
  rw [reads, otherReads]
  dsimp only [bind, Except.bind]
  rw [same.ofStatements?_eq]

end ControllerClient.Controller

namespace ControllerClient.Workspace

open Source Controller

/--
What is described, or why nothing is, depends on the skeleton of a file only. Two source texts
that can be read and have the same skeleton give the same controller with the same prefix, or the
same failure, in the same place and with the same settings.
-/
theorem describe_sameSkeleton {source other : Text} {statements others : List Stmt}
    (reads : Source.read source = .ok statements) (otherReads : Source.read other = .ok others)
    (same : SameSkeleton statements others) (workspace : Workspace) (file : Text)
    (config : Option Config) :
    workspace.describe file source config = workspace.describe file other config := by
  unfold describe
  rw [same.ofSource_eq reads otherReads file]

def plainSource : Text := "class U:\n @Get('a')\n def f(): pass\ndefine_expose(U)\n".toList

def plainClass : Stmt :=
  .classDefinition "U".toList []
    [.function false "f".toList (.mk [] [] none [] none) none [.pass]
      [.call (.name "Get".toList) [.positional (.constant (.text "a".toList))]]] []

def plainDesignation : Stmt :=
  .expression (.call (.name "define_expose".toList) [.positional (.name "U".toList)])

def dressedSource : Text :=
  "@d\nclass U:\n @m.get('a')\n async def f(): x\nx.define_expose(U)\n".toList

def dressedClass : Stmt :=
  .classDefinition "U".toList []
    [.function true "f".toList (.mk [] [] none [] none) none [.expression (.name "x".toList)]
      [.call (.member (.name "m".toList) "get".toList)
        [.positional (.constant (.text "a".toList))]]] [.name "d".toList]

def dressedDesignation : Stmt :=
  .expression (.call (.member (.name "x".toList) "define_expose".toList)
    [.positional (.name "U".toList)])

set_option maxRecDepth 100000 in
/-- Another decorator, other spellings, another body and another kind of method do not matter. -/
theorem describe_sameSkeleton_dressed :
    Source.read plainSource = .ok [plainClass, plainDesignation] ∧
      Source.read dressedSource = .ok [dressedClass, dressedDesignation] ∧
      SameSkeleton [plainClass, plainDesignation] [dressedClass, dressedDesignation] ∧
      (onDisk .empty).describe "a.py".toList plainSource none =
        (onDisk .empty).describe "a.py".toList dressedSource none := by
  have reads : Source.read plainSource = .ok [plainClass, plainDesignation] := by
    cbv
  have otherReads : Source.read dressedSource = .ok [dressedClass, dressedDesignation] := by
    cbv
  have asks : AsksFor "GET".toList [.positional (.constant (.text "a".toList))]
      (.call (.name "Get".toList) [.positional (.constant (.text "a".toList))]) :=
    ⟨"Get".toList, by decide, .plain⟩
  have otherAsks : AsksFor "GET".toList [.positional (.constant (.text "a".toList))]
      (.call (.member (.name "m".toList) "get".toList)
        [.positional (.constant (.text "a".toList))]) :=
    ⟨"get".toList, by decide, .member _⟩
  have route := SameRoute.asked (isFirst_cons ⟨_, _, asks⟩ []) asks
    (isFirst_cons ⟨_, _, otherAsks⟩ []) otherAsks rfl
  have undecorated : SamePrefix [] [.name "d".toList] := by
    refine .unasked (fun _ present => absurd present List.not_mem_nil) fun other present => ?_
    rw [List.mem_singleton.mp present]
    rintro ⟨arguments, calls⟩
    cases calls
  have classes : SameClass plainClass dressedClass :=
    .mk _ _ _ undecorated (.cons (.mk _ _ _ _ _ _ _ _ _ route) .nil)
  have undesignated (definition : Stmt) (isClass : (designated? definition).isSome = false) :
      ∀ statement ∈ [definition], ¬ IsDesignation statement := by
    intro statement present
    rw [List.mem_singleton.mp present, isDesignation_iff, isClass]
    exact Bool.false_ne_true
  have same : SameSkeleton [plainClass, plainDesignation] [dressedClass, dressedDesignation] :=
    .designated (undesignated plainClass rfl) (undesignated dressedClass rfl) (.expression .plain)
      (.expression (.member _)) rfl
      (fun name named => by
        cases named
        exact .cons classes .nil) [] []
  exact ⟨reads, otherReads, same,
    describe_sameSkeleton reads otherReads same (onDisk .empty) "a.py".toList none⟩

end ControllerClient.Workspace
