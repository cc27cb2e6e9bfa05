import ControllerClient.Proofs.Controller.Discovery
import ControllerClient.Proofs.Source.Binding

/-!
What the name of a controller stands for when its file runs, and what is described of it. Each
class of a name takes the name over from the one before, so that a designation gets the last of
them, if only classes bind the name. What is described is the first of them. These are the same
class where the file defines it once.
-/

namespace ControllerClient

namespace Controller

open Source

/--
A name stands for the class that a statement behind `before` made, once some statements at the
top of a file have run in turn: a class takes its name over, and a statement that does not bind
the name leaves it as it was. No function or class is among them that could bind it from inside.
-/
inductive Denotes (name : Text) : List Stmt → List Stmt → Stmt → Prop where
  | made {before : List Stmt} {definition : Stmt} (isClass : isClassNamed name definition = true)
      (own : ∀ statement ∈ before ++ [definition], statement.bindsGlobally name = false) :
      Denotes name (before ++ [definition]) before definition
  | kept {statements before : List Stmt} {definition statement : Stmt}
      (earlier : Denotes name statements before definition)
      (silent : statement.binds name = false) (own : statement.bindsGlobally name = false) :
      Denotes name (statements ++ [statement]) before definition

/-- A class is the first of its name among some statements, behind `before`. -/
def IsFirstClass (name : Text) (statements before : List Stmt) (definition : Stmt) : Prop :=
  ∃ behind, statements = before ++ definition :: behind ∧
    isClassNamed name definition = true ∧ ∀ statement ∈ before, isClassNamed name statement = false

def IsLastClass (name : Text) (statements before : List Stmt) (definition : Stmt) : Prop :=
  ∃ behind, statements = before ++ definition :: behind ∧
    isClassNamed name definition = true ∧ ∀ statement ∈ behind, isClassNamed name statement = false

/-- Among some statements only classes of a name bind it, by their own definitions. -/
structure OnlyClassesBind (name : Text) (statements : List Stmt) : Prop where
  classes : ∀ statement ∈ statements,
    statement.binds name = true → isClassNamed name statement = true
  own : ∀ statement ∈ statements, statement.bindsGlobally name = false

section Denoting

variable {name : Text} {statements before : List Stmt} {definition : Stmt}

theorem binds_of_isClassNamed (isClass : isClassNamed name definition = true) :
    definition.binds name = true := by
  cases definition with
  | classDefinition own arguments body decorators =>
      have same : own = name := of_decide_eq_true isClass
      simp [Stmt.binds, same]
  | _ => cases isClass

/-- A name stands for a class exactly when nothing behind the class binds the name. -/
theorem denotes_iff :
    Denotes name statements before definition ↔
      (∀ statement ∈ statements, statement.bindsGlobally name = false) ∧
        ∃ behind, statements = before ++ definition :: behind ∧
          isClassNamed name definition = true ∧
            ∀ statement ∈ behind, statement.binds name = false := by
  constructor
  · intro denotes
    induction denotes with
    | made isClass own =>
        exact ⟨own, [], rfl, isClass, List.forall_mem_nil _⟩
    | @kept statements before definition statement earlier silent own ih =>
        obtain ⟨ownEarlier, behind, rfl, isClass, none⟩ := ih
        have ownAll := List.forall_mem_append.mpr ⟨ownEarlier, List.forall_mem_singleton.mpr own⟩
        refine ⟨ownAll, behind ++ [statement], List.append_assoc _ _ _, isClass, ?_⟩
        exact List.forall_mem_append.mpr ⟨none, List.forall_mem_singleton.mpr silent⟩
  · rintro ⟨own, behind, rfl, isClass, none⟩
    induction behind using List.reverseRecOn with
    | nil => exact .made isClass own
    | append_singleton behind statement ih =>
        rw [← List.cons_append, ← List.append_assoc] at own ⊢
        obtain ⟨ownEarlier, ownLast⟩ := List.forall_mem_append.mp own
        obtain ⟨noneEarlier, noneLast⟩ := List.forall_mem_append.mp none
        have earlier := ih ownEarlier noneEarlier
        exact .kept earlier (noneLast statement List.mem_cons_self)
          (ownLast statement List.mem_cons_self)

theorem denotes_iff_isLastClass (only : OnlyClassesBind name statements) :
    Denotes name statements before definition ↔ IsLastClass name statements before definition := by
  rw [denotes_iff]
  constructor
  · rintro ⟨_, behind, whole, isClass, silent⟩
    refine ⟨behind, whole, isClass, fun statement present => ?_⟩
    have unbound := Bool.eq_false_iff.mp (silent statement present)
    exact Bool.eq_false_iff.mpr fun isClass => unbound (binds_of_isClassNamed isClass)
  · rintro ⟨behind, rfl, isClass, none⟩
    refine ⟨only.own, behind, rfl, isClass, fun statement present => ?_⟩
    have inside := List.mem_append_right before (List.mem_cons_of_mem definition present)
    have other := Bool.eq_false_iff.mp (none statement present)
    exact Bool.eq_false_iff.mpr fun binds => other (only.classes statement inside binds)

theorem exists_isLastClass
    (present : ∃ statement ∈ statements, isClassNamed name statement = true) :
    ∃ before definition, IsLastClass name statements before definition := by
  induction statements using List.reverseRecOn with
  | nil =>
      obtain ⟨statement, inside, _⟩ := present
      cases inside
  | append_singleton statements statement ih =>
      by_cases isClass : isClassNamed name statement = true
      · exact ⟨statements, statement, [], rfl, isClass, List.forall_mem_nil _⟩
      · obtain ⟨candidate, inside, isCandidate⟩ := present
        have earlier : candidate ∈ statements := by
          rcases List.mem_append.mp inside with earlier | last
          · exact earlier
          · rw [List.mem_singleton.mp last] at isCandidate
            exact absurd isCandidate isClass
        have inFront := ih ⟨candidate, earlier, isCandidate⟩
        obtain ⟨before, definition, behind, rfl, found, none⟩ := inFront
        refine ⟨before, definition, behind ++ [statement], List.append_assoc _ _ _, found, ?_⟩
        exact List.forall_mem_append.mpr
          ⟨none, List.forall_mem_singleton.mpr (Bool.eq_false_iff.mpr isClass)⟩

theorem eq_nil_of_none_behind {between behind later : List Stmt} {other : Stmt}
    (none : ∀ statement ∈ behind, isClassNamed name statement = false)
    (isClass : isClassNamed name other = true)
    (same : definition :: behind = between ++ other :: later) : between = [] := by
  cases between with
  | nil => rfl
  | cons first between =>
      obtain ⟨_, rfl⟩ := List.cons.inj same
      have present : other ∈ between ++ other :: later :=
        List.mem_append_right between List.mem_cons_self
      rw [none other present] at isClass
      cases isClass

theorem IsLastClass.unique {otherBefore : List Stmt} {other : Stmt}
    (isLast : IsLastClass name statements before definition)
    (otherIsLast : IsLastClass name statements otherBefore other) :
    otherBefore = before ∧ other = definition := by
  obtain ⟨behind, rfl, isClass, none⟩ := isLast
  obtain ⟨otherBehind, whole, otherIsClass, otherNone⟩ := otherIsLast
  rcases List.append_eq_append_iff.mp whole with ⟨between, rfl, rest⟩ | ⟨between, rfl, rest⟩
  · cases eq_nil_of_none_behind none otherIsClass rest
    exact ⟨List.append_nil before, (List.cons.inj rest).1.symm⟩
  · cases eq_nil_of_none_behind otherNone isClass rest
    exact ⟨(List.append_nil otherBefore).symm, (List.cons.inj rest).1⟩

theorem IsFirstClass.exists_isClassNamed
    (isFirst : IsFirstClass name statements before definition) :
    ∃ statement ∈ statements, isClassNamed name statement = true := by
  obtain ⟨behind, rfl, isClass, _⟩ := isFirst
  exact ⟨definition, List.mem_append_right before List.mem_cons_self, isClass⟩

/-- The first class of a name is the last one exactly when it is the only one. -/
theorem IsFirstClass.isLastClass_iff (isFirst : IsFirstClass name statements before definition) :
    IsLastClass name statements before definition ↔
      statements.countP (isClassNamed name) = 1 := by
  obtain ⟨behind, rfl, isClass, none⟩ := isFirst
  have count : (before ++ definition :: behind).countP (isClassNamed name) =
      behind.countP (isClassNamed name) + 1 := by
    have noneBefore : before.countP (isClassNamed name) = 0 :=
      List.countP_eq_zero.mpr fun statement present => Bool.eq_false_iff.mp (none statement present)
    rw [List.countP_append, List.countP_cons_of_pos isClass, noneBefore, Nat.zero_add]
  rw [count, Nat.add_eq_right, List.countP_eq_zero]
  constructor
  · rintro ⟨others, whole, _, noneBehind⟩
    obtain ⟨_, same⟩ := List.cons.inj (List.append_cancel_left whole)
    rw [same]
    exact fun statement present => Bool.eq_false_iff.mp (noneBehind statement present)
  · intro noneBehind
    exact ⟨behind, rfl, isClass, fun statement present =>
      Bool.eq_false_iff.mpr (noneBehind statement present)⟩

theorem DesignatesBehind.isFirstClass {front : List Stmt} {arguments : List Argument}
    (first : DesignatesBehind front arguments statements)
    (named : firstPositional? arguments = some (.name name)) {found : ClassSource}
    (finds : findClass? statements = some found) :
    ∃ before definition, IsFirstClass name front before definition ∧
      classOf? definition = some found := by
  rw [first.findClass?_eq, nameAmong_of_name named] at finds
  split at finds
  · cases finds
  · obtain ⟨definition, isHead, isFound⟩ := Option.bind_eq_some_iff.mp finds
    rw [List.head?_filter, List.find?_eq_some_iff_append] at isHead
    obtain ⟨isClass, before, behind, whole, none⟩ := isHead
    refine ⟨before, definition, ⟨behind, whole, isClass, fun statement present => ?_⟩, isFound⟩
    simpa using none statement present

end Denoting

end Controller

namespace Workspace

open Controller Source

section Describing

variable {file source : Text} {statements : List Stmt}

theorem exists_found_of_describe (parses : parsed file source = .ok statements)
    {workspace later : Workspace} {config : Option Config} {controller : Controller}
    {routePrefix : Text}
    (accepted : workspace.describe file source config = (later, .ok (controller, routePrefix))) :
    ∃ found, findClass? statements = some found ∧ controller = ofClass found ∧
      workspace.prefixOf (ofClass found) file config = (later, .ok routePrefix) := by
  cases finds : findClass? statements with
  | none =>
      rw [describe, ofSource_of_parsed parses, finds] at accepted
      cases accepted
  | some found =>
      rw [describe_of_found parses finds] at accepted
      cases given : workspace.prefixOf (ofClass found) file config with
      | mk after result =>
          rw [given] at accepted
          cases result with
          | error failure => cases accepted
          | ok text =>
              cases accepted
              exact ⟨found, rfl, rfl, given⟩

/--
What is described is the first class of the designated name in front of the first designation. If
only classes bind the name there, it stands for the last of them when the designation runs, and
for nothing else. So the class for which it stands is the one that is described exactly when no
other class has the name there.
-/
theorem describe_denoted {front : List Stmt} {arguments : List Argument} {name : Text}
    (parses : parsed file source = .ok statements)
    (first : DesignatesBehind front arguments statements)
    (named : firstPositional? arguments = some (.name name))
    {workspace later : Workspace} {config : Option Config} {controller : Controller}
    {routePrefix : Text}
    (accepted : workspace.describe file source config = (later, .ok (controller, routePrefix))) :
    ∃ before definition found, IsFirstClass name front before definition ∧
      classOf? definition = some found ∧ controller = ofClass found ∧
      workspace.prefixOf (ofClass found) file config = (later, .ok routePrefix) ∧
      (OnlyClassesBind name front →
        (∃ lastBefore last, IsLastClass name front lastBefore last ∧
          ∀ otherBefore other, Denotes name front otherBefore other ↔
            otherBefore = lastBefore ∧ other = last) ∧
        (Denotes name front before definition ↔ front.countP (isClassNamed name) = 1)) := by
  obtain ⟨found, finds, same, given⟩ := exists_found_of_describe parses accepted
  obtain ⟨before, definition, isFirst, isFound⟩ := first.isFirstClass named finds
  refine ⟨before, definition, found, isFirst, isFound, same, given, fun only => ⟨?_, ?_⟩⟩
  · obtain ⟨lastBefore, last, isLast⟩ := exists_isLastClass isFirst.exists_isClassNamed
    refine ⟨lastBefore, last, isLast, fun otherBefore other => ?_⟩
    rw [denotes_iff_isLastClass only]
    constructor
    · exact isLast.unique
    · rintro ⟨rfl, rfl⟩
      exact isLast
  · rw [denotes_iff_isLastClass only, isFirst.isLastClass_iff]

end Describing

def redefinedSource : Text :=
  ("class A:\n @get('a')\n def f(): pass\nx = A\n" ++
    "class A:\n @post('b')\n def g(): pass\ndefine_expose(A)\n").toList

def methodOf (name verb path : Text) : Stmt :=
  .function false name (.mk [] [] none [] none) none [.pass]
    [.call (.name verb) [.positional (.constant (.text path))]]

def replacedClass : Stmt := .classDefinition ['A'] [] [methodOf ['f'] "get".toList ['a']] []

def replacingClass : Stmt := .classDefinition ['A'] [] [methodOf ['g'] "post".toList ['b']] []

def redefinedFront : List Stmt :=
  [replacedClass, .assigned [.name ['x']] (.name ['A']), replacingClass]

def redefinedDesignation : Stmt :=
  .expression (.call (.name marker) [.positional (.name ['A'])])

def replacedController : Controller := ⟨['A'], .written [], [(['f'], ⟨"GET".toList, "/a".toList⟩)]⟩

set_option maxRecDepth 100000 in
/-- The first of two classes is described, and the name stands for the second. -/
theorem describe_denoted_redefined :
    parsed "a.py".toList redefinedSource = .ok (redefinedFront ++ [redefinedDesignation]) ∧
      DesignatesBehind redefinedFront [.positional (.name ['A'])]
        (redefinedFront ++ [redefinedDesignation]) ∧
      OnlyClassesBind ['A'] redefinedFront ∧
      (onDisk .empty).describe "a.py".toList redefinedSource none =
        (onDisk .empty, .ok (replacedController, [])) ∧
      ∃ before definition, IsFirstClass ['A'] redefinedFront before definition ∧
        (classOf? definition).map ofClass = some replacedController ∧
        ¬ Denotes ['A'] redefinedFront before definition := by
  have parses : parsed "a.py".toList redefinedSource =
      .ok (redefinedFront ++ [redefinedDesignation]) := by
    cbv
  have first : DesignatesBehind redefinedFront [.positional (.name ['A'])]
      (redefinedFront ++ [redefinedDesignation]) := by
    refine ⟨fun statement present => ?_, redefinedDesignation, [], rfl, .expression .plain⟩
    rw [isDesignation_iff]
    revert statement
    decide
  have only : OnlyClassesBind ['A'] redefinedFront := ⟨by decide, by decide⟩
  have accepted : (onDisk .empty).describe "a.py".toList redefinedSource none =
      (onDisk .empty, .ok (replacedController, [])) := by
    rw [describe_of_found parses rfl]
    rfl
  obtain ⟨before, definition, found, isFirst, isFound, same, _, denoted⟩ :=
    describe_denoted parses first rfl accepted
  have once := (denoted only).2
  refine ⟨parses, first, only, accepted, before, definition, isFirst, ?_, fun denotes => ?_⟩
  · rw [isFound, Option.map_some, same]
  · have twice : redefinedFront.countP (isClassNamed ['A']) = 2 := rfl
    rw [once.mp denotes] at twice
    cases twice

end Workspace

end ControllerClient
