import ControllerClient.Proofs.Config.Faults
import ControllerClient.Proofs.Controller.Names
import ControllerClient.Proofs.Controller.Skeleton
import ControllerClient.Proofs.Source.Names

/-!
When a file has a controller. Its first designation decides: it has to name a class that stands
at the top of the file in front of it. Nothing behind it or inside other statements counts, and
settings are looked at only when there is a controller.
-/

namespace ControllerClient

namespace Controller

open Source

/-- The first designation among some statements has some arguments and stands behind others. -/
structure DesignatesBehind (front : List Stmt) (arguments : List Argument)
    (statements : List Stmt) : Prop where
  before : ∀ statement ∈ front, ¬ IsDesignation statement
  whole : ∃ designation later, statements = front ++ designation :: later ∧
    Designates arguments designation

/-- A class of the name that the first designation names stands in front of it. -/
inductive Discovers (statements : List Stmt) (definition : Stmt) : Prop where
  | mk {front : List Stmt} {arguments : List Argument} {name : Text}
      (first : DesignatesBehind front arguments statements)
      (named : firstPositional? arguments = some (.name name)) (inFront : definition ∈ front)
      (isClass : isClassNamed name definition = true)

inductive Undiscovered (statements : List Stmt) : Prop where
  /-- There is no designation. -/
  | undesignated (none : ∀ statement ∈ statements, ¬ IsDesignation statement)
  /-- The first designation has no argument in front, or one that is no name. -/
  | unnamed {front : List Stmt} {arguments : List Argument}
      (first : DesignatesBehind front arguments statements)
      (nameless : ∀ name, firstPositional? arguments ≠ some (.name name))
  /-- No class in front of the first designation has the name. -/
  | undefinedClass {front : List Stmt} {arguments : List Argument} {name : Text}
      (first : DesignatesBehind front arguments statements)
      (named : firstPositional? arguments = some (.name name))
      (absent : ∀ statement ∈ front, isClassNamed name statement = false)

/--
Statements whose first designations have the same argument in front, and in front of them the
same classes of the name that is designated, if it is a name.
-/
inductive SameDesignation : List Stmt → List Stmt → Prop where
  | undesignated {statements others : List Stmt}
      (none : ∀ statement ∈ statements, ¬ IsDesignation statement)
      (noOther : ∀ other ∈ others, ¬ IsDesignation other) : SameDesignation statements others
  | designated {front otherFront statements others : List Stmt}
      {arguments otherArguments : List Argument}
      (first : DesignatesBehind front arguments statements)
      (otherFirst : DesignatesBehind otherFront otherArguments others)
      (same : firstPositional? arguments = firstPositional? otherArguments)
      (classes : ∀ name, firstPositional? arguments = some (.name name) →
        front.filter (isClassNamed name) = otherFront.filter (isClassNamed name)) :
      SameDesignation statements others

section Statements

variable {statements others front : List Stmt} {arguments : List Argument} {name : Text}

theorem forall_not_or_designatesBehind (statements : List Stmt) :
    (∀ statement ∈ statements, ¬ IsDesignation statement) ∨
      ∃ front arguments, DesignatesBehind front arguments statements := by
  rcases forall_not_or_isFirst IsDesignation statements with none | ⟨designation, first⟩
  · exact Or.inl none
  · obtain ⟨front, later, whole, ⟨arguments, designates⟩, none⟩ := first
    exact Or.inr ⟨front, arguments, none, designation, later, whole, designates⟩

theorem DesignatesBehind.findClass?_eq (first : DesignatesBehind front arguments statements) :
    findClass? statements =
      if nameAmong arguments = [] then none
      else (front.filter (isClassNamed (nameAmong arguments))).head?.bind classOf? := by
  obtain ⟨none, designation, later, rfl, designates⟩ := first
  exact findClass?_of_designates none designates later

theorem Undiscovered.findClass?_eq (undiscovered : Undiscovered statements) :
    findClass? statements = none := by
  cases undiscovered with
  | undesignated none => exact findClass?_of_forall_not none
  | unnamed first nameless =>
      have noName := not_not.mp fun some_ => nameless _ (firstPositional?_of_nameAmong some_)
      rw [first.findClass?_eq, if_pos noName]
  | undefinedClass first named absent =>
      have nothing := List.filter_eq_nil_iff.mpr fun statement present =>
        Bool.eq_false_iff.mp (absent statement present)
      rw [first.findClass?_eq, nameAmong_of_name named, nothing]
      split <;> rfl

theorem exists_classOf?_of_isClassNamed {definition : Stmt}
    (isClass : isClassNamed name definition = true) :
    ∃ found, classOf? definition = some found ∧ found.name = name := by
  cases definition with
  | classDefinition own bases body decorators => exact ⟨_, rfl, of_decide_eq_true isClass⟩
  | _ => cases isClass

theorem ne_nil_of_isClassNamed (named : AllNamed statements) {definition : Stmt}
    (present : definition ∈ statements) (isClass : isClassNamed name definition = true) :
    name ≠ [] := by
  obtain ⟨found, isFound, rfl⟩ := exists_classOf?_of_isClassNamed isClass
  obtain ⟨⟨identifier, same⟩, _⟩ := isNamed_classOf? (named definition present) isFound
  rw [← same]
  exact identifier.name_ne_nil

theorem DesignatesBehind.exists_discovers (first : DesignatesBehind front arguments statements)
    (allNamed : AllNamed statements) (named : firstPositional? arguments = some (.name name))
    {candidate : Stmt} (present : candidate ∈ front)
    (isCandidate : isClassNamed name candidate = true) :
    ∃ definition found, Discovers statements definition ∧ classOf? definition = some found ∧
      findClass? statements = some found := by
  have inStatements : candidate ∈ statements := by
    obtain ⟨_, designation, later, rfl, _⟩ := first
    exact List.mem_append_left _ present
  have some_ := ne_nil_of_isClassNamed allNamed inStatements isCandidate
  cases classes : front.filter (isClassNamed name) with
  | nil => exact absurd isCandidate (List.filter_eq_nil_iff.mp classes candidate present)
  | cons definition others =>
      have member : definition ∈ front.filter (isClassNamed name) := by
        rw [classes]
        exact List.mem_cons_self
      obtain ⟨inFront, isClass⟩ := List.mem_filter.mp member
      obtain ⟨found, isFound, _⟩ := exists_classOf?_of_isClassNamed isClass
      refine ⟨definition, found, .mk first named inFront isClass, isFound, ?_⟩
      rw [first.findClass?_eq, nameAmong_of_name named, if_neg some_, classes]
      exact isFound

theorem exists_discovers (allNamed : AllNamed statements)
    (discovered : ¬ Undiscovered statements) :
    ∃ definition found, Discovers statements definition ∧ classOf? definition = some found ∧
      findClass? statements = some found := by
  rcases forall_not_or_designatesBehind statements with none | ⟨front, arguments, first⟩
  · exact absurd (.undesignated none) discovered
  · by_cases nameless : ∀ name, firstPositional? arguments ≠ some (.name name)
    · exact absurd (.unnamed first nameless) discovered
    · obtain ⟨name, named⟩ := not_forall_not.mp nameless
      by_cases absent : ∀ statement ∈ front, isClassNamed name statement = false
      · exact absurd (.undefinedClass first named absent) discovered
      · simp only [not_forall, Bool.not_eq_false] at absent
        obtain ⟨candidate, present, isCandidate⟩ := absent
        exact first.exists_discovers allNamed named present isCandidate

theorem SameDesignation.findClass?_eq (same : SameDesignation statements others) :
    findClass? statements = findClass? others := by
  cases same with
  | undesignated none noOther =>
      rw [findClass?_of_forall_not none, findClass?_of_forall_not noOther]
  | @designated front otherFront _ _ arguments otherArguments first otherFirst same classes =>
      have names : nameAmong arguments = nameAmong otherArguments := by
        rw [nameAmong, nameAmong, same]
      rw [first.findClass?_eq, otherFirst.findClass?_eq, ← names]
      by_cases nameless : nameAmong arguments = []
      · rw [if_pos nameless, if_pos nameless]
      · rw [if_neg nameless, if_neg nameless,
          classes _ (firstPositional?_of_nameAmong nameless)]

end Statements

def parsed (file source : Text) : Except Failure (List Stmt) :=
  if file.contains '\x00' then .error (.shape .nullInFileName) else Source.read source

section Files

variable {file source : Text} {statements : List Stmt}

theorem read_of_parsed (parses : parsed file source = .ok statements) :
    file.contains '\x00' = false ∧ Source.read source = .ok statements := by
  unfold parsed at parses
  split at parses
  · cases parses
  · next plain => exact ⟨Bool.eq_false_iff.mpr plain, parses⟩

theorem ofSource_of_parsed (parses : parsed file source = .ok statements) :
    ofSource file source =
      match findClass? statements with
      | some found => .ok (ofClass found)
      | none => .error (.noControllerFound file) := by
  obtain ⟨plain, reads⟩ := read_of_parsed parses
  unfold ofSource
  rw [plain, if_neg Bool.false_ne_true, reads]
  dsimp only [bind, Except.bind]
  rw [ofStatements?_eq]
  cases findClass? statements with
  | none => rfl
  | some found => rfl

end Files

end Controller

namespace Workspace

open Controller Source

section Describing

variable {file source : Text} {statements : List Stmt}

theorem describe_of_undiscovered (parses : parsed file source = .ok statements)
    (undiscovered : Undiscovered statements) (workspace : Workspace) (config : Option Config) :
    workspace.describe file source config = (workspace, .error (.noControllerFound file)) := by
  unfold describe
  rw [ofSource_of_parsed parses, undiscovered.findClass?_eq]

theorem describe_of_found (parses : parsed file source = .ok statements) {found : ClassSource}
    (finds : findClass? statements = some found) (workspace : Workspace)
    (config : Option Config) :
    workspace.describe file source config =
      ((workspace.prefixOf (ofClass found) file config).1,
        (workspace.prefixOf (ofClass found) file config).2.map fun routePrefix =>
          (ofClass found, routePrefix)) := by
  unfold describe
  rw [ofSource_of_parsed parses, finds]

/--
A file of statements has no controller exactly when there is no designation, or the first one has
no name in front, or no class of that name stands at the top of the file before it. Then nothing
else is looked at. Otherwise a class that stands there under this name is described, and nothing
that can go wrong with its prefix is taken for a missing controller. What stands behind the first
designation, and what stands in front of it other than the classes of that name, does not matter.
-/
theorem describe_discovery (parses : parsed file source = .ok statements) :
    (∀ (workspace : Workspace) (config : Option Config),
        (∃ place, (workspace.describe file source config).2 =
          .error (.noControllerFound place)) ↔ Undiscovered statements) ∧
      (Undiscovered statements → ∀ (workspace : Workspace) (config : Option Config),
        workspace.describe file source config = (workspace, .error (.noControllerFound file))) ∧
      (¬ Undiscovered statements → ∃ definition found, Discovers statements definition ∧
        classOf? definition = some found ∧ ∀ (workspace : Workspace) (config : Option Config),
          workspace.describe file source config =
            ((workspace.prefixOf (ofClass found) file config).1,
              (workspace.prefixOf (ofClass found) file config).2.map fun routePrefix =>
                (ofClass found, routePrefix))) ∧
      ∀ other others, parsed file other = .ok others → SameDesignation statements others →
        ∀ (workspace : Workspace) (config : Option Config),
          workspace.describe file other config = workspace.describe file source config := by
  have allNamed := allNamed_of_read (read_of_parsed parses).2
  refine ⟨fun workspace config => ⟨?_, ?_⟩, ?_, ?_, ?_⟩
  · rintro ⟨place, fails⟩
    by_contra discovered
    obtain ⟨definition, found, _, _, finds⟩ := exists_discovers allNamed discovered
    rw [describe_of_found parses finds] at fails
    exact (avoids_prefixOf workspace (ofClass found) file config).map _ place fails
  · intro undiscovered
    rw [describe_of_undiscovered parses undiscovered]
    exact ⟨file, rfl⟩
  · exact describe_of_undiscovered parses
  · intro discovered
    obtain ⟨definition, found, discovers, isFound, finds⟩ := exists_discovers allNamed discovered
    exact ⟨definition, found, discovers, isFound, describe_of_found parses finds⟩
  · intro other others otherParses same workspace config
    unfold describe
    rw [ofSource_of_parsed parses, ofSource_of_parsed otherParses, same.findClass?_eq]

end Describing

def lateSource : Text :=
  "if x:\n class A: pass\ny: t = m.define_expose(A)\nclass A: pass\ndefine_expose(A)\n".toList

def lateClass : Stmt := .classDefinition "A".toList [] [.pass] []

def nestedClass : Stmt := .choice (.name "x".toList) [lateClass] []

def firstDesignation : Stmt :=
  .annotated (.name "y".toList) (.name "t".toList)
    (some (.call (.member (.name "m".toList) marker) [.positional (.name "A".toList)]))

def laterDesignation : Stmt :=
  .expression (.call (.name marker) [.positional (.name "A".toList)])

set_option maxRecDepth 100000 in
/-- A class inside another statement and one behind the first designation do not count. -/
theorem describe_discovery_late :
    parsed "a.py".toList lateSource =
        .ok [nestedClass, firstDesignation, lateClass, laterDesignation] ∧
      Undiscovered [nestedClass, firstDesignation, lateClass, laterDesignation] ∧
      ((onDisk .empty).describe "a.py".toList lateSource none).2 =
        .error (.noControllerFound "a.py".toList) := by
  have parses : parsed "a.py".toList lateSource =
      .ok [nestedClass, firstDesignation, lateClass, laterDesignation] := by
    cbv
  have first : DesignatesBehind [nestedClass] [.positional (.name "A".toList)]
      [nestedClass, firstDesignation, lateClass, laterDesignation] := by
    refine ⟨?_, firstDesignation, [lateClass, laterDesignation], rfl, .annotated _ _ (.member _)⟩
    intro statement present
    rw [List.mem_singleton.mp present, isDesignation_iff]
    exact Bool.false_ne_true
  have undiscovered : Undiscovered [nestedClass, firstDesignation, lateClass, laterDesignation] :=
    .undefinedClass first rfl (List.forall_mem_singleton.mpr rfl)
  have fails := (describe_discovery parses).2.1 undiscovered (onDisk .empty) none
  exact ⟨parses, undiscovered, congrArg Prod.snd fails⟩

end Workspace

end ControllerClient
