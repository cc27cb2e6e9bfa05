import ControllerClient.Controller
import ControllerClient.Proofs.Failure
import ControllerClient.Proofs.Source.Definitions
import ControllerClient.Proofs.Table

/-!
The names in a controller. Its own name and those of its endpoints are names of
identifiers; no two endpoints share one and none has a special one.
-/

namespace ControllerClient.Controller

open Source

/-- What holds of the names in every controller that source text describes. -/
structure IsWellNamed (controller : Controller) : Prop where
  named : ∃ identifier : Identifier, identifier.name = controller.name
  endpointNamed : ∀ entry ∈ controller.endpoints, ∃ identifier : Identifier,
    identifier.name = entry.1
  ordinary : ∀ entry ∈ controller.endpoints, isSpecialName entry.1 = false
  distinct : (controller.endpoints.map (·.1)).Nodup

theorem exists_of_findClass? {statements : List Stmt} {found : ClassSource}
    (finds : findClass? statements = some found) :
    ∃ statement ∈ statements, classOf? statement = some found := by
  unfold findClass? at finds
  split at finds
  · cases finds
  · cases finds
  · have present := List.mem_of_find?_eq_some finds
    obtain ⟨statement, earlier, same⟩ := List.mem_filterMap.mp present
    exact ⟨statement, (List.takeWhile_sublist _).subset earlier, same⟩

theorem isNamed_classOf? {statement : Stmt} (named : statement.IsNamed) {found : ClassSource}
    (isClass : classOf? statement = some found) :
    (∃ identifier : Identifier, identifier.name = found.name) ∧ AllNamed found.body := by
  cases named with
  | function => cases isClass
  | classDefinition identifier arguments decorators inside =>
      cases isClass
      exact ⟨⟨identifier, rfl⟩, inside⟩
  | other plain =>
      cases statement with
      | classDefinition => cases plain
      | _ => cases isClass

theorem isNamed_endpoint? {statement : Stmt} (named : statement.IsNamed)
    {entry : Text × MethodRoute} (isEndpoint : endpoint? statement = some entry) :
    (∃ identifier : Identifier, identifier.name = entry.1) ∧ isSpecialName entry.1 = false := by
  cases named with
  | function isAsync identifier parameters result decorators inside =>
      rw [endpoint?] at isEndpoint
      split at isEndpoint
      · cases isEndpoint
      · next ordinary =>
          cases isEndpoint
          exact ⟨⟨identifier, rfl⟩, Bool.eq_false_iff.mpr ordinary⟩
  | classDefinition => cases isEndpoint
  | other plain =>
      cases statement with
      | function => cases plain
      | _ => cases isEndpoint

theorem isWellNamed_ofStatements? {statements : List Stmt} (named : AllNamed statements)
    {controller : Controller} (described : ofStatements? statements = some controller) :
    controller.IsWellNamed := by
  unfold ofStatements? at described
  obtain ⟨found, finds, same⟩ := Option.bind_eq_some_iff.mp described
  cases same
  obtain ⟨statement, present, isClass⟩ := exists_of_findClass? finds
  obtain ⟨ownName, inside⟩ := isNamed_classOf? (named statement present) isClass
  have each : ∀ entry ∈ Table.ofList (found.body.filterMap endpoint?),
      (∃ identifier : Identifier, identifier.name = entry.1) ∧ isSpecialName entry.1 = false := by
    intro entry inTable
    obtain ⟨member, inBody, isEndpoint⟩ := List.mem_filterMap.mp (Table.mem_of_mem_ofList inTable)
    exact isNamed_endpoint? (inside member inBody) isEndpoint
  exact
    { named := ownName
      endpointNamed := fun entry inTable => (each entry inTable).1
      ordinary := fun entry inTable => (each entry inTable).2
      distinct := Table.nodup_ofList _ }

section Sources

variable {file source : Text} {controller : Controller}

/-- A described controller is that of the statements that its source text is read as. -/
theorem exists_statements_of_ofSource (accepted : ofSource file source = .ok controller) :
    ∃ statements, Source.read source = .ok statements ∧
      ofStatements? statements = some controller := by
  unfold ofSource at accepted
  split at accepted
  · cases accepted
  · obtain ⟨statements, reads, accepted⟩ := bind_eq_ok_iff.mp accepted
    split at accepted
    · next other described =>
        cases accepted
        exact ⟨statements, reads, described⟩
    · cases accepted

/-- Controllers have the names of identifiers. -/
theorem isWellNamed_ofSource (accepted : ofSource file source = .ok controller) :
    controller.IsWellNamed := by
  obtain ⟨statements, reads, described⟩ := exists_statements_of_ofSource accepted
  exact isWellNamed_ofStatements? (allNamed_of_read reads) described

end Sources

end ControllerClient.Controller
