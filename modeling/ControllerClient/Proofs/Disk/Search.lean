import ControllerClient.Proofs.Disk.Naming
import ControllerClient.Proofs.FileTree
import ControllerClient.Proofs.Path.Pattern

/-!
Files and the directories above them. What stands above a file is a directory,
however many links are on the way, and a search in the directory of a file finds
the file by every pattern that describes its name.
-/

namespace ControllerClient.Disk

variable {disk : Disk}

theorem node?_eq_some_iff {parts : List Text} {node : Node} :
    disk.node? (Path.absolute parts) = some node ↔
      nameFault? (Path.absolute parts).text = none ∧
        ∃ place, disk.tree.follow FileTree.linkLimit [] parts = .ok place ∧
          disk.tree.node? place = some node := by
  have walk : disk.place (Path.absolute parts) = disk.tree.follow FileTree.linkLimit [] parts := rfl
  unfold node?
  rw [walk]
  cases nameFault? (Path.absolute parts).text with
  | some failure =>
      constructor
      · intro none
        cases none
      · rintro ⟨none, _⟩
        cases none
  | none =>
      cases disk.tree.follow FileTree.linkLimit [] parts with
      | error problem =>
          constructor
          · intro none
            cases none
          · rintro ⟨_, place, none, _⟩
            cases none
      | ok place =>
          constructor
          · intro there
            exact ⟨rfl, place, rfl, there⟩
          · rintro ⟨_, other, same, there⟩
            cases same
            exact there

section Above

variable {front later : List Text} {node : Node}

theorem isDirectory_above (some_ : later ≠ [])
    (there : disk.node? (Path.absolute (front ++ later)) = some node) :
    disk.isDirectory (Path.absolute front) = true := by
  obtain ⟨named, place, leads, _⟩ := node?_eq_some_iff.mp there
  obtain ⟨left, between, reaches, isOpen, _⟩ :=
    FileTree.follow_append (FileTree.isOpen_nil disk.tree) some_ leads
  have namedAbove : nameFault? (Path.absolute front).text = none :=
    nameFault?_text_eq_none_iff.mpr fun part inside =>
      nameFault?_text_eq_none_iff.mp named part (List.mem_append_left later inside)
  unfold isDirectory
  rw [beq_iff_eq]
  exact node?_eq_some_iff.mpr ⟨namedAbove, between, reaches, isOpen.isDirectory⟩

theorem mem_names {name : Text} (forward : name ≠ "..".toList)
    (there : disk.node? (Path.absolute (front ++ [name])) = some node) :
    name ∈ disk.names (Path.absolute front) := by
  obtain ⟨_, place, leads, _⟩ := node?_eq_some_iff.mp there
  obtain ⟨left, between, reaches, _, leads⟩ :=
    FileTree.follow_append (FileTree.isOpen_nil disk.tree) (List.cons_ne_nil name []) leads
  have named : disk.names (Path.absolute front) = disk.tree.names between := by
    have reached : disk.place (Path.absolute front) = .ok between := reaches
    unfold names
    rw [reached]
  rw [named]
  cases entry : disk.tree.node? (between ++ [name]) with
  | none =>
      rw [FileTree.follow_of_isNone forward entry] at leads
      cases leads
  | some node => exact FileTree.mem_names_of_node? entry

end Above

theorem node?_of_isFile {path : Path} (isFile : disk.isFile path = true) :
    ∃ content, disk.node? path = some (.file content) := by
  unfold Disk.isFile at isFile
  split at isFile
  · next content there => exact ⟨content, there⟩
  · cases isFile

section Wildcard

variable {before behind : Text} (literalBefore : Pattern.IsLiteral before)
  (literalBehind : Pattern.IsLiteral behind) (freeBefore : '/' ∉ before) (freeBehind : '/' ∉ behind)

include literalBefore literalBehind freeBefore freeBehind

/-- A search by a pattern with one asterisk gives the names that begin and end as it does. -/
theorem glob_wildcard (directory : Path) :
    ∃ found, disk.glob directory (before ++ '*' :: behind) = .ok found ∧
      ∀ name, name ∈ disk.names directory → disk.isDirectory directory = true →
        (∃ middle, name = before ++ middle ++ behind) → directory.join (.relative [name]) ∈ found := by
  have components :=
    Pattern.componentsOf_wildcard literalBefore literalBehind freeBefore freeBehind
  refine ⟨if disk.isDirectory directory then
    disk.search directory [.matching (Pattern.elements (before ++ '*' :: behind))] else [], ?_, ?_⟩
  · unfold glob
    rw [components]
    rfl
  · intro name present isDirectory described
    rw [if_pos isDirectory, search]
    apply List.mem_flatMap.mpr
    refine ⟨name, List.mem_filter.mpr ⟨present, ?_⟩, ?_⟩
    · exact (Pattern.describes_wildcard_iff literalBefore literalBehind).mpr described
    · dsimp only
      rw [List.isEmpty_nil, Bool.true_or, if_pos rfl, search]
      exact List.mem_singleton_self _

end Wildcard

end ControllerClient.Disk
