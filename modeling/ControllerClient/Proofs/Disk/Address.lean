import ControllerClient.Proofs.Disk.Naming
import ControllerClient.Proofs.FileTree

/-!
Canonical addresses where no link is on the way. Such a path stands for the
place that its components lead to by themselves, whatever else is on the disk.
-/

namespace ControllerClient.Disk

def lexicalPlace (disk : Disk) (path : Path) : Place :=
  Path.walked (disk.start path) path.parts

/-- No place at or above those that a path leads through is a link. -/
def IsDirect (disk : Disk) (path : Path) : Prop :=
  ∀ passed height target,
    disk.tree.node? ((Path.walked (disk.start path) (path.parts.take passed)).take height) ≠
      some (.link target)

variable {disk : Disk} {path : Path}

theorem canonicalPlace_of_direct (direct : disk.IsDirect path) :
    disk.canonicalPlace path = disk.lexicalPlace path := by
  have through : ∀ passed target,
      disk.tree.node? (Path.walked (disk.start path) (path.parts.take passed)) ≠
        some (.link target) := by
    intro passed target
    have whole := direct passed
      (Path.walked (disk.start path) (path.parts.take passed)).length target
    rw [List.take_length] at whole
    exact whole
  unfold canonicalPlace
  rw [FileTree.canonical_of_direct replacementLimit [] through]
  rfl

theorem forward_lexicalPlace (path : Path) (placed : ∀ part ∈ disk.here, part ≠ "..".toList) :
    ∀ part ∈ disk.lexicalPlace path, part ≠ "..".toList := by
  apply Path.forall_mem_walked
  · intro part present
    unfold start at present
    split at present
    · cases present
    · exact placed part present
  · intro part _ differs
    exact differs

/-- A canonical place is reached by no step back, whatever links are on the way. -/
theorem forward_canonicalPlace (path : Path) (placed : ∀ part ∈ disk.here, part ≠ "..".toList) :
    ∀ part ∈ disk.canonicalPlace path, part ≠ "..".toList := by
  have begins : ∀ part ∈ disk.start path, part ≠ "..".toList := by
    unfold start
    split
    · exact List.forall_mem_nil _
    · exact placed
  unfold canonicalPlace
  split
  · next place ends =>
      refine FileTree.canonical_keeps (P := fun reached => ∀ part ∈ reached, part ≠ "..".toList)
        (List.forall_mem_nil _) ?_ ?_ begins ends
      · intro reached forward part present
        exact forward part ((List.dropLast_sublist reached).mem present)
      · intro reached component forward isForward _
        exact List.forall_mem_append.mpr ⟨forward, List.forall_mem_singleton.mpr isForward⟩
  · next loop ends =>
      obtain ⟨parts, rfl⟩ := FileTree.exists_normalParts_of_canonical ends
      exact Path.forall_mem_normalParts fun _ _ differs => differs

theorem ordinary_lexicalPlace (text : Text) (placed : ∀ part ∈ disk.here, Path.IsOrdinary part) :
    ∀ part ∈ disk.lexicalPlace (Path.ofText text), Path.IsOrdinary part := by
  apply Path.forall_mem_walked
  · intro part present
    unfold start at present
    split at present
    · cases present
    · exact placed part present
  · intro part present differs
    exact Path.isOrdinary_of_mem_ofText present differs

theorem eq_absolute_of_resolve {resolved : Path} (resolves : disk.resolve path = .ok resolved) :
    resolved = Path.absolute (disk.canonicalPlace path) := by
  have named := nameFault?_of_resolve resolves
  unfold resolve at resolves
  rw [named, Option.isSome_none, if_neg Bool.false_ne_true] at resolves
  dsimp only at resolves
  split at resolves
  · cases resolves
  · cases resolves
    rfl

theorem root_of_resolve {resolved : Path} (resolves : disk.resolve path = .ok resolved) :
    resolved.root = .top := by
  rw [eq_absolute_of_resolve resolves]
  rfl

theorem exists_failure_of_resolve (faulty : nameFault? path.text ≠ none) :
    ∃ failure, disk.checkParts path.root [] path.parts = .error failure ∧
      disk.resolve path = .error failure := by
  have unnamed : (nameFault? path.text).isSome = true := Option.isSome_iff_ne_none.mpr faulty
  cases checked : disk.checkParts path.root [] path.parts with
  | ok nothing =>
      exact absurd (nameFault?_text_eq_none_iff.mpr (nameFault?_of_checkParts checked)) faulty
  | error failure =>
      refine ⟨failure, rfl, ?_⟩
      unfold resolve
      rw [if_pos unnamed, checked]
      rfl

section Named

variable (named : nameFault? path.text = none)

include named

theorem resolve_of_linkLoop (loop : disk.tree.follow FileTree.linkLimit []
      (disk.canonicalPlace path) = .error .linkLoop) :
    disk.resolve path =
      .error (.circularLink (Path.absolute (disk.canonicalPlace path)).text) := by
  unfold resolve
  rw [named, Option.isSome_none, if_neg Bool.false_ne_true]
  dsimp only
  rw [loop]

theorem resolve_of_ne_linkLoop (noLoop : disk.tree.follow FileTree.linkLimit []
      (disk.canonicalPlace path) ≠ .error .linkLoop) :
    disk.resolve path = .ok (Path.absolute (disk.canonicalPlace path)) := by
  unfold resolve
  rw [named, Option.isSome_none, if_neg Bool.false_ne_true]
  dsimp only
  split
  · next loop => exact absurd loop noLoop
  · rfl

theorem resolve_of_canonical (placed : ∀ part ∈ disk.here, part ≠ "..".toList)
    (isOpen : disk.tree.IsOpen disk.here) {place : Place}
    (ends : disk.tree.canonical replacementLimit [] (disk.start path) path.parts = .ok place) :
    disk.resolve path = .ok (Path.absolute place) := by
  have canonical : disk.canonicalPlace path = place := by
    unfold canonicalPlace
    rw [ends]
  have begins : disk.tree.IsLinkFree (disk.start path) := by
    unfold start
    split
    · exact FileTree.isLinkFree_nil disk.tree
    · exact isOpen.isLinkFree
  rw [← canonical]
  apply resolve_of_ne_linkLoop named
  apply FileTree.follow_ne_linkLoop _ (forward_canonicalPlace path placed)
  rw [canonical]
  exact FileTree.isLinkFree_of_canonical begins ends

end Named

/-- A path without links on its way stands for the place that its components lead to. -/
theorem resolve_of_direct (placed : ∀ part ∈ disk.here, part ≠ "..".toList)
    (named : nameFault? path.text = none) (direct : disk.IsDirect path) :
    disk.resolve path = .ok (Path.absolute (disk.lexicalPlace path)) := by
  rw [← canonicalPlace_of_direct direct]
  apply resolve_of_ne_linkLoop named
  rw [canonicalPlace_of_direct direct]
  apply FileTree.follow_ne_linkLoop _ (forward_lexicalPlace path placed)
  intro passed target
  have above := direct path.parts.length passed target
  rw [List.take_length] at above
  exact above

theorem isDirect_of_forall_mem (path : Path)
    (linkFree : ∀ entry ∈ disk.tree.nodes, ∀ target, entry.2 ≠ .link target) :
    disk.IsDirect path := by
  intro passed height target isLink
  by_cases root : (Path.walked (disk.start path) (path.parts.take passed)).take height = []
  · rw [root] at isLink
    cases isLink
  · exact linkFree _ (FileTree.mem_nodes_of_node? isLink root) target rfl

end ControllerClient.Disk
