import ControllerClient.Proofs.Disk.Address

/-!
Disks that differ in some files only. Paths have the same canonical form on both,
and whatever does not lead to one of these files is read alike.
-/

namespace ControllerClient

namespace FileTree

def SameLinks (tree other : FileTree) : Prop :=
  ∀ place target, tree.node? place = some (.link target) ↔ other.node? place = some (.link target)

/-- The canonical place of a path depends on the links of a tree only. -/
theorem canonical_of_sameLinks {tree other : FileTree} (same : SameLinks tree other) (fuel : Nat)
    (active : List Place) (reached rest : List Text) :
    tree.canonical fuel active reached rest = other.canonical fuel active reached rest := by
  fun_induction FileTree.canonical tree fuel active reached rest with
  | case1 => rw [canonical]
  | case2 fuel active reached rest ih => rw [canonical, if_pos rfl, ih]
  | case3 active reached component rest forward _ target =>
      next isLink =>
        rw [canonical, if_neg forward]
        dsimp only
        rw [(same _ target).mp isLink]
  | case4 active reached component rest forward _ target isLink fuel =>
      next again =>
        rw [canonical, if_neg forward]
        dsimp only
        rw [(same _ target).mp isLink]
        dsimp only
        rw [if_pos again]
  | case5 active reached component rest forward _ target isLink fuel new loop inner =>
      next ih =>
        rw [canonical, if_neg forward]
        dsimp only
        rw [(same _ target).mp isLink]
        dsimp only
        rw [if_neg new, ← dite_eq_ite, ← ih, inner]
  | case6 active reached component rest forward _ target isLink fuel new resolved inner ih =>
      next after =>
        rw [canonical, if_neg forward]
        dsimp only
        rw [(same _ target).mp isLink]
        dsimp only
        rw [if_neg new, ← dite_eq_ite, ← ih, inner, after]
  | case7 fuel active reached component rest forward _ plain =>
      next ih =>
        rw [canonical, if_neg forward]
        dsimp only
        split
        · next target isLink => exact absurd ((same _ target).mpr isLink) (plain target)
        · exact ih

def IsFileOrNothing (node : Option Node) : Prop :=
  node = none ∨ ∃ content, node = some (.file content)

/-- Two trees that differ at some places only, at which either has a file or nothing. -/
structure DifferAt (changed : Place → Prop) (tree other : FileTree) : Prop where
  same : ∀ place, ¬ changed place → tree.node? place = other.node? place
  plain : ∀ place, changed place → IsFileOrNothing (tree.node? place)
  otherPlain : ∀ place, changed place → IsFileOrNothing (other.node? place)

def EndsAt (place : Place) (result : Except FileProblem Place) : Prop :=
  result = .ok place ∨ result = .error .missing ∨ result = .error .notDirectory

theorem EndsAt.ne_linkLoop {place : Place} {result : Except FileProblem Place}
    (ends : EndsAt place result) : result ≠ .error .linkLoop := by
  rintro rfl
  rcases ends with here | missing | inFile
  · cases here
  · cases missing
  · cases inFile

/-- A walk goes on alike on both trees, or comes to one of the places on both. -/
def Alike (changed : Place → Prop) (tree other : FileTree) (links : Nat) (reached rest : List Text) :
    Prop :=
  tree.follow links reached rest = other.follow links reached rest ∨
    ∃ place, changed place ∧ EndsAt place (tree.follow links reached rest) ∧
      EndsAt place (other.follow links reached rest)

section Follow

variable {tree other : FileTree} {changed : Place → Prop} {links : Nat} {reached rest : List Text}
  {component : Text}

theorem endsAt_follow (forward : component ≠ "..".toList)
    (plain : IsFileOrNothing (tree.node? (reached ++ [component]))) :
    EndsAt (reached ++ [component]) (tree.follow links reached (component :: rest)) := by
  rcases plain with missing | ⟨content, isFile⟩
  · exact Or.inr (Or.inl (follow_of_isNone forward missing))
  · by_cases last : rest = []
    · left
      rw [follow, if_neg forward]
      dsimp only
      rw [isFile, last]
      rfl
    · exact Or.inr (Or.inr (follow_of_isFile forward last isFile))

namespace DifferAt

theorem symm (differ : DifferAt changed tree other) : DifferAt changed other tree :=
  ⟨fun place kept => (differ.same place kept).symm, differ.otherPlain, differ.plain⟩

theorem sameLinks (differ : DifferAt changed tree other) : SameLinks tree other := by
  intro place target
  by_cases here : changed place
  · have never (node : Option Node) (plain : IsFileOrNothing node) : node ≠ some (.link target) := by
      rintro rfl
      rcases plain with none | ⟨content, isFile⟩
      · cases none
      · cases isFile
    exact iff_of_false (never _ (differ.plain place here)) (never _ (differ.otherPlain place here))
  · rw [differ.same place here]

theorem alike_cons (differ : DifferAt changed tree other) (forward : component ≠ "..".toList)
    (kept : tree.node? (reached ++ [component]) = other.node? (reached ++ [component]) →
      Alike changed tree other links reached (component :: rest)) :
    Alike changed tree other links reached (component :: rest) := by
  by_cases here : changed (reached ++ [component])
  · exact Or.inr ⟨_, here, endsAt_follow forward (differ.plain _ here),
      endsAt_follow forward (differ.otherPlain _ here)⟩
  · exact kept (differ.same _ here)

theorem alike (differ : DifferAt changed tree other) (links : Nat) (reached rest : List Text) :
    Alike changed tree other links reached rest := by
  induction links, reached, rest using FileTree.follow.induct tree with
  | case1 links reached =>
      left
      rw [follow, follow]
  | case2 links reached rest ih =>
      unfold Alike
      rw [follow, if_pos rfl, follow, if_pos rfl]
      exact ih
  | case3 links reached component rest forward _ missing =>
      refine differ.alike_cons forward fun kept => Or.inl ?_
      rw [follow_of_isNone forward missing, follow_of_isNone forward (kept ▸ missing)]
  | case4 links reached component rest forward _ isDirectory ih =>
      refine differ.alike_cons forward fun kept => ?_
      unfold Alike
      rw [follow_of_isDirectory forward isDirectory,
        follow_of_isDirectory forward (kept ▸ isDirectory)]
      exact ih
  | case5 links reached component rest forward _ content isFile last =>
      refine differ.alike_cons forward fun kept => Or.inl ?_
      rw [follow, if_neg forward, follow, if_neg forward]
      dsimp only
      rw [← kept, isFile]
  | case6 links reached component rest forward _ content isFile notLast =>
      refine differ.alike_cons forward fun kept => Or.inl ?_
      rw [follow, if_neg forward, follow, if_neg forward]
      dsimp only
      rw [← kept, isFile]
  | case7 reached component rest forward _ target isLink =>
      refine differ.alike_cons forward fun kept => Or.inl ?_
      rw [follow_zero_of_isLink forward isLink, follow_zero_of_isLink forward (kept ▸ isLink)]
  | case8 reached component rest forward _ target isLink links ih =>
      refine differ.alike_cons forward fun kept => ?_
      unfold Alike
      rw [follow_of_isLink forward isLink, follow_of_isLink forward (kept ▸ isLink)]
      exact ih

end DifferAt

end Follow

end FileTree

namespace Disk

/-- Disks that differ in files at some places only. -/
structure DifferAt (changed : Place → Prop) (disk other : Disk) : Prop where
  here : disk.here = other.here
  trees : FileTree.DifferAt changed disk.tree other.tree

/-- A path leads to none of some places, on neither of two disks. -/
def Spares (changed : Place → Prop) (disk other : Disk) (path : Path) : Prop :=
  ∀ place, changed place → disk.place path ≠ .ok place ∧ other.place path ≠ .ok place

theorem Spares.symm {changed : Place → Prop} {disk other : Disk} {path : Path}
    (spares : Spares changed disk other path) : Spares changed other disk path :=
  fun place here => (spares place here).symm

section Reading

variable {disk : Disk} {path : Path} {content : List UInt8}

theorem read_eq_ok_iff :
    disk.read path = .ok content ↔
      nameFault? path.text = none ∧
        ∃ place, disk.place path = .ok place ∧ disk.tree.node? place = some (.file content) := by
  unfold read
  rw [bind_eq_ok_iff]
  constructor
  · rintro ⟨_, checked, reads⟩
    have named : nameFault? path.text = none := by
      unfold checkName at checked
      split at checked
      · cases checked
      · next named => exact named
    split at reads
    · cases reads
    · next place leads =>
        split at reads
        · next held there =>
            cases reads
            exact ⟨named, place, leads, there⟩
        · cases reads
        · cases reads
  · rintro ⟨named, place, leads, there⟩
    refine ⟨(), ?_, ?_⟩
    · unfold checkName
      rw [named]
    · rw [leads]
      dsimp only
      rw [there]

theorem isFile_iff : disk.isFile path = true ↔ ∃ content, disk.read path = .ok content := by
  simp only [read_eq_ok_iff]
  unfold isFile node?
  constructor
  · intro isFile
    split at isFile
    · next content there =>
        split at there
        · next place named leads => exact ⟨content, named, place, leads, there⟩
        · cases there
    · cases isFile
  · rintro ⟨content, named, place, leads, there⟩
    rw [named, leads]
    dsimp only
    rw [there]

end Reading

namespace DifferAt

variable {changed : Place → Prop} {disk other : Disk} (differ : DifferAt changed disk other)

include differ

theorem symm : DifferAt changed other disk := ⟨differ.here.symm, differ.trees.symm⟩

theorem start_eq (path : Path) : disk.start path = other.start path := by
  unfold start
  rw [differ.here]

theorem canonicalPlace_eq (path : Path) : disk.canonicalPlace path = other.canonicalPlace path := by
  unfold canonicalPlace
  rw [FileTree.canonical_of_sameLinks differ.trees.sameLinks, differ.start_eq]

theorem checkParts_eq (root : Root) (walked parts : List Text) :
    disk.checkParts root walked parts = other.checkParts root walked parts := by
  induction parts generalizing walked with
  | nil => rfl
  | cons part later ih =>
      have behind : disk.directoryOf root walked = other.directoryOf root walked := by
        unfold directoryOf
        dsimp only
        rw [differ.canonicalPlace_eq]
      rw [checkParts, checkParts, behind, ih]

theorem resolve_eq (path : Path) : disk.resolve path = other.resolve path := by
  by_cases named : nameFault? path.text = none
  · have loops : disk.tree.follow FileTree.linkLimit [] (disk.canonicalPlace path) =
          .error .linkLoop ↔
        other.tree.follow FileTree.linkLimit [] (other.canonicalPlace path) = .error .linkLoop := by
      rw [differ.canonicalPlace_eq]
      rcases differ.trees.alike FileTree.linkLimit [] (other.canonicalPlace path) with
        same | ⟨place, _, ends, otherEnds⟩
      · rw [same]
      · exact iff_of_false ends.ne_linkLoop otherEnds.ne_linkLoop
    by_cases loop : disk.tree.follow FileTree.linkLimit [] (disk.canonicalPlace path) =
        .error .linkLoop
    · rw [resolve_of_linkLoop named loop, resolve_of_linkLoop named (loops.mp loop),
        differ.canonicalPlace_eq]
    · rw [resolve_of_ne_linkLoop named loop, resolve_of_ne_linkLoop named (mt loops.mpr loop),
        differ.canonicalPlace_eq]
  · obtain ⟨failure, checked, fails⟩ := @exists_failure_of_resolve disk path named
    obtain ⟨otherFailure, otherChecked, otherFails⟩ := @exists_failure_of_resolve other path named
    rw [differ.checkParts_eq, otherChecked] at checked
    rw [fails, otherFails, Except.error.inj checked]

section Spared

variable {path : Path} (spares : Spares changed disk other path)

include spares

theorem read_of_ok {content : List UInt8} (reads : disk.read path = .ok content) :
    other.read path = .ok content := by
  obtain ⟨named, place, leads, there⟩ := read_eq_ok_iff.mp reads
  have kept : ¬ changed place := fun here => (spares place here).1 leads
  refine read_eq_ok_iff.mpr ⟨named, place, ?_, ?_⟩
  · rcases differ.trees.alike FileTree.linkLimit (disk.start path) path.parts with
      same | ⟨stop, here, ends, _⟩
    · unfold Disk.place at leads ⊢
      rw [← differ.start_eq, ← same]
      exact leads
    · exfalso
      change FileTree.EndsAt stop (disk.place path) at ends
      rw [leads] at ends
      rcases ends with last | missing | inFile
      · cases last
        exact kept here
      · cases missing
      · cases inFile
  · rw [← differ.trees.same place kept]
    exact there

theorem isFile_eq : disk.isFile path = other.isFile path := by
  rw [Bool.eq_iff_iff, isFile_iff, isFile_iff]
  constructor
  · rintro ⟨content, reads⟩
    exact ⟨content, differ.read_of_ok spares reads⟩
  · rintro ⟨content, reads⟩
    exact ⟨content, differ.symm.read_of_ok spares.symm reads⟩

end Spared

end DifferAt

end Disk

end ControllerClient
