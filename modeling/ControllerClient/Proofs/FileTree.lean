import ControllerClient.FileTree
import ControllerClient.Proofs.Path.Normal

/-!
Walks in a tree of files. Where no link is on the way they lead where their
components lead. Where a walk goes on behind some components, these lead to a
directory.
-/

namespace ControllerClient.FileTree

variable {tree : FileTree} {reached rest : List Text}

theorem mem_nodes_of_node? {place : Place} {node : Node} (there : tree.node? place = some node)
    (some_ : place ≠ []) : (place, node) ∈ tree.nodes := by
  unfold node? at there
  rw [if_neg (fun none => some_ (List.isEmpty_iff.mp none))] at there
  obtain ⟨earlier, later, split, _⟩ := List.lookup_eq_some_iff.mp there
  rw [split]
  exact List.mem_append_right earlier List.mem_cons_self

theorem mem_names_of_node? {place : Place} {name : Text} {node : Node}
    (there : tree.node? (place ++ [name]) = some node) : name ∈ tree.names place := by
  have entry := mem_nodes_of_node? there
    (List.append_ne_nil_of_right_ne_nil _ (List.cons_ne_nil _ _))
  have below : (place ++ [name]).length = place.length + 1 ∧
      isAtOrBelow (place ++ [name]) place = true :=
    ⟨List.length_append, List.isPrefixOf_iff_prefix.mpr (List.prefix_append place [name])⟩
  apply List.mem_filterMap.mpr
  refine ⟨(place ++ [name], node), entry, ?_⟩
  dsimp only
  rw [if_pos below, List.getLast?_concat]

/-- Without a link on the way the canonical place is where the components lead. -/
theorem canonical_of_direct (fuel : Nat) (active : List Place)
    (direct : ∀ passed target,
      tree.node? (Path.walked reached (rest.take passed)) ≠ some (.link target)) :
    tree.canonical fuel active reached rest = .ok (Path.walked reached rest) := by
  induction rest generalizing reached with
  | nil => rw [canonical, Path.walked_nil]
  | cons part rest ih =>
      rw [canonical, Path.walked_cons]
      by_cases up : part = "..".toList
      · rw [if_pos up, if_pos up]
        apply ih
        intro passed target
        have later := direct (passed + 1) target
        rw [List.take_succ_cons, Path.walked_cons, if_pos up] at later
        exact later
      · rw [if_neg up, if_neg up]
        have behind : ∀ passed target,
            tree.node? (Path.walked (reached ++ [part]) (rest.take passed)) ≠
              some (.link target) := by
          intro passed target
          have later := direct (passed + 1) target
          rw [List.take_succ_cons, Path.walked_cons, if_neg up] at later
          exact later
        have here := behind 0
        rw [List.take_zero, Path.walked_nil] at here
        dsimp only
        split
        · next target isLink => exact absurd isLink (here target)
        · exact ih behind

theorem follow_ne_linkLoop (links : Nat) (forward : ∀ part ∈ rest, part ≠ "..".toList)
    (direct : ∀ passed target, tree.node? (reached ++ rest.take passed) ≠ some (.link target)) :
    tree.follow links reached rest ≠ .error .linkLoop := by
  induction rest generalizing reached with
  | nil =>
      rw [follow]
      intro same
      cases same
  | cons part rest ih =>
      have behind : ∀ passed target,
          tree.node? (reached ++ [part] ++ rest.take passed) ≠ some (.link target) := by
        intro passed target
        have later := direct (passed + 1) target
        rw [List.take_succ_cons] at later
        rw [List.append_assoc]
        exact later
      have here := behind 0
      rw [List.take_zero, List.append_nil] at here
      rw [follow, if_neg (forward part List.mem_cons_self)]
      dsimp only
      split
      · intro same
        cases same
      · exact ih (fun other present => forward other (List.mem_cons_of_mem part present)) behind
      · split
        · intro same
          cases same
        · intro same
          cases same
      · next target isLink => exact absurd isLink (here target)

/--
What holds of the root and is kept by every step that meets no link holds wherever a way
comes to its end.
-/
theorem canonical_keeps {P : Place → Prop} (root : P [])
    (up : ∀ reached, P reached → P reached.dropLast)
    (on : ∀ reached component, P reached → component ≠ "..".toList →
      (∀ target, tree.node? (reached ++ [component]) ≠ some (.link target)) →
        P (reached ++ [component]))
    {fuel : Nat} {active : List Place} {place : Place} (begins : P reached)
    (ends : tree.canonical fuel active reached rest = .ok place) : P place := by
  fun_induction FileTree.canonical tree fuel active reached rest generalizing place with
  | case1 fuel active reached =>
      cases ends
      exact begins
  | case2 fuel active reached rest ih => exact ih (up reached begins) ends
  | case3 => cases ends
  | case4 => cases ends
  | case5 => cases ends
  | case6 active reached component rest forward _ target isLink fuel new resolved inner ih =>
      next after =>
        refine after (ih ?_ inner) ends
        split
        · exact root
        · exact begins
  | case7 fuel active reached component rest forward _ plain =>
      next ih => exact ih (on reached component begins forward plain) ends

theorem exists_normalParts_of_canonical {fuel : Nat} {active : List Place} {loop : Place}
    (ends : tree.canonical fuel active reached rest = .error loop) :
    ∃ parts, loop = Path.normalParts parts := by
  fun_induction FileTree.canonical tree fuel active reached rest generalizing loop with
  | case1 => cases ends
  | case2 fuel active reached rest ih => exact ih ends
  | case3 | case4 | case5 =>
      cases ends
      exact ⟨_, rfl⟩
  | case6 active reached component rest forward _ target isLink fuel new resolved inner ih =>
      next after => exact after ends
  | case7 fuel active reached component rest forward _ plain =>
      next ih => exact ih ends

/-- No link is on the way that the target of a link leads. -/
def IsShallow (tree : FileTree) : Prop :=
  ∀ directory name target, tree.node? (directory ++ [name]) = some (.link target) →
    ∀ passed other, tree.node? (Path.walked (if target.rooted then [] else directory)
      (target.parts.take passed)) ≠ some (.link other)

/-- Links that are not met while another is replaced are in no loop. -/
theorem IsShallow.exists_canonical (shallow : tree.IsShallow) (fuel : Nat)
    (reached rest : List Text) : ∃ place, tree.canonical (fuel + 1) [] reached rest = .ok place := by
  induction rest generalizing reached with
  | nil => exact ⟨reached, by rw [canonical]⟩
  | cons component rest ih =>
      rw [canonical]
      by_cases up : component = "..".toList
      · rw [if_pos up]
        exact ih reached.dropLast
      · rw [if_neg up]
        dsimp only
        split
        · next target isLink =>
            rw [canonical_of_direct fuel _ (shallow _ _ _ isLink)]
            exact ih _
        · exact ih _

def IsLinkFree (tree : FileTree) (place : Place) : Prop :=
  ∀ height target, tree.node? (place.take height) ≠ some (.link target)

theorem isLinkFree_nil (tree : FileTree) : tree.IsLinkFree [] := by
  intro height target
  rw [List.take_nil]
  intro isLink
  cases isLink

/-- A way that comes to its end leads to a place without links. -/
theorem isLinkFree_of_canonical {fuel : Nat} {active : List Place} {place : Place}
    (begins : tree.IsLinkFree reached)
    (ends : tree.canonical fuel active reached rest = .ok place) : tree.IsLinkFree place := by
  refine canonical_keeps (isLinkFree_nil tree) ?_ ?_ begins ends
  · intro reached free height target
    rw [List.dropLast_eq_take, List.take_take]
    exact free _ target
  · intro reached component free _ plain height target
    by_cases within : height ≤ reached.length
    · rw [List.take_append_of_le_length within]
      exact free height target
    · have whole : (reached ++ [component]).length ≤ height := by
        rw [List.length_append, List.length_singleton]
        omega
      rw [List.take_of_length_le whole]
      exact plain target

def IsOpen (tree : FileTree) (place : Place) : Prop :=
  ∀ height, tree.node? (place.take height) = some .directory

theorem isOpen_nil (tree : FileTree) : tree.IsOpen [] := by
  intro height
  rw [List.take_nil]
  rfl

namespace IsOpen

variable {place : Place}

theorem isDirectory (isOpen : tree.IsOpen place) : tree.node? place = some .directory := by
  have whole := isOpen place.length
  rw [List.take_length] at whole
  exact whole

theorem isLinkFree (isOpen : tree.IsOpen place) : tree.IsLinkFree place := by
  intro height target isLink
  rw [isOpen height] at isLink
  cases isLink

theorem dropLast (isOpen : tree.IsOpen place) : tree.IsOpen place.dropLast := by
  intro height
  rw [List.dropLast_eq_take, List.take_take]
  exact isOpen _

theorem concat (isOpen : tree.IsOpen place) {part : Text}
    (there : tree.node? (place ++ [part]) = some .directory) : tree.IsOpen (place ++ [part]) := by
  intro height
  by_cases within : height ≤ place.length
  · rw [List.take_append_of_le_length within]
    exact isOpen height
  · have whole : (place ++ [part]).length ≤ height := by
      rw [List.length_append, List.length_singleton]
      omega
    rw [List.take_of_length_le whole]
    exact there

end IsOpen

section Steps

variable {links : Nat} {component : Text} (forward : component ≠ "..".toList)

include forward

theorem follow_of_isNone (missing : tree.node? (reached ++ [component]) = none) :
    tree.follow links reached (component :: rest) = .error .missing := by
  rw [follow, if_neg forward]
  dsimp only
  rw [missing]

theorem follow_of_isDirectory (there : tree.node? (reached ++ [component]) = some .directory) :
    tree.follow links reached (component :: rest) =
      tree.follow links (reached ++ [component]) rest := by
  rw [follow, if_neg forward]
  dsimp only
  rw [there]

theorem follow_of_isFile {content : List UInt8} (some_ : rest ≠ [])
    (there : tree.node? (reached ++ [component]) = some (.file content)) :
    tree.follow links reached (component :: rest) = .error .notDirectory := by
  rw [follow, if_neg forward]
  dsimp only
  rw [there]
  exact if_neg fun none => some_ (List.isEmpty_iff.mp none)

theorem follow_of_isLink {target : Path}
    (there : tree.node? (reached ++ [component]) = some (.link target)) :
    tree.follow (links + 1) reached (component :: rest) =
      tree.follow links (if target.rooted then [] else reached) (target.parts ++ rest) := by
  rw [follow, if_neg forward]
  dsimp only
  rw [there]

theorem follow_zero_of_isLink {target : Path}
    (there : tree.node? (reached ++ [component]) = some (.link target)) :
    tree.follow 0 reached (component :: rest) = .error .linkLoop := by
  rw [follow, if_neg forward]
  dsimp only
  rw [there]

end Steps

/--
A walk that goes on behind some components passes a directory there, and has links left for
the rest of its way.
-/
theorem follow_append {links : Nat} {front later : List Text} {place : Place}
    (isOpen : tree.IsOpen reached) (some_ : later ≠ [])
    (leads : tree.follow links reached (front ++ later) = .ok place) :
    ∃ left between, tree.follow links reached front = .ok between ∧ tree.IsOpen between ∧
      tree.follow left between later = .ok place := by
  have more (front : List Text) : front ++ later ≠ [] :=
    List.append_ne_nil_of_right_ne_nil front some_
  induction links, reached, front using FileTree.follow.induct tree with
  | case1 links reached =>
      refine ⟨links, reached, ?_, isOpen, leads⟩
      rw [follow]
  | case2 links reached front ih =>
      rw [List.cons_append, follow, if_pos rfl] at leads
      rw [follow, if_pos rfl]
      exact ih isOpen.dropLast leads
  | case3 links reached component front forward _ missing =>
      rw [List.cons_append, follow_of_isNone forward missing] at leads
      cases leads
  | case4 links reached component front forward _ isDirectory ih =>
      rw [List.cons_append, follow_of_isDirectory forward isDirectory] at leads
      rw [follow_of_isDirectory forward isDirectory]
      exact ih (isOpen.concat isDirectory) leads
  | case5 links reached component front forward _ content isFile last =>
      rw [List.cons_append, follow_of_isFile forward (more front) isFile] at leads
      cases leads
  | case6 links reached component front forward _ content isFile notLast =>
      rw [List.cons_append, follow_of_isFile forward (more front) isFile] at leads
      cases leads
  | case7 reached component front forward _ target isLink =>
      rw [List.cons_append, follow_zero_of_isLink forward isLink] at leads
      cases leads
  | case8 reached component front forward _ target isLink links ih =>
      -- The target of a link is walked in front of the components that are left.
      rw [List.cons_append, follow_of_isLink forward isLink, ← List.append_assoc] at leads
      rw [follow_of_isLink forward isLink]
      apply ih _ leads
      split
      · exact isOpen_nil tree
      · exact isOpen

end ControllerClient.FileTree
