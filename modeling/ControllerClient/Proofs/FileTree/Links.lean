import ControllerClient.Proofs.FileTree

/-!
Walks counted by the links they follow. The walk that a link stands for follows fewer links
than the walk on which the link is met, so none is met again while it is replaced: where a
path can be opened, its canonical address is the place that is opened.
-/

namespace ControllerClient.FileTree

variable {tree : FileTree} {reached rest : List Text} {place : Place} {links : Nat}

def origin (target : Path) (reached : Place) : Place := if target.rooted then [] else reached

/--
A walk to a place on which some number of links is followed, those counted that are met on
the way to the target of a link.
-/
inductive Leads (tree : FileTree) : Nat → Place → List Text → Place → Prop where
  | here (reached : Place) : Leads tree 0 reached [] reached
  | back {links : Nat} {reached place : Place} {rest : List Text}
      (behind : Leads tree links reached.dropLast rest place) :
      Leads tree links reached ("..".toList :: rest) place
  | on {links : Nat} {reached place : Place} {component : Text} {rest : List Text}
      (forward : component ≠ "..".toList)
      (plain : ∀ target, tree.node? (reached ++ [component]) ≠ some (.link target))
      (behind : Leads tree links (reached ++ [component]) rest place) :
      Leads tree links reached (component :: rest) place
  | through {inside links : Nat} {reached between place : Place} {component : Text}
      {target : Path} {rest : List Text} (forward : component ≠ "..".toList)
      (isLink : tree.node? (reached ++ [component]) = some (.link target))
      (replaced : Leads tree inside (origin target reached) target.parts between)
      (behind : Leads tree links between rest place) :
      Leads tree (inside + links + 1) reached (component :: rest) place

namespace Leads

/-- A walk along `front` and then along `later`, which together follow some number of links. -/
def Parted (tree : FileTree) (links : Nat) (reached : Place) (front later : List Text)
    (place : Place) : Prop :=
  ∃ first second between, tree.Leads first reached front between ∧
    tree.Leads second between later place ∧ first + second = links

theorem parted_nil (leads : tree.Leads links reached rest place) :
    Parted tree links reached [] rest place :=
  ⟨0, links, reached, here reached, leads, Nat.zero_add links⟩

/-- A walk can be parted behind any of its components. -/
theorem parted {front later : List Text} (leads : tree.Leads links reached (front ++ later) place) :
    Parted tree links reached front later place := by
  generalize whole : front ++ later = rest at leads
  induction leads generalizing front with
  | here reached =>
      obtain ⟨rfl, rfl⟩ := List.append_eq_nil_iff.mp whole
      exact parted_nil (here reached)
  | back behind ih =>
      cases front with
      | nil =>
          subst whole
          exact parted_nil (back behind)
      | cons component front =>
          obtain ⟨rfl, tail⟩ := List.cons.inj whole
          obtain ⟨first, second, between, before, after, sum⟩ := ih tail
          exact ⟨first, second, between, back before, after, sum⟩
  | on forward plain behind ih =>
      cases front with
      | nil =>
          subst whole
          exact parted_nil (on forward plain behind)
      | cons other front =>
          obtain ⟨rfl, tail⟩ := List.cons.inj whole
          obtain ⟨first, second, between, before, after, sum⟩ := ih tail
          exact ⟨first, second, between, on forward plain before, after, sum⟩
  | @through inside _ _ _ _ _ _ _ forward isLink replaced behind _ ih =>
      cases front with
      | nil =>
          subst whole
          exact parted_nil (through forward isLink replaced behind)
      | cons other front =>
          obtain ⟨rfl, tail⟩ := List.cons.inj whole
          obtain ⟨first, second, between, before, after, sum⟩ := ih tail
          refine ⟨inside + first + 1, second, between,
            through forward isLink replaced before, after, ?_⟩
          omega

theorem unique {others : Nat} {other : Place} (leads : tree.Leads links reached rest place)
    (otherwise : tree.Leads others reached rest other) : links = others ∧ place = other := by
  induction leads generalizing others other with
  | here reached =>
      cases otherwise
      exact ⟨rfl, rfl⟩
  | back behind ih =>
      cases otherwise with
      | back behind => exact ih behind
      | on forward => exact absurd rfl forward
      | through forward => exact absurd rfl forward
  | on forward plain behind ih =>
      cases otherwise with
      | back => exact absurd rfl forward
      | on _ _ behind => exact ih behind
      | through _ isLink => exact absurd isLink (plain _)
  | through forward isLink replaced behind inner ih =>
      cases otherwise with
      | back => exact absurd rfl forward
      | on _ plain => exact absurd isLink (plain _)
      | through _ isLink' replaced behind =>
          rw [isLink] at isLink'
          cases isLink'
          obtain ⟨rfl, rfl⟩ := inner replaced
          obtain ⟨rfl, rfl⟩ := ih behind
          exact ⟨rfl, rfl⟩

end Leads

/-- What is opened is at the end of a walk that follows no more links than may be followed. -/
theorem exists_leads_of_follow (leads : tree.follow links reached rest = .ok place) :
    ∃ followed, tree.Leads followed reached rest place ∧ followed ≤ links := by
  induction links, reached, rest using FileTree.follow.induct tree with
  | case1 links reached =>
      rw [follow] at leads
      cases leads
      exact ⟨0, .here place, Nat.zero_le links⟩
  | case2 links reached rest ih =>
      rw [follow, if_pos rfl] at leads
      obtain ⟨followed, behind, bounded⟩ := ih leads
      exact ⟨followed, .back behind, bounded⟩
  | case3 links reached component rest forward _ missing =>
      rw [follow_of_isNone forward missing] at leads
      cases leads
  | case4 links reached component rest forward _ isDirectory ih =>
      rw [follow_of_isDirectory forward isDirectory] at leads
      obtain ⟨followed, behind, bounded⟩ := ih leads
      refine ⟨followed, .on forward ?_ behind, bounded⟩
      intro target isLink
      rw [isDirectory] at isLink
      cases isLink
  | case5 links reached component rest forward _ content isFile last =>
      obtain rfl := List.isEmpty_iff.mp last
      rw [follow, if_neg forward] at leads
      dsimp only at leads
      rw [isFile] at leads
      cases leads
      refine ⟨0, .on forward ?_ (.here _), Nat.zero_le links⟩
      intro target isLink
      rw [isFile] at isLink
      cases isLink
  | case6 links reached component rest forward _ content isFile notLast =>
      have some_ : rest ≠ [] := fun none => notLast (List.isEmpty_iff.mpr none)
      rw [follow_of_isFile forward some_ isFile] at leads
      cases leads
  | case7 reached component rest forward _ target isLink =>
      rw [follow_zero_of_isLink forward isLink] at leads
      cases leads
  | case8 reached component rest forward _ target isLink links ih =>
      rw [follow_of_isLink forward isLink] at leads
      obtain ⟨followed, whole, bounded⟩ := ih leads
      obtain ⟨inside, left, between, replaced, behind, sum⟩ := whole.parted
      refine ⟨inside + left + 1, .through forward isLink replaced behind, ?_⟩
      omega

/-- How many links are followed on the way to where a link leads. -/
def Replaces (tree : FileTree) (links : Nat) (link : Place) : Prop :=
  ∃ reached component target between, link = reached ++ [component] ∧
    tree.node? link = some (.link target) ∧
    tree.Leads links (origin target reached) target.parts between

theorem Replaces.unique {others : Nat} {link : Place} (replaces : tree.Replaces links link)
    (otherwise : tree.Replaces others link) : links = others := by
  obtain ⟨reached, component, target, between, rfl, isLink, leads⟩ := replaces
  obtain ⟨reached', component', target', between', same, isLink', leads'⟩ := otherwise
  obtain ⟨rfl, _⟩ := List.append_inj' same rfl
  rw [isLink] at isLink'
  cases isLink'
  exact (leads.unique leads').1

/--
A walk replaces its links one inside another as long as what is being replaced follows at
least as many links as the walk still does.
-/
theorem Leads.canonical_eq (leads : tree.Leads links reached rest place) {fuel : Nat}
    (enough : links ≤ fuel) {active : List Place}
    (outer : ∀ link ∈ active, ∀ inside, tree.Replaces inside link → links ≤ inside) :
    tree.canonical fuel active reached rest = .ok place := by
  induction leads generalizing fuel active with
  | here reached => rw [canonical]
  | back behind ih =>
      rw [canonical, if_pos rfl]
      exact ih enough outer
  | on forward plain behind ih =>
      rw [canonical, if_neg forward]
      dsimp only
      split
      · next target isLink => exact absurd isLink (plain target)
      · exact ih enough outer
  | @through inside links reached between place component target rest forward isLink replaced
      behind inner ih =>
      have replaces : tree.Replaces inside (reached ++ [component]) :=
        ⟨reached, component, target, between, rfl, isLink, replaced⟩
      -- What is being replaced follows at least as many links as this walk, and the link here fewer.
      have new : active.contains (reached ++ [component]) = false := by
        rw [List.contains_eq_mem, decide_eq_false_iff_not]
        intro present
        have larger := outer _ present inside replaces
        omega
      obtain ⟨fuel, rfl⟩ : ∃ left, fuel = left + 1 := ⟨fuel - 1, by omega⟩
      have within : tree.canonical fuel ((reached ++ [component]) :: active)
          (origin target reached) target.parts = .ok between := by
        apply inner (by omega)
        intro link present others replaces'
        rcases List.mem_cons.mp present with rfl | before
        · exact le_of_eq (replaces.unique replaces')
        · have larger := outer link before others replaces'
          omega
      have after : tree.canonical (fuel + 1) active between rest = .ok place := by
        apply ih (by omega)
        intro link present others replaces'
        have larger := outer link present others replaces'
        omega
      unfold origin at within
      rw [canonical, if_neg forward]
      dsimp only
      rw [isLink]
      dsimp only
      rw [new, if_neg Bool.false_ne_true, within]
      exact after

theorem canonical_of_follow (leads : tree.follow links reached rest = .ok place) {fuel : Nat}
    (enough : links ≤ fuel) : tree.canonical fuel [] reached rest = .ok place := by
  obtain ⟨followed, walk, bounded⟩ := exists_leads_of_follow leads
  apply walk.canonical_eq (Nat.le_trans bounded enough)
  intro link present
  cases present

end ControllerClient.FileTree
