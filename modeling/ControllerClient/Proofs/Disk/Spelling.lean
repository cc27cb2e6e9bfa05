import ControllerClient.Proofs.Disk.Address
import ControllerClient.Proofs.Disk.Difference
import ControllerClient.Proofs.FileTree.Links

/-!
Spellings of a file: the texts with which it is opened, whatever links and steps back are on
the way. A file reads alike by all of them, and all have one canonical form.
-/

namespace ControllerClient

theorem Path.mem_ofText {text : Text} {c : Char} (present : c ∈ text) :
    c = '/' ∨ c = '.' ∨ ∃ part ∈ (ofText text).parts, c ∈ part := by
  rw [← Text.joined_pieces '/' text] at present
  rcases Text.mem_joined present with between | ⟨piece, inside, held⟩
  · exact Or.inl (List.mem_singleton.mp between)
  · by_cases component : isComponent piece = true
    · exact Or.inr (Or.inr ⟨piece, List.mem_filter.mpr ⟨inside, component⟩, held⟩)
    · unfold isComponent at component
      rw [Bool.and_eq_true, bne_iff_ne, bne_iff_ne, not_and_or, not_not, not_not] at component
      rcases component with rfl | rfl
      · cases held
      · exact Or.inr (Or.inl (List.mem_singleton.mp held))

namespace Disk

/-- A text with which the file at a place is opened. -/
structure Spells (disk : Disk) (text : Text) (place : Place) : Prop where
  named : nameFault? (Path.ofText text).text = none
  leads : disk.place (Path.ofText text) = .ok place

namespace Spells

variable {disk : Disk} {text : Text} {place : Place}

theorem not_mem_nul (spells : disk.Spells text place) : '\x00' ∉ text := by
  intro nul
  rcases Path.mem_ofText nul with same | same | ⟨part, inside, held⟩
  · cases same
  · cases same
  · have nameable := nameFault?_text_eq_none_iff.mp spells.named part inside
    exact (nameFault?_eq_none_iff.mp nameable '\x00' held).2 rfl

theorem read_eq (spells : disk.Spells text place) {content : List UInt8}
    (isFile : disk.tree.node? place = some (.file content)) :
    disk.read (Path.ofText text) = .ok content :=
  read_eq_ok_iff.mpr ⟨spells.named, place, spells.leads, isFile⟩

theorem readText_eq {other : Text} (spells : disk.Spells text place)
    (otherSpells : disk.Spells other place) {content : List UInt8}
    (isFile : disk.tree.node? place = some (.file content)) :
    disk.readText (Path.ofText text) = disk.readText (Path.ofText other) := by
  unfold readText
  rw [spells.read_eq isFile, otherSpells.read_eq isFile]

theorem resolve_eq (spells : disk.Spells text place)
    (placed : ∀ part ∈ disk.here, part ≠ "..".toList) (isOpen : disk.tree.IsOpen disk.here) :
    disk.resolve (Path.ofText text) = .ok (Path.absolute place) := by
  apply resolve_of_canonical spells.named placed isOpen
  exact FileTree.canonical_of_follow spells.leads (by decide)

end Spells

end Disk

end ControllerClient
