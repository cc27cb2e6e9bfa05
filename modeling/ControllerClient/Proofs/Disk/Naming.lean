import ControllerClient.Disk
import ControllerClient.Proofs.Failure
import ControllerClient.Proofs.Path

/-!
Texts that can be paths of files. A path has such a text exactly when each of
its components has one, and only such a path has a canonical form.
-/

namespace ControllerClient

namespace Path

theorem mem_text_of_mem {path : Path} {part : Text} (inside : part ∈ path.parts) {c : Char}
    (held : c ∈ part) : c ∈ path.text := by
  have inParts : c ∈ Text.joined ['/'] path.parts := Text.mem_joined_of_mem inside held
  unfold text
  split
  · split
    · next none =>
        rw [List.isEmpty_iff.mp none] at inside
        cases inside
    · exact inParts
  · exact List.mem_cons_of_mem '/' inParts
  · exact List.mem_cons_of_mem '/' (List.mem_cons_of_mem '/' inParts)

theorem mem_text {path : Path} {c : Char} (present : c ∈ path.text) :
    c = '/' ∨ c = '.' ∨ ∃ part ∈ path.parts, c ∈ part := by
  have joined (inParts : c ∈ Text.joined ['/'] path.parts) :
      c = '/' ∨ c = '.' ∨ ∃ part ∈ path.parts, c ∈ part := by
    rcases Text.mem_joined inParts with between | held
    · exact Or.inl (List.mem_singleton.mp between)
    · exact Or.inr (Or.inr held)
  unfold text at present
  split at present
  · split at present
    · exact Or.inr (Or.inl (List.mem_singleton.mp present))
    · exact joined present
  · rcases List.mem_cons.mp present with slash | inParts
    · exact Or.inl slash
    · exact joined inParts
  · rcases List.mem_cons.mp present with slash | present
    · exact Or.inl slash
    · rcases List.mem_cons.mp present with slash | inParts
      · exact Or.inl slash
      · exact joined inParts

end Path

namespace Disk

theorem nameFault?_eq_none_iff {text : Text} :
    nameFault? text = none ↔
      ∀ c ∈ text, (!Text.isSurrogate c || Text.isOctet c) = true ∧ c ≠ '\x00' := by
  unfold nameFault? Text.fileName Text.encodable
  cases left : text.dropWhile fun c => !Text.isSurrogate c || Text.isOctet c with
  | nil =>
      have writable := List.dropWhile_eq_nil_iff.mp left
      dsimp only
      by_cases nul : text.contains '\x00' = true
      · rw [if_pos nul]
        constructor
        · intro none
          cases none
        · intro each
          exact absurd rfl (each '\x00' (List.contains_iff_mem.mp nul)).2
      · rw [if_neg nul]
        refine ⟨fun _ c present => ⟨writable c present, ?_⟩, fun _ => rfl⟩
        rintro rfl
        exact nul (List.contains_iff_mem.mpr present)
  | cons c rest =>
      dsimp only
      constructor
      · intro none
        cases none
      · intro each
        have none := List.dropWhile_eq_nil_iff.mpr fun c present => (each c present).1
        rw [left] at none
        cases none

theorem nameFault?_text_eq_none_iff {path : Path} :
    nameFault? path.text = none ↔ ∀ part ∈ path.parts, nameFault? part = none := by
  constructor
  · intro named part inside
    apply nameFault?_eq_none_iff.mpr
    intro c held
    exact nameFault?_eq_none_iff.mp named c (Path.mem_text_of_mem inside held)
  · intro each
    apply nameFault?_eq_none_iff.mpr
    intro c present
    rcases Path.mem_text present with rfl | rfl | ⟨part, inside, held⟩
    · decide
    · decide
    · exact nameFault?_eq_none_iff.mp (each part inside) c held

variable {disk : Disk}

theorem nameFault?_of_checkParts {root : Root} {walked parts : List Text}
    (checked : disk.checkParts root walked parts = .ok ()) :
    ∀ part ∈ parts, nameFault? part = none := by
  induction parts generalizing walked with
  | nil =>
      intro part inside
      cases inside
  | cons first parts ih =>
      unfold checkParts checkName at checked
      cases named : nameFault? ((disk.directoryOf root walked).join (.relative [first])).text with
      | some failure =>
          rw [named] at checked
          cases checked
      | none =>
          rw [named] at checked
          intro part inside
          rcases List.mem_cons.mp inside with rfl | later
          · exact nameFault?_text_eq_none_iff.mp named part
              (List.mem_append_right _ List.mem_cons_self)
          · exact ih checked part later

/-- Only a path that can be one of a file has a canonical form. -/
theorem nameFault?_of_resolve {path resolved : Path} (resolves : disk.resolve path = .ok resolved) :
    nameFault? path.text = none := by
  cases faulty : nameFault? path.text with
  | none => rfl
  | some failure =>
      unfold resolve at resolves
      rw [faulty, Option.isSome_some, if_pos rfl] at resolves
      obtain ⟨_, checked, _⟩ := bind_eq_ok_iff.mp resolves
      have named := nameFault?_text_eq_none_iff.mpr (nameFault?_of_checkParts checked)
      rw [faulty] at named
      cases named

end Disk

end ControllerClient
