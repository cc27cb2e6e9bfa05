import ControllerClient.Finder
import ControllerClient.Proofs.Failure
import ControllerClient.Proofs.Path
import ControllerClient.Proofs.Value.Fields

/-!
What a finder resolves names to. A name stands for the file in the deepest
directory among its candidates, and every controller file below the search root
has a name that stands for it, unless a deeper file has the same name.
-/

namespace ControllerClient.Finder

/-! ### Names that a finder owns -/

section Ownership

variable {finder : Finder} {name aliasName : Text}

def IsBelow (aliasName name : Text) : Prop := name = aliasName ∨ aliasName ++ ['.'] <+: name

instance (aliasName name : Text) : Decidable (IsBelow aliasName name) :=
  inferInstanceAs (Decidable (_ ∨ _))

theorem ownedPrefix_of_aliasName (aliased : finder.aliasName = .str aliasName) :
    finder.ownedPrefix = .ok (aliasName ++ ['.']) := by
  unfold ownedPrefix
  rw [aliased]
  rfl

theorem owns_of_aliasName (aliased : finder.aliasName = .str aliasName) (name : Text) :
    finder.owns name = .ok (decide (IsBelow aliasName name)) := by
  have isAlias : finder.isAlias name = true ↔ name = aliasName := by
    unfold isAlias
    rw [aliased, Value.sameKey_str_iff, Value.str.injEq, eq_comm]
  unfold owns IsBelow
  by_cases same : name = aliasName
  · rw [if_pos (isAlias.mpr same)]
    simp [same]
  · rw [if_neg (mt isAlias.mp same), ownedPrefix_of_aliasName aliased]
    change Except.ok (Text.after? (aliasName ++ ['.']) name).isSome = _
    congr 1
    rw [Bool.eq_iff_iff, Text.isSome_after?_iff]
    simp [same]

theorem aliasName_of_ownedPrefix {text : Text} (ownPrefix : finder.ownedPrefix = .ok text) :
    ∃ aliasName, finder.aliasName = .str aliasName := by
  obtain ⟨sum, concat, _⟩ := bind_eq_ok_iff.mp ownPrefix
  cases same : finder.aliasName with
  | str aliasName => exact ⟨aliasName, rfl⟩
  | _ =>
      rw [same] at concat
      simp [Value.concat, Value.whole?, Value.integerKey?] at concat

theorem aliasName_of_owns (owned : finder.owns name = .ok true) :
    ∃ aliasName, finder.aliasName = .str aliasName := by
  unfold owns at owned
  split at owned
  · next isAlias => exact ⟨name, Value.sameKey_str_iff.mp isAlias⟩
  · obtain ⟨text, ownPrefix, _⟩ := bind_eq_ok_iff.mp owned
    exact aliasName_of_ownedPrefix ownPrefix

end Ownership

/-! ### Names and files -/

def IsPart (part : Text) : Prop := '.' ∉ part ∧ '/' ∉ part

def nameOf (aliasName : Text) (parts : List Text) : Text := Text.joined ['.'] (aliasName :: parts)

/--
The components that parts stand for when the first `depth` of them are directories; an empty
directory leads nowhere.
-/
def componentsAt (parts : List Text) (depth : Nat) : List Text :=
  (parts.take depth).filter (· != []) ++ [Text.joined ['.'] (parts.drop depth) ++ extension]

def fileAt (root : Path) (parts : List Text) (depth : Nat) : Path :=
  { root with parts := root.parts ++ componentsAt parts depth }

theorem isComponent_of_isPart {part : Text} (plain : IsPart part) (some_ : part ≠ []) :
    Path.isComponent part = true := by
  have noDot : part ≠ ['.'] := by
    rintro rfl
    exact plain.1 List.mem_cons_self
  unfold Path.isComponent
  rw [bne_iff_ne.mpr some_, bne_iff_ne.mpr noDot]
  rfl

theorem isComponent_fileName (stem : Text) : Path.isComponent (stem ++ extension) = true := by
  have long : 3 ≤ (stem ++ extension).length := by
    rw [List.length_append]
    exact Nat.le_add_left 3 stem.length
  unfold Path.isComponent
  rw [Bool.and_eq_true, bne_iff_ne, bne_iff_ne]
  constructor
  · intro same
    rw [same] at long
    contradiction
  · intro same
    rw [same] at long
    contradiction

theorem not_mem_fileName {stem : Text} (free : '/' ∉ stem) : '/' ∉ stem ++ extension := by
  have outside : '/' ∉ extension := by decide
  intro present
  rcases List.mem_append.mp present with inStem | inExtension
  · exact free inStem
  · exact outside inExtension

theorem not_mem_joined {parts : List Text} (plain : ∀ part ∈ parts, IsPart part) :
    '/' ∉ Text.joined ['.'] parts := by
  intro present
  rcases Text.mem_joined present with between | ⟨part, inside, held⟩
  · revert between
    decide
  · exact (plain part inside).2 held

theorem plain_componentsAt {parts : List Text} (plain : ∀ part ∈ parts, IsPart part) (depth : Nat) :
    ∀ component ∈ componentsAt parts depth,
      Path.isComponent component = true ∧ '/' ∉ component ∧ component ≠ "..".toList := by
  intro component present
  rcases List.mem_append.mp present with isDirectory | isFile
  · obtain ⟨inParts, some_⟩ := List.mem_filter.mp isDirectory
    have part := plain component (List.mem_of_mem_take inParts)
    refine ⟨isComponent_of_isPart part (bne_iff_ne.mp some_), part.2, ?_⟩
    rintro rfl
    exact part.1 List.mem_cons_self
  · rw [List.mem_singleton.mp isFile]
    have later : ∀ part ∈ parts.drop depth, IsPart part :=
      fun part inside => plain part (List.mem_of_mem_drop inside)
    refine ⟨isComponent_fileName _, not_mem_fileName (not_mem_joined later), ?_⟩
    intro same
    have long := congrArg List.length same
    rw [List.length_append] at long
    have three : extension.length = 3 := rfl
    have two : "..".toList.length = 2 := rfl
    omega

theorem componentsAt_ne_nil (parts : List Text) (depth : Nat) : componentsAt parts depth ≠ [] :=
  List.append_ne_nil_of_right_ne_nil _ (List.cons_ne_nil _ _)

/-! ### Candidates -/

theorem foldl_joinText_plain (path : Path) {parts : List Text}
    (plain : ∀ part ∈ parts, IsPart part) :
    parts.foldl Path.joinText path =
      { path with parts := path.parts ++ parts.filter (· != []) } := by
  induction parts generalizing path with
  | nil =>
      rw [List.filter_nil, List.append_nil]
      rfl
  | cons part parts ih =>
      have first := plain part List.mem_cons_self
      have later : ∀ other ∈ parts, IsPart other :=
        fun other present => plain other (List.mem_cons_of_mem part present)
      rw [List.foldl_cons]
      by_cases none : part = []
      · rw [none, Path.joinText_nil, ih path later]
        rfl
      · have kept : (part != []) = true := bne_iff_ne.mpr none
        rw [Path.joinText_component path first.2 (isComponent_of_isPart first none),
          ih _ later, List.filter_cons, if_pos kept]
        simp only [List.append_assoc, List.singleton_append]

theorem candidate_plain (finder : Finder) {parts : List Text}
    (plain : ∀ part ∈ parts, IsPart part) (depth : Nat) :
    finder.candidate parts depth = fileAt finder.searchRoot parts depth := by
  have directories : ∀ part ∈ parts.take depth, IsPart part :=
    fun part present => plain part (List.mem_of_mem_take present)
  have later : ∀ part ∈ parts.drop depth, IsPart part :=
    fun part present => plain part (List.mem_of_mem_drop present)
  unfold candidate directoryOf
  rw [foldl_joinText_plain finder.searchRoot directories,
    Path.joinText_component _ (not_mem_fileName (not_mem_joined later)) (isComponent_fileName _)]
  unfold fileAt componentsAt
  simp only [List.append_assoc]

theorem find?_reverse_range {p : Nat → Bool} {n k : Nat} :
    (List.range n).reverse.find? p = some k ↔
      k < n ∧ p k = true ∧ ∀ j, k < j → j < n → p j = false := by
  induction n with
  | zero =>
      constructor
      · intro found
        cases found
      · rintro ⟨below, _⟩
        cases below
  | succ n ih =>
      -- Back to front the new number `n` comes first: it is the answer, or it drops out.
      rw [List.range_succ, List.reverse_append, List.reverse_singleton, List.singleton_append,
        List.find?_cons]
      cases last : p n with
      | true =>
          constructor
          · intro found
            rw [← Option.some.inj found]
            exact ⟨Nat.lt_succ_self n, last, fun j above below => by omega⟩
          · rintro ⟨below, holds, deepest⟩
            by_cases same : k = n
            · rw [same]
            · have none := deepest n (by omega) (Nat.lt_succ_self n)
              rw [last] at none
              cases none
      | false =>
          rw [ih]
          constructor
          · rintro ⟨below, holds, deepest⟩
            refine ⟨Nat.lt_succ_of_lt below, holds, ?_⟩
            intro j above within
            by_cases same : j = n
            · rw [same]
              exact last
            · exact deepest j above (by omega)
          · rintro ⟨below, holds, deepest⟩
            have differs : k ≠ n := by
              rintro rfl
              rw [last] at holds
              cases holds
            exact ⟨by omega, holds, fun j above within => deepest j above (by omega)⟩

/-! ### Names below an alias -/

section Names

variable {finder : Finder} {aliasName : Text} (aliased : finder.aliasName = .str aliasName)

theorem nameOf_eq (aliasName : Text) {parts : List Text} (some_ : parts ≠ []) :
    nameOf aliasName parts = aliasName ++ ['.'] ++ Text.joined ['.'] parts :=
  Text.joined_cons_of_ne_nil ['.'] aliasName some_

theorem partsOf_nameOf (dotless : '.' ∉ aliasName) {parts : List Text}
    (plain : ∀ part ∈ parts, IsPart part) : partsOf (nameOf aliasName parts) = parts := by
  have free : ∀ part ∈ aliasName :: parts, '.' ∉ part :=
    List.forall_mem_cons.mpr ⟨dotless, fun part present => (plain part present).1⟩
  unfold partsOf nameOf
  rw [Text.pieces_joined (List.cons_ne_nil _ _) free]
  rfl

theorem candidates_nameOf (dotless : '.' ∉ aliasName) {parts : List Text}
    (plain : ∀ part ∈ parts, IsPart part) :
    finder.candidates (nameOf aliasName parts) =
      (List.range parts.length).reverse.map (fileAt finder.searchRoot parts) := by
  unfold candidates
  rw [partsOf_nameOf dotless plain]
  exact congrArg (List.range parts.length).reverse.map (funext (candidate_plain finder plain))

include aliased

theorem isAlias_nameOf {parts : List Text} (some_ : parts ≠ []) :
    finder.isAlias (nameOf aliasName parts) = false := by
  unfold isAlias
  rw [aliased]
  change (aliasName == nameOf aliasName parts) = false
  apply beq_false_of_ne
  intro same
  have long := congrArg List.length same
  rw [nameOf_eq aliasName some_, List.length_append, List.length_append,
    List.length_singleton] at long
  omega

theorem owns_nameOf {parts : List Text} (some_ : parts ≠ []) :
    finder.owns (nameOf aliasName parts) = .ok true := by
  have below : IsBelow aliasName (nameOf aliasName parts) :=
    Or.inr ⟨Text.joined ['.'] parts, (nameOf_eq aliasName some_).symm⟩
  rw [owns_of_aliasName aliased, decide_eq_true below]

theorem resolve_nameOf (disk : Disk) (dotless : '.' ∉ aliasName) {parts : List Text}
    (some_ : parts ≠ []) (plain : ∀ part ∈ parts, IsPart part) :
    finder.resolve disk (nameOf aliasName parts) =
      match (List.range parts.length).reverse.find? fun depth =>
          disk.isFile (fileAt finder.searchRoot parts depth) with
      | some depth => .ok (some (idOf (fileAt finder.searchRoot parts depth)))
      | none => .error (.unresolvableModule (nameOf aliasName parts) finder.searchRoot.text) := by
  have found : finder.findFile disk (nameOf aliasName parts) =
      ((List.range parts.length).reverse.find? fun depth =>
        disk.isFile (fileAt finder.searchRoot parts depth)).map
          (fileAt finder.searchRoot parts) := by
    rw [findFile, candidates_nameOf dotless plain, List.find?_map]
    rfl
  unfold resolve
  rw [owns_nameOf aliased some_]
  change (if (!true || finder.isAlias (nameOf aliasName parts)) = true then _ else _) = _
  rw [isAlias_nameOf aliased some_, found]
  cases (List.range parts.length).reverse.find? fun depth =>
    disk.isFile (fileAt finder.searchRoot parts depth) with
  | none => rfl
  | some depth => rfl

/-- A name stands for a file exactly when the file is the deepest of its candidates. -/
theorem resolve_eq_ok_iff (disk : Disk) (dotless : '.' ∉ aliasName) {parts : List Text}
    (some_ : parts ≠ []) (plain : ∀ part ∈ parts, IsPart part) {id : Text} :
    finder.resolve disk (nameOf aliasName parts) = .ok (some id) ↔
      ∃ depth, depth < parts.length ∧
        disk.isFile (fileAt finder.searchRoot parts depth) = true ∧
        (∀ deeper, depth < deeper → deeper < parts.length →
          disk.isFile (fileAt finder.searchRoot parts deeper) = false) ∧
        idOf (fileAt finder.searchRoot parts depth) = id := by
  rw [resolve_nameOf aliased disk dotless some_ plain]
  constructor
  · intro resolved
    split at resolved
    · next depth found =>
        cases resolved
        obtain ⟨below, isFile, deepest⟩ := find?_reverse_range.mp found
        exact ⟨depth, below, isFile, deepest, rfl⟩
    · cases resolved
  · rintro ⟨depth, below, isFile, deepest, rfl⟩
    rw [find?_reverse_range.mpr ⟨below, isFile, deepest⟩]

theorem resolve_eq_error_iff (disk : Disk) (dotless : '.' ∉ aliasName) {parts : List Text}
    (some_ : parts ≠ []) (plain : ∀ part ∈ parts, IsPart part) :
    finder.resolve disk (nameOf aliasName parts) =
        .error (.unresolvableModule (nameOf aliasName parts) finder.searchRoot.text) ↔
      ∀ depth, depth < parts.length →
        disk.isFile (fileAt finder.searchRoot parts depth) = false := by
  rw [resolve_nameOf aliased disk dotless some_ plain]
  constructor
  · intro refused depth below
    split at refused
    · cases refused
    · next none =>
        have absent := List.find?_eq_none.mp none depth
          (List.mem_reverse.mpr (List.mem_range.mpr below))
        exact Bool.eq_false_iff.mpr absent
  · intro none
    have absent : (List.range parts.length).reverse.find? (fun depth =>
        disk.isFile (fileAt finder.searchRoot parts depth)) = .none := by
      apply List.find?_eq_none.mpr
      intro depth present
      rw [none depth (List.mem_range.mp (List.mem_reverse.mp present))]
      exact Bool.false_ne_true
    rw [absent]

end Names

/-! ### Files below the search root -/

theorem length_eq_of_idOf_eq (root : Path) {left right : List Text}
    (plainLeft : ∀ part ∈ left, '/' ∉ part) (plainRight : ∀ part ∈ right, '/' ∉ part)
    (someLeft : left ≠ []) (someRight : right ≠ [])
    (same : idOf { root with parts := root.parts ++ left } =
      idOf { root with parts := root.parts ++ right }) : left.length = right.length :=
  Path.length_eq_of_text_eq plainLeft plainRight someLeft someRight
    (List.append_cancel_right same)

/-- The parts of a name for a file in some directories. -/
def partsOfFile (directories : List Text) (stem : Text) : List Text :=
  directories ++ Text.pieces '.' stem

theorem nameOf_partsOfFile (aliasName : Text) (directories : List Text) (stem : Text) :
    nameOf aliasName (directories ++ [stem]) = nameOf aliasName (partsOfFile directories stem) := by
  have joined := Text.joined_append ['.'] (aliasName :: directories) (Text.pieces_ne_nil '.' stem)
  rw [Text.joined_pieces] at joined
  exact joined.symm

section Files

variable {directories : List Text} {stem : Text}
  (directed : ∀ directory ∈ directories, directory ≠ [] ∧ IsPart directory)
  (filled : ∀ piece ∈ Text.pieces '.' stem, piece ≠ [])

include directed

theorem plain_partsOfFile (free : '/' ∉ stem) :
    ∀ part ∈ partsOfFile directories stem, IsPart part := by
  intro part present
  rcases List.mem_append.mp present with inDirectories | inStem
  · exact (directed part inDirectories).2
  · exact ⟨Text.not_mem_of_mem_pieces part inStem,
      fun inside => free (Text.mem_of_mem_pieces part inStem '/' inside)⟩

include filled

theorem length_componentsAt {depth : Nat} (below : depth < (partsOfFile directories stem).length) :
    (componentsAt (partsOfFile directories stem) depth).length = depth + 1 := by
  have kept : ((partsOfFile directories stem).take depth).filter (· != []) =
      (partsOfFile directories stem).take depth := by
    apply List.filter_eq_self.mpr
    intro part present
    apply bne_iff_ne.mpr
    rcases List.mem_append.mp (List.mem_of_mem_take present) with inDirectories | inStem
    · exact (directed part inDirectories).1
    · exact filled part inStem
  unfold componentsAt
  rw [kept, List.length_append, List.length_take, List.length_singleton]
  omega

theorem depth_eq_of_idOf_eq (free : '/' ∉ stem) (root : Path) {left right : Nat}
    (belowLeft : left < (partsOfFile directories stem).length)
    (belowRight : right < (partsOfFile directories stem).length)
    (same : idOf (fileAt root (partsOfFile directories stem) left) =
      idOf (fileAt root (partsOfFile directories stem) right)) : left = right := by
  have plain := plain_partsOfFile directed free
  have lengths := length_eq_of_idOf_eq root
    (fun part present => (plain_componentsAt plain left part present).2.1)
    (fun part present => (plain_componentsAt plain right part present).2.1)
    (componentsAt_ne_nil _ left) (componentsAt_ne_nil _ right) same
  rw [length_componentsAt directed filled belowLeft,
    length_componentsAt directed filled belowRight] at lengths
  exact Nat.succ.inj lengths

omit filled in
theorem componentsAt_length :
    componentsAt (partsOfFile directories stem) directories.length =
      directories ++ [stem ++ extension] := by
  have kept : directories.filter (· != []) = directories := by
    apply List.filter_eq_self.mpr
    intro directory present
    exact bne_iff_ne.mpr (directed directory present).1
  unfold componentsAt partsOfFile
  rw [List.take_left, List.drop_left, kept, Text.joined_pieces]

end Files

/-- A file below the search root has a name, which stands for it unless a deeper file has it. -/
theorem resolve_file {finder : Finder} {aliasName : Text}
    (aliased : finder.aliasName = .str aliasName) (dotless : '.' ∉ aliasName) (disk : Disk)
    {directories : List Text} {stem : Text}
    (directed : ∀ directory ∈ directories, directory ≠ [] ∧ IsPart directory) (free : '/' ∉ stem)
    (filled : ∀ piece ∈ Text.pieces '.' stem, piece ≠ [])
    (isFile : disk.isFile (fileAt finder.searchRoot (partsOfFile directories stem)
      directories.length) = true) :
    ∃ id, finder.resolve disk (nameOf aliasName (partsOfFile directories stem)) = .ok (some id) ∧
      (id = idOf (fileAt finder.searchRoot (partsOfFile directories stem) directories.length) ↔
        ∀ deeper, directories.length < deeper →
          deeper < (partsOfFile directories stem).length →
            disk.isFile (fileAt finder.searchRoot (partsOfFile directories stem) deeper) =
              false) := by
  let parts := partsOfFile directories stem
  have plain : ∀ part ∈ parts, IsPart part := plain_partsOfFile directed free
  have below : directories.length < parts.length := by
    have pieces := List.length_pos_iff.mpr (Text.pieces_ne_nil '.' stem)
    change _ < (directories ++ Text.pieces '.' stem).length
    rw [List.length_append]
    omega
  have some_ : parts ≠ [] := List.ne_nil_of_length_pos (Nat.zero_lt_of_lt below)
  have resolved := resolve_nameOf aliased disk dotless some_ plain
  cases found : (List.range parts.length).reverse.find? fun depth =>
      disk.isFile (fileAt finder.searchRoot parts depth) with
  | none =>
      have absent := List.find?_eq_none.mp found directories.length
        (List.mem_reverse.mpr (List.mem_range.mpr below))
      exact absurd isFile absent
  | some depth =>
      rw [found] at resolved
      obtain ⟨within, isDeepest, deepest⟩ := find?_reverse_range.mp found
      refine ⟨idOf (fileAt finder.searchRoot parts depth), resolved, ?_⟩
      constructor
      · intro same
        rw [← depth_eq_of_idOf_eq directed filled free finder.searchRoot within below same]
        exact deepest
      · intro none
        have sameDepth : depth = directories.length := by
          rcases Nat.lt_trichotomy depth directories.length with shallower | same | deeper
          · have absent := deepest directories.length shallower below
            rw [isFile] at absent
            cases absent
          · exact same
          · have absent := none depth deeper within
            rw [isDeepest] at absent
            cases absent
        rw [sameDepth]

/--
Resolution of names, for any file tree and any finder whose alias has no dot. A name of parts
below the alias stands for the file in the deepest directory among its candidates, it is
refused exactly when none of them is a file, and what it stands for lies below the search root.
Conversely every file below the search root, in directories without dots and with a file name
of pieces that are not empty, has a name that stands for a file, and for this one exactly when
no candidate of the name in a deeper directory is a file.
-/
theorem resolve_deepest (finder : Finder) (disk : Disk) {aliasName : Text}
    (aliased : finder.aliasName = .str aliasName) (dotless : '.' ∉ aliasName) :
    (∀ parts : List Text, parts ≠ [] → (∀ part ∈ parts, '.' ∉ part ∧ '/' ∉ part) →
      (∀ depth, depth < parts.length →
        disk.isFile (fileAt finder.searchRoot parts depth) = true →
        (∀ deeper, depth < deeper → deeper < parts.length →
          disk.isFile (fileAt finder.searchRoot parts deeper) = false) →
        finder.resolve disk (Text.joined ['.'] (aliasName :: parts)) =
          .ok (some (idOf (fileAt finder.searchRoot parts depth)))) ∧
      (finder.resolve disk (Text.joined ['.'] (aliasName :: parts)) =
          .error (.unresolvableModule (Text.joined ['.'] (aliasName :: parts))
            finder.searchRoot.text) ↔
        ∀ depth, depth < parts.length →
          disk.isFile (fileAt finder.searchRoot parts depth) = false) ∧
      ∀ id, finder.resolve disk (Text.joined ['.'] (aliasName :: parts)) = .ok (some id) →
        ∃ below : List Text, below ≠ [] ∧
          (∀ component ∈ below, Path.isComponent component = true ∧ '/' ∉ component ∧
            component ≠ "..".toList) ∧
          id = idOf ⟨finder.searchRoot.root, finder.searchRoot.parts ++ below⟩) ∧
    ∀ (directories : List Text) (stem : Text),
      (∀ directory ∈ directories, directory ≠ [] ∧ '.' ∉ directory ∧ '/' ∉ directory) →
      '/' ∉ stem → (∀ piece ∈ Text.pieces '.' stem, piece ≠ []) →
      disk.isFile ⟨finder.searchRoot.root,
        finder.searchRoot.parts ++ (directories ++ [stem ++ ".py".toList])⟩ = true →
      ∃ id, finder.resolve disk (Text.joined ['.'] (aliasName :: (directories ++ [stem]))) =
          .ok (some id) ∧
        (id = idOf ⟨finder.searchRoot.root,
            finder.searchRoot.parts ++ (directories ++ [stem ++ ".py".toList])⟩ ↔
          ∀ deeper, directories.length < deeper →
            deeper < (directories ++ Text.pieces '.' stem).length →
              disk.isFile (fileAt finder.searchRoot (directories ++ Text.pieces '.' stem)
                deeper) = false) := by
  refine ⟨?_, ?_⟩
  · intro parts some_ plain
    refine ⟨?_, resolve_eq_error_iff aliased disk dotless some_ plain, ?_⟩
    · intro depth below isFile deepest
      exact (resolve_eq_ok_iff aliased disk dotless some_ plain).mpr
        ⟨depth, below, isFile, deepest, rfl⟩
    · intro id resolved
      obtain ⟨depth, _, _, _, same⟩ :=
        (resolve_eq_ok_iff aliased disk dotless some_ plain).mp resolved
      exact ⟨componentsAt parts depth, componentsAt_ne_nil parts depth,
        plain_componentsAt plain depth, same.symm⟩
  · intro directories stem directed free filled isFile
    have own : componentsAt (partsOfFile directories stem) directories.length =
        directories ++ [stem ++ extension] := componentsAt_length directed
    have place : (⟨finder.searchRoot.root,
        finder.searchRoot.parts ++ (directories ++ [stem ++ ".py".toList])⟩ : Path) =
          fileAt finder.searchRoot (partsOfFile directories stem) directories.length := by
      unfold fileAt
      rw [own]
      rfl
    have name := nameOf_partsOfFile aliasName directories stem
    unfold nameOf at name
    rw [place] at isFile ⊢
    rw [name]
    exact resolve_file aliased dotless disk directed free filled isFile

/-- A disk on which two files share a name, one of them in a directory. -/
def sharedDisk : Disk :=
  { tree :=
      ⟨[(["api".toList], .directory), (["api".toList, "user".toList], .directory),
        (["api".toList, "user".toList, "user.controller.py".toList], .file []),
        (["api".toList, "user.user.controller.py".toList], .file [])]⟩
    here := [] }

def sharedFinder : Finder :=
  { config := .ofEntries (.absolute []) []
    aliasName := .str "apis".toList
    searchRoot := .absolute ["api".toList] }

/-- The name of two files stands for the one in the directory, and not for the other. -/
theorem resolve_deepest_shared :
    sharedFinder.resolve sharedDisk "apis.user.user.controller".toList =
        .ok (some "/api/user/user.controller.py?_api".toList) ∧
      ∃ id, sharedFinder.resolve sharedDisk "apis.user.user.controller".toList = .ok (some id) ∧
        id ≠ "/api/user.user.controller.py?_api".toList := by
  have deep : sharedDisk.isFile (fileAt sharedFinder.searchRoot
      ["user".toList, "user".toList, "controller".toList] 1) = true := by cbv
  have deepest : sharedDisk.isFile (fileAt sharedFinder.searchRoot
      ["user".toList, "user".toList, "controller".toList] 2) = false := by cbv
  have shallow : sharedDisk.isFile
      (.absolute (["api".toList] ++ ([] ++ ["user.user.controller".toList ++ ".py".toList]))) = true := by
    cbv
  obtain ⟨forward, backward⟩ :=
    @resolve_deepest sharedFinder sharedDisk "apis".toList rfl (by decide)
  constructor
  · have parts : ∀ part ∈ ["user".toList, "user".toList, "controller".toList],
        '.' ∉ part ∧ '/' ∉ part := by decide
    refine (forward _ (List.cons_ne_nil _ _) parts).1 1 (by decide) deep ?_
    intro deeper above below
    have same : deeper = 2 := by
      change deeper < 3 at below
      omega
    rw [same]
    exact deepest
  · obtain ⟨id, resolved, only⟩ := backward [] "user.user.controller".toList
      (List.forall_mem_nil _) (by decide) (by decide) shallow
    refine ⟨id, resolved, ?_⟩
    intro same
    have none := only.mp same 1 (by decide) (by decide)
    change sharedDisk.isFile (fileAt sharedFinder.searchRoot
      ["user".toList, "user".toList, "controller".toList] 1) = false at none
    rw [deep] at none
    cases none

end ControllerClient.Finder
