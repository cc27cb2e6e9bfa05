import ControllerClient.Proofs.Config.Keeping
import ControllerClient.Proofs.Disk.Difference

/-!
Where settings come from. The nearest file of settings at or above the start counts;
its entry for the root may lead once to another directory, whose own file gives all
settings. No other file has any influence.
-/

namespace ControllerClient

/-- The links on every path can all be replaced: none is met again while it is replaced. -/
def Disk.IsLoopFree (disk : Disk) : Prop :=
  ∀ path : Path, ∃ place,
    disk.tree.canonical Disk.replacementLimit [] (disk.start path) path.parts = .ok place

/-- Without loops of links every path that a file can have has a canonical form. -/
theorem Disk.IsLoopFree.exists_resolve {disk : Disk} (loopFree : disk.IsLoopFree)
    (placed : ∀ part ∈ disk.here, Path.IsOrdinary part) (isOpen : disk.tree.IsOpen disk.here)
    {path : Path} (named : nameFault? path.text = none) :
    ∃ place, disk.resolve path = .ok (Path.absolute place) := by
  obtain ⟨place, ends⟩ := loopFree path
  have forward : ∀ part ∈ disk.here, part ≠ "..".toList :=
    fun part present => (placed part present).2.2.1
  exact ⟨place, resolve_of_canonical named forward isOpen ends⟩

namespace Config

/-! ### The nearest file -/

def fileAt (directory : Place) : Path := fileIn (Path.absolute directory)

/-- A directory at or above a place has a file of settings, and none between them has one. -/
structure IsNearest (disk : Disk) (place directory : Place) : Prop where
  above : directory <+: place
  has : disk.isFile (fileAt directory) = true
  nearest : ∀ other, other <+: place → directory.length < other.length →
    disk.isFile (fileAt other) = false

section Nearest

variable {disk : Disk} {place directory : Place}

theorem IsNearest.length_le {other : Place} (nearest : IsNearest disk place directory)
    (above : other <+: place) (has : disk.isFile (fileAt other) = true) :
    other.length ≤ directory.length := by
  by_contra longer
  have none := nearest.nearest other above (not_le.mp longer)
  rw [has] at none
  cases none

theorem IsNearest.unique {other : Place} (nearest : IsNearest disk place directory)
    (otherNearest : IsNearest disk place other) : other = directory := by
  have shorter := nearest.length_le otherNearest.above otherNearest.has
  have longer := otherNearest.length_le nearest.above nearest.has
  have within := List.prefix_of_prefix_length_le otherNearest.above nearest.above shorter
  exact within.eq_of_length (le_antisymm shorter longer)

theorem map_ancestors (place : Place) :
    (Path.absolute place).ancestors.map fileIn =
      (List.range (place.length + 1)).map fun n => fileAt (place.take (place.length - n)) := by
  unfold Path.ancestors
  rw [List.map_map]
  rfl

/-- The first of the files from a place on upward that exists is that of the nearest directory. -/
theorem find?_ancestors (disk : Disk) (place : Place) :
    (∃ directory, IsNearest disk place directory ∧
      ((Path.absolute place).ancestors.map fileIn).find? disk.isFile = some (fileAt directory)) ∨
    (∀ directory, directory <+: place → disk.isFile (fileAt directory) = false) ∧
      ((Path.absolute place).ancestors.map fileIn).find? disk.isFile = none := by
  rw [map_ancestors, List.find?_map]
  -- A directory at or above the place lies a number of steps above it.
  have steps {directory : Place} (above : directory <+: place) :
      directory = place.take (place.length - (place.length - directory.length)) := by
    have within := above.length_le
    rw [Nat.sub_sub_self within]
    exact List.prefix_iff_eq_take.mp above
  cases found : (List.range (place.length + 1)).find?
      (disk.isFile ∘ fun n => fileAt (place.take (place.length - n))) with
  | none =>
      refine Or.inr ⟨fun directory above => ?_, rfl⟩
      have absent := List.find?_range_eq_none.mp found (place.length - directory.length) (by omega)
      rw [Bool.not_eq_true', Function.comp_apply, ← steps above] at absent
      exact absent
  | some n =>
      obtain ⟨has, within, first⟩ := List.find?_range_eq_some.mp found
      refine Or.inl ⟨place.take (place.length - n), ⟨List.take_prefix _ _, has, ?_⟩, rfl⟩
      intro other above longer
      have bound := above.length_le
      rw [List.length_take] at longer
      have absent := first (place.length - other.length) (by omega)
      rw [Bool.not_eq_true', Function.comp_apply, ← steps above] at absent
      exact absent

end Nearest

section Found

variable {disk : Disk} {start : Option Path} {place directory : Place}
  (resolves : disk.resolve (start.getD (Path.absolute disk.here)) = .ok (Path.absolute place))

include resolves

theorem find_of_isNearest (nearest : IsNearest disk place directory) :
    find disk start = .ok (fileAt directory) := by
  rcases find?_ancestors disk place with ⟨other, otherNearest, found⟩ | ⟨absent, _⟩
  · unfold find
    rw [resolves]
    dsimp only [bind, Except.bind]
    rw [found, nearest.unique otherNearest]
  · have none := absent directory nearest.above
    rw [nearest.has] at none
    cases none

theorem find_of_absent
    (absent : ∀ directory, directory <+: place → disk.isFile (fileAt directory) = false) :
    find disk start = .error (.configNotFound (Path.absolute place).text) := by
  rcases find?_ancestors disk place with ⟨other, nearest, _⟩ | ⟨_, none⟩
  · have none := absent other nearest.above
    rw [nearest.has] at none
    cases none
  · unfold find
    rw [resolves]
    dsimp only [bind, Except.bind]
    rw [none]

theorem load_of_absent
    (absent : ∀ directory, directory <+: place → disk.isFile (fileAt directory) = false) :
    load disk [] start = .error (.configNotFound (Path.absolute place).text) := by
  unfold load findProjectRoot
  rw [find_of_absent resolves absent]
  rfl

end Found

/-! ### One redirect -/

/--
The root of a project with a found file of settings: its directory, or what the file's entry for
the root leads to from there, if it has such an entry that is not empty.
-/
inductive IsRoot (disk : Disk) (directory : Place) (entries : Entries) : Path → Prop where
  | own (plain : entries.field? "root".toList = none ∨
      entries.field? "root".toList = some .null ∨ entries.field? "root".toList = some (.str [])) :
      IsRoot disk directory entries (Path.absolute directory)
  | redirected {text : Text} {root : Path}
      (given : entries.field? "root".toList = some (.str text)) (some_ : text ≠ [])
      (resolves : disk.resolve ((Path.absolute directory).joinText text) = .ok root) :
      IsRoot disk directory entries root

section Root

variable {disk : Disk} {start : Option Path} {directory : Place} {entries : Entries} {root : Path}

theorem parent_fileAt (directory : Place) : (fileAt directory).parent = Path.absolute directory :=
  Path.parent_concat directory fileName

theorem findProjectRoot_of_find (found : find disk start = .ok (fileAt directory))
    (reads : readEntries disk (fileAt directory) = .ok entries) :
    findProjectRoot disk start =
      if ((entries.field? "root".toList).getD .null).isTruthy then
        (continued (Path.absolute directory) ((entries.field? "root".toList).getD .null)).bind
          disk.resolve
      else .ok (Path.absolute directory) := by
  unfold findProjectRoot
  rw [found]
  dsimp only [bind, Except.bind]
  rw [reads, parent_fileAt]

theorem findProjectRoot_of_isRoot (found : find disk start = .ok (fileAt directory))
    (reads : readEntries disk (fileAt directory) = .ok entries)
    (isRoot : IsRoot disk directory entries root) : findProjectRoot disk start = .ok root := by
  rw [findProjectRoot_of_find found reads]
  cases isRoot with
  | own plain =>
      have falsy : ((entries.field? "root".toList).getD .null).isTruthy = false := by
        rcases plain with none | null | empty
        · rw [none]
          rfl
        · rw [null]
          rfl
        · rw [empty]
          rfl
      rw [falsy, if_neg Bool.false_ne_true]
  | redirected given some_ resolves =>
      have truthy {text : Text} (some_ : text ≠ []) : (Value.str text).isTruthy = true := by
        simp [Value.isTruthy, some_]
      rw [given, Option.getD_some, truthy some_, if_pos rfl]
      exact resolves

theorem load_of_root (found : findProjectRoot disk start = .ok root) :
    load disk [] start =
      (read disk root).bind fun config => .ok (config, [(root, config)]) :=
  load_of_findProjectRoot found

theorem isFile_of_readEntries {file : Path} (reads : readEntries disk file = .ok entries) :
    disk.isFile file = true := by
  obtain ⟨text, content, _⟩ := readEntries_eq_ok_iff.mp reads
  obtain ⟨octets, read, _⟩ := bind_eq_ok_iff.mp content
  exact Disk.isFile_iff.mpr ⟨octets, read⟩

theorem read_of_readEntries (reads : readEntries disk (fileIn root) = .ok entries) :
    read disk root = .ok (ofEntries root entries) := by
  unfold read
  dsimp only
  rw [if_pos (isFile_of_readEntries reads), reads]
  rfl

end Root

/-! ### Files that do not matter -/

section Difference

variable {changed : Place → Prop} {disk other : Disk} (differ : Disk.DifferAt changed disk other)

include differ

theorem readEntries_of_differAt {file : Path} (spares : Disk.Spares changed disk other file)
    (isFile : disk.isFile file = true) : readEntries other file = readEntries disk file := by
  obtain ⟨content, reads⟩ := Disk.isFile_iff.mp isFile
  unfold readEntries Disk.readText
  rw [reads, differ.read_of_ok spares reads]

theorem read_of_differAt {root : Path} (spares : Disk.Spares changed disk other (fileIn root)) :
    read other root = read disk root := by
  unfold read
  dsimp only
  rw [← differ.isFile_eq spares]
  by_cases isFile : disk.isFile (fileIn root) = true
  · rw [readEntries_of_differAt differ spares isFile]
  · rw [if_neg isFile, if_neg isFile]

section Load

variable {start : Option Path} {place directory : Place} {entries otherEntries : Entries}
  (resolves : disk.resolve (start.getD (Path.absolute disk.here)) = .ok (Path.absolute place))
  (nearest : IsNearest disk place directory)

include resolves nearest

/--
Neither the files that differ nor what the found file holds but its entry for the root matter,
if no nearer file comes up and the root's own file stays.
-/
theorem load_of_differAt
    (nearer : ∀ above, above <+: place → directory.length < above.length →
      Disk.Spares changed disk other (fileAt above))
    (reads : readEntries disk (fileAt directory) = .ok entries)
    (otherReads : readEntries other (fileAt directory) = .ok otherEntries)
    (same : otherEntries.field? "root".toList = entries.field? "root".toList)
    (own : ∀ root, findProjectRoot disk start = .ok root →
      Disk.Spares changed disk other (fileIn root)) :
    load other [] start = load disk [] start := by
  have otherResolves :
      other.resolve (start.getD (Path.absolute other.here)) = .ok (Path.absolute place) := by
    rw [← differ.here, ← differ.resolve_eq]
    exact resolves
  have otherNearest : IsNearest other place directory := by
    refine ⟨nearest.above, isFile_of_readEntries otherReads, fun above within longer => ?_⟩
    rw [← differ.isFile_eq (nearer above within longer)]
    exact nearest.nearest above within longer
  have roots : findProjectRoot other start = findProjectRoot disk start := by
    rw [findProjectRoot_of_find (find_of_isNearest otherResolves otherNearest) otherReads, same,
      findProjectRoot_of_find (find_of_isNearest resolves nearest) reads,
      funext differ.resolve_eq]
  cases found : findProjectRoot disk start with
  | error failure =>
      unfold load
      rw [roots, found]
      rfl
  | ok root =>
      rw [load_of_root found, load_of_root (roots.trans found),
        read_of_differAt differ (own root found)]

end Load

end Difference

/-! ### Loads -/

/--
What a load with nothing kept takes from the disk, where the nearest file and the root of its
project are known.
-/
structure LoadsFrom (disk : Disk) (start : Option Path) (place directory : Place)
    (entries : Entries) (root : Path) : Prop where
  /-- All settings are those of the root's own file, in which no entry leads any further. -/
  settings : ∀ own, readEntries disk (fileIn root) = .ok own →
    load disk [] start = .ok (ofEntries root own, [(root, ofEntries root own)])
  absent_iff : (disk.isFile (fileIn root) = true → ∃ own, readEntries disk (fileIn root) = .ok own) →
    (load disk [] start = .error (.configNotFound root.text) ↔ disk.isFile (fileIn root) = false)
  /-- Files other than the found one and the root's own do not matter, if none is nearer. -/
  others : ∀ changed other, Disk.DifferAt changed disk other →
    (∀ above, above <+: place → directory.length ≤ above.length →
      Disk.Spares changed disk other (fileAt above)) →
    Disk.Spares changed disk other (fileIn root) → load other [] start = load disk [] start
  /-- Of a found file that is not the root's own only the entry for the root matters. -/
  redirect : ∀ changed other otherEntries, Disk.DifferAt changed disk other →
    (∀ above, above <+: place → directory.length < above.length →
      Disk.Spares changed disk other (fileAt above)) →
    readEntries other (fileAt directory) = .ok otherEntries →
    otherEntries.field? "root".toList = entries.field? "root".toList →
    Disk.Spares changed disk other (fileIn root) → load other [] start = load disk [] start

section Load

variable {disk : Disk} {start : Option Path} {place directory : Place} {entries : Entries}
  {root : Path}

theorem loadsFrom_of_isRoot
    (resolves : disk.resolve (start.getD (Path.absolute disk.here)) = .ok (Path.absolute place))
    (nearest : IsNearest disk place directory)
    (reads : readEntries disk (fileAt directory) = .ok entries)
    (isRoot : IsRoot disk directory entries root) :
    LoadsFrom disk start place directory entries root := by
  have found := findProjectRoot_of_isRoot (find_of_isNearest resolves nearest) reads isRoot
  have own {changed : Place → Prop} {other : Disk}
      (spares : Disk.Spares changed disk other (fileIn root)) (reached : Path)
      (leads : findProjectRoot disk start = .ok reached) :
      Disk.Spares changed disk other (fileIn reached) := by
    rw [found] at leads
    cases leads
    exact spares
  have settings (own : Entries) (ownReads : readEntries disk (fileIn root) = .ok own) :
      load disk [] start = .ok (ofEntries root own, [(root, ofEntries root own)]) := by
    rw [load_of_root found, read_of_readEntries ownReads]
    rfl
  refine ⟨settings, fun object => ⟨fun fails => ?_, fun absent => ?_⟩, ?_, ?_⟩
  · rw [← Bool.not_eq_true]
    intro isFile
    obtain ⟨own, ownReads⟩ := object isFile
    rw [settings own ownReads] at fails
    cases fails
  · rw [load_of_root found, read_of_absent absent]
    rfl
  · intro changed other differ spared ownSpared
    have kept := readEntries_of_differAt differ (spared directory nearest.above (le_refl _))
      nearest.has
    exact load_of_differAt differ resolves nearest
      (fun above within longer => spared above within longer.le) reads (kept.trans reads) rfl
      (own ownSpared)
  · intro changed other otherEntries differ nearer otherReads same ownSpared
    exact load_of_differAt differ resolves nearest nearer reads otherReads same (own ownSpared)

end Load

theorem isFile_of_not_file {disk : Disk} {path : Path}
    (other : disk.isDirectory path = true ∨ ∃ problem, disk.place path = .error problem) :
    disk.isFile path = false := by
  rw [← Bool.not_eq_true]
  intro isFile
  rcases other with isDirectory | ⟨problem, fails⟩
  · unfold Disk.isFile at isFile
    rw [beq_iff_eq.mp isDirectory] at isFile
    cases isFile
  · obtain ⟨content, reads⟩ := Disk.isFile_iff.mp isFile
    obtain ⟨_, place, leads, _⟩ := Disk.read_eq_ok_iff.mp reads
    rw [fails] at leads
    cases leads

/--
Settings are found nearest first and with one redirect, on a disk without loops of links, from any
start that can be the path of a file. The start has a canonical form. The file that is found is
that of the nearest directory at or above it which has one; what is a directory or leads nowhere is
passed over, and nothing is found exactly when no directory has one. If the found file holds an
object, its directory is the root, or what the object's entry for the root leads to from there, and
a load takes from the disk what `LoadsFrom` says.
-/
theorem load_nearest {disk : Disk} (placed : ∀ part ∈ disk.here, Path.IsOrdinary part)
    (isOpen : disk.tree.IsOpen disk.here) (loopFree : disk.IsLoopFree) (start : Option Path)
    (named : Disk.nameFault? (start.getD (Path.absolute disk.here)).text = none) :
    ∃ place, disk.resolve (start.getD (Path.absolute disk.here)) = .ok (Path.absolute place) ∧
      ((∃ above, above <+: place ∧ disk.isFile (fileAt above) = true) →
        ∃ directory, IsNearest disk place directory ∧
          find disk start = .ok (fileAt directory)) ∧
      (find disk start = .error (.configNotFound (Path.absolute place).text) ↔
        ∀ above, above <+: place → disk.isFile (fileAt above) = false) ∧
      (∀ path, disk.isDirectory path = true ∨ (∃ problem, disk.place path = .error problem) →
        disk.isFile path = false) ∧
      ((∀ above, above <+: place → disk.isFile (fileAt above) = false) →
        load disk [] start = .error (.configNotFound (Path.absolute place).text)) ∧
      ∀ directory entries, IsNearest disk place directory →
        readEntries disk (fileAt directory) = .ok entries →
        (∀ text, entries.field? "root".toList = some (.str text) → text ≠ [] →
          Disk.nameFault? ((Path.absolute directory).joinText text).text = none →
            ∃ root, IsRoot disk directory entries root) ∧
        ∀ root, IsRoot disk directory entries root →
          LoadsFrom disk start place directory entries root := by
  obtain ⟨place, resolves⟩ := loopFree.exists_resolve placed isOpen named
  refine ⟨place, resolves, ?_, ⟨?_, find_of_absent resolves⟩, fun path => isFile_of_not_file,
    load_of_absent resolves, fun directory entries nearest reads => ⟨?_, fun root =>
      loadsFrom_of_isRoot resolves nearest reads⟩⟩
  · rintro ⟨above, within, isFile⟩
    rcases find?_ancestors disk place with ⟨directory, nearest, _⟩ | ⟨absent, _⟩
    · exact ⟨directory, nearest, find_of_isNearest resolves nearest⟩
    · rw [absent above within] at isFile
      cases isFile
  · intro fails
    rcases find?_ancestors disk place with ⟨directory, nearest, _⟩ | ⟨absent, _⟩
    · rw [find_of_isNearest resolves nearest] at fails
      cases fails
    · exact absent
  · intro text given some_ named
    obtain ⟨root, leads⟩ := loopFree.exists_resolve placed isOpen named
    exact ⟨_, .redirected given some_ leads⟩

/--
Below a directory whose settings lead to another one. A link to nothing and a directory that are
named like files of settings are nearer, and the settings in the other one would lead back.
-/
def redirectingDisk : Disk :=
  { tree := ⟨[(["w".toList], .directory), (["w".toList, "a".toList], .directory),
      (["w".toList, "a".toList, "b".toList], .directory),
      (["w".toList, "a".toList, "b".toList, fileName], .link (.relative ["gone".toList])),
      (["w".toList, "a".toList, fileName], .directory),
      (["w".toList, fileName], .file (Utf8.encode "\x7b\"root\":\"../p\"\x7d".toList)),
      (["p".toList], .directory), (["p".toList, fileName],
        .file (Utf8.encode "\x7b\"root\":\"/w\",\"suffix\":\"_c\"\x7d".toList))]⟩
    here := ["w".toList, "a".toList, "b".toList] }

theorem isLoopFree_redirectingDisk : redirectingDisk.IsLoopFree := by
  have shallow : redirectingDisk.tree.IsShallow := by
    intro directory name target isLink passed other
    have entry := FileTree.mem_nodes_of_node? isLink
      (List.append_ne_nil_of_right_ne_nil _ (List.cons_ne_nil _ _))
    obtain ⟨whole, rfl⟩ : directory ++ [name] =
        ["w".toList, "a".toList, "b".toList, fileName] ∧ target = .relative ["gone".toList] := by
      simpa [redirectingDisk] using entry
    have above := congrArg List.dropLast whole
    rw [List.dropLast_concat] at above
    subst above
    -- Before its one component the target is in a directory, and behind it nowhere.
    cases passed with
    | zero =>
        intro same
        cases same
    | succ later =>
        rw [Path.relative, List.take_succ_cons, List.take_nil]
        intro same
        cases same
  exact fun path => shallow.exists_canonical _ _ path.parts

def redirectedEntries : Entries :=
  [(.str "root".toList, .str "/w".toList), (.str "suffix".toList, .str "_c".toList)]

theorem load_nearest_redirected :
    find redirectingDisk none = .ok (fileAt ["w".toList]) ∧
      load redirectingDisk [] none =
        .ok (ofEntries (.absolute ["p".toList]) redirectedEntries,
          [(.absolute ["p".toList], ofEntries (.absolute ["p".toList]) redirectedEntries)]) := by
  have isOpen : redirectingDisk.tree.IsOpen ["w".toList, "a".toList, "b".toList] :=
    (((FileTree.isOpen_nil _).concat rfl).concat rfl).concat rfl
  obtain ⟨place, resolves, finds, _, passed, _, loads⟩ :=
    load_nearest (by decide) isOpen isLoopFree_redirectingDisk none (by decide)
  have stays : redirectingDisk.resolve (Path.absolute redirectingDisk.here) =
      .ok (Path.absolute ["w".toList, "a".toList, "b".toList]) := by cbv
  rw [Option.getD_none, stays] at resolves
  cases resolves
  have isFile : redirectingDisk.isFile (fileAt ["w".toList]) = true := by cbv
  have nearest : IsNearest redirectingDisk ["w".toList, "a".toList, "b".toList] ["w".toList] := by
    refine ⟨List.prefix_append _ _, isFile, fun other within longer => ?_⟩
    have bound := within.length_le
    have lengths : other.length = 2 ∨ other.length = 3 := by
      change 1 < other.length at longer
      change other.length ≤ 3 at bound
      omega
    have same := List.prefix_iff_eq_take.mp within
    rcases lengths with two | three
    · rw [two] at same
      rw [same]
      exact passed _ (Or.inl (by cbv))
    · rw [three] at same
      rw [same]
      exact passed _ (Or.inr ⟨.missing, by cbv⟩)
  have reads : readEntries redirectingDisk (fileAt ["w".toList]) =
      .ok [(.str "root".toList, .str "../p".toList)] := by cbv
  have isRoot : IsRoot redirectingDisk ["w".toList]
      [(.str "root".toList, .str "../p".toList)] (.absolute ["p".toList]) :=
    .redirected (by cbv) (by decide) (by cbv)
  obtain ⟨directory, foundNearest, found⟩ :=
    finds ⟨["w".toList], List.prefix_append _ _, isFile⟩
  rw [nearest.unique foundNearest] at found
  exact ⟨found, ((loads _ _ nearest reads).2 _ isRoot).settings redirectedEntries (by cbv)⟩

end Config

end ControllerClient
