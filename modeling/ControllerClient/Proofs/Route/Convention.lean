import ControllerClient.Proofs.Route.Address

/-!
Files that are named for their constructors. A file in a directory and the file of
the same name one directory further, which bears the constructor's name, have the
same route unless the first directory bears that name itself. A file whose name is
its constructor, the suffix and an extension has the route of its directory,
continued by the constructor unless the directory bears its name.
-/

namespace ControllerClient

/-! ### Cutting texts -/

namespace Text

theorem cutLast?_eq_none_iff {separator : Char} {text : Text} :
    cutLast? separator text = none ↔ separator ∉ text := by
  induction text with
  | nil => exact ⟨fun _ => List.not_mem_nil, fun _ => rfl⟩
  | cons c rest ih =>
      rw [cutLast?, List.mem_cons, not_or, ← ih]
      cases cutLast? separator rest with
      | some cut =>
          constructor
          · intro none
            cases none
          · rintro ⟨_, none⟩
            cases none
      | none =>
          by_cases same : c = separator
          · simp [same]
          · simp [same, Ne.symm same]

theorem cutLast?_append {separator : Char} (before : Text) {behind : Text}
    (free : separator ∉ behind) :
    cutLast? separator (before ++ separator :: behind) = some (before, behind) := by
  induction before with
  | nil => rw [List.nil_append, cutLast?, cutLast?_eq_none_iff.mpr free, if_pos rfl]
  | cons c before ih => rw [List.cons_append, cutLast?, ih]

theorem eq_append_of_cutLast? {separator : Char} {text before behind : Text}
    (cut : cutLast? separator text = some (before, behind)) :
    text = before ++ separator :: behind := by
  induction text generalizing before behind with
  | nil => cases cut
  | cons c rest ih =>
      rw [cutLast?] at cut
      cases later : cutLast? separator rest with
      | some parts =>
          rw [later] at cut
          cases cut
          rw [ih later, List.cons_append]
      | none =>
          rw [later] at cut
          by_cases same : c = separator
          · rw [if_pos same] at cut
            cases cut
            rw [same, List.nil_append]
          · rw [if_neg same] at cut
            cases cut

theorem mem_of_mem_withoutFirst {pattern text : Text} {c : Char}
    (present : c ∈ withoutFirst pattern text) : c ∈ text := by
  induction text with
  | nil => exact present
  | cons d rest ih =>
      rw [withoutFirst] at present
      split at present
      · next remainder found =>
          rw [after?_eq_some_iff.mp found]
          exact List.mem_append_right pattern present
      · rcases List.mem_cons.mp present with same | later
        · rw [same]
          exact List.mem_cons_self
        · exact List.mem_cons_of_mem d (ih later)

/-- A pattern that occurs in a text at its end only is left out there. -/
theorem withoutFirst_append {pattern text : Text}
    (last : ∀ before behind, text ++ pattern = before ++ pattern ++ behind → behind = []) :
    withoutFirst pattern (text ++ pattern) = text := by
  induction text with
  | nil =>
      rw [List.nil_append]
      cases pattern with
      | nil => rfl
      | cons c rest =>
          have whole := after?_eq_some_iff.mpr (List.append_nil (c :: rest)).symm
          rw [withoutFirst, whole]
  | cons c rest ih =>
      have later : ∀ before behind, rest ++ pattern = before ++ pattern ++ behind → behind = [] := by
        intro before behind same
        apply last (c :: before) behind
        rw [List.cons_append, same]
        rfl
      have here : after? pattern (c :: (rest ++ pattern)) = none := by
        cases found : after? pattern (c :: (rest ++ pattern)) with
        | none => rfl
        | some behind =>
            have same := after?_eq_some_iff.mp found
            have nothing := last [] behind same
            have length := congrArg List.length same
            rw [nothing, List.append_nil, List.length_cons, List.length_append] at length
            omega
      rw [List.cons_append, withoutFirst, here, ih later]

end Text

namespace Route

/-! ### Constructors that files are named for -/

def constructorOf (suffix name : Text) : Text :=
  Text.withoutFirst suffix (Path.absolute [name]).stem

theorem stem_concat (directory : Place) (name : Text) :
    (Path.absolute (directory ++ [name])).stem = (Path.absolute [name]).stem := by
  have last : (Path.absolute (directory ++ [name])).name = (Path.absolute [name]).name :=
    List.getLastD_concat
  unfold Path.stem
  rw [last]

theorem stem_of_cut {path : Path} {before behind : Text}
    (cut : Text.cutLast? '.' path.name = some (before, behind)) (some_ : before ≠ [])
    (extended : behind ≠ []) : path.stem = before := by
  unfold Path.stem
  rw [cut]
  simp [some_, extended]

theorem mem_of_mem_stem {path : Path} {c : Char} (present : c ∈ path.stem) : c ∈ path.name := by
  unfold Path.stem at present
  split at present
  · next before behind cut =>
      split at present
      · exact present
      · rw [Text.eq_append_of_cutLast? cut]
        exact List.mem_append_left _ present
  · exact present

theorem mem_of_mem_constructorOf {suffix name : Text} {c : Char}
    (present : c ∈ constructorOf suffix name) : c ∈ name :=
  mem_of_mem_stem (Text.mem_of_mem_withoutFirst present)

theorem nameFault?_constructorOf {name : Text} (suffix : Text)
    (named : Disk.nameFault? name = none) : Disk.nameFault? (constructorOf suffix name) = none :=
  Disk.nameFault?_eq_none_iff.mpr fun c held =>
    Disk.nameFault?_eq_none_iff.mp named c (mem_of_mem_constructorOf held)

/-- The suffix is at the end of a name and nowhere else in it, if there is one. -/
def IsLastIn (suffix name : Text) : Prop :=
  suffix = [] ∨ ∀ before behind, name ++ suffix = before ++ suffix ++ behind → behind = []

theorem isLastIn_of_not_mem {c : Char} {rest name : Text} (outside : c ∉ name)
    (once : c ∉ rest) : IsLastIn (c :: rest) name := by
  refine Or.inr fun before behind same => ?_
  rw [List.append_assoc, List.cons_append, List.append_cons_inj_of_notMem outside once] at same
  exact List.self_eq_append_right.mp same.2.2

theorem constructorOf_conventional {suffix name extension : Text} (some_ : name ≠ [])
    (last : IsLastIn suffix name) (extended : extension ≠ []) (plain : '.' ∉ extension) :
    constructorOf suffix (name ++ suffix ++ '.' :: extension) = name := by
  have stem : (Path.absolute [name ++ suffix ++ '.' :: extension]).stem = name ++ suffix :=
    stem_of_cut (Text.cutLast?_append _ plain) (List.append_ne_nil_of_left_ne_nil some_ suffix)
      extended
  unfold constructorOf
  rw [stem]
  rcases last with rfl | last
  · rw [List.append_nil, Text.withoutFirst_nil]
  · exact Text.withoutFirst_append last

theorem targetPlace_concat {suffix name : Text} {directory : Place}
    (inside : ∀ part ∈ directory, part ≠ "..".toList)
    (ordinary : Path.IsOrdinary (constructorOf suffix name)) :
    targetPlace suffix (directory ++ [name]) =
      if directory.getLast? = some (constructorOf suffix name) then directory
      else directory ++ [constructorOf suffix name] := by
  have bears : (Path.absolute directory).name = constructorOf suffix name ↔
      directory.getLast? = some (constructorOf suffix name) := by
    change directory.getLastD [] = _ ↔ _
    rw [List.getLastD_eq_getLast?]
    cases directory.getLast? with
    | none => simp [Ne.symm ordinary.1]
    | some last => simp
  unfold targetPlace targetOf
  rw [stem_concat, Path.parent_concat]
  change Path.normalParts (Path.parts (if (Path.absolute directory).name = constructorOf suffix name
    then _ else (Path.absolute directory).joinText (constructorOf suffix name))) = _
  by_cases same : directory.getLast? = some (constructorOf suffix name)
  · rw [if_pos (bears.mpr same), if_pos same]
    exact Path.normalParts_of_forward inside
  · rw [if_neg (mt bears.mp same), if_neg same,
      Path.joinText_component _ ordinary.2.2.2 ordinary.isComponent]
    apply Path.normalParts_of_forward
    exact List.forall_mem_append.mpr ⟨inside, List.forall_mem_singleton.mpr ordinary.2.2.1⟩

/-! ### Routes of a directory and of its entries -/

theorem between_concat_ne {root target : Place} {part : Text}
    (rootForward : ∀ other ∈ root, other ≠ "..".toList)
    (targetForward : ∀ other ∈ target, other ≠ "..".toList) (ordinary : Path.IsOrdinary part) :
    between (Path.absolute root) (Path.absolute target) ≠
      between (Path.absolute root) (Path.absolute (target ++ [part])) := by
  intro same
  -- Backslashes may be taken for slashes, but the two routes are of different lengths.
  have length : (Text.joined ['/'] (Path.relativeParts root target)).length =
      (Text.joined ['/'] (Path.relativeParts root (target ++ [part]))).length := by
    have replaced := congrArg List.length (List.cons.inj same).2
    unfold Text.replaced at replaced
    rw [List.length_map, List.length_map] at replaced
    exact replaced
  rcases Path.relativeParts_concat rootForward targetForward ordinary.2.2.1 with on | back
  · have longer := Text.length_joined_concat ['/'] ordinary.1 (Path.relativeParts root target)
    rw [on] at length
    omega
  · have dots : "..".toList ≠ [] := by decide
    have longer := Text.length_joined_cons ['/'] dots (Path.relativeParts root (target ++ [part]))
    rw [back] at length
    omega

theorem between_append {root below : Place} (rootForward : ∀ part ∈ root, part ≠ "..".toList)
    (forward : ∀ part ∈ below, part ≠ "..".toList) (plain : ∀ part ∈ below, '\\' ∉ part) :
    between (Path.absolute root) (Path.absolute (root ++ below)) =
      '/' :: Text.joined ['/'] below := by
  have way := Path.relativeParts_append rootForward forward
  have free : '\\' ∉ Text.joined ['/'] below := by
    intro present
    rcases Text.mem_joined present with between | ⟨part, inside, held⟩
    · revert between
      decide
    · exact plain part inside held
  unfold between
  change '/' :: Text.replaced '\\' '/'
    (Text.joined ['/'] (Path.relativeParts root (root ++ below))) = _
  rw [way, Text.replaced_of_not_mem free]

/-! ### Routes of files -/

section Files

variable {disk : Disk} {config : Config} {variant suffix : Text} {root : Path}

theorem exists_resolve_of_routeRoot {variant : Value}
    (rooted : config.routeRoot disk variant = .ok root) : ∃ path, disk.resolve path = .ok root := by
  unfold Config.routeRoot at rooted
  split at rooted
  · split at rooted
    · obtain ⟨path, _, resolves⟩ := bind_eq_ok_iff.mp rooted
      exact ⟨path, resolves⟩
    · split at rooted
      · obtain ⟨path, _, resolves⟩ := bind_eq_ok_iff.mp rooted
        exact ⟨path, resolves⟩
      · cases rooted
  · obtain ⟨_, _, none⟩ := bind_eq_ok_iff.mp rooted
    cases none

theorem exists_place_of_routeRoot (placed : ∀ part ∈ disk.here, Path.IsOrdinary part)
    {variant : Value} (rooted : config.routeRoot disk variant = .ok root) :
    ∃ place, root = Path.absolute place ∧ ∀ part ∈ place, part ≠ "..".toList := by
  obtain ⟨path, resolves⟩ := exists_resolve_of_routeRoot rooted
  exact ⟨_, Disk.eq_absolute_of_resolve resolves,
    Disk.forward_canonicalPlace path fun part present => (placed part present).2.2.1⟩

theorem ofFile_of_unrooted {variant : Value} {failure : Failure}
    (unrooted : config.routeRoot disk variant = .error failure) (file : Path) :
    ofFile disk config variant file = .error failure := by
  unfold ofFile
  rw [unrooted]
  rfl

/-- The route of a file in a directory, where no link is on the way to it. -/
theorem ofFile_entry (placed : ∀ part ∈ disk.here, Path.IsOrdinary part)
    (rooted : config.routeRoot disk (.str variant) = .ok root)
    (suffixed : suffixText? config.suffix = some suffix) {directory : Place} {name : Text}
    (inside : ∀ part ∈ directory, part ≠ "..".toList) (forward : name ≠ "..".toList)
    (ordinary : Path.IsOrdinary (constructorOf suffix name))
    (direct : disk.IsDirect (Path.absolute (directory ++ [name])))
    (named : Disk.nameFault? (Path.absolute (directory ++ [name])).text = none) :
    ofFile disk config (.str variant) (Path.absolute (directory ++ [name])) =
      .ok (between root (Path.absolute
        (if directory.getLast? = some (constructorOf suffix name) then directory
          else directory ++ [constructorOf suffix name]))) := by
  have place : disk.lexicalPlace (Path.absolute (directory ++ [name])) = directory ++ [name] :=
    Path.normalParts_of_forward
      (List.forall_mem_append.mpr ⟨inside, List.forall_mem_singleton.mpr forward⟩)
  rw [ofFile_of_direct placed rooted suffixed named direct, place,
    targetPlace_concat inside ordinary]

end Files

/--
The flat and the nested layout. A file in a directory and the file of the same name one directory
further, which bears the constructor's name, have the same route exactly when the first directory
does not bear that name itself, for every variant and all settings that give a route root. The
nested file always has the route of its directory; where the names are the same the flat file has
that of the first one. Without a route root neither has a route.
-/
theorem ofFile_flat_eq_nested_iff {disk : Disk} {config : Config} {variant suffix : Text}
    {directory : Place} {name : Text} (placed : ∀ part ∈ disk.here, Path.IsOrdinary part)
    (suffixed : suffixText? config.suffix = some suffix)
    (inside : ∀ part ∈ directory, Path.IsOrdinary part) (isName : Path.IsOrdinary name)
    (some_ : constructorOf suffix name ≠ []) (notDot : constructorOf suffix name ≠ ['.'])
    (forward : constructorOf suffix name ≠ "..".toList)
    (flatDirect : disk.IsDirect (Path.absolute (directory ++ [name])))
    (nestedDirect :
      disk.IsDirect (Path.absolute (directory ++ [constructorOf suffix name] ++ [name])))
    (named : Disk.nameFault? (Path.absolute (directory ++ [name])).text = none) :
    let entry := directory ++ [constructorOf suffix name]
    let route (file : Place) := ofFile disk config (.str variant) (Path.absolute file)
    (∀ root, config.routeRoot disk (.str variant) = .ok root →
      (route (directory ++ [name]) = route (entry ++ [name]) ↔
        directory.getLast? ≠ some (constructorOf suffix name)) ∧
      route (entry ++ [name]) = .ok (between root (Path.absolute entry)) ∧
      (directory.getLast? = some (constructorOf suffix name) →
        route (directory ++ [name]) = .ok (between root (Path.absolute directory)))) ∧
    ∀ failure, config.routeRoot disk (.str variant) = .error failure →
      route (directory ++ [name]) = .error failure ∧ route (entry ++ [name]) = .error failure := by
  intro entry route
  have ordinary : Path.IsOrdinary (constructorOf suffix name) :=
    ⟨some_, notDot, forward, fun held => isName.2.2.2 (mem_of_mem_constructorOf held)⟩
  have inDirectory : ∀ part ∈ directory, part ≠ "..".toList :=
    fun part present => (inside part present).2.2.1
  have inEntry : ∀ part ∈ entry, part ≠ "..".toList :=
    List.forall_mem_append.mpr ⟨inDirectory, List.forall_mem_singleton.mpr forward⟩
  have nestedNamed : Disk.nameFault? (Path.absolute (entry ++ [name])).text = none := by
    have each := Disk.nameFault?_text_eq_none_iff.mp named
    have isNamed := each name (List.mem_append_right directory List.mem_cons_self)
    apply Disk.nameFault?_text_eq_none_iff.mpr
    change ∀ part ∈ directory ++ [constructorOf suffix name] ++ [name], Disk.nameFault? part = none
    rw [List.forall_mem_append, List.forall_mem_append]
    exact ⟨⟨fun part present => each part (List.mem_append_left [name] present),
      List.forall_mem_singleton.mpr (nameFault?_constructorOf suffix isNamed)⟩,
      List.forall_mem_singleton.mpr isNamed⟩
  refine ⟨fun root rooted => ?_, fun failure unrooted => ?_⟩
  · obtain ⟨place, rfl, rootForward⟩ := exists_place_of_routeRoot placed rooted
    have flat : route (directory ++ [name]) = _ :=
      ofFile_entry placed rooted suffixed inDirectory isName.2.2.1 ordinary flatDirect named
    have nested : route (entry ++ [name]) = _ :=
      ofFile_entry placed rooted suffixed inEntry isName.2.2.1 ordinary nestedDirect nestedNamed
    rw [if_pos List.getLast?_concat] at nested
    refine ⟨?_, nested, fun bears => by rw [flat, if_pos bears]⟩
    rw [flat, nested]
    by_cases bears : directory.getLast? = some (constructorOf suffix name)
    · rw [if_pos bears]
      exact ⟨fun same => absurd (Except.ok.inj same)
        (between_concat_ne rootForward inDirectory ordinary), fun differs => absurd bears differs⟩
    · rw [if_neg bears]
      exact ⟨fun _ => bears, fun _ => rfl⟩
  · exact ⟨ofFile_of_unrooted unrooted _, ofFile_of_unrooted unrooted _⟩

/-- In a directory of the constructor's name the flat file and the nested one have two routes. -/
theorem ofFile_flat_eq_nested_iff_bearing :
    constructorOf "_ctrl".toList "a_ctrl.py".toList = "a".toList ∧
      ofFile besideDisk suffixedConfig (.str "src".toList)
          (Path.absolute ["proj".toList, "a".toList, "a_ctrl.py".toList]) =
        .ok "/../../a".toList ∧
      ofFile besideDisk suffixedConfig (.str "src".toList)
          (Path.absolute ["proj".toList, "a".toList, "a".toList, "a_ctrl.py".toList]) =
        .ok "/../../a/a".toList ∧
      ofFile besideDisk suffixedConfig (.str "src".toList)
          (Path.absolute ["proj".toList, "a_ctrl.py".toList]) =
        .ok "/../../a".toList := by
  have each (directory : Place) (inside : ∀ part ∈ directory, Path.IsOrdinary part)
      (named : Disk.nameFault? (Path.absolute (directory ++ ["a_ctrl.py".toList])).text = none) :=
    (@ofFile_flat_eq_nested_iff besideDisk suffixedConfig "src".toList "_ctrl".toList directory
      "a_ctrl.py".toList (by decide) rfl inside (by decide) (by decide) (by decide) (by decide)
      (isDirect_besideDisk _) (isDirect_besideDisk _) named).1 _ routeRoot_suffixedConfig
  have bearing := each ["proj".toList, "a".toList] (by decide) (by decide)
  have bare := each ["proj".toList] (by decide) (by decide)
  exact ⟨by decide, bearing.2.2 (by decide), bearing.2.1, (bare.1.mpr (by decide)).trans bare.2.1⟩

/--
A file named for a constructor, with the suffix and an extension behind it, in a directory at or
below the route root has the route of that directory, continued by the constructor unless the
directory bears its name, which may be the route root's own.
-/
theorem ofFile_conventional {disk : Disk} {config : Config} {variant suffix : Text} {root : Path}
    {below : Place} {name extension : Text} (placed : ∀ part ∈ disk.here, Path.IsOrdinary part)
    (rooted : config.routeRoot disk (.str variant) = .ok root)
    (suffixed : suffixText? config.suffix = some suffix)
    (inside : ∀ part ∈ below, Path.IsOrdinary part ∧ '\\' ∉ part)
    (ordinary : Path.IsOrdinary name) (plain : '\\' ∉ name) (last : IsLastIn suffix name)
    (extended : extension ≠ []) (dotless : '.' ∉ extension)
    (direct : disk.IsDirect
      (Path.absolute (root.parts ++ below ++ [name ++ suffix ++ '.' :: extension]))) :
    let file := Path.absolute (root.parts ++ below ++ [name ++ suffix ++ '.' :: extension])
    let route := '/' :: Text.joined ['/']
      (if (root.parts ++ below).getLast? = some name then below else below ++ [name])
    (Disk.nameFault? file.text = none → ofFile disk config (.str variant) file = .ok route) ∧
      ∀ other, ofFile disk config (.str variant) file = .ok other → other = route := by
  intro file route
  obtain ⟨place, rfl, rootForward⟩ := exists_place_of_routeRoot placed rooted
  have constructed := constructorOf_conventional ordinary.1 last extended dotless
  have belowForward : ∀ part ∈ below, part ≠ "..".toList :=
    fun part present => (inside part present).1.2.2.1
  have forward : name ++ suffix ++ '.' :: extension ≠ "..".toList := by
    intro same
    have length := congrArg List.length same
    rw [List.length_append, List.length_append, List.length_cons] at length
    have long := List.length_pos_iff.mpr ordinary.1
    have extendedLong := List.length_pos_iff.mpr extended
    change _ = 2 at length
    omega
  have found (named : Disk.nameFault? file.text = none) :
      ofFile disk config (.str variant) file = .ok route := by
    have entry := ofFile_entry placed rooted suffixed
      (List.forall_mem_append.mpr ⟨rootForward, belowForward⟩) forward (constructed.symm ▸ ordinary)
      direct named
    rw [constructed] at entry
    refine entry.trans (congrArg Except.ok ?_)
    change _ = '/' :: Text.joined ['/']
      (if (place ++ below).getLast? = some name then below else below ++ [name])
    by_cases bears : (place ++ below).getLast? = some name
    · rw [if_pos bears, if_pos bears]
      exact between_append rootForward belowForward fun part present => (inside part present).2
    · rw [if_neg bears, if_neg bears, List.append_assoc]
      apply between_append rootForward
      · exact List.forall_mem_append.mpr
          ⟨belowForward, List.forall_mem_singleton.mpr ordinary.2.2.1⟩
      · exact List.forall_mem_append.mpr
          ⟨fun part present => (inside part present).2, List.forall_mem_singleton.mpr plain⟩
  exact ⟨found, fun other given => Except.ok.inj
    (given.symm.trans (found (nameFault?_of_ofFile given)))⟩

def dottedConfig : Config :=
  .ofEntries (.absolute ["proj".toList])
    [(.str "routeSrcRoot".toList, .str "api".toList),
      (.str "suffix".toList, .str ".controller".toList)]

/-- A suffix that begins with a dot, in a directory of another name and in the route root. -/
theorem ofFile_conventional_dotted :
    ofFile besideDisk dottedConfig (.str "src".toList)
        (Path.absolute ["proj".toList, "api".toList, "v1".toList, "user.controller.py".toList]) =
      .ok "/v1/user".toList ∧
    ofFile besideDisk dottedConfig (.str "src".toList)
        (Path.absolute ["proj".toList, "api".toList, "api.controller.py".toList]) =
      .ok "/".toList := by
  have rooted : dottedConfig.routeRoot besideDisk (.str "src".toList) =
      .ok (Path.absolute ["proj".toList, "api".toList]) := by
    cbv
  have each (below : Place) (name : Text)
      (inside : ∀ part ∈ below, Path.IsOrdinary part ∧ '\\' ∉ part)
      (ordinary : Path.IsOrdinary name) (plain : '\\' ∉ name) (undotted : '.' ∉ name) :=
    @ofFile_conventional besideDisk dottedConfig "src".toList ".controller".toList _ below name
      "py".toList (by decide) rooted rfl inside ordinary plain
      (isLastIn_of_not_mem undotted (by decide)) (by decide) (by decide) (isDirect_besideDisk _)
  exact ⟨(each ["v1".toList] "user".toList (by decide) (by decide) (by decide) (by decide)).1
      (by decide),
    (each [] "api".toList (by decide) (by decide) (by decide) (by decide)).1 (by decide)⟩

end Route

end ControllerClient
