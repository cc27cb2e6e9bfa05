import ControllerClient.Proofs.Finder.Refusal
import ControllerClient.Proofs.Module.Importing

/-!
What is asked for modules: the finders, newest first, and behind them the importers that a
program begins with. The newest finder that owns a name decides about it, and nothing behind
that finder is asked.
-/

namespace ControllerClient

namespace Modules

/-- A finder with its number, or an importer that was there before all finders. -/
inductive PathEntry where
  | installed (entry : Nat × Finder)
  | original (importer : Importer)

def PathEntry.answer (disk : Disk) (name : Text) : PathEntry → Except Failure (Option Module)
  | .installed entry => do
    match ← entry.2.locate disk name with
    | some location => (runLocation entry.2 disk location).map some
    | none => .ok none
  | .original importer => importer disk name

/-- All that can be asked for a module, in the order in which it is asked. -/
def path (modules : Modules) : List PathEntry :=
  modules.installed.map .installed ++ modules.original.map .original

/--
Asks one entry after the other, until one does not leave the name to those behind it. Gives the
entries that were asked and what came of it.
-/
def consult (disk : Disk) (name : Text) : List PathEntry → List PathEntry × Except Failure Module
  | [] => ([], .error (.noModule name none))
  | entry :: later =>
    match entry.answer disk name with
    | .ok none => (entry :: (consult disk name later).1, (consult disk name later).2)
    | .ok (some module) => ([entry], .ok module)
    | .error failure => ([entry], .error failure)

section Asking

variable {modules : Modules} {disk : Disk} {name : Text}

theorem consult_of_answer {entry : PathEntry} {outcome : Except Failure Module}
    (answers : entry.answer disk name = outcome.map some) (later : List PathEntry) :
    consult disk name (entry :: later) = ([entry], outcome) := by
  rw [consult, answers]
  cases outcome with
  | error failure => rfl
  | ok module => rfl

theorem answer_of_located {entry : Nat × Finder} {location : Location}
    (located : entry.2.locate disk name = .ok (some location)) :
    (PathEntry.installed entry).answer disk name =
      (runLocation entry.2 disk location).map some := by
  rw [PathEntry.answer, located]
  rfl

theorem answer_of_declined {entry : Nat × Finder}
    (declined : entry.2.locate disk name = .ok none) :
    (PathEntry.installed entry).answer disk name = .ok none := by
  rw [PathEntry.answer, declined]
  rfl

theorem answer_of_failed {entry : Nat × Finder} {failure : Failure}
    (fails : entry.2.locate disk name = .error failure) :
    (PathEntry.installed entry).answer disk name = (Except.error failure).map some := by
  rw [PathEntry.answer, fails]
  rfl

theorem findAmong_eq_consult (importers : List Importer) :
    findAmong disk name importers = (consult disk name (importers.map .original)).2 := by
  induction importers with
  | nil => rfl
  | cons importer later ih =>
      rw [findAmong, List.map_cons, consult, PathEntry.answer]
      cases importer disk name with
      | error failure => rfl
      | ok module =>
          cases module with
          | none => exact ih
          | some module => rfl

/-- A name is imported as the entries of the path, asked in their order, have it. -/
theorem find_eq_consult (modules : Modules) (disk : Disk) (name : Text) :
    modules.find disk name = (consult disk name modules.path).2 := by
  unfold find path
  induction modules.installed with
  | nil => exact findAmong_eq_consult modules.original
  | cons entry later ih =>
      obtain ⟨number, finder⟩ := entry
      rw [locateIn, List.map_cons, List.cons_append]
      cases located : finder.locate disk name with
      | error failure =>
          rw [consult_of_answer (answer_of_failed located)]
          rfl
      | ok location =>
          cases location with
          | none =>
              rw [consult, answer_of_declined located]
              exact ih
          | some location =>
              rw [consult_of_answer (answer_of_located located)]
              rfl

theorem consult_append {front : List PathEntry}
    (declines : ∀ entry ∈ front, entry.answer disk name = .ok none) (back : List PathEntry) :
    consult disk name (front ++ back) =
      (front ++ (consult disk name back).1, (consult disk name back).2) := by
  induction front with
  | nil => rfl
  | cons entry front ih =>
      obtain ⟨first, others⟩ := List.forall_mem_cons.mp declines
      rw [List.cons_append, consult, first]
      dsimp only
      rw [ih others]
      rfl

theorem answer_of_unowned {entry : Nat × Finder} (unowned : entry.2.owns name = .ok false) :
    (PathEntry.installed entry).answer disk name = .ok none := by
  apply answer_of_declined
  unfold Finder.locate
  rw [unowned]
  rfl

/--
What comes of a name that a finder owns: what the finder locates is imported, or else the finder
ends the import. It refuses the name, unless its search for longer names fails.
-/
def DecidedBy (finder : Finder) (disk : Disk) (name : Text) (outcome : Except Failure Module) :
    Prop :=
  (∃ location, finder.locate disk name = .ok (some location) ∧
      outcome = runLocation finder disk location) ∨
    ∃ failure, finder.locate disk name = .error failure ∧ outcome = .error failure ∧
      (failure = .unresolvableModule name finder.searchRoot.text ∨
        ¬ Finder.IsSearchable name ∧ Pattern.IsPatternFailure failure)

theorem consult_of_owned (disk : Disk) {entry : Nat × Finder}
    (owned : entry.2.owns name = .ok true) (later : List PathEntry) :
    ∃ outcome, consult disk name (.installed entry :: later) = ([.installed entry], outcome) ∧
      DecidedBy entry.2 disk name outcome := by
  rcases Finder.locates_or_fails disk owned with ⟨location, located⟩ | ⟨failure, fails⟩
  · exact ⟨runLocation entry.2 disk location,
      consult_of_answer (answer_of_located located) later, Or.inl ⟨location, located, rfl⟩⟩
  · exact ⟨.error failure, consult_of_answer (answer_of_failed fails) later,
      Or.inr ⟨failure, fails, rfl, Finder.failure_of_locate owned fails⟩⟩

theorem consult_of_newest (disk : Disk) {newer : List (Nat × Finder)} {entry : Nat × Finder}
    (declines : ∀ front ∈ newer, front.2.owns name = .ok false)
    (owned : entry.2.owns name = .ok true) (older : List (Nat × Finder))
    (importers : List PathEntry) :
    ∃ outcome, consult disk name ((newer ++ entry :: older).map .installed ++ importers) =
        ((newer ++ [entry]).map .installed, outcome) ∧
      DecidedBy entry.2 disk name outcome := by
  obtain ⟨outcome, asked, decided⟩ :=
    consult_of_owned disk owned (older.map .installed ++ importers)
  refine ⟨outcome, ?_, decided⟩
  have passed : ∀ front ∈ newer.map PathEntry.installed, front.answer disk name = .ok none := by
    intro front present
    obtain ⟨other, inNewer, rfl⟩ := List.mem_map.mp present
    exact answer_of_unowned (declines other inNewer)
  rw [List.map_append, List.append_assoc, consult_append passed, List.map_cons, List.cons_append,
    asked, List.map_append]
  rfl

end Asking

section Imports

variable {modules : Modules} {disk : Disk} {name : Text}

theorem exists_load (modules : Modules) (disk : Disk) (name : Text) (parents : List Text) :
    ∃ loaded, (modules.load disk name parents).1 = { modules with loaded } := by
  unfold load
  split
  · exact ⟨modules.loaded, rfl⟩
  · exact ⟨_, rfl⟩

theorem exists_loadChain (modules : Modules) (disk : Disk) (names : List Text) :
    ∃ loaded, (modules.loadChain disk names).1 = { modules with loaded } := by
  induction names with
  | nil => exact ⟨modules.loaded, rfl⟩
  | cons name parents ih =>
      cases found : modules.loaded.lookup name with
      | some module =>
          rw [loadChain, found]
          exact ⟨modules.loaded, rfl⟩
      | none =>
          obtain ⟨loaded, same⟩ := ih
          rw [loadChain_of_unloaded found]
          cases imports : modules.loadChain disk parents with
          | mk after outcome =>
              rw [imports] at same
              obtain rfl : after = { modules with loaded } := same
              cases outcome with
              | error failure => exact ⟨loaded, rfl⟩
              | ok outcome =>
                  obtain ⟨later, next⟩ := exists_load { modules with loaded } disk name parents
                  exact ⟨later, next⟩

theorem exists_importName (modules : Modules) (disk : Disk) (name : Text) :
    ∃ loaded, (modules.importName disk name).1 = { modules with loaded } := by
  obtain ⟨loaded, same⟩ := exists_loadChain modules disk (chainOf name)
  unfold importName
  split
  · exact ⟨modules.loaded, rfl⟩
  · exact ⟨modules.loaded, rfl⟩
  · split
    · next imports =>
        rw [imports] at same
        exact ⟨loaded, same⟩
    · next imports =>
        rw [imports] at same
        exact ⟨loaded, same⟩
    · next imports =>
        rw [imports] at same
        exact ⟨loaded, same⟩

theorem chainOf_eq_cons (name : Text) : chainOf name = name :: (chainOf name).tail := by
  have some_ : Text.pieces '.' name ≠ [] := Text.pieces_ne_nil '.' name
  obtain ⟨count, length⟩ : ∃ count, (Text.pieces '.' name).length = count + 1 :=
    Nat.exists_eq_succ_of_ne_zero (mt List.length_eq_zero_iff.mp some_)
  have first : Text.joined ['.'] ((Text.pieces '.' name).take (count + 1)) = name := by
    rw [← length, List.take_length, Text.joined_pieces]
  unfold chainOf
  dsimp only
  rw [length, List.range_succ, List.reverse_append, List.reverse_singleton, List.singleton_append,
    List.map_cons, first, List.tail_cons]

/--
An import comes to what is asked for modules: the name is not imported, the names above it are,
and a module can stand below the last of them.
-/
def Asks (modules : Modules) (disk : Disk) (name : Text) : Prop :=
  modules.loaded.lookup name = none ∧ IsAbsolute name ∧
    ∃ above outcome, modules.loadChain disk (chainOf name).tail = (above, .ok outcome) ∧
      above.checkParent name (chainOf name).tail = .ok ()

/-- Whatever is imported above a name, the path that is asked for it is the one of the beginning. -/
theorem importName_of_asks (asks : modules.Asks disk name) :
    (modules.importName disk name).2 = (consult disk name modules.path).2 := by
  obtain ⟨unloaded, absolute, above, outcome, imports, passes⟩ := asks
  obtain ⟨loaded, same⟩ := exists_loadChain modules disk (chainOf name).tail
  rw [imports] at same
  obtain rfl : above = { modules with loaded } := same
  have finds := find_eq_consult { modules with loaded } disk name
  rw [importName_of_unloaded (chainOf_eq_cons name) unloaded absolute, imports]
  dsimp only
  unfold load
  rw [passes, finds]
  change _ = (consult disk name (path { modules with loaded })).2
  cases (consult disk name (path { modules with loaded })).2 with
  | error failure => rfl
  | ok module => rfl

theorem importName_alias {finder : Finder} {number : Nat} {others : List (Nat × Finder)}
    {aliasName : Text} (front : modules.installed = (number, finder) :: others)
    (aliased : finder.aliasName = .str aliasName) (dotless : '.' ∉ aliasName)
    (some_ : aliasName ≠ []) (unloaded : modules.loaded.lookup aliasName = none) (disk : Disk) :
    modules.importName disk aliasName =
      ({ modules with
        loaded := Table.insert modules.loaded aliasName (.package finder.searchRoot) },
        .ok (.package finder.searchRoot)) := by
  have chain : chainOf aliasName = [aliasName] := chainOf_nameOf dotless (List.forall_mem_nil _)
  have absolute : IsAbsolute aliasName := isAbsolute_nameOf dotless some_ []
  have finds : modules.find disk aliasName = .ok (.package finder.searchRoot) :=
    (find_eq_ok_iff front (Finder.owns_alias aliased)).mpr
      ⟨_, Finder.locate_alias aliased dotless disk, rfl⟩
  rw [importName_of_unloaded chain unloaded absolute]
  exact load_eq_ok_iff.mpr ⟨rfl, finds, rfl⟩

end Imports

end Modules

end ControllerClient
