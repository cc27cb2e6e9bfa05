import ControllerClient.Proofs.Controller.Endpoints

/-!
The prefixes of controllers. The first call among a class's decorators that is made for
it decides alone, by what stands in front of its arguments and by their names. Only for a
prefix that is left to the place of the file are settings looked up.
-/

namespace ControllerClient.Controller

open Source

def IsKeyOf (text : Text) (entries : List (Option Expr × Expr)) : Prop :=
  ∃ value, (some (.constant (.text text)), value) ∈ entries

def IsNamedIn (name : Text) (arguments : List Argument) : Prop :=
  ∃ value, .keyword name value ∈ arguments

inductive IsDecisive : Expr → Prop where
  | text (content : Text) : IsDecisive (.constant (.text content))
  | dict (entries : List (Option Expr × Expr)) : IsDecisive (.dict entries)

/-- Nothing that decides the prefix stands in front of the arguments. -/
def IsUndecided (arguments : List Argument) : Prop :=
  ∀ value, firstPositional? arguments = some value → ¬ IsDecisive value

/-- The prefix that the arguments of a call ask for. -/
inductive AsksForPrefix (arguments : List Argument) : RoutePrefix → Prop where
  | literal {text : Text} (front : firstPositional? arguments = some (.constant (.text text))) :
      AsksForPrefix arguments (.written text)
  | keyed {entries : List (Option Expr × Expr)}
      (front : firstPositional? arguments = some (.dict entries))
      (has : IsKeyOf "path".toList entries) : AsksForPrefix arguments (.written "path".toList)
  | unkeyed {entries : List (Option Expr × Expr)}
      (front : firstPositional? arguments = some (.dict entries))
      (lacks : ¬ IsKeyOf "path".toList entries) : AsksForPrefix arguments (.written [])
  | named (undecided : IsUndecided arguments) (has : IsNamedIn "path".toList arguments) :
      AsksForPrefix arguments (.written "path".toList)
  | location (front : firstPositional? arguments = some (.name "__file__".toList))
      (lacks : ¬ IsNamedIn "path".toList arguments) : AsksForPrefix arguments .ofLocation
  | nothing (undecided : IsUndecided arguments) (lacks : ¬ IsNamedIn "path".toList arguments)
      (elsewhere : firstPositional? arguments ≠ some (.name "__file__".toList)) :
      AsksForPrefix arguments (.written [])

/-- The prefix that the decorators of a class ask for: the first call that is made for it counts. -/
inductive Prefixes (decorators : List Expr) : RoutePrefix → Prop where
  | unasked (none : ∀ decorator ∈ decorators, ¬ IsPrefixCall decorator) :
      Prefixes decorators (.written [])
  | asked {decorator : Expr} {arguments : List Argument} {routePrefix : RoutePrefix}
      (first : IsFirst IsPrefixCall decorator decorators)
      (calls : Calls prefixDecorator arguments decorator)
      (asks : AsksForPrefix arguments routePrefix) : Prefixes decorators routePrefix

section Calls

variable {arguments : List Argument} {decorator : Expr} {routePrefix : RoutePrefix}

theorem hasPathKey_iff (entries : List (Option Expr × Expr)) :
    hasPathKey entries = true ↔ IsKeyOf "path".toList entries := by
  unfold hasPathKey
  rw [List.any_eq_true]
  constructor
  · rintro ⟨⟨key, value⟩, present, isPath⟩
    obtain ⟨written, rfl, literal⟩ := Option.bind_eq_some_iff.mp (of_decide_eq_true isPath)
    rw [literal?_eq_some_iff.mp literal] at present
    exact ⟨value, present⟩
  · rintro ⟨value, present⟩
    exact ⟨_, present, rfl⟩

theorem hasPathName_iff (arguments : List Argument) :
    hasPathName arguments = true ↔ IsNamedIn "path".toList arguments := by
  unfold hasPathName
  rw [List.any_eq_true]
  constructor
  · rintro ⟨argument, present, isPath⟩
    cases argument with
    | keyword name value =>
        have same : name = pathOption := of_decide_eq_true isPath
        rw [same] at present
        exact ⟨value, present⟩
    | _ => cases isPath
  · rintro ⟨value, present⟩
    exact ⟨_, present, rfl⟩

theorem prefixOf_literal {text : Text} (calls : Calls prefixDecorator arguments decorator)
    (front : firstPositional? arguments = some (.constant (.text text))) :
    prefixOf decorator = .written text := by
  unfold prefixOf
  rw [calls.firstArgument?_eq, front]
  rfl

theorem prefixOf_dict {entries : List (Option Expr × Expr)}
    (calls : Calls prefixDecorator arguments decorator)
    (front : firstPositional? arguments = some (.dict entries)) :
    prefixOf decorator = .written (if hasPathKey entries then pathOption else []) := by
  unfold prefixOf hasPathOption
  rw [calls.firstArgument?_eq, front]
  dsimp only [Option.bind_some, literal?]
  split
  · rfl
  · rfl

theorem IsUndecided.bind_literal? (undecided : IsUndecided arguments) :
    (firstPositional? arguments).bind literal? = none :=
  bind_literal?_eq_none fun text front => undecided _ front (.text text)

/-- Where nothing in front decides, the names of the arguments count. -/
theorem IsUndecided.hasPathOption_eq (undecided : IsUndecided arguments)
    (calls : Calls prefixDecorator arguments decorator) :
    hasPathOption decorator = hasPathName arguments := by
  unfold hasPathOption
  rw [calls.firstArgument?_eq, calls.argumentsOf_eq]
  split
  · next entries front => exact absurd (.dict entries) (undecided _ front)
  · rfl

theorem prefixOf_of_asks (calls : Calls prefixDecorator arguments decorator)
    (asks : AsksForPrefix arguments routePrefix) : prefixOf decorator = routePrefix := by
  cases asks with
  | literal front => exact prefixOf_literal calls front
  | keyed front has => rw [prefixOf_dict calls front, if_pos ((hasPathKey_iff _).mpr has)]; rfl
  | unkeyed front lacks => rw [prefixOf_dict calls front, if_neg (mt (hasPathKey_iff _).mp lacks)]
  | named undecided has =>
      have isPath := (hasPathName_iff arguments).mpr has
      unfold prefixOf
      rw [calls.firstArgument?_eq, undecided.bind_literal?, undecided.hasPathOption_eq calls]
      dsimp only
      rw [if_pos isPath]
      rfl
  | location front lacks =>
      have undecided : IsUndecided arguments := by
        intro value there
        rw [front] at there
        cases there
        intro decisive
        cases decisive
      have noPath := mt (hasPathName_iff arguments).mp lacks
      unfold prefixOf
      rw [calls.firstArgument?_eq, undecided.bind_literal?, undecided.hasPathOption_eq calls]
      dsimp only
      rw [if_neg noPath, front]
      rfl
  | nothing undecided lacks elsewhere =>
      have noPath := mt (hasPathName_iff arguments).mp lacks
      unfold prefixOf
      rw [calls.firstArgument?_eq, undecided.bind_literal?, undecided.hasPathOption_eq calls]
      dsimp only
      rw [if_neg noPath]
      split
      · next id front =>
          have differs : id ≠ fileName := by
            rintro rfl
            exact elsewhere front
          exact if_neg differs
      · rfl

theorem exists_asks (arguments : List Argument) :
    ∃ routePrefix, AsksForPrefix arguments routePrefix := by
  by_cases undecided : IsUndecided arguments
  · by_cases has : IsNamedIn "path".toList arguments
    · exact ⟨_, .named undecided has⟩
    · by_cases front : firstPositional? arguments = some (.name "__file__".toList)
      · exact ⟨_, .location front has⟩
      · exact ⟨_, .nothing undecided has front⟩
  · obtain ⟨value, decided⟩ := not_forall.mp undecided
    obtain ⟨front, decisive⟩ := Classical.not_imp.mp decided
    cases not_not.mp decisive with
    | text content => exact ⟨_, .literal front⟩
    | dict entries =>
        by_cases has : IsKeyOf "path".toList entries
        · exact ⟨_, .keyed front has⟩
        · exact ⟨_, .unkeyed front has⟩

end Calls

/-- A class has one prefix, which its decorators ask for. -/
theorem prefixes_iff {decorators : List Expr} {routePrefix : RoutePrefix} :
    Prefixes decorators routePrefix ↔ routePrefix = classPrefix decorators := by
  have sound {routePrefix : RoutePrefix} (prefixes : Prefixes decorators routePrefix) :
      classPrefix decorators = routePrefix := by
    cases prefixes with
    | unasked none => exact classPrefix_of_forall_not none
    | asked first calls asks =>
        rw [classPrefix_of_isFirst first]
        exact prefixOf_of_asks calls asks
  constructor
  · intro prefixes
    exact (sound prefixes).symm
  · rintro rfl
    rcases forall_not_or_isFirst IsPrefixCall decorators with none | ⟨decorator, first⟩
    · rw [classPrefix_of_forall_not none]
      exact .unasked none
    · obtain ⟨_, _, _, ⟨arguments, calls⟩, _⟩ := id first
      obtain ⟨routePrefix, asks⟩ := exists_asks arguments
      have prefixes : Prefixes decorators routePrefix := .asked first calls asks
      rw [sound prefixes]
      exact prefixes

section Literals

variable {level : Level} {literals : List StringLiteral} {text : Text}

def IsTextual (literals : List StringLiteral) : Prop :=
  ∀ literal ∈ literals, literal.kind.bytes = false ∧ literal.kind.formatted = false

theorem isTextual_of_joinedLiterals
    (reads : level.joinedLiterals literals = some (.constant (.text text))) :
    IsTextual literals := by
  unfold Level.joinedLiterals at reads
  split at reads
  · obtain ⟨contents, _, same⟩ := Option.bind_eq_some_iff.mp reads
    cases same
  · split at reads
    · cases reads
    · next noOctets =>
        split at reads
        · obtain ⟨parts, _, same⟩ := Option.bind_eq_some_iff.mp reads
          cases same
        · next noFields =>
            intro literal present
            constructor
            · exact Bool.eq_false_iff.mpr fun here =>
                noOctets (List.any_eq_true.mpr ⟨literal, present, here⟩)
            · exact Bool.eq_false_iff.mpr fun here =>
                noFields (List.any_eq_true.mpr ⟨literal, present, here⟩)

theorem joinedLiterals_of_isTextual (some_ : literals ≠ []) (textual : IsTextual literals) :
    level.joinedLiterals literals =
      (literals.mapM fun literal => Literal.text? literal.kind.raw literal.body).bind
        fun texts => some (.constant (.text texts.flatten)) := by
  have lacks {has : StringLiteral → Bool} (each : ∀ literal ∈ literals, has literal = false) :
      ¬ literals.any has = true := by
    rw [List.any_eq_true]
    rintro ⟨literal, present, here⟩
    rw [each literal present] at here
    cases here
  have notAll : ¬ literals.all (·.kind.bytes) = true := by
    obtain ⟨first, later, rfl⟩ := List.exists_cons_of_ne_nil some_
    intro octets
    have here := List.all_eq_true.mp octets first List.mem_cons_self
    rw [(textual first List.mem_cons_self).1] at here
    cases here
  unfold Level.joinedLiterals
  rw [if_neg notAll, if_neg (lacks fun literal present => (textual literal present).1),
    if_neg (lacks fun literal present => (textual literal present).2)]
  rfl

/--
A row of string literals stands for the texts of all of them, one after the other, and for no text
if one of them is of octets or has fields.
-/
theorem joinedLiterals_eq_text_iff (some_ : literals ≠ []) :
    level.joinedLiterals literals = some (.constant (.text text)) ↔
      (∀ literal ∈ literals, literal.kind.bytes = false ∧ literal.kind.formatted = false) ∧
        ∃ texts, literals.mapM (fun literal => Literal.text? literal.kind.raw literal.body) =
          some texts ∧ texts.flatten = text := by
  constructor
  · intro reads
    have textual := isTextual_of_joinedLiterals reads
    rw [joinedLiterals_of_isTextual some_ textual] at reads
    obtain ⟨texts, read, same⟩ := Option.bind_eq_some_iff.mp reads
    cases same
    exact ⟨textual, texts, read, rfl⟩
  · rintro ⟨textual, texts, read, rfl⟩
    rw [joinedLiterals_of_isTextual some_ textual, read]
    rfl

end Literals

theorem prefixOf_some (controller : Controller) (workspace : Workspace) (file : Text)
    (config : Config) :
    workspace.prefixOf controller file (some config) =
      (workspace, controller.prefixAt workspace.disk config file) := by
  unfold Workspace.prefixOf prefixAt
  cases controller.routePrefix with
  | written text => rfl
  | ofLocation => rfl

/--
The prefix of any class. The first of its decorators that is a call for a prefix decides, and
without such a call the prefix is empty. A literal in front of the arguments is the prefix itself,
be it a row of literals with escapes, but not of octets or with fields. A dictionary in front gives
the name of the option if this is one of its keys, and anything else in front if an argument has
that name. Else the name of the file leaves the prefix to the place of the file, and this is the
only case in which settings are looked up or anything can fail. All else gives the empty prefix.
Descriptions and clients have the same prefix.
-/
theorem prefix_ofClass (found : ClassSource) :
    (∀ routePrefix, Prefixes found.decorators routePrefix ↔
      routePrefix = (ofClass found).routePrefix) ∧
    (∀ text, Prefixes found.decorators (.written text) →
      ∀ (workspace : Workspace) (file : Text) (config : Option Config),
        workspace.prefixOf (ofClass found) file config = (workspace, .ok text)) ∧
    (Prefixes found.decorators .ofLocation →
      ∀ (workspace : Workspace) (file : Text) (config : Option Config),
        workspace.prefixOf (ofClass found) file config =
          workspace.routeOf (.str "src".toList) (Path.ofText file) config) ∧
    (∀ (workspace : Workspace) (file : Text) (config : Config),
      workspace.prefixOf (ofClass found) file (some config) =
        (workspace, (ofClass found).prefixAt workspace.disk config file)) ∧
    ∀ (level : Level) (literals : List StringLiteral) (text : Text), literals ≠ [] →
      (level.joinedLiterals literals = some (.constant (.text text)) ↔
        (∀ literal ∈ literals, literal.kind.bytes = false ∧ literal.kind.formatted = false) ∧
          ∃ texts, literals.mapM (fun literal => Literal.text? literal.kind.raw literal.body) =
            some texts ∧ texts.flatten = text) := by
  have own {routePrefix : RoutePrefix} (prefixes : Prefixes found.decorators routePrefix) :
      (ofClass found).routePrefix = routePrefix := (prefixes_iff.mp prefixes).symm
  refine ⟨fun routePrefix => prefixes_iff, ?_, ?_, prefixOf_some (ofClass found), ?_⟩
  · intro text prefixes workspace file config
    unfold Workspace.prefixOf
    rw [own prefixes]
  · intro prefixes workspace file config
    unfold Workspace.prefixOf
    rw [own prefixes]
  · intro level literals text some_
    exact joinedLiterals_eq_text_iff some_

/-- Neither the name of an argument behind a dictionary counts nor a second call. -/
example :
    classPrefix
      [.call (.name "Controller".toList)
        [.positional (.dict [(none, .name "defaults".toList)]),
          .keyword "path".toList (.constant (.text "/a".toList))],
        .call (.name "Controller".toList) [.positional (.constant (.text "/b".toList))]] =
      .written [] := rfl

end ControllerClient.Controller
