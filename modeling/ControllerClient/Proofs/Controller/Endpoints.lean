import ControllerClient.Proofs.Controller.Routes
import ControllerClient.Proofs.Controller.Skeleton

/-!
The endpoints of a class. They have the names of its methods, in the order in which
these are first defined, but for names that begin and end with two low lines. What an
endpoint is comes from the decorators of the last definition of its name alone.
-/

namespace ControllerClient

namespace Table

variable {α : Type}

theorem names_ofList_concat (entries : List (Text × α)) (name : Text) (meaning : α) :
    (ofList (entries ++ [(name, meaning)])).map (·.1) =
      if name ∈ (ofList entries).map (·.1) then (ofList entries).map (·.1)
      else (ofList entries).map (·.1) ++ [name] := by
  unfold ofList
  rw [List.foldl_append]
  exact names_insert _ name meaning

end Table

namespace Controller

open Source

def IsSpecial (name : Text) : Prop := "__".toList <+: name ∧ "__".toList <:+ name

theorem isSpecialName_iff (name : Text) : isSpecialName name = true ↔ IsSpecial name := by
  unfold isSpecialName IsSpecial
  rw [Bool.and_eq_true, Text.isSome_after?_iff, Text.isSome_after?_iff]
  exact and_congr_right fun _ => @List.reverse_prefix _ "__".toList name

def IsDefined (body : List Stmt) (name : Text) : Prop :=
  ∃ member ∈ body, ∃ decorators, Defines name decorators member

/-- The first definition of a name stands in front of all definitions of another. -/
def IsDefinedBefore (body : List Stmt) (name later : Text) : Prop :=
  ∃ front behind, body = front ++ behind ∧ IsDefined front name ∧ ¬ IsDefined front later

section Names

variable {body : List Stmt} {name later : Text}

theorem IsDefinedBefore.concat (before : IsDefinedBefore body name later) (member : Stmt) :
    IsDefinedBefore (body ++ [member]) name later := by
  obtain ⟨front, behind, rfl, defined, undefined⟩ := before
  exact ⟨front, behind ++ [member], List.append_assoc _ _ _, defined, undefined⟩

theorem not_isSpecial_of_endpoint? {member : Stmt} {route : MethodRoute}
    (found : endpoint? member = some (name, route)) : ¬ IsSpecial name := by
  intro special
  obtain ⟨decorators, defines⟩ := defines_of_endpoint? found
  cases defines with
  | function =>
      rw [endpoint?, if_pos ((isSpecialName_iff _).mpr special)] at found
      cases found

/-- The names in the table of a class are those of its definitions, special ones left out. -/
theorem mem_endpointNames_iff :
    name ∈ (Table.ofList (body.filterMap endpoint?)).map (·.1) ↔
      IsDefined body name ∧ ¬ IsSpecial name := by
  constructor
  · intro present
    obtain ⟨⟨_, route⟩, inTable, rfl⟩ := List.mem_map.mp present
    obtain ⟨member, inBody, found⟩ := List.mem_filterMap.mp (Table.mem_of_mem_ofList inTable)
    exact ⟨⟨member, inBody, defines_of_endpoint? found⟩, not_isSpecial_of_endpoint? found⟩
  · rintro ⟨⟨member, inBody, decorators, defines⟩, ordinary⟩
    obtain ⟨last, isLast⟩ := exists_isLastDefinition inBody defines
    have found := lookup_of_isLastDefinition isLast
      (Bool.eq_false_iff.mpr (mt (isSpecialName_iff name).mp ordinary))
    obtain ⟨earlier, behind, split, _⟩ := List.lookup_eq_some_iff.mp found
    rw [split, List.map_append, List.map_cons]
    exact List.mem_append_right _ List.mem_cons_self

/-- The names in the table of a class are in the order of their first definitions. -/
theorem pairwise_endpointNames (body : List Stmt) :
    ((Table.ofList (body.filterMap endpoint?)).map (·.1)).Pairwise (IsDefinedBefore body) := by
  induction body using List.reverseRecOn with
  | nil => exact List.Pairwise.nil
  | append_singleton body member ih =>
      have kept := ih.imp fun before => before.concat member
      rw [List.filterMap_append]
      cases found : endpoint? member with
      | none =>
          rw [List.filterMap_cons_none found, List.filterMap_nil, List.append_nil]
          exact kept
      | some entry =>
          obtain ⟨name, route⟩ := entry
          rw [List.filterMap_cons_some found, List.filterMap_nil, Table.names_ofList_concat]
          split
          · exact kept
          · next new =>
              refine List.pairwise_append.mpr ⟨kept, List.pairwise_singleton _ name, ?_⟩
              intro earlier present last isLast
              rw [List.mem_singleton.mp isLast]
              refine ⟨body, [member], rfl, (mem_endpointNames_iff.mp present).1, fun defined => ?_⟩
              exact new (mem_endpointNames_iff.mpr ⟨defined, not_isSpecial_of_endpoint? found⟩)

end Names

def HasLiteral (decorators : List Expr) (text : Text) : Prop :=
  ∃ decorator verb arguments, IsFirst IsVerbCall decorator decorators ∧
    AsksFor verb arguments decorator ∧
      firstPositional? arguments = some (.constant (.text text))

/-- The route that the decorators of a definition ask for. -/
inductive Routes (decorators : List Expr) : MethodRoute → Prop where
  | unasked (none : ∀ decorator ∈ decorators, ¬ IsVerbCall decorator) :
      Routes decorators ⟨"GET".toList, []⟩
  | bare {decorator : Expr} {verb : Text} {arguments : List Argument}
      (first : IsFirst IsVerbCall decorator decorators) (asks : AsksFor verb arguments decorator)
      (none : ∀ text, firstPositional? arguments ≠ some (.constant (.text text))) :
      Routes decorators ⟨verb, []⟩
  | wildcard {text : Text} (literal : HasLiteral decorators text) (wild : ∃ c ∈ text, c ∈ wildcards) :
      Routes decorators ⟨wildcardVerb, []⟩
  | path {decorator : Expr} {verb text : Text} {arguments : List Argument}
      (first : IsFirst IsVerbCall decorator decorators) (asks : AsksFor verb arguments decorator)
      (literal : firstPositional? arguments = some (.constant (.text text)))
      (plain : ∀ c ∈ text, c ∉ wildcards) :
      Routes decorators ⟨verb, if text.head? = some '/' then text else '/' :: text⟩

section Routes

variable {decorators : List Expr} {decorator : Expr} {verb text : Text}
  {arguments : List Argument} {route : MethodRoute}

theorem isFirst_unique {α : Type} {holds : α → Prop} {item other : α} {items : List α}
    (first : IsFirst holds item items) (otherFirst : IsFirst holds other items) : item = other := by
  classical
  have kind (item : α) : holds item ↔ (if holds item then some item else none).isSome = true := by
    by_cases here : holds item <;> simp [here]
  have found := findSome?_of_isFirst kind first
  have otherFound := findSome?_of_isFirst kind otherFirst
  obtain ⟨_, _, _, here, _⟩ := first
  obtain ⟨_, _, _, otherHere, _⟩ := otherFirst
  rw [otherFound, if_pos here, if_pos otherHere] at found
  exact (Option.some.inj found).symm

theorem HasLiteral.firstPositional?_eq (literal : HasLiteral decorators text)
    (first : IsFirst IsVerbCall decorator decorators) (asks : AsksFor verb arguments decorator) :
    firstPositional? arguments = some (.constant (.text text)) := by
  obtain ⟨_, _, others, otherFirst, ⟨_, _, otherCalls⟩, found⟩ := literal
  obtain ⟨_, _, calls⟩ := asks
  have same := isFirst_unique otherFirst first
  subst same
  rw [← calls.argumentsOf_eq, otherCalls.argumentsOf_eq]
  exact found

theorem bind_literal?_eq_none
    (none : ∀ text, firstPositional? arguments ≠ some (.constant (.text text))) :
    (firstPositional? arguments).bind literal? = .none := by
  rw [Option.bind_eq_none_iff]
  intro value found
  cases literal : literal? value with
  | none => rfl
  | some text =>
      rw [literal?_eq_some_iff.mp literal] at found
      exact absurd found (none text)

theorem routeOf_plain (plain : ∀ c ∈ text, c ∉ wildcards) :
    routeOf verb (some text) = ⟨verb, if text.head? = some '/' then text else '/' :: text⟩ := by
  have free : ¬ text.any isWildcard = true := fun wild => by
    obtain ⟨c, held, isWild⟩ := (any_isWildcard_iff text).mp wild
    exact plain c held isWild
  rw [routeOf, if_neg free]
  split
  · rfl
  · rfl

/-- A definition has one route, which its decorators give. -/
theorem routes_iff : Routes decorators route ↔ route = methodRoute decorators := by
  constructor
  · intro routes
    cases routes with
    | unasked none => exact (methodRoute_of_forall_not none).symm
    | bare first asks none =>
        rw [methodRoute_of_isFirst first asks, bind_literal?_eq_none none]
        rfl
    | wildcard literal wild =>
        obtain ⟨decorator, verb, arguments, first, asks, found⟩ := literal
        exact (methodRoute_of_hasWildcard
          ⟨decorator, verb, arguments, _, first, asks, found, wild⟩).symm
    | path first asks literal plain =>
        rw [methodRoute_of_isFirst first asks, literal]
        exact (routeOf_plain plain).symm
  · rintro rfl
    rcases forall_not_or_isFirst IsVerbCall decorators with none | ⟨decorator, first⟩
    · rw [methodRoute_of_forall_not none]
      exact .unasked none
    · obtain ⟨_, _, _, ⟨verb, arguments, asks⟩, _⟩ := id first
      rw [methodRoute_of_isFirst first asks]
      by_cases none : ∀ text, firstPositional? arguments ≠ some (.constant (.text text))
      · rw [bind_literal?_eq_none none]
        exact .bare first asks none
      · obtain ⟨text, literal⟩ := not_forall_not.mp none
        rw [literal]
        change Routes decorators (routeOf verb (some text))
        by_cases wild : ∃ c ∈ text, c ∈ wildcards
        · rw [routeOf, if_pos ((any_isWildcard_iff text).mpr wild)]
          exact .wildcard ⟨decorator, verb, arguments, first, asks, literal⟩ wild
        · have plain : ∀ c ∈ text, c ∉ wildcards := fun c held isWild => wild ⟨c, held, isWild⟩
          rw [routeOf_plain plain]
          exact .path first asks literal plain

theorem Routes.shape (routes : Routes decorators route) :
    route = ⟨wildcardVerb, []⟩ ∨
      route.verb ∈ endpointVerbs ∧
        (route.path = [] ↔ ∀ text, ¬ HasLiteral decorators text) ∧
        ∀ text, HasLiteral decorators text →
          route.path = if text.head? = some '/' then text else '/' :: text := by
  cases routes with
  | unasked none =>
      have unasked (text : Text) : ¬ HasLiteral decorators text := by
        rintro ⟨decorator, _, _, ⟨before, after, rfl, here, _⟩, _⟩
        exact none decorator (List.mem_append_right before List.mem_cons_self) here
      exact Or.inr ⟨by decide, ⟨fun _ => unasked, fun _ => rfl⟩,
        fun text literal => absurd literal (unasked text)⟩
  | bare first asks none =>
      have bare (text : Text) (literal : HasLiteral decorators text) : False :=
        none text (literal.firstPositional?_eq first asks)
      obtain ⟨_, spelled, _⟩ := id asks
      exact Or.inr ⟨mem_endpointVerbs spelled, ⟨fun _ => bare, fun _ => rfl⟩,
        fun text literal => (bare text literal).elim⟩
  | wildcard literal wild => exact Or.inl rfl
  | @path decorator verb text arguments first asks literal plain =>
      have has : HasLiteral decorators text := ⟨decorator, verb, arguments, first, asks, literal⟩
      obtain ⟨_, spelled, _⟩ := id asks
      refine Or.inr ⟨mem_endpointVerbs spelled, ⟨fun none => ?_, fun none => absurd has (none text)⟩,
        fun other otherLiteral => ?_⟩
      · dsimp only at none
        split at none
        · next slash =>
            rw [none] at slash
            cases slash
        · cases none
      · have same := otherLiteral.firstPositional?_eq first asks
        rw [literal] at same
        cases same
        rfl

end Routes

/--
The table of endpoints of any class. Its names are those that are defined among the members, special
ones left out, each once and in the order of their first definitions. What a name stands for is
the route that the decorators of its last definition ask for. It is marked as a wildcard, or has one
of the verbs with a path, which is empty exactly when no literal stands in front of the first
call for a verb, and else the literal with a slash in front.
-/
theorem endpoints_ofClass (found : ClassSource) :
    let names := (ofClass found).endpoints.map (·.1)
    (∀ name, name ∈ names ↔ IsDefined found.body name ∧ ¬ IsSpecial name) ∧
      names.Nodup ∧ names.Pairwise (IsDefinedBefore found.body) ∧
      ∀ name route, (name, route) ∈ (ofClass found).endpoints →
        (∃ decorators, IsLastDefinition name decorators found.body) ∧
        ∀ decorators, IsLastDefinition name decorators found.body →
          (∀ other, Routes decorators other ↔ other = route) ∧
          (route = ⟨wildcardVerb, []⟩ ∨
            route.verb ∈ endpointVerbs ∧
              (route.path = [] ↔ ∀ text, ¬ HasLiteral decorators text) ∧
              ∀ text, HasLiteral decorators text →
                route.path = if text.head? = some '/' then text else '/' :: text) := by
  intro names
  have distinct : names.Nodup := Table.nodup_ofList _
  refine ⟨fun name => mem_endpointNames_iff, distinct, pairwise_endpointNames found.body, ?_⟩
  intro name route present
  have inNames : name ∈ names := List.mem_map.mpr ⟨_, present, rfl⟩
  obtain ⟨⟨member, inBody, _, defines⟩, ordinary⟩ := mem_endpointNames_iff.mp inNames
  refine ⟨exists_isLastDefinition inBody defines, fun decorators last => ?_⟩
  have given := lookup_of_isLastDefinition last
    (Bool.eq_false_iff.mpr (mt (isSpecialName_iff name).mp ordinary))
  have stands := (Table.lookup_eq_some_iff_mem distinct).mpr present
  have same : route = methodRoute decorators := Option.some.inj (stands.symm.trans given)
  refine ⟨fun other => ?_, (routes_iff.mpr same).shape⟩
  rw [same]
  exact routes_iff

end Controller

end ControllerClient
