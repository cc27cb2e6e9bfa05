import ControllerClient.Proofs.Text.Decomposition
import Mathlib.Data.List.Chain

/-!
Normalising twice is normalising once. What a text falls apart into does not
fall apart further, marks in order stay in order, and joining characters loses
nothing: a joined text falls apart into the marks that it was made of, and these
come into the same order again.
-/

namespace ControllerClient.Text

/-! ### Marks in order -/

/-- A character that begins a unit, or a mark of no smaller class, may stand behind another. -/
def MayFollow (before c : Char) : Prop :=
  combiningClass c = 0 ∨ combiningClass before ≤ combiningClass c

def IsMarkOrdered (text : Text) : Prop := text.IsChain MayFollow

def IsBackMarkOrdered (text : Text) : Prop := text.IsChain fun c before => MayFollow before c

theorem isMarkOrdered_reverse {text : Text} (inOrder : IsBackMarkOrdered text) :
    IsMarkOrdered text.reverse := List.isChain_reverse.mpr inOrder

theorem mem_insertMark {mark c : Char} {ordered : Text} (present : c ∈ insertMark mark ordered) :
    c = mark ∨ c ∈ ordered := by
  induction ordered with
  | nil => exact Or.inl (List.mem_singleton.mp present)
  | cons last earlier ih =>
      rw [insertMark] at present
      split at present
      · rcases List.mem_cons.mp present with rfl | later
        · exact Or.inr List.mem_cons_self
        · rcases ih later with same | old
          · exact Or.inl same
          · exact Or.inr (List.mem_cons_of_mem last old)
      · rcases List.mem_cons.mp present with same | old
        · exact Or.inl same
        · exact Or.inr old

theorem head_insertMark (mark : Char) (ordered : Text) :
    ∃ rest, insertMark mark ordered = mark :: rest ∨
      ∃ last earlier, ordered = last :: earlier ∧ insertMark mark ordered = last :: rest := by
  cases ordered with
  | nil => exact ⟨[], Or.inl rfl⟩
  | cons last earlier =>
      rw [insertMark]
      split
      · exact ⟨_, Or.inr ⟨last, earlier, rfl, rfl⟩⟩
      · exact ⟨_, Or.inl rfl⟩

theorem isBackMarkOrdered_insertMark (mark : Char) {ordered : Text}
    (inOrder : IsBackMarkOrdered ordered) : IsBackMarkOrdered (insertMark mark ordered) := by
  induction ordered with
  | nil => exact List.isChain_singleton mark
  | cons last earlier ih =>
      rw [insertMark]
      split
      · next before =>
          have later := ih inOrder.tail
          obtain ⟨rest, shape⟩ := head_insertMark mark earlier
          rcases shape with shape | ⟨next, others, same, shape⟩
          · rw [shape] at later ⊢
            exact List.isChain_cons_cons.mpr ⟨Or.inr (Nat.le_of_lt before), later⟩
          · rw [shape] at later ⊢
            rw [same] at inOrder
            exact List.isChain_cons_cons.mpr ⟨(List.isChain_cons_cons.mp inOrder).1, later⟩
      · next behind =>
          exact List.isChain_cons_cons.mpr ⟨Or.inr (Nat.le_of_not_lt behind), inOrder⟩

theorem isBackMarkOrdered_addOrdered {ordered : Text} (inOrder : IsBackMarkOrdered ordered)
    (c : Char) : IsBackMarkOrdered (addOrdered ordered c) := by
  unfold addOrdered
  split
  · next starter =>
      cases ordered with
      | nil => exact List.isChain_singleton c
      | cons last earlier => exact List.isChain_cons_cons.mpr ⟨Or.inl starter, inOrder⟩
  · exact isBackMarkOrdered_insertMark c inOrder

theorem isBackMarkOrdered_foldl (text : Text) {ordered : Text}
    (inOrder : IsBackMarkOrdered ordered) :
    IsBackMarkOrdered (text.foldl addOrdered ordered) := by
  induction text generalizing ordered with
  | nil => exact inOrder
  | cons c text ih => exact ih (isBackMarkOrdered_addOrdered inOrder c)

theorem isMarkOrdered_markOrdered (text : Text) : IsMarkOrdered (markOrdered text) :=
  isMarkOrdered_reverse (isBackMarkOrdered_foldl text List.isChain_nil)

theorem mem_foldl_addOrdered {c : Char} {text ordered : Text}
    (present : c ∈ text.foldl addOrdered ordered) : c ∈ text ∨ c ∈ ordered := by
  induction text generalizing ordered with
  | nil => exact Or.inr present
  | cons first text ih =>
      rcases ih present with later | added
      · exact Or.inl (List.mem_cons_of_mem first later)
      · have found : c = first ∨ c ∈ ordered := by
          unfold addOrdered at added
          split at added
          · exact List.mem_cons.mp added
          · exact mem_insertMark added
        rcases found with rfl | old
        · exact Or.inl List.mem_cons_self
        · exact Or.inr old

theorem mem_markOrdered {c : Char} {text : Text} (present : c ∈ markOrdered text) : c ∈ text := by
  rcases mem_foldl_addOrdered (List.mem_reverse.mp present) with found | absent
  · exact found
  · cases absent

theorem foldl_addOrdered_reverse {ordered : Text} (inOrder : IsBackMarkOrdered ordered) :
    ordered.reverse.foldl addOrdered [] = ordered := by
  induction ordered with
  | nil => rfl
  | cons last earlier ih =>
      rw [List.reverse_cons, List.foldl_append, ih inOrder.tail]
      change addOrdered earlier last = last :: earlier
      unfold addOrdered
      split
      · rfl
      · next isMark =>
          cases earlier with
          | nil => rfl
          | cons before earlier =>
              have behind : combiningClass before ≤ combiningClass last :=
                (List.isChain_cons_cons.mp inOrder).1.resolve_left isMark
              rw [insertMark, if_neg (Nat.not_lt_of_le behind)]

theorem markOrdered_markOrdered (text : Text) : markOrdered (markOrdered text) = markOrdered text := by
  have inOrder := isBackMarkOrdered_foldl text List.isChain_nil
  unfold markOrdered
  rw [foldl_addOrdered_reverse inOrder]

/-! ### Marks of different classes -/

theorem insertMark_comm {a b : Char} (differ : combiningClass a ≠ combiningClass b)
    (ordered : Text) :
    insertMark b (insertMark a ordered) = insertMark a (insertMark b ordered) := by
  induction ordered with
  | nil =>
      simp only [insertMark]
      split <;> split
      · omega
      · rfl
      · rfl
      · omega
  | cons last earlier ih =>
      by_cases first : combiningClass a < combiningClass last
      · by_cases second : combiningClass b < combiningClass last
        · simp only [insertMark, if_pos first, if_pos second, ih]
        · have behind : combiningClass a < combiningClass b := by omega
          simp only [insertMark, if_pos first, if_neg second, if_pos behind]
      · by_cases second : combiningClass b < combiningClass last
        · have behind : combiningClass b < combiningClass a := by omega
          simp only [insertMark, if_neg first, if_pos second, if_pos behind]
        · by_cases behind : combiningClass a < combiningClass b
          · have notBehind : ¬ combiningClass b < combiningClass a := by omega
            simp only [insertMark, if_neg first, if_neg second, if_pos behind, if_neg notBehind]
          · have after : combiningClass b < combiningClass a := by omega
            simp only [insertMark, if_neg first, if_neg second, if_neg behind, if_pos after]

theorem foldl_addOrdered_move {c : Char} (isMark : combiningClass c ≠ 0) (marks : Text)
    (others : ∀ m ∈ marks, combiningClass m ≠ 0 ∧ combiningClass m ≠ combiningClass c)
    (ordered : Text) :
    (c :: marks).foldl addOrdered ordered = (marks ++ [c]).foldl addOrdered ordered := by
  induction marks generalizing ordered with
  | nil => rfl
  | cons m marks ih =>
      have first := others m List.mem_cons_self
      have later := ih fun d present => others d (List.mem_cons_of_mem m present)
      have swapped : addOrdered (addOrdered ordered c) m = addOrdered (addOrdered ordered m) c := by
        simp only [addOrdered, if_neg isMark, if_neg first.1]
        exact insertMark_comm (Ne.symm first.2) ordered
      rw [List.foldl_cons, List.foldl_cons, swapped]
      exact later (addOrdered ordered m)

/-! ### Joined characters fall apart again -/

/-- What `composedFrom` keeps of marks and of the text behind them. -/
structure AwaitsJoin (marks rest : Text) : Prop where
  isMark : ∀ m ∈ marks, combiningClass m ≠ 0
  greatest : ∀ last ∈ marks.head?, ∀ m ∈ marks, combiningClass m ≤ combiningClass last
  behind : ∀ c ∈ rest.head?, combiningClass c = 0 ∨ ∀ m ∈ marks, combiningClass m ≤ combiningClass c
  inOrder : IsMarkOrdered rest
  settledMarks : ∀ m ∈ marks, IsSettled m
  settled : ∀ c ∈ rest, IsSettled c

theorem flatMap_decomposed_settled {text : Text} (settled : ∀ c ∈ text, IsSettled c) :
    text.flatMap decomposed = text := by
  induction text with
  | nil => rfl
  | cons c text ih =>
      rw [List.flatMap_cons, settled c List.mem_cons_self,
        ih fun d present => settled d (List.mem_cons_of_mem c present)]
      rfl

namespace AwaitsJoin

variable {marks rest : Text} {c : Char}

theorem nil (inOrder : IsMarkOrdered rest) (settled : ∀ c ∈ rest, IsSettled c) :
    AwaitsJoin [] rest := by
  refine ⟨?_, ?_, ?_, inOrder, ?_, settled⟩
  · intro m present
    cases present
  · intro last first
    cases first
  · intro c first
    exact Or.inr fun m present => nomatch present
  · intro m present
    cases present

theorem tail_settled (awaits : AwaitsJoin marks (c :: rest)) : ∀ d ∈ rest, IsSettled d :=
  fun d present => awaits.settled d (List.mem_cons_of_mem c present)

theorem starter (awaits : AwaitsJoin marks (c :: rest)) : AwaitsJoin [] rest :=
  nil awaits.inOrder.tail awaits.tail_settled

theorem follows (awaits : AwaitsJoin marks (c :: rest)) : ∀ d ∈ rest.head?, MayFollow c d := by
  intro d first
  cases rest with
  | nil => cases first
  | cons e rest =>
      cases first
      exact (List.isChain_cons_cons.mp awaits.inOrder).1

theorem push (awaits : AwaitsJoin marks (c :: rest)) (isMark : combiningClass c ≠ 0) :
    AwaitsJoin (c :: marks) rest := by
  have lower : ∀ m ∈ marks, combiningClass m ≤ combiningClass c :=
    (awaits.behind c rfl).resolve_left isMark
  have most : ∀ m ∈ c :: marks, combiningClass m ≤ combiningClass c :=
    List.forall_mem_cons.mpr ⟨Nat.le_refl _, lower⟩
  refine ⟨List.forall_mem_cons.mpr ⟨isMark, awaits.isMark⟩, ?_, ?_, awaits.inOrder.tail,
    List.forall_mem_cons.mpr ⟨awaits.settled c List.mem_cons_self, awaits.settledMarks⟩,
    awaits.tail_settled⟩
  · intro last first
    cases first
    exact most
  · intro d first
    rcases awaits.follows d first with starter | above
    · exact Or.inl starter
    · exact Or.inr fun m present => Nat.le_trans (most m present) above

theorem drop (awaits : AwaitsJoin marks (c :: rest))
    (above : ∀ m ∈ marks, combiningClass m ≤ combiningClass c) : AwaitsJoin marks rest := by
  refine ⟨awaits.isMark, awaits.greatest, ?_, awaits.inOrder.tail, awaits.settledMarks,
    awaits.tail_settled⟩
  intro d first
  rcases awaits.follows d first with starter | higher
  · exact Or.inl starter
  · exact Or.inr fun m present => Nat.le_trans (above m present) higher

theorem decomposed_marks (awaits : AwaitsJoin marks rest) :
    marks.reverse.flatMap decomposed = marks.reverse :=
  flatMap_decomposed_settled fun m present =>
    awaits.settledMarks m (List.mem_reverse.mp present)

end AwaitsJoin

/-- Whether a character may join the starter past the marks. -/
def isOpen (marks : Text) (c : Char) : Bool :=
  match marks with
  | [] => true
  | last :: _ => combiningClass last < combiningClass c

theorem AwaitsJoin.lt_of_isOpen {marks rest : Text} {c : Char}
    (awaits : AwaitsJoin marks (c :: rest)) (passes : isOpen marks c = true) :
    ∀ m ∈ marks, combiningClass m < combiningClass c := by
  cases marks with
  | nil =>
      intro m present
      cases present
  | cons last earlier =>
      have above : combiningClass last < combiningClass c := of_decide_eq_true passes
      intro m present
      exact Nat.lt_of_le_of_lt (awaits.greatest last rfl m present) above

theorem foldl_addOrdered_pass {marks : Text} {c : Char}
    (isMark : ∀ m ∈ marks, combiningClass m ≠ 0)
    (below : ∀ m ∈ marks, combiningClass m < combiningClass c) (ordered : Text) :
    (c :: marks.reverse).foldl addOrdered ordered =
      (marks.reverse ++ [c]).foldl addOrdered ordered := by
  cases marks with
  | nil => rfl
  | cons last earlier =>
      have first := below last List.mem_cons_self
      apply foldl_addOrdered_move
      · omega
      · intro m present
        have inside := List.mem_reverse.mp present
        exact ⟨isMark m inside, Nat.ne_of_lt (below m inside)⟩

theorem composedFrom_cons (starter : Char) (marks : Text) (c : Char) (rest : Text) :
    composedFrom starter marks (c :: rest) =
      match (if isOpen marks c then composite? starter c else none) with
      | some joined => composedFrom joined marks rest
      | none =>
        if combiningClass c = 0 then starter :: marks.reverse ++ composedFrom c [] rest
        else composedFrom starter (c :: marks) rest := by
  cases marks <;> rfl

/-- What is joined falls apart, up to the order of marks, into what it was joined from. -/
theorem foldl_composedFrom (starter : Char) {marks rest : Text} (awaits : AwaitsJoin marks rest)
    (ordered : Text) :
    ((composedFrom starter marks rest).flatMap decomposed).foldl addOrdered ordered =
      (decomposed starter ++ (marks.reverse ++ rest)).foldl addOrdered ordered := by
  induction rest generalizing starter marks ordered with
  | nil =>
      rw [composedFrom, List.flatMap_cons, awaits.decomposed_marks, List.append_nil]
  | cons c rest ih =>
      rw [composedFrom_cons]
      split
      · next joined found =>
          split at found
          · next passes =>
              -- What was joined falls apart into the starter and `c` again, but with `c` in front
              -- of the marks that it passed; in order of classes both places come to the same.
              have below := awaits.lt_of_isOpen passes
              have rejoined := ih joined (awaits.drop fun m present => Nat.le_of_lt (below m present))
                ordered
              have passed := foldl_addOrdered_pass awaits.isMark below
                ((decomposed starter).foldl addOrdered ordered)
              rw [rejoined, decomposed_of_composite? found]
              simp only [List.foldl_append, List.foldl_cons, List.foldl_nil] at passed ⊢
              rw [passed]
          · cases found
      · split
        · next isStarter =>
            -- The unit is finished: its marks stand, and `c` is the starter of the next one.
            have begun := ih c awaits.starter
              ((decomposed starter ++ marks.reverse).foldl addOrdered ordered)
            rw [List.cons_append, List.flatMap_cons, List.flatMap_append,
              awaits.decomposed_marks, ← List.append_assoc, List.foldl_append, begun,
              awaits.settled c List.mem_cons_self, ← List.foldl_append]
            simp only [List.append_assoc, List.reverse_nil, List.nil_append, List.singleton_append]
        · next isMark =>
            rw [ih starter (awaits.push isMark) ordered]
            simp only [List.reverse_cons, List.append_assoc, List.singleton_append]

theorem foldl_composed {text : Text} (inOrder : IsMarkOrdered text)
    (settled : ∀ c ∈ text, IsSettled c) (ordered : Text) :
    ((composed text).flatMap decomposed).foldl addOrdered ordered =
      text.foldl addOrdered ordered := by
  induction text generalizing ordered with
  | nil => rfl
  | cons c rest ih =>
      have later : ∀ d ∈ rest, IsSettled d := fun d present =>
        settled d (List.mem_cons_of_mem c present)
      have tail : IsMarkOrdered rest := inOrder.tail
      have first : decomposed c = [c] := settled c List.mem_cons_self
      rw [composed]
      split
      · rw [foldl_composedFrom c (AwaitsJoin.nil tail later), first]
        rfl
      · rw [List.flatMap_cons, first]
        exact ih tail later (addOrdered ordered c)

/-! ### The normal form -/

theorem markOrdered_composed {text : Text} (inOrder : IsMarkOrdered text)
    (settled : ∀ c ∈ text, IsSettled c) :
    markOrdered ((composed text).flatMap decomposed) = markOrdered text := by
  unfold markOrdered
  rw [foldl_composed inOrder settled]

/-- Normalising twice is normalising once. -/
theorem normalized_normalized (text : Text) : normalized (normalized text) = normalized text := by
  by_cases ascii : text.all (fun c => c.toNat < 128) = true
  · have same : normalized text = text := if_pos ascii
    rw [same, same]
  · let fallen := markOrdered (text.flatMap decomposed)
    have whole : normalized text = composed fallen := if_neg ascii
    have settled : ∀ c ∈ fallen, IsSettled c := by
      intro c present
      obtain ⟨d, _, part⟩ := List.mem_flatMap.mp (mem_markOrdered present)
      exact isSettled_of_mem_decomposed part
    have again : markOrdered ((composed fallen).flatMap decomposed) = fallen := by
      rw [markOrdered_composed (isMarkOrdered_markOrdered _) settled]
      exact markOrdered_markOrdered _
    rw [whole, normalized, again]
    exact ite_self _

/-! ### Characters of normal forms -/

section Characters

variable {P : Char → Prop} (joins : ∀ a b joined, composite? a b = some joined → P joined)

include joins

theorem forall_mem_composedFrom {starter : Char} {marks rest : Text} (first : P starter)
    (behind : ∀ c ∈ marks, P c) (later : ∀ c ∈ rest, P c) :
    ∀ c ∈ composedFrom starter marks rest, P c := by
  have unit {starter : Char} {marks : Text} (first : P starter) (behind : ∀ c ∈ marks, P c) :
      ∀ c ∈ starter :: marks.reverse, P c :=
    List.forall_mem_cons.mpr ⟨first, fun c present => behind c (List.mem_reverse.mp present)⟩
  induction rest generalizing starter marks with
  | nil => exact unit first behind
  | cons d rest ih =>
      obtain ⟨next, later⟩ := List.forall_mem_cons.mp later
      rw [composedFrom_cons]
      split
      · next joined found =>
          split at found
          · exact ih (joins starter d joined found) behind later
          · cases found
      · split
        · refine List.forall_mem_append.mpr ⟨unit first behind, ih next ?_ later⟩
          intro c present
          cases present
        · exact ih first (List.forall_mem_cons.mpr ⟨next, behind⟩) later

theorem forall_mem_composed {text : Text} (each : ∀ c ∈ text, P c) : ∀ c ∈ composed text, P c := by
  induction text with
  | nil => exact each
  | cons c rest ih =>
      obtain ⟨first, later⟩ := List.forall_mem_cons.mp each
      rw [composed]
      split
      · refine forall_mem_composedFrom joins first ?_ later
        intro d present
        cases present
      · exact List.forall_mem_cons.mpr ⟨first, ih later⟩

theorem forall_mem_normalized {text : Text} (own : ∀ c ∈ text, P c)
    (parts : ∀ c ∈ text, ∀ d ∈ decomposed c, P d) : ∀ c ∈ normalized text, P c := by
  unfold normalized
  split
  · exact own
  · apply forall_mem_composed joins
    intro d present
    obtain ⟨c, inside, part⟩ := List.mem_flatMap.mp (mem_markOrdered present)
    exact parts c inside d part

end Characters

end ControllerClient.Text
