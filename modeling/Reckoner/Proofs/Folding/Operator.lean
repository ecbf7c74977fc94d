import Reckoner.Proofs.Folding.Arithmetic

/-! # Folding of operators

Every rule by which an operator folds its operands keeps what evaluates: a constant that decides a
connective, and neighbouring constants of a concatenation. Sums, differences, products and quotients
are covered where no variable stands within, the other operators throughout.
-/

namespace Reckoner

open Reckoner.Tree

variable {document : Option Json}

/-- A connective that evaluates, one of whose operands decides it, has the value of that operand. -/
theorem eq_dominant_of_connectiveAfter {dominant sawNull : Bool} {operands : List Operand}
    {value : Value} (decides : ∃ operand ∈ operands, operand.outcome = .ok (.boolean dominant))
    (success : connectiveAfter dominant sawNull operands = .ok value) :
    value = .boolean dominant := by
  induction operands generalizing sawNull with
  | nil => exact absurd decides (by simp)
  | cons operand rest ih =>
    rw [connectiveAfter] at success
    obtain ⟨first, evaluated, success⟩ := Except.bind_eq_ok_iff.mp success
    obtain ⟨truth, read, success⟩ := Except.bind_eq_ok_iff.mp success
    have later (other : truth ≠ some dominant) :
        ∃ operand ∈ rest, operand.outcome = .ok (.boolean dominant) := by
      obtain ⟨decider, member, decisive⟩ := decides
      rcases List.mem_cons.mp member with rfl | inside
      · obtain rfl := Except.ok.inj (evaluated.symm.trans decisive)
        exact absurd (Except.ok.inj read).symm other
      · exact ⟨decider, inside, decisive⟩
    cases truth with
    | none => exact ih (later (Option.some_ne_none _).symm) success
    | some truth =>
      dsimp only at success
      split at success
      · exact (Except.ok.inj success).symm
      · next other => exact ih (later fun same => other (Option.some.inj same)) success

/-- A folded connective may stand for the connective. -/
theorem foldConnective?_keeps {dominant : Bool} {again : List Tree → Tree} {operands : List Tree}
    (outcome : (again operands).outcome document =
      connective dominant (operandsFor document operands))
    (sort : Kind.boolean = (again operands).kind) :
    Folded.Keeps document again operands (foldConnective? dominant operands) := by
  refine Folded.Keeps.or (foldConstant?_keeps outcome sort) fun folded fold => ?_
  split at fold
  · next decided =>
    obtain rfl := Option.some.inj fold
    obtain ⟨operand, member, decisive⟩ := List.any_eq_true.mp decided
    refine .literal sort fun value answer => ?_
    rw [outcome] at answer
    refine eq_dominant_of_connectiveAfter ?_ answer
    rw [operandsFor_eq_map]
    exact ⟨_, List.mem_map_of_mem member, outcome_of_literalValue? (eq_of_beq decisive) document⟩
  · cases fold

/-- A joined run contributes its text. -/
theorem concatenateAfter_joinedRun (document : Option Json) (done : String) (run : Option String) (rest : List Tree) :
    concatenateAfter done (operandsFor document (joinedRun run ++ rest)) =
      concatenateAfter (done ++ run.getD "") (operandsFor document rest) := by
  cases run with
  | none => rw [joinedRun, List.nil_append, Option.getD_none, String.append_empty]
  | some text =>
    rw [joinedRun, List.cons_append, List.nil_append, operandsFor, concatenateAfter, ofValue, outcome,
      Except.ok_bind, Value.asText_string, Except.ok_bind, Option.getD_some]

/-- A first operand with a text prolongs the run; one without a value ends it. -/
theorem joinRuns?_cons {run : Option String} {operand : Tree} {rest joined : List Tree}
    (join : joinRuns? run (operand :: rest) = some (some joined)) :
    (∃ value text, operand.literalValue? = some value ∧ value.asText = .ok (some text) ∧
      joinRuns? (some (run.getD "" ++ text)) rest = some (some joined)) ∨
    ∃ others, joinRuns? none rest = some (some others) ∧
      joined = joinedRun run ++ operand :: others := by
  rw [joinRuns?] at join
  split at join
  · next value known =>
    split at join
    · next text read => exact .inl ⟨value, text, known, read, join⟩
    · cases Option.some.inj join
    · cases join
  · obtain ⟨others?, later, join⟩ := Option.map_eq_some_iff.mp join
    obtain ⟨others, rfl, rfl⟩ := Option.map_eq_some_iff.mp join
    exact .inr ⟨others, later, rfl⟩

/-- A concatenation has the same outcome once neighbouring constants are joined. -/
theorem concatenateAfter_joinRuns {run : Option String} {operands joined : List Tree}
    (join : joinRuns? run operands = some (some joined)) (document : Option Json) (done : String) :
    concatenateAfter done (operandsFor document joined) =
      concatenateAfter (done ++ run.getD "") (operandsFor document operands) := by
  induction operands generalizing run joined done with
  | nil =>
    obtain rfl := Option.some.inj (Option.some.inj join)
    rw [← List.append_nil (joinedRun run), concatenateAfter_joinedRun]
  | cons operand rest ih =>
    rw [operandsFor, concatenateAfter]
    rcases joinRuns?_cons join with ⟨first, text, known, read, join⟩ | ⟨others, later, rfl⟩
    · rw [outcome_of_literalValue? known, Except.ok_bind, read, Except.ok_bind, ih join,
        Option.getD_some, ← String.append_assoc]
    · rw [concatenateAfter_joinedRun, operandsFor, concatenateAfter]
      refine Except.bind_eq_bind fun first _ => Except.bind_eq_bind fun text? _ => ?_
      cases text? with
      | none => rfl
      | some text => exact (ih later _).trans (by rw [Option.getD_none, String.append_empty])

/-- A concatenation with a constant null is null wherever it evaluates. -/
theorem eq_null_of_joinRuns {run : Option String} {operands : List Tree} {done : String}
    {value : Value} (join : joinRuns? run operands = some none)
    (success : concatenateAfter done (operandsFor document operands) = .ok value) :
    value = .null := by
  induction operands generalizing run done with
  | nil => cases Option.some.inj join
  | cons operand rest ih =>
    rw [operandsFor, concatenateAfter] at success
    obtain ⟨first, evaluated, chained⟩ := Except.bind_eq_ok_iff.mp success
    obtain ⟨text?, read, success⟩ := Except.bind_eq_ok_iff.mp chained
    clear chained
    cases text? with
    | none => exact (Except.ok.inj success).symm
    | some text =>
      rw [joinRuns?] at join
      split at join
      · next known =>
        obtain rfl := Except.ok.inj ((outcome_of_literalValue? known document).symm.trans evaluated)
        rw [read] at join
        exact ih join success
      · obtain ⟨others?, later, join⟩ := Option.map_eq_some_iff.mp join
        rw [Option.map_eq_none_iff] at join
        exact ih (join ▸ later) success

/-- Joining makes nothing but texts and keeps nothing but operands. -/
theorem mem_joinRuns {run : Option String} {operands joined : List Tree}
    (join : joinRuns? run operands = some (some joined)) {part : Tree} (member : part ∈ joined) :
    part ∈ operands ∨ part.isConstant = true := by
  have runs {run : Option String} (member : part ∈ joinedRun run) : part.isConstant = true := by
    cases run with
    | none => exact absurd member List.not_mem_nil
    | some text =>
      obtain rfl := List.mem_singleton.mp member
      rw [ofValue, isConstant]
  induction operands generalizing run joined with
  | nil =>
    obtain rfl := Option.some.inj (Option.some.inj join)
    exact .inr (runs member)
  | cons operand rest ih =>
    have kept {joined : List Tree} {run : Option String}
        (join : joinRuns? run rest = some (some joined)) (member : part ∈ joined) :
        part ∈ operand :: rest ∨ part.isConstant = true :=
      (ih join member).imp_left (List.mem_cons_of_mem operand)
    rcases joinRuns?_cons join with ⟨_, text, _, _, join⟩ | ⟨others, later, rfl⟩
    · exact kept join member
    · rcases List.mem_append.mp member with run | here
      · exact .inr (runs run)
      · rcases List.mem_cons.mp here with rfl | there
        · exact .inl (List.mem_cons_self ..)
        · exact kept later there

/-- A run that has begun leaves at least its own text. -/
theorem joinRuns?_run {text : String} {operands joined : List Tree}
    (join : joinRuns? (some text) operands = some (some joined)) :
    joined ≠ [] ∧ ∀ single, joined = [single] → ∃ text, single = .ofValue (.string text) := by
  induction operands generalizing text with
  | nil =>
    obtain rfl := Option.some.inj (Option.some.inj join)
    exact ⟨List.cons_ne_nil _ _, fun single same => ⟨text, (List.singleton_inj.mp same).symm⟩⟩
  | cons operand rest ih =>
    rcases joinRuns?_cons join with ⟨_, more, _, _, join⟩ | ⟨others, _, rfl⟩
    · exact ih join
    · exact ⟨List.cons_ne_nil _ _, fun single same => absurd same (by simp [joinedRun])⟩

/-- Two or more operands are joined to a single one only as texts. -/
theorem eq_text_of_joinRuns {operands : List Tree} {single : Tree} (several : 2 ≤ operands.length)
    (join : joinRuns? none operands = some (some [single])) :
    ∃ text, single = .ofValue (.string text) := by
  match operands, several with
  | first :: second :: rest, _ =>
    rcases joinRuns?_cons join with ⟨_, text, _, _, join⟩ | ⟨others, later, same⟩
    · exact (joinRuns?_run join).2 single rfl
    · -- An operand without a value stays, and so does something of those behind it.
      have none : others = [] := (List.cons.inj same).2.symm
      rcases joinRuns?_cons later with ⟨_, text, _, _, join⟩ | ⟨_, _, more⟩
      · exact absurd none (joinRuns?_run join).1
      · exact absurd (more.symm.trans none) (by simp [joinedRun])

/-- A folded concatenation may stand for the concatenation. -/
theorem foldConcatenation?_keeps {operator : Operator} {operands : List Tree}
    (concatenates : operator.kind = .concatenation) (accepted : operator.accepts operands = true) :
    Folded.Keeps document (.operation operator) operands (foldConcatenation? operands) := by
  rw [Operator.accepts, concatenates] at accepted
  have several : 2 ≤ operands.length := by
    simpa only [kinds_eq_map, List.length_map, decide_eq_true_eq] using
      (Bool.and_eq_true_iff.mp accepted).1
  have sort (operands : List Tree) : (Tree.operation operator operands).kind = .string := by
    rw [Tree.kind, concatenates, OperatorKind.resultKind]
  have meaning (operands : List Tree) : (Tree.operation operator operands).outcome document =
      concatenateAfter "" (operandsFor document operands) := by
    rw [Tree.outcome, concatenates, OperatorKind.apply]
  intro folded fold
  rw [foldConcatenation?] at fold
  split at fold
  · cases fold
  · next join =>
    obtain rfl := Option.some.inj fold
    exact .literal (sort operands).symm fun value answer =>
      eq_null_of_joinRuns join (meaning operands ▸ answer)
  · next joined join =>
    have same {value : Value}
        (answer : (Tree.operation operator operands).outcome document = .ok value) :
        concatenateAfter "" (operandsFor document joined) = .ok value := by
      rwa [concatenateAfter_joinRuns join, Option.getD_none, String.append_empty, ← meaning]
    split at fold
    · cases fold
    · split at fold
      · next single =>
        obtain rfl := Option.some.inj fold
        obtain ⟨text, rfl⟩ := eq_text_of_joinRuns several join
        refine .literal (sort operands).symm fun value answer => ?_
        have whole := concatenateAfter_joinedRun document "" (some text) []
        rw [Option.getD_some, String.empty_append] at whole
        exact (Except.ok.inj (whole.symm.trans (same answer))).symm
      · obtain rfl := Option.some.inj fold
        refine ⟨fun value answer => ⟨?_, (sort joined).trans (sort operands).symm⟩,
          .inl ((sort joined).trans (sort operands).symm), fun constant => ?_⟩
        · rw [Folded.result, meaning]
          exact same answer
        · rw [isConstant, areConstant_iff] at constant
          rw [Folded.result, isConstant, areConstant_iff]
          exact fun part member => (mem_joinRuns join member).elim (constant part) id

/-- The operators whose folding is covered only over constant operands. -/
def OperatorKind.isArithmetic : OperatorKind → Bool
  | addition | subtraction _ _ | multiplication | division _ => true
  | _ => false

/-- Folding an operator over its operands keeps what evaluates. -/
theorem fold?_keeps (document : Option Json) {operator : Operator} {operands : List Tree}
    (accepted : operator.accepts operands = true)
    (constant : operator.kind.isArithmetic = true → areConstant operands = true) :
    Folded.Keeps document (.operation operator) operands (operator.kind.fold? operands) := by
  have meaning : (Tree.operation operator operands).outcome document =
      operator.kind.apply (operandsFor document operands) := by rw [Tree.outcome]
  have sort : operator.kind.resultKind (kinds operands) =
      (Tree.operation operator operands).kind := by rw [Tree.kind]
  cases form : operator.kind with
  | or | and =>
    rw [form] at meaning sort
    exact foldConnective?_keeps meaning sort
  | not | comparison _ | square | negation =>
    rw [form] at meaning sort
    exact foldConstant?_keeps meaning sort
  | addition => exact foldAddition?_keeps (constant (by rw [form]; rfl)) form
  | concatenation => exact foldConcatenation?_keeps form accepted
  | subtraction _ _ => exact foldSubtraction?_keeps (constant (by rw [form]; rfl)) form
  | multiplication => exact foldMultiplication?_keeps (constant (by rw [form]; rfl)) form accepted
  | division _ => exact foldDivision?_keeps (constant (by rw [form]; rfl)) form accepted

end Reckoner
