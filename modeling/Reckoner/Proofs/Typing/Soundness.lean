import Reckoner.Engine.Library
import Reckoner.Proofs.Expression
import Reckoner.Proofs.Reading
import Reckoner.Proofs.Register
import Reckoner.Proofs.Typing.Function
import Reckoner.Proofs.Typing.Position

/-! # Type soundness

Every expression that was read is typed: each of its operators and functions accepts its operands, and
literals and constants are declared to be of the kinds of their values. A typed expression evaluates to
null or to a value of its declared kind. It fails only beyond the longs, at a double that has no
nearest long, or where one of its variables does, and it looks for no operand that is not there: found
by their positions, its parts give it the same kind and the same outcome. The dialect may be any, with a
pattern each for dates, times and moments.
-/

namespace Reckoner

/-- A part of a document is read as a value of the kind that is asked for, or as null. -/
theorem Json.fits_of_value? {kind : Kind} {part : Json} {value : Value}
    (read : part.value? kind = some value) : value.Fits kind := by
  unfold Json.value? at read
  split at read <;> first
    | obtain ⟨_, _, rfl⟩ := Option.map_eq_some_iff.mp read; exact .inr rfl
    | cases read; done
    | cases read; first | exact .inl rfl | exact .inr rfl

/-- A variable has a value of its kind, or null. -/
theorem Variable.fits_of_outcome {document : Option Json} {item : Variable} {value : Value}
    (success : item.outcome document = .ok value) : value.Fits item.kind := by
  unfold Variable.outcome at success
  split at success
  · cases success
  · split at success
    · exact Except.ok.inj success ▸ Value.fits_null _
    · split at success
      · next read => exact Except.ok.inj success ▸ Json.fits_of_value? read
      · cases success

/-- An operator that accepts operands finds one at every position at which it looks. -/
theorem OperatorKind.lt_of_accepts {operator : OperatorKind} {kinds : List Kind} {position : Nat}
    (accepts : operator.accepts kinds = true) (member : position ∈ operator.positions) :
    position < kinds.length := by
  cases operator <;>
    simp only [OperatorKind.positions, OperatorKind.accepts, List.mem_cons, List.not_mem_nil,
      or_false, Bool.and_eq_true, beq_iff_eq, decide_eq_true_eq] at accepts member <;>
    omega

/-- A function that accepts operands finds one at every position at which it looks. -/
theorem FunctionKind.lt_of_accepts {function : FunctionKind} {kinds : List Kind}
    {fallback? : Option Value} {position : Nat}
    (accepts : function.accepts kinds fallback? = true) (member : position ∈ function.positions) :
    position < kinds.length := by
  cases function <;>
    simp only [FunctionKind.positions, FunctionKind.accepts, List.mem_cons, List.not_mem_nil,
      or_false, Bool.and_eq_true, beq_iff_eq] at accepts member <;>
    omega

namespace Tree

/-- Every part is accepted where it stands, and no literal or constant belies its value. -/
inductive Typed : Tree → Prop
  | literal {kind : Kind} {value : Value} (sort : value.kind = kind) : Typed (.literal kind value)
  | constant {item : Constant} (sort : item.value.kind = item.kind) : Typed (.constant item)
  | input {item : Variable} : Typed (.input item)
  | operation {operator : Operator} {operands : List Tree}
    (typed : ∀ operand ∈ operands, Typed operand) (accepted : operator.accepts operands = true) :
    Typed (.operation operator operands)
  | call {function : Function} {operands : List Tree}
    (typed : ∀ operand ∈ operands, Typed operand) (accepted : function.accepts operands = true) :
    Typed (.call function operands)
  | block {inner : Tree} (typed : Typed inner) : Typed (.block inner)

inductive MayFail (document : Option Json) (tree : Tree) : EvalError → Prop
  | overflow : MayFail document tree .overflow
  | unroundable {function : Function} {operand : Tree} {x : Double}
    (within : Within (.call function [operand]) tree) (rounds : function.kind = .round)
    (success : operand.outcome document = .ok (.double x)) (failed : x.round? = none) :
    MayFail document tree (.unroundable x)
  | input {item : Variable} {error : EvalError} (member : item ∈ tree.inputs)
    (failed : item.outcome document = .error error) : MayFail document tree error

/-- The variables of a part are variables of the whole. -/
theorem Within.input {part whole : Tree} {item : Variable} (within : Within part whole)
    (member : item ∈ part.inputs) : item ∈ whole.inputs := by
  induction within with
  | self => exact member
  | @child whole inner child _ ih =>
    cases whole with
    | literal | constant | input => exact absurd child List.not_mem_nil
    | operation | call => exact mem_inputsOfAll.mpr ⟨inner, child, ih⟩
    | block => exact List.mem_singleton.mp child ▸ ih

/-- The failures of a part are failures of the whole. -/
theorem MayFail.within {document : Option Json} {part whole : Tree} {error : EvalError}
    (fails : MayFail document part error) (within : Within part whole) :
    MayFail document whole error := by
  cases fails with
  | overflow => exact .overflow
  | unroundable inner rounds success failed =>
    exact .unroundable (inner.trans within) rounds success failed
  | input member failed => exact .input (within.input member) failed

variable {document : Option Json}

private theorem typed_operandsFor {whole : Tree} {operands : List Tree}
    (children : operands = whole.children)
    (sound : ∀ operand ∈ operands,
      Except.Yields (Value.Fits operand.kind) (operand.MayFail document)
        (operand.outcome document)) :
    ∀ operand ∈ operandsFor document operands, operand.Typed (whole.MayFail document) := by
  rw [operandsFor_eq_map, List.forall_mem_map]
  intro operand member
  exact (sound operand member).imp (fun _ fits => fits) fun _ fails =>
    fails.within (.child (children ▸ member) .self)

/-- A typed expression has a value of its declared kind, null, or one of the failures it may have. -/
theorem Typed.outcome_yields {tree : Tree} (typed : tree.Typed) (document : Option Json) :
    Except.Yields (Value.Fits tree.kind) (tree.MayFail document) (tree.outcome document) := by
  induction typed with
  | literal sort => exact .inr sort
  | constant sort => exact .inr sort
  | @input item =>
    rw [kind, outcome]
    cases result : item.outcome document with
    | error error => exact .input (by rw [inputs]; exact List.mem_singleton_self _) result
    | ok value => exact Variable.fits_of_outcome result
  | @operation operator operands _ accepted ih =>
    have kinds := kinds_operandsFor document operands
    rw [kind, outcome, ← kinds]
    exact OperatorKind.apply_yields (typed_operandsFor rfl ih) .overflow (kinds ▸ accepted)
  | @call function operands _ accepted ih =>
    have kinds := kinds_operandsFor document operands
    rw [Function.accepts, ← kinds] at accepted
    rw [kind, outcome, ← kinds]
    refine FunctionKind.apply_yields (typed_operandsFor rfl ih) .overflow ?_ accepted
    intro operand x rounds sole success failed
    rw [operandsFor_eq_map, List.map_eq_singleton_iff] at sole
    obtain ⟨argument, rfl, rfl⟩ := sole
    exact .unroundable .self rounds success failed
  | @block inner _ ih =>
    rw [kind, outcome]
    exact ih.imp (fun _ fits => fits) fun _ fails => fails.within .inside

/-- The parts of a typed expression are typed. -/
theorem Typed.within {part whole : Tree} (typed : whole.Typed) (within : Within part whole) :
    part.Typed := by
  induction within with
  | self => exact typed
  | child member _ ih =>
    cases typed with
    | literal | constant | input => exact absurd member List.not_mem_nil
    | operation typed _ | call typed _ => exact ih (typed _ member)
    | block typed => exact ih (List.mem_singleton.mp member ▸ typed)

/-- A typed expression looks only for parts that are there. -/
theorem Typed.positions_lt {part whole : Tree} (typed : whole.Typed) (within : Within part whole) :
    ∀ position ∈ part.positions, position < part.children.length := by
  cases typed.within within with
  | literal | constant | input | block => exact nofun
  | operation _ accepted =>
    rw [Operator.accepts, kinds_eq_map] at accepted
    intro position member
    simpa only [children, List.length_map] using OperatorKind.lt_of_accepts accepted member
  | call _ accepted =>
    rw [Function.accepts, kinds_eq_map] at accepted
    intro position member
    simpa only [children, List.length_map] using FunctionKind.lt_of_accepts accepted member

end Tree

namespace Engine

/-- The registered constants are declared to be of the kinds of their values. -/
def ConstantsFit (engine : Engine) : Prop :=
  ∀ entry ∈ engine.constants.entries, entry.item.value.kind = entry.item.kind

/-- The constants of the standard engine fit their kinds. -/
theorem constantsFit_standard (base : Tag) (now : DateTime) : (standard base now).ConstantsFit := by
  refine Register.forall_ofList
    (fun entry : Entry Constant => entry.item.value.kind = entry.item.kind) ?_
  exact List.forall_mem_cons.mpr ⟨rfl, List.forall_mem_singleton.mpr rfl⟩

/-- A constant that fits its kind may be registered. -/
theorem ConstantsFit.addConstant {engine : Engine} (fit : engine.ConstantsFit) (name : String)
    {item : Constant} (sort : item.value.kind = item.kind) :
    (engine.addConstant name item).ConstantsFit :=
  Register.forall_insert
    (fun entry : Entry Constant => entry.item.value.kind = entry.item.kind) sort fit

/-- Every expression that is read is typed. -/
theorem typed_of_parse {engine : Engine} {text : List Char} {tree : Tree}
    (constants : engine.ConstantsFit) (read : engine.parse text = .ok tree) : tree.Typed := by
  refine parse_induction (motive := fun _ tree => tree.Typed) ?_ text tree read
  intro text tree whole shorter
  have trimmed := Text.length_trim_le text
  cases makes_of_parse whole with
  | @block inner tree enclosed read =>
    have length := Dialect.length_of_enclosed? enclosed
    exact .block (shorter inner tree (by omega) read)
  | name named =>
    rcases Option.or_eq_some_iff.mp named with constant | ⟨_, input⟩
    · obtain ⟨item, found, rfl⟩ := Option.map_eq_some_iff.mp constant
      obtain ⟨entry, place, rfl⟩ := Option.map_eq_some_iff.mp found
      exact .constant (constants entry (List.mem_of_find?_eq_some place))
    · obtain ⟨item, _, rfl⟩ := Option.map_eq_some_iff.mp input
      exact .input
  | operation _ _ takes =>
    obtain ⟨⟨parts, fragments, read⟩, accepted⟩ := takes
    refine .operation (fun operand member => ?_) accepted
    obtain ⟨part, inside, success⟩ := exists_part_of_readsAll read member
    have length := OperatorEntry.length_of_mem_fragments? fragments inside
    exact shorter part operand (by omega) success
  | call called read accepted =>
    refine .call (fun operand member => ?_) accepted
    obtain ⟨part, inside, success⟩ := exists_part_of_readsAll read member
    have length := length_of_call? called inside
    exact shorter part operand (by omega) success
  | literal _ => exact .literal rfl

/-- Whatever is read evaluates to null or to a value of its declared kind. Its evaluation fails only
beyond the longs, at a double that has no nearest long, or where one of its variables does, and looks
for no operand that is not there: each part has its kind and its outcome by position as well. -/
theorem parse_sound {engine : Engine} {text : List Char} {tree : Tree}
    (constants : engine.ConstantsFit) (read : engine.parse text = .ok tree)
    (document : Option Json) :
    (∀ value, tree.outcome document = .ok value → value = .null ∨ value.kind = tree.kind) ∧
      (∀ error, tree.outcome document = .error error → tree.MayFail document error) ∧
      (∀ part : Tree, part.Within tree →
        ∀ position ∈ part.positions, position < part.children.length) ∧
      ∀ part : Tree, part.Within tree →
        part.kindAt = .ok part.kind ∧ part.outcomeAt document = Fault.lift (part.outcome document) := by
  have typed := typed_of_parse constants read
  have yields := typed.outcome_yields document
  refine ⟨fun value success => ?_, fun error failed => ?_, fun _ within => typed.positions_lt within,
    fun part within => ?_⟩
  · rw [success] at yields
    exact yields
  · rw [failed] at yields
    exact yields
  · have inside := typed.positions_lt within
    exact ⟨part.kindAt_eq inside, part.outcomeAt_eq inside document⟩

theorem parse_sound_of_root :
    ∃ tree, (standard 0 ⟨Date.epoch, Time.midnight⟩).parse "Round(Sqrt(2)) + 1".toList = .ok tree ∧
      ∀ value, tree.outcome none = .ok value → value = .null ∨ value.kind = .long := by
  have reads : ((standard 0 ⟨Date.epoch, Time.midnight⟩).parse
      "Round(Sqrt(2)) + 1".toList).toOption.map Tree.kind = some .long := by decide +kernel
  obtain ⟨tree, success, long⟩ := Option.map_eq_some_iff.mp reads
  have read := Except.toOption_eq_some_iff.mp success
  have sound := parse_sound (constantsFit_standard 0 ⟨Date.epoch, Time.midnight⟩) read none
  exact ⟨tree, read, long ▸ sound.1⟩

end Engine

end Reckoner
