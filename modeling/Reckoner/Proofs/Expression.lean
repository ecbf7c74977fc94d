import Reckoner.Proofs.Outcome
import Reckoner.Reduction
import Mathlib.Data.List.Forall2

/-! # Expressions and their parts

Induction over expressions with the operands of an operator or a function in hand, and the parts that
stand within an expression. Evaluation sees a document through the variables alone, so evaluation without
a document answers for every document as long as no variable stands within.
-/

namespace Reckoner

/-- Every member of the right list is related to a member of the left one. -/
theorem exists_of_forall₂ {α β : Type} {relation : α → β → Prop} {left : List α} {right : List β}
    (related : List.Forall₂ relation left right) {value : β} (member : value ∈ right) :
    ∃ item ∈ left, relation item value := by
  induction related with
  | nil => exact absurd member List.not_mem_nil
  | cons here _ ih =>
    rcases List.mem_cons.mp member with rfl | later
    · exact ⟨_, List.mem_cons_self .., here⟩
    · obtain ⟨item, inside, relates⟩ := ih later
      exact ⟨item, List.mem_cons_of_mem _ inside, relates⟩

/-- A list that is changed item by item changes at its first item and in the rest. -/
theorem exists_of_mapM_cons {α β : Type} {change : α → Option β} {item : α} {rest : List α}
    {changed : List β} (mapped : (item :: rest).mapM change = some changed) :
    ∃ result others, change item = some result ∧ rest.mapM change = some others ∧
      changed = result :: others := by
  rw [List.mapM_cons] at mapped
  obtain ⟨result, here, mapped⟩ := Option.bind_eq_some_iff.mp mapped
  obtain ⟨others, later, mapped⟩ := Option.bind_eq_some_iff.mp mapped
  exact ⟨result, others, here, later, (Option.some.inj mapped).symm⟩

/-- The items of a list that is changed item by item are related by the change to what they become. -/
theorem forall₂_of_mapM {α β : Type} {change : α → Option β} {items : List α} {changed : List β}
    (mapped : items.mapM change = some changed) :
    List.Forall₂ (fun item result => change item = some result) items changed := by
  induction items generalizing changed with
  | nil =>
    obtain rfl := Option.some.inj mapped
    exact .nil
  | cons item rest ih =>
    obtain ⟨result, others, here, later, rfl⟩ := exists_of_mapM_cons mapped
    exact .cons here (ih later)

/-- Items that are related to what they change to one by one are related as lists. -/
theorem forall₂_map_self {α β : Type} {relation : β → α → Prop} {change : α → β} {items : List α}
    (each : ∀ item ∈ items, relation (change item) item) :
    List.Forall₂ relation (items.map change) items :=
  List.forall₂_map_left_iff.mpr (List.forall₂_same.mpr each)

namespace Tree

/-- A property of all expressions follows from one case for every form of expression. -/
@[elab_as_elim, induction_eliminator]
theorem induction {motive : Tree → Prop}
    (literal : ∀ kind value, motive (.literal kind value))
    (constant : ∀ item, motive (.constant item))
    (input : ∀ item, motive (.input item))
    (operation : ∀ operator operands, (∀ operand ∈ operands, motive operand) →
      motive (.operation operator operands))
    (call : ∀ function operands, (∀ operand ∈ operands, motive operand) →
      motive (.call function operands))
    (block : ∀ inner, motive inner → motive (.block inner)) (tree : Tree) : motive tree := by
  match tree with
  | .literal kind value => exact literal kind value
  | .constant item => exact constant item
  | .input item => exact input item
  | .operation operator operands =>
    exact operation operator operands fun operand _ =>
      induction literal constant input operation call block operand
  | .call function operands =>
    exact call function operands fun operand _ =>
      induction literal constant input operation call block operand
  | .block inner =>
    exact block inner (induction literal constant input operation call block inner)
termination_by sizeOf tree

/-- `part` is the expression `whole` itself or stands somewhere within it. -/
inductive Within (part : Tree) : Tree → Prop
  | self : Within part part
  | child {whole inner : Tree} (member : inner ∈ whole.children) (within : Within part inner) :
    Within part whole

theorem Within.trans {part middle whole : Tree} (inner : Within part middle)
    (outer : Within middle whole) : Within part whole := by
  induction outer with
  | self => exact inner
  | child member _ ih => exact .child member ih

theorem Within.operand {operator : Operator} {operands : List Tree} {operand : Tree}
    (member : operand ∈ operands) : Within operand (.operation operator operands) :=
  .child member .self

theorem Within.argument {function : Function} {operands : List Tree} {operand : Tree}
    (member : operand ∈ operands) : Within operand (.call function operands) :=
  .child member .self

theorem Within.inside {inner : Tree} : Within inner (.block inner) :=
  .child (List.mem_singleton_self _) .self

/-- All parts of the expression are fine. -/
def All (fine : Tree → Prop) (tree : Tree) : Prop := ∀ part, Within part tree → fine part

section All

variable {fine : Tree → Prop}

theorem All.self {tree : Tree} (all : All fine tree) : fine tree := all tree .self

/-- What holds of all parts of an expression holds of all parts of each part. -/
theorem All.within {part whole : Tree} (all : All fine whole) (within : Within part whole) : All fine part :=
  fun _ inner => all _ (inner.trans within)

/-- A property holds of all parts if it holds of the whole and of all parts of its children. -/
theorem all_of_children {tree : Tree} (here : fine tree) (children : ∀ child ∈ tree.children, All fine child) :
    All fine tree := by
  intro part within
  cases within with
  | self => exact here
  | child member within => exact children _ member part within

end All

mutual

/-- The expression and everything that stands within it, from the outside in. -/
def parts : Tree → List Tree
  | literal kind value => [literal kind value]
  | constant item => [constant item]
  | input item => [input item]
  | operation operator operands => operation operator operands :: partsOfAll operands
  | call function operands => call function operands :: partsOfAll operands
  | block inner => block inner :: parts inner

def partsOfAll : List Tree → List Tree
  | [] => []
  | tree :: rest => parts tree ++ partsOfAll rest

end

theorem mem_partsOfAll {part : Tree} {trees : List Tree} :
    part ∈ partsOfAll trees ↔ ∃ tree ∈ trees, part ∈ tree.parts := by
  induction trees with
  | nil => simp only [partsOfAll, List.not_mem_nil, false_and, exists_false]
  | cons tree rest ih =>
    simp only [partsOfAll, List.mem_append, ih, List.mem_cons, exists_eq_or_imp]

/-- What stands within an expression can be listed. -/
theorem Within.mem_parts {part whole : Tree} (within : Within part whole) : part ∈ whole.parts := by
  induction within with
  | self => cases part <;> simp only [parts, List.mem_cons, true_or]
  | @child whole inner member _ ih =>
    cases whole with
    | literal | constant | input => exact absurd member List.not_mem_nil
    | operation | call =>
      rw [parts]
      exact List.mem_cons_of_mem _ (mem_partsOfAll.mpr ⟨inner, member, ih⟩)
    | block =>
      rw [parts]
      exact List.mem_cons_of_mem _ (List.mem_singleton.mp member ▸ ih)

/-- What is listed stands within the expression. -/
theorem within_of_mem_parts {part whole : Tree} (member : part ∈ whole.parts) : Within part whole := by
  induction whole with
  | literal | constant | input =>
    rw [parts, List.mem_singleton] at member
    exact member ▸ .self
  | operation _ operands ih | call _ operands ih =>
    rw [parts, List.mem_cons, mem_partsOfAll] at member
    rcases member with rfl | ⟨operand, inside, member⟩
    · exact .self
    · exact .child inside (ih operand inside member)
  | block inner ih =>
    rw [parts, List.mem_cons] at member
    rcases member with rfl | member
    · exact .self
    · exact (ih member).trans .inside

instance {fine : Tree → Prop} [DecidablePred fine] (tree : Tree) : Decidable (All fine tree) :=
  decidable_of_iff (∀ part ∈ tree.parts, fine part)
    ⟨fun all part within => all part within.mem_parts,
      fun all part member => all part (within_of_mem_parts member)⟩

theorem mem_inputsOfAll {item : Variable} {trees : List Tree} :
    item ∈ inputsOfAll trees ↔ ∃ tree ∈ trees, item ∈ tree.inputs := by
  rw [inputsOfAll_eq_flatMap, List.mem_flatMap]

theorem areConstant_iff {trees : List Tree} :
    areConstant trees = true ↔ ∀ tree ∈ trees, tree.isConstant = true := by
  rw [areConstant_eq_all, List.all_eq_true]

/-- Operands with the same outcomes for two documents are the same operands. -/
theorem operandsFor_congr {left right : Option Json} {operands : List Tree}
    (same : ∀ operand ∈ operands, operand.outcome left = operand.outcome right) :
    operandsFor left operands = operandsFor right operands := by
  rw [operandsFor_eq_map, operandsFor_eq_map]
  exact List.map_congr_left fun operand member => by rw [same operand member]

/-- Evaluation sees nothing of a document but what the variables of the expression find there. -/
theorem outcome_congr {tree : Tree} {left right : Option Json}
    (same : ∀ item ∈ tree.inputs, item.outcome left = item.outcome right) :
    tree.outcome left = tree.outcome right := by
  have parts {operands : List Tree}
      (ih : ∀ operand ∈ operands,
        (∀ item ∈ operand.inputs, item.outcome left = item.outcome right) →
          operand.outcome left = operand.outcome right)
      (same : ∀ item ∈ inputsOfAll operands, item.outcome left = item.outcome right) :
      operandsFor left operands = operandsFor right operands :=
    operandsFor_congr fun operand member => ih operand member fun item inside =>
      same item (mem_inputsOfAll.mpr ⟨operand, member, inside⟩)
  induction tree with
  | literal | constant => rw [outcome, outcome]
  | input item =>
    rw [outcome, outcome]
    exact same item (by rw [inputs]; exact List.mem_singleton_self item)
  | operation operator operands ih | call function operands ih =>
    rw [inputs] at same
    rw [outcome, outcome, parts ih same]
  | block inner ih =>
    rw [inputs] at same
    rw [outcome, outcome, ih same]

/-- The constant expressions are those without variables. -/
theorem inputs_eq_nil_iff {tree : Tree} : tree.inputs = [] ↔ tree.isConstant = true := by
  induction tree with
  | literal | constant => simp only [inputs, isConstant]
  | input => simp only [inputs, isConstant, List.cons_ne_nil, Bool.false_eq_true]
  | operation _ operands ih | call _ operands ih =>
    rw [inputs, isConstant, areConstant_iff, inputsOfAll_eq_flatMap, List.flatMap_eq_nil_iff]
    exact forall₂_congr ih
  | block inner ih => rw [inputs, isConstant, ih]

/-- The outcome of an expression without variables is the same for all documents. -/
theorem outcome_of_isConstant {tree : Tree} (constant : tree.isConstant = true)
    (document : Option Json) : tree.outcome document = tree.outcome none := by
  refine outcome_congr ?_
  rw [inputs_eq_nil_iff.mpr constant]
  exact List.forall_mem_nil _

/-- Constant operands are known: without a document they are what they are with any. -/
theorem operandsFor_of_areConstant {operands : List Tree} (constant : areConstant operands = true)
    (document : Option Json) : operandsFor document operands = known operands :=
  operandsFor_congr fun operand member =>
    outcome_of_isConstant (areConstant_iff.mp constant operand member) document

/-- A literal value is the value of a constant expression. -/
theorem literalValue?_eq_some_iff {tree : Tree} {value : Value} :
    tree.literalValue? = some value ↔ tree.isConstant = true ∧ tree.outcome none = .ok value := by
  unfold literalValue?
  split
  · next constant => rw [Except.toOption_eq_some_iff, and_iff_right constant]
  · next varying => simp only [varying, false_and, reduceCtorEq]

/-- A value that is known without a document is the value for every document. -/
theorem outcome_of_literalValue? {tree : Tree} {value : Value}
    (known : tree.literalValue? = some value) (document : Option Json) :
    tree.outcome document = .ok value := by
  obtain ⟨constant, success⟩ := literalValue?_eq_some_iff.mp known
  rw [outcome_of_isConstant constant, success]

theorem isConstant_of_literalValue? {tree : Tree} (known : tree.literalValue?.isSome = true) :
    tree.isConstant = true := by
  obtain ⟨value, known⟩ := Option.isSome_iff_exists.mp known
  exact (literalValue?_eq_some_iff.mp known).1

/-- An expression has the same outcome, failures included, for any two documents or none in which each of
its variables finds the same. So an expression without variables has a literal value exactly if it has
that value for every document. -/
theorem outcome_determined_by_inputs (tree : Tree) :
    (∀ left right : Option Json, (∀ item ∈ tree.inputs, item.outcome left = item.outcome right) →
      tree.outcome left = tree.outcome right) ∧
    (tree.isConstant = true → ∀ value,
      tree.literalValue? = some value ↔ ∀ document, tree.outcome document = .ok value) := by
  refine ⟨fun _ _ => outcome_congr, fun constant value => ⟨outcome_of_literalValue?, fun answers => ?_⟩⟩
  exact literalValue?_eq_some_iff.mpr ⟨constant, answers none⟩

/-- A sum that leaves the longs for two documents that differ beside its variable, and a constant verdict
on such a sum. -/
theorem outcome_determined_by_inputs_of_overflow :
    let most : Long := ⟨9223372036854775807, by decide, by decide⟩
    let varying : Tree := .operation ⟨0, .addition⟩ [.input ⟨1, "/x", .long⟩, .literal .long (.long 1)]
    let left : Json := .object [("x", .integer 9223372036854775807), ("note", .integer 1)]
    let right : Json := .object [("x", .integer 9223372036854775807), ("note", .integer 2)]
    let constant : Tree := .call ⟨2, .evaluates⟩
      [.operation ⟨3, .addition⟩ [.literal .long (.long most), .literal .long (.long 1)]]
    (∀ item ∈ varying.inputs, item.outcome (some left) = item.outcome (some right)) ∧
      varying.outcome (some left) = varying.outcome (some right) ∧
      constant.isConstant = true ∧ ∀ document, constant.outcome document = .ok (.boolean false) := by
  intro most varying left right constant
  have found : (Variable.outcome (some left) ⟨1, "/x", .long⟩).toOption = some (.long most) ∧
      (Variable.outcome (some right) ⟨1, "/x", .long⟩).toOption = some (.long most) := by decide +kernel
  have same : ∀ item ∈ varying.inputs, item.outcome (some left) = item.outcome (some right) := by
    intro item member
    rw [List.mem_singleton.mp member, Except.toOption_eq_some_iff.mp found.1,
      Except.toOption_eq_some_iff.mp found.2]
  refine ⟨same, (outcome_determined_by_inputs varying).1 _ _ same, rfl, ?_⟩
  exact ((outcome_determined_by_inputs constant).2 rfl _).mp rfl

end Tree

end Reckoner
