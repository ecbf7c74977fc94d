import Reckoner.Proofs.Folding.Grouped
import Reckoner.Proofs.Writing.Reduced

/-! # Reduced expressions read back

The blocks that reduction puts back are those that a reader needs. An operation stays bare in the leading
place of its own operator, where its operands are read as the first ones of the row: a longer row of the
same operator, unless this is a comparison, which accepts two operands only. What else is lost is lost with
the literals, since a null is read as nothing but a null and the least long as a double.
-/

namespace Reckoner

open Reckoner.Tree

/-- A value is read back as one of its kind. -/
theorem Value.kind_canonical (value : Value) : value.canonical.kind = value.kind := by cases value <;> rfl

theorem Value.isNull_canonical (value : Value) : value.canonical.isNull = value.isNull := by
  cases value <;> rfl

namespace OperatorKind

/-- A row has the kind that it has with some of its operands under the same operator in front. -/
theorem resultKind_append (operator : OperatorKind) (front back : List Kind) :
    operator.resultKind (operator.resultKind front :: back) = operator.resultKind (front ++ back) := by
  have numbers : Kind.promoted (Kind.promoted front :: back) = Kind.promoted (front ++ back) :=
    Kind.promoted_congr (by rw [List.mem_cons, List.mem_append, eq_comm, Kind.promoted_eq_double_iff])
  cases operator <;> first | exact numbers | rfl

/-- Whatever an operator accepts in front it accepts in the row, unless it accepts two operands only. -/
theorem accepts_append {operator : OperatorKind} {kind : Kind} {front back : List Kind}
    (between : operator.isUnary = false) (unpaired : ∀ relation, operator ≠ .comparison relation)
    (inner : operator.accepts front = true) (outer : operator.accepts (kind :: back) = true) :
    operator.accepts (front ++ back) = true := by
  have row {wanted : Kind} (inner : (decide (2 ≤ front.length) && wanted.takesAll front) = true)
      (outer : (decide (2 ≤ (kind :: back).length) && wanted.takesAll (kind :: back)) = true) :
      (decide (2 ≤ (front ++ back).length) && wanted.takesAll (front ++ back)) = true := by
    rw [Bool.and_eq_true, decide_eq_true_eq, Kind.takesAll_iff] at *
    refine ⟨inner.1.trans (by rw [List.length_append]; exact Nat.le_add_right ..), ?_⟩
    exact List.forall_mem_append.mpr ⟨inner.2, (List.forall_mem_cons.mp outer.2).2⟩
  cases operator with
  | comparison relation => exact absurd rfl (unpaired relation)
  | not | square | negation => exact absurd between.symm Bool.false_ne_true
  | _ => exact row inner outer

end OperatorKind

namespace Tree

/-- The operands of a row, with those of an operation of the same operator in the leading place. -/
def unchained (operator : Operator) : List Tree → List Tree
  | operation inner others :: rest =>
    if inner = operator ∧ operator.kind.isUnary = false then others ++ rest
    else operation inner others :: rest
  | operands => operands

mutual

/-- The expression as which its text is read: leading operations of an operator become part of the row,
and any NaN is the one that a literal denotes. -/
def reread : Tree → Tree
  | literal kind value => literal kind value.canonical
  | constant item => constant item
  | input item => input item
  | operation operator operands => operation operator (unchained operator (rereadAll operands))
  | call function operands => call function (rereadAll operands)
  | block inner => block (reread inner)

def rereadAll : List Tree → List Tree
  | [] => []
  | tree :: rest => reread tree :: rereadAll rest

end

theorem rereadAll_eq_map (trees : List Tree) : rereadAll trees = trees.map reread := by
  induction trees with
  | nil => rfl
  | cons tree rest ih => rw [rereadAll, ih, List.map_cons]

/-- A row is left as it is, unless an operation of the same operator leads it. -/
theorem unchained_cases (operator : Operator) (operands : List Tree) :
    (∃ others rest, operands = .operation operator others :: rest ∧ operator.kind.isUnary = false ∧
      unchained operator operands = others ++ rest) ∨
    unchained operator operands = operands ∧ ∀ others,
      operands.head? = some (.operation operator others) → operator.kind.isUnary = true := by
  unfold unchained
  split
  · next inner others rest =>
    by_cases chain : inner = operator ∧ operator.kind.isUnary = false
    · obtain ⟨rfl, between⟩ := chain
      exact .inl ⟨others, rest, rfl, between, if_pos ⟨rfl, between⟩⟩
    · refine .inr ⟨if_neg chain, fun _ same => Bool.eq_true_of_not_eq_false fun between => ?_⟩
      exact chain ⟨(Tree.operation.inj (Option.some.inj same)).1, between⟩
  · next other =>
    refine .inr ⟨rfl, fun others same => ?_⟩
    obtain ⟨rest, rfl⟩ := List.head?_eq_some_iff.mp same
    exact absurd rfl (other _ _ _)

/-- An expression is reread as one of its kind. -/
theorem kind_reread (tree : Tree) : tree.reread.kind = tree.kind := by
  have row (operator : Operator) (operands : List Tree) :
      (operation operator (unchained operator operands)).kind = (operation operator operands).kind := by
    rcases unchained_cases operator operands with ⟨others, rest, rfl, _, same⟩ | ⟨same, _⟩
    · rw [same, kind, kind, kinds, kind, operator.kind.resultKind_append, kinds_eq_map, kinds_eq_map,
        kinds_eq_map, List.map_append]
    · rw [same]
  have parts {operands : List Tree} (ih : ∀ operand ∈ operands, operand.reread.kind = operand.kind) :
      kinds (rereadAll operands) = kinds operands := by
    rw [rereadAll_eq_map, kinds_eq_map, kinds_eq_map, List.map_map]
    exact List.map_congr_left ih
  induction tree with
  | literal => rw [reread, kind, kind]
  | constant | input => rw [reread]
  | operation operator operands ih => rw [reread, row, kind, kind, parts ih]
  | call function operands ih => rw [reread, kind, kind, parts ih]
  | block inner ih => rw [reread, kind, kind, ih]

theorem kinds_map_reread (operands : List Tree) : kinds (operands.map reread) = kinds operands := by
  rw [kinds_eq_map, kinds_eq_map, List.map_map]
  exact List.map_congr_left fun operand _ => operand.kind_reread

/-- An operation is read as one of the same operator. -/
theorem exists_of_reread {tree : Tree} {operator : Operator} {operands : List Tree}
    (same : tree.reread = .operation operator operands) : ∃ originals, tree = .operation operator originals := by
  cases tree with
  | operation =>
    rw [reread] at same
    obtain ⟨rfl, _⟩ := Tree.operation.inj same
    exact ⟨_, rfl⟩
  | _ =>
    rw [reread] at same
    cases same

/-- A settled expression has a value other than null exactly if what it is read as has one. -/
theorem any_literalValue?_reread {tree : Tree} (settled : tree.Settled) :
    tree.reread.literalValue?.any (!·.isNull) = tree.literalValue?.any (!·.isNull) := by
  rcases settled with ⟨kind, value, rfl⟩ | resists
  · rw [reread]
    simp only [literalValue?, isConstant, outcome, if_pos, Except.toOption, Option.any_some,
      Value.isNull_canonical]
  · have same : tree.reread = tree := by
      induction tree with
      | constant => rw [reread]
      | call function operands ih =>
        rw [reread, rereadAll_eq_map]
        refine congrArg _ ((List.map_congr_left fun operand member => ?_).trans operands.map_id)
        exact ih operand member fun part within => resists part (within.trans (.argument member))
      | _ => exact absurd (resists _ .self) Bool.false_ne_true
    rw [same]

/-- A function accepts its operands as they are read. -/
theorem Accepted.reread {function : Function} {operands : List Tree}
    (accepted : Accepted (.call function operands)) : function.accepts (operands.map reread) = true := by
  obtain ⟨accepted, settled⟩ := accepted
  rw [Function.accepts] at accepted ⊢
  rw [kinds_map_reread]
  cases form : function.kind with
  | noNull =>
    have last : ((operands.map Tree.reread).getLast?.bind literalValue?).any (!·.isNull) =
        (operands.getLast?.bind literalValue?).any (!·.isNull) := by
      rw [List.getLast?_map]
      cases place : operands.getLast? with
      | none => rfl
      | some operand => exact any_literalValue?_reread (settled form operand place)
    rw [form, FunctionKind.accepts] at accepted
    rw [FunctionKind.accepts, last, accepted]
  | _ =>
    rw [form] at accepted
    exact accepted

/-- The text of the part says what the part is: that of a literal denotes a value of the declared kind, and
no comparison leads the same comparison. -/
def isFaithful : Tree → Bool
  | literal kind value => kind == value.kind && decide value.canonical.Sayable
  | operation ⟨tag, .comparison relation⟩ (operation inner _ :: _) => inner != ⟨tag, .comparison relation⟩
  | _ => true

/-- A faithful operation does not begin with a comparison of comparisons. -/
theorem ne_comparison_of_isFaithful {operator : Operator} {others rest : List Tree}
    (faithful : (operation operator (operation operator others :: rest)).isFaithful = true)
    (relation : Comparison) : operator.kind ≠ .comparison relation := by
  obtain ⟨tag, kind⟩ := operator
  rintro rfl
  rw [isFaithful, bne_self_eq_false] at faithful
  exact absurd faithful Bool.false_ne_true

end Tree

namespace Engine

variable {engine : Engine} {base : Tag}

/-- Of two operators the one directly below the other binds tighter or, in the leading place, is the same. -/
theorem Ordinary.level_lt_of_mustGroup (ordinary : engine.Ordinary base) {outer inner : OperatorEntry}
    {isLeading : Bool} (registered : outer ∈ Library.operators base) (registeredToo : inner ∈ Library.operators base)
    (bare : engine.mustGroup outer.operator isLeading inner.operator = false) :
    outer.level < inner.level ∨ isLeading = true ∧ inner = outer := by
  rw [mustGroup, ordinary.positionOf?_eq registered, ordinary.positionOf?_eq registeredToo] at bare
  simp only [Bool.or_eq_false_iff, decide_eq_false_iff_not, Nat.not_lt] at bare
  obtain ⟨atLeast, shared⟩ := bare
  rcases Nat.lt_or_eq_of_le atLeast with below | same
  · exact .inl below
  · obtain rfl := Library.eq_of_level_eq registered registeredToo same
    simp only [beq_self_eq_true, Bool.true_and, Bool.not_eq_eq_eq_not, Bool.not_false] at shared
    exact .inr ⟨shared, rfl⟩

section Rows

variable {entry : OperatorEntry} {operands : List Tree}

/-- Rereading the operands leaves their blocks where they are. -/
theorem Grouped.map_reread {operator : Operator} (grouped : engine.Grouped (.operation operator operands)) :
    engine.Grouped (.operation operator (operands.map reread)) := by
  constructor
  · intro inner others first
    rw [List.head?_map] at first
    obtain ⟨operand, place, same⟩ := Option.map_eq_some_iff.mp first
    obtain ⟨originals, rfl⟩ := exists_of_reread same
    exact grouped.1 inner originals place
  · intro inner others member
    rw [← List.map_tail] at member
    obtain ⟨operand, inside, same⟩ := List.mem_map.mp member
    obtain ⟨originals, rfl⟩ := exists_of_reread same
    exact grouped.2 inner originals inside

/-- No addition accepts an operand that is declared a text. -/
theorem unadded_of_text (text : Kind.string ∈ kinds operands) {other : OperatorEntry} (nine : other.level = 9) :
    other.operator.accepts operands = false := by
  refine Bool.eq_false_iff.mpr fun accepted => ?_
  rw [Operator.accepts, OperatorKind.eq_addition_of_level nine] at accepted
  exact absurd (Kind.takesAll_iff.mp (Bool.and_eq_true_iff.mp accepted).2 _ text) (by decide)

/-- An addition accepts any two or more of the operands that it accepts. -/
theorem accepts_of_append {other : OperatorEntry} {front back : List Tree} (nine : other.level = 9)
    (several : 2 ≤ front.length) (accepted : other.operator.accepts (front ++ back) = true) :
    other.operator.accepts front = true := by
  have arithmetic : other.operator.kind.isArithmetic = true := by
    rw [OperatorKind.eq_addition_of_level nine]
    rfl
  have numbers := ((Operator.accepts_arithmetic_iff arithmetic).mp accepted).2
  exact (Operator.accepts_arithmetic_iff arithmetic).mpr ⟨several, (List.forall_mem_append.mp numbers).1⟩

namespace Ordinary

variable (ordinary : engine.Ordinary base) (registered : entry ∈ Library.operators base)
  (signable : ∀ operand ∈ operands, engine.Signable base operand)

include ordinary registered signable

/-- An operation that needs no block binds more tightly, or is the same one in front. -/
theorem level_lt_of_bare {isLeading : Bool} {inner : Operator} {others : List Tree}
    (member : .operation inner others ∈ operands)
    (bare : engine.mustGroup entry.operator isLeading inner = false) :
    entry.level < inner.kind.level ∨ isLeading = true ∧ inner = entry.operator := by
  obtain ⟨other, registeredToo, rfl, _⟩ := signable _ member
  exact (ordinary.level_lt_of_mustGroup registered registeredToo bare).imp id
    (And.imp id (congrArg OperatorEntry.operator))

variable (accepted : entry.operator.accepts operands = true)
  (grouped : engine.Grouped (.operation entry.operator operands))

include accepted grouped

/-- An operator binds the operands behind the leading one, and this one as well unless it is an operation of
the operator itself. -/
theorem deeper_of_grouped {operand : Tree} (member : operand ∈ operands)
    (single : ∀ others, operands.head? = some (.operation entry.operator others) →
      operand ∈ operands.tail ∨ entry.operator.kind.isUnary = true) :
    (entry.level < operand.level ∨ entry.operator.kind.isUnary = true ∧ entry.level = operand.level ∨
      entry.operator.kind.isUnary = false ∧ operand.level = 2) ∧
      (entry.level = 9 → operand.level ≠ 10) := by
  refine deeper_of_accepted accepted member (fun kind value same => ?_) fun inner others same => ?_
  · subst same
    exact (signable _ member).1
  · subst same
    have behind (later : .operation inner others ∈ operands.tail) : entry.level < inner.kind.level :=
      (ordinary.level_lt_of_bare registered signable member (grouped.2 inner others later)).resolve_right
        fun leads => absurd leads.1 Bool.false_ne_true
    obtain ⟨first, rest, rfl⟩ := List.exists_cons_of_ne_nil (List.ne_nil_of_mem member)
    rcases List.mem_cons.mp member with rfl | later
    · rcases ordinary.level_lt_of_bare registered signable member (grouped.1 inner others rfl) with
        below | ⟨_, rfl⟩
      · exact .inl below
      · rcases single others rfl with later | unary
        · exact .inl (behind later)
        · exact .inr (.inl ⟨unary, rfl⟩)
    · exact .inl (behind later)

/-- An operator binds the operands of its row. -/
theorem binds_unchained (text : entry.operator.kind = .concatenation → Kind.string ∈ kinds operands)
    (unpaired : ∀ others rest, operands = .operation entry.operator others :: rest →
      ∀ relation, entry.operator.kind ≠ .comparison relation) :
    Binds base entry (unchained entry.operator operands) := by
  have bound {operand : Tree} := @deeper_of_grouped _ _ _ _ ordinary registered signable accepted grouped operand
  rcases unchained_cases entry.operator operands with ⟨others, rest, rfl, between, same⟩ | ⟨same, single⟩
  · -- The operation in the leading place binds its operands at the level of the row.
    obtain ⟨other, registeredToo, sameToo, inner⟩ := signable _ (List.mem_cons_self ..)
    obtain rfl : other = entry :=
      Library.eq_of_level_eq registeredToo registered (congrArg (·.kind.level) sameToo)
    have several := OperatorKind.two_le_length_of_accepts between inner.accepted
    rw [kinds_eq_map, List.length_map] at several
    have behind (operand : Tree) (member : operand ∈ rest) :=
      bound (List.mem_cons_of_mem _ member) fun _ _ => .inl member
    rw [same]
    refine ⟨?_, fun ten third present nine => Bool.eq_false_iff.mpr fun sums => ?_,
      List.forall_mem_append.mpr ⟨inner.deeper, fun operand member => (behind operand member).1⟩,
      List.forall_mem_append.mpr ⟨inner.apart, fun operand member => (behind operand member).2⟩⟩
    · have front := inner.accepted
      rw [Operator.accepts, kinds_eq_map] at front accepted ⊢
      rw [List.map_append]
      exact OperatorKind.accepts_append between (unpaired others rest rfl) front accepted
    · have front := accepts_of_append nine several sums
      exact absurd ((inner.unadded ten third present nine).symm.trans front) Bool.false_ne_true
  · have each (operand : Tree) (member : operand ∈ operands) := bound member fun others first =>
      .inr (single others first)
    rw [same]
    exact ⟨accepted, fun ten other _ nine =>
      unadded_of_text (text (OperatorKind.eq_concatenation_of_level ten)) nine,
      fun operand member => (each operand member).1, fun operand member => (each operand member).2⟩

end Ordinary

end Rows

/-- The part of a reduced expression can be written, its blocks are in place, and its text says what it is. -/
structure Tellable (engine : Engine) (base : Tag) (tree : Tree) : Prop where
  formed : engine.Formed base False tree
  grouped : engine.Grouped tree
  faithful : tree.isFaithful = true

/-- Operands are written one after the other. -/
theorem formatOperands_append (isOneOfMany : Bool) (front back : List Tree) :
    engine.formatOperands isOneOfMany (front ++ back) = (engine.formatOperands isOneOfMany front).bind fun texts =>
      (engine.formatOperands isOneOfMany back).map (texts ++ ·) := by
  induction front with
  | nil =>
    rw [List.nil_append, formatOperands]
    cases engine.formatOperands isOneOfMany back <;> rfl
  | cons operand rest ih =>
    rw [List.cons_append, formatOperands, formatOperands, ih]
    cases engine.format operand with
    | error => rfl
    | ok =>
      cases engine.formatOperands isOneOfMany rest with
      | error => rfl
      | ok => cases engine.formatOperands isOneOfMany back <;> rfl

theorem rowText_append_left (token front first : List Char) (rest : List (List Char)) :
    rowText token ((front ++ first) :: rest) = front ++ rowText token (first :: rest) := by
  induction front with
  | nil => rfl
  | cons c front ih => exact List.intercalate_cons_cons_left.trans (congrArg (c :: ·) ih)

/-- The text of a row goes on from the text of its front. -/
theorem rowText_append (token : List Char) {front : List (List Char)} (spelled : front ≠ [])
    (back : List (List Char)) : rowText token (rowText token front :: back) = rowText token (front ++ back) := by
  induction front with
  | nil => exact absurd rfl spelled
  | cons first rest ih =>
    cases rest with
    | nil => exact congrArg (fun text => rowText token (text :: back)) List.intercalate_singleton
    | cons second rest =>
      have step (texts : List (List Char)) : rowText token (first :: second :: texts) =
          first ++ (' ' :: token ++ [' ']) ++ rowText token (second :: texts) := List.intercalate_cons_cons
      calc rowText token (rowText token (first :: second :: rest) :: back)
        _ = first ++ (' ' :: token ++ [' ']) ++ rowText token (rowText token (second :: rest) :: back) := by
          rw [step, rowText_append_left]
        _ = first ++ (' ' :: token ++ [' ']) ++ rowText token (second :: (rest ++ back)) :=
          congrArg _ (ih (List.cons_ne_nil _ _))
        _ = rowText token (first :: second :: (rest ++ back)) := (step _).symm

namespace Legible

variable (legible : engine.Legible base)

include legible

/-- A row begins with a token in front only if its first text does. -/
theorem beginsWithToken_rowText {first : List Char} (bare : engine.beginsWithToken first = false)
    (token : List Char) (rest : List (List Char)) :
    engine.beginsWithToken (rowText token (first :: rest)) = false := by
  have ordinary := legible.toOrdinary
  rw [Bool.eq_false_iff, Ne, ordinary.beginsWithToken_iff] at bare ⊢
  cases first with
  | nil =>
    cases rest with
    | nil => exact bare
    | cons second rest =>
      rw [rowText, List.intercalate_cons_cons]
      rintro (first | first) <;> exact absurd (Option.some.inj first) (by decide)
  | cons c first =>
    rw [rowText, List.intercalate_cons_cons_left]
    exact bare

/-- No operand in a row begins with a token in front, since it would stand in a block. -/
theorem beginsWithToken_operandText {tree : Tree} {text : List Char} (written : engine.format tree = .ok text) :
    engine.beginsWithToken (engine.operandText true tree text) = false := by
  have ordinary := legible.toOrdinary
  have parenthesis (text : List Char) : engine.beginsWithToken (engine.blockText text) = false := by
    refine Bool.eq_false_iff.mpr fun begins => ?_
    rw [ordinary.beginsWithToken_iff, blockText, ordinary.dialect] at begins
    rcases begins with first | first <;> exact absurd (Option.some.inj first) (by decide)
  have named {name : String} (identifier : isIdentifier name = true) (rest : List Char) :
      engine.beginsWithToken (name.toList ++ rest) = false := by
    refine Bool.eq_false_iff.mpr fun begins => ?_
    obtain ⟨c, tail, spelled⟩ := List.exists_cons_of_ne_nil (ne_nil_of_isIdentifier identifier)
    have word := isWordChar_of_isIdentifier identifier c (spelled ▸ List.mem_cons_self ..)
    rw [ordinary.beginsWithToken_iff, spelled] at begins
    rcases begins with first | first <;>
      exact absurd (Option.some.inj first ▸ word) (by decide)
  rw [operandText]
  split
  · exact parenthesis text
  · next bare =>
    cases tree with
    | literal | operation => exact Bool.eq_false_iff.mpr fun begins => bare begins
    | constant item =>
      rw [format] at written
      split at written
      · next name found =>
        obtain rfl := Except.ok.inj written
        exact List.append_nil name.toList ▸ named (legible.constant found).1 []
      · cases written
    | input item =>
      rw [format] at written
      split at written
      · next name found =>
        obtain rfl := Except.ok.inj written
        exact List.append_nil name.toList ▸ named (legible.input found).1 []
      · cases written
    | call function operands =>
      rw [format] at written
      split at written
      · next name found =>
        obtain ⟨texts, _, made⟩ := Except.bind_eq_ok_iff.mp written
        obtain rfl := Except.ok.inj made
        rw [callText, List.append_assoc]
        exact named (legible.function found).1 _
      · cases written
    | block inner =>
      rw [format] at written
      obtain ⟨text, _, made⟩ := Except.bind_eq_ok_iff.mp written
      obtain rfl := Except.ok.inj made
      exact parenthesis text

/-- Chained operations are written as one row. -/
theorem format_unchained {entry : OperatorEntry} {operands : List Tree}
    (registered : entry ∈ Library.operators base)
    (spelled : ∀ others, operands.head? = some (.operation entry.operator others) → others ≠ []) :
    engine.format (.operation entry.operator (unchained entry.operator operands)) =
      engine.format (.operation entry.operator operands) := by
  have ordinary := legible.toOrdinary
  rcases unchained_cases entry.operator operands with ⟨others, rest, rfl, between, same⟩ | ⟨same, _⟩
  · have row (texts : List (List Char)) : operationText entry.operator.kind entry.token.toList texts =
        rowText (Text.trim entry.token.toList) texts := by rw [operationText, between]; rfl
    have operation (operands : List Tree) : engine.format (.operation entry.operator operands) =
        (engine.formatOperands true operands).map (rowText (Text.trim entry.token.toList)) := by
      rw [format, ordinary.tokenOf?_eq registered, between]
      cases written : engine.formatOperands true operands with
      | error => simp only [Bool.not_false, written]; rfl
      | ok texts => simp only [Bool.not_false, written]; exact congrArg Except.ok (row texts)
    rw [same, operation, operation, formatOperands_append, formatOperands, operation]
    cases front : engine.formatOperands true others with
    | error => rfl
    | ok texts =>
      cases engine.formatOperands true rest with
      | error => rfl
      | ok more =>
        obtain ⟨first, others, rfl⟩ := List.exists_cons_of_ne_nil (spelled others rfl)
        rw [formatOperands] at front
        obtain ⟨text, written, front⟩ := Except.bind_eq_ok_iff.mp front
        obtain ⟨later, _, front⟩ := Except.bind_eq_ok_iff.mp front
        obtain rfl := Except.ok.inj front
        have bare := legible.beginsWithToken_rowText (legible.beginsWithToken_operandText written)
          (Text.trim entry.token.toList) later
        have whole : engine.operandText true (.operation entry.operator (first :: others))
            (rowText (Text.trim entry.token.toList) (engine.operandText true first text :: later)) =
            rowText (Text.trim entry.token.toList) (engine.operandText true first text :: later) := by
          rw [operandText, bare, Bool.and_false]
          exact if_neg Bool.false_ne_true
        refine congrArg Except.ok ?_
        dsimp only
        rw [whole, rowText_append _ (List.cons_ne_nil _ _)]
  · rw [same]

variable (unmeasured : engine.Unmeasured) {tree : Tree} (tellable : All (engine.Tellable base) tree)

include unmeasured tellable

/-- What the text of a tellable expression is read as can be written and read back. -/
theorem signable_reread : All (engine.Signable base) tree.reread := by
  induction tree with
  | literal kind value =>
    have faithful := tellable.self.faithful
    rw [isFaithful, Bool.and_eq_true, beq_iff_eq, decide_eq_true_eq] at faithful
    obtain ⟨rfl, sayable⟩ := faithful
    rw [reread]
    exact all_of_children ⟨value.kind_canonical.symm, legible.saysSigned_of_sayable unmeasured sayable⟩
      (List.forall_mem_nil _)
  | constant =>
    rw [reread]
    exact all_of_children tellable.self.formed.found.1 (List.forall_mem_nil _)
  | input =>
    rw [reread]
    exact all_of_children tellable.self.formed.found (List.forall_mem_nil _)
  | operation operator operands ih =>
    have parts : ∀ operand ∈ operands.map reread, All (engine.Signable base) operand :=
      List.forall_mem_map.mpr fun operand member => ih operand member (tellable.within (.operand member))
    obtain ⟨⟨⟨⟨entry, registered, rfl⟩, text⟩, accepted⟩, grouped, faithful⟩ := tellable.self
    have acceptedToo : entry.operator.accepts (operands.map reread) = true := by
      rw [Operator.accepts, kinds_map_reread]
      exact accepted
    rw [← kinds_map_reread] at text
    have binds := legible.toOrdinary.binds_unchained registered
      (fun operand member => (parts operand member).self) acceptedToo grouped.map_reread text
      fun others rest same => ?_
    · rw [reread, rereadAll_eq_map]
      refine all_of_children ⟨entry, registered, rfl, binds⟩ ?_
      rcases unchained_cases entry.operator (operands.map reread) with ⟨others, rest, chain, _, same⟩ | ⟨same, _⟩
      · rw [children, same]
        rw [chain] at parts
        obtain ⟨first, later⟩ := List.forall_mem_cons.mp parts
        exact List.forall_mem_append.mpr ⟨fun operand member => first.within (.operand member), later⟩
      · rw [children, same]
        exact parts
    · obtain ⟨first, behind, rfl, leads, _⟩ := List.map_eq_cons_iff.mp same
      obtain ⟨originals, rfl⟩ := exists_of_reread leads
      exact ne_comparison_of_isFaithful faithful
  | call function operands ih =>
    obtain ⟨⟨⟨named, _⟩, accepted⟩, _, _⟩ := tellable.self
    rw [reread, rereadAll_eq_map]
    exact all_of_children ⟨named, accepted.reread⟩
      (List.forall_mem_map.mpr fun operand member => ih operand member (tellable.within (.argument member)))
  | block inner ih =>
    rw [reread]
    exact all_of_children trivial (List.forall_mem_singleton.mpr (ih (tellable.within .inside)))

/-- A tellable expression is written as what its text is read as. -/
theorem format_reread : engine.format tree.reread = engine.format tree := by
  induction tree with
  | literal kind value =>
    have faithful := tellable.self.faithful
    rw [isFaithful, Bool.and_eq_true, beq_iff_eq] at faithful
    obtain ⟨rfl, _⟩ := faithful
    rw [reread, format, format, legible.dialect, Dialect.literalText_kind, ← value.kind_canonical,
      Dialect.literalText_kind, Dialect.valueText_canonical]
  | constant | input => rw [reread]
  | operation operator operands ih =>
    obtain ⟨entry, registered, rfl⟩ := tellable.self.formed.found.1
    rw [reread, rereadAll_eq_map, legible.format_unchained registered, format, format, formatOperands_map]
    · intro operand member
      have shape : needsBlock (!entry.operator.kind.isUnary) operand.reread =
          needsBlock (!entry.operator.kind.isUnary) operand := by
        cases operand <;> rw [reread] <;> rfl
      rw [ih operand member (tellable.within (.operand member))]
      exact congrArg (fun text => (engine.format operand).map text)
        (funext fun text => by rw [operandText, operandText, shape])
    · intro others first
      rw [List.head?_map] at first
      obtain ⟨operand, place, same⟩ := Option.map_eq_some_iff.mp first
      have member := List.mem_of_head? place
      have signable := (legible.signable_reread unmeasured (tellable.within (.operand member))).self
      rw [same] at signable
      obtain ⟨other, _, _, binds⟩ := signable
      rintro rfl
      have none (operator : OperatorKind) : operator.accepts [] = false := by cases operator <;> rfl
      exact absurd ((none other.operator.kind).symm.trans binds.accepted) Bool.false_ne_true
  | call function operands ih =>
    rw [reread, rereadAll_eq_map, format, format, formatAll_map]
    exact fun operand member => ih operand member (tellable.within (.argument member))
  | block inner ih => rw [reread, format, format, ih (tellable.within .inside)]

/-- A tellable expression is written, and what is written is read as an expression of its kind. -/
theorem exists_parse_of_tellable : ∃ text back, engine.format tree = .ok text ∧
    engine.parse text = .ok back ∧ back.kind = tree.kind := by
  obtain ⟨text, back, written, read, alike⟩ :=
    legible.exists_parse_of_signable (legible.signable_reread unmeasured tellable)
  rw [legible.format_reread unmeasured tellable] at written
  exact ⟨text, back, written, read, alike.kind.trans tree.kind_reread⟩

end Legible

/-- The text of a reduced expression is read again, as an expression of its kind, if the text of each of its
literals denotes a value of the declared kind, and no comparison leads the same comparison. No function may
ask whether its operands evaluate, since reduction may find a value where there was none. -/
theorem exists_parse_of_reduce {base : Tag} {now : DateTime} {items : List (String × Variable)}
    (identifiers : ∀ entry ∈ items, isIdentifier entry.1 = true)
    (clear : ∀ entry ∈ items, nameKey entry.1.toList ∉ reservedKeys ++ measureKeys) {text : List Char} {tree : Tree}
    (read : (withVariables base now items).parse text = .ok tree)
    (unasked : ∀ function operands, Tree.Within (.call function operands) tree → function.kind ≠ .evaluates)
    (faithful : ∀ part, Tree.Within part ((withVariables base now items).reduce tree) →
      part.isFaithful = true) :
    ∃ written back,
      (withVariables base now items).format ((withVariables base now items).reduce tree) = .ok written ∧
        (withVariables base now items).parse written = .ok back ∧
        back.kind = ((withVariables base now items).reduce tree).kind := by
  have legible : (withVariables base now items).Legible base := legible_withVariables identifiers
    fun entry member key => clear entry member (List.mem_append_left _ key)
  have unmeasured : (withVariables base now items).Unmeasured := unmeasured_withVariables identifiers clear
  have typed := typed_of_parse (constantsFit_withVariables base now items) read
  have formed := (reduce_forms typed (found_of_parse legible.operators read) unasked).formed
  exact legible.exists_parse_of_tellable unmeasured fun part within =>
    ⟨formed part within, all_grouped_reduce tree part within, faithful part within⟩

/-- Quotients that lead a quotient are read as one. -/
theorem exists_parse_of_reduce_of_quotients :
    let engine := withVariables 0 ⟨Date.epoch, Time.midnight⟩ [("x", ⟨0, "/x", .long⟩)]
    ∃ tree written back, engine.parse "((x / 3) / x) / (-2) < 7".toList = .ok tree ∧
      engine.format (engine.reduce tree) = .ok written ∧ engine.parse written = .ok back ∧
      back.kind = (engine.reduce tree).kind := by
  intro engine
  have checks : (engine.parse "((x / 3) / x) / (-2) < 7".toList).toOption.map (fun tree =>
      (tree.parts.all fun part => !part.asks, (engine.reduce tree).parts.all isFaithful)) =
      some (true, true) := by decide +kernel
  obtain ⟨tree, read, checks⟩ := Option.map_eq_some_iff.mp checks
  obtain ⟨unasked, faithful⟩ := Prod.mk.inj checks
  rw [Except.toOption_eq_some_iff] at read
  obtain ⟨written, back, formatted, readBack, kind⟩ := exists_parse_of_reduce (by decide) (by decide) read
    (fun function operands within => by
      have here := List.all_eq_true.mp unasked (.call function operands) within.mem_parts
      rw [Tree.asks, Bool.not_eq_true'] at here
      exact of_decide_eq_false here)
    fun part within => List.all_eq_true.mp faithful part within.mem_parts
  exact ⟨tree, written, back, read, formatted, readBack, kind⟩

/-- A comparison that leads the same comparison is written without a block, as three operands that no
comparison accepts. -/
theorem exists_unreadable :
    let engine := withVariables 0 ⟨Date.epoch, Time.midnight⟩ [("x", ⟨0, "/x", .long⟩)]
    ∃ tree error, engine.parse "(x = 1) = true".toList = .ok tree ∧
      engine.format (engine.reduce tree) = .ok "x = 1 = true".toList ∧
      engine.parse "x = 1 = true".toList = .error error := by
  intro engine
  have checks : (engine.parse "(x = 1) = true".toList).toOption.map (fun tree =>
      (engine.format (engine.reduce tree)).toOption) = some (some "x = 1 = true".toList) ∧
      (engine.parse "x = 1 = true".toList).toOption.isNone = true := by decide +kernel
  obtain ⟨tree, read, written⟩ := Option.map_eq_some_iff.mp checks.1
  have failed := checks.2
  cases readBack : engine.parse "x = 1 = true".toList with
  | error error =>
    exact ⟨tree, error, Except.toOption_eq_some_iff.mp read, Except.toOption_eq_some_iff.mp written, rfl⟩
  | ok back =>
    rw [readBack] at failed
    cases failed

end Engine

end Reckoner
