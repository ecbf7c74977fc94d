import Reckoner.Proofs.Outcome
import Reckoner.Source.Parse
import Mathlib.Data.List.Forall2

/-! # What the reader makes of a text

The reader has five ways to make an expression of a text without blanks at its ends, tried in a fixed
order: a block, a name, an operator that takes the text, a call, a literal. One lemma for each way says
when it is the one chosen, one inversion lemma says that there are no others, and one equation says what is
read where it does not matter what is reported otherwise. An operator takes a text
if the fragments that its token leaves are expressions which it accepts; of several operators that take a
text the first one registered makes the expression.
-/

namespace Reckoner

/-- Every text of a list reads as the expression in its place. -/
abbrev Engine.ReadsAll (engine : Engine) : List (List Char) → List Tree → Prop :=
  List.Forall₂ fun part tree => engine.parse part = .ok tree

namespace OperatorEntry

/-- The fragments that the entry's token leaves of a text read as these operands. -/
def Splits (engine : Engine) (entry : OperatorEntry) (text : List Char) (operands : List Tree) :
    Prop :=
  ∃ parts, entry.fragments? engine.dialect text = some parts ∧ engine.ReadsAll parts operands

/-- The fragments that the entry's token leaves of a text read as operands that it accepts. -/
def Takes (engine : Engine) (entry : OperatorEntry) (text : List Char) (operands : List Tree) :
    Prop :=
  entry.Splits engine text operands ∧ entry.operator.accepts operands = true

/-- The entry makes no operation of a text. -/
def Skips (engine : Engine) (entry : OperatorEntry) (text : List Char) : Prop :=
  ∀ operands, ¬ entry.Takes engine text operands

end OperatorEntry

/-- Texts are read as expressions one by one. -/
theorem parseAll_eq_ok_iff {parts : List (List Char)} {trees : List Tree}
    {parse : List Char → Except SyntaxError Tree} :
    (parseAll parts fun part _ => parse part) = .ok trees ↔
      List.Forall₂ (fun part tree => parse part = .ok tree) parts trees := by
  induction parts generalizing trees with
  | nil =>
    rw [parseAll, List.forall₂_nil_left_iff, Except.ok.injEq]
    exact eq_comm
  | cons part rest ih =>
    rw [parseAll, List.forall₂_cons_left_iff]
    constructor
    · intro success
      cases first : parse part with
      | error error => simp only [first, bind, Except.bind, reduceCtorEq] at success
      | ok tree =>
        cases others : parseAll rest fun part _ => parse part with
        | error error => simp only [first, others, bind, Except.bind, reduceCtorEq] at success
        | ok read =>
          simp only [first, others, bind, Except.bind, Except.ok.injEq] at success
          exact ⟨tree, read, rfl, ih.mp others, success.symm⟩
    · rintro ⟨tree, read, first, others, rfl⟩
      simp only [first, ih.mpr others, bind, Except.bind]

section FirstOperation

variable {parse : OperatorEntry → Option (Except SyntaxError (List Tree))} {head : OperatorEntry}
  {entries : List OperatorEntry} {tree : Tree}

/-- The expression is made by the first entry that has fragments which its operator accepts. -/
def FirstMakes (parse : OperatorEntry → Option (Except SyntaxError (List Tree)))
    (entries : List OperatorEntry) (tree : Tree) : Prop :=
  ∃ before entry after operands, entries = before ++ entry :: after ∧
    (∀ other ∈ before, ∀ operands, parse other = some (.ok operands) →
      ¬ other.operator.accepts operands = true) ∧
    parse entry = some (.ok operands) ∧ entry.operator.accepts operands = true ∧
    tree = .operation entry.operator operands

/-- An entry that is passed over stands in front of whatever the others make. -/
theorem firstMakes_cons_of_skipped (skipped : ∀ operands, parse head = some (.ok operands) →
    ¬ head.operator.accepts operands = true) :
    FirstMakes parse (head :: entries) tree ↔ FirstMakes parse entries tree := by
  constructor
  · rintro ⟨before, entry, after, operands, same, others, read, accepted, made⟩
    cases before with
    | nil =>
      obtain ⟨rfl, rfl⟩ := List.cons.inj same
      exact absurd accepted (skipped operands read)
    | cons first before =>
      obtain ⟨rfl, rfl⟩ := List.cons.inj same
      exact ⟨before, entry, after, operands, rfl,
        (List.forall_mem_cons.mp others).2, read, accepted, made⟩
  · rintro ⟨before, entry, after, operands, rfl, others, made⟩
    refine ⟨head :: before, entry, after, operands, rfl, ?_, made⟩
    exact List.forall_mem_cons.mpr ⟨skipped, others⟩

/-- The first entry whose operands can be read and are accepted makes the operation. -/
theorem firstMakes_cons_of_accepted {operands : List Tree} (read : parse head = some (.ok operands))
    (accepted : head.operator.accepts operands = true) :
    FirstMakes parse (head :: entries) tree ↔ tree = .operation head.operator operands := by
  constructor
  · rintro ⟨before, entry, after, others, same, skipped, readOthers, acceptedOthers, rfl⟩
    cases before with
    | nil =>
      obtain ⟨rfl, rfl⟩ := List.cons.inj same
      rw [read, Option.some.injEq, Except.ok.injEq] at readOthers
      rw [readOthers]
    | cons first before =>
      obtain ⟨rfl, rfl⟩ := List.cons.inj same
      exact absurd accepted (skipped _ (List.mem_cons_self ..) operands read)
  · rintro rfl
    exact ⟨[], head, entries, operands, rfl, nofun, read, accepted, rfl⟩

/-- The search through the entries finds what the first suitable one makes. -/
theorem firstOperation_eq_ok_iff {remembered : Option SyntaxError} :
    firstOperation parse remembered entries = .ok tree ↔ FirstMakes parse entries tree := by
  induction entries generalizing remembered with
  | nil =>
    rw [firstOperation]
    refine ⟨nofun, ?_⟩
    rintro ⟨before, entry, after, operands, same, _⟩
    exact absurd same.symm (List.append_ne_nil_of_right_ne_nil _ (List.cons_ne_nil _ _))
  | cons head rest ih =>
    rw [firstOperation]
    split
    · next unread =>
      rw [ih, firstMakes_cons_of_skipped fun operands read => by simp [unread] at read]
    · next error failed =>
      rw [ih, firstMakes_cons_of_skipped fun operands read => by simp [failed] at read]
    · next operands read =>
      split
      · next accepted =>
        rw [firstMakes_cons_of_accepted read accepted, Except.ok.injEq]
        exact eq_comm
      · next rejected =>
        rw [ih, firstMakes_cons_of_skipped fun others readOthers => ?_]
        rw [read, Option.some.injEq, Except.ok.injEq] at readOthers
        exact readOthers ▸ rejected

end FirstOperation

/-- When no operation is made, no entry has fragments that its operator accepts. -/
theorem firstOperation_eq_error {entries : List OperatorEntry}
    {parse : OperatorEntry → Option (Except SyntaxError (List Tree))}
    {remembered reported : Option SyntaxError}
    (failed : firstOperation parse remembered entries = .error reported) :
    ∀ entry ∈ entries, ∀ operands, parse entry = some (.ok operands) →
      ¬ entry.operator.accepts operands = true := by
  induction entries generalizing remembered with
  | nil => exact nofun
  | cons head rest ih =>
    rw [firstOperation] at failed
    rw [List.forall_mem_cons]
    split at failed
    · next unread => exact ⟨fun operands read => by simp [unread] at read, ih failed⟩
    · next error unread => exact ⟨fun operands read => by simp [unread] at read, ih failed⟩
    · next operands read =>
      split at failed
      · cases failed
      · next rejected =>
        refine ⟨fun others readOthers => ?_, ih failed⟩
        rw [read, Option.some.injEq, Except.ok.injEq] at readOthers
        exact readOthers ▸ rejected

namespace Engine

variable {engine : Engine} {text : List Char} {tree : Tree}

/-- The equation of reading: fragments of the trimmed text are read in the same way. -/
theorem parse_eq (engine : Engine) (text : List Char) :
    engine.parse text =
      engine.parseTrimmed (Text.trim text) fun part _ => engine.parse part := by
  rw [parse]

theorem parseOperands?_eq_some_iff {entry : OperatorEntry} {operands : List Tree} :
    engine.parseOperands? text (fun part _ => engine.parse part) entry = some (.ok operands) ↔
      entry.Splits engine text operands := by
  unfold parseOperands? OperatorEntry.Splits
  split
  · next parts fragments =>
    rw [Option.some.injEq, parseAll_eq_ok_iff]
    constructor
    · exact fun read => ⟨parts, fragments, read⟩
    · rintro ⟨others, same, read⟩
      rw [fragments, Option.some.injEq] at same
      exact same ▸ read
  · next noFragments =>
    refine ⟨nofun, ?_⟩
    rintro ⟨parts, fragments, _⟩
    cases noFragments.symm.trans fragments

/-- The ways in which a text without blanks at its ends makes an expression. -/
inductive Makes (engine : Engine) (text : List Char) : Tree → Prop
  | block {inner : List Char} {tree : Tree}
    (enclosed : engine.dialect.enclosed? engine.dialect.blockOpen engine.dialect.blockClose text =
      some inner)
    (read : engine.parse inner = .ok tree) : Makes engine text (.block tree)
  | name {tree : Tree} (named : engine.named? text = some tree) : Makes engine text tree
  | operation {before after : List OperatorEntry} {entry : OperatorEntry} {operands : List Tree}
    (entries : engine.operators = before ++ entry :: after)
    (skipped : ∀ other ∈ before, other.Skips engine text)
    (takes : entry.Takes engine text operands) :
    Makes engine text (.operation entry.operator operands)
  | call {function : Function} {parts : List (List Char)} {operands : List Tree}
    (called : engine.call? text = some (function, parts))
    (read : engine.ReadsAll parts operands)
    (accepted : function.accepts operands = true) : Makes engine text (.call function operands)
  | literal {value : Value} (written : engine.dialect.literal? text = some value) :
    Makes engine text (.ofValue value)

/-- Whatever is read is made in one of the ways in which texts make expressions. -/
theorem makes_of_parse (read : engine.parse text = .ok tree) :
    engine.Makes (Text.trim text) tree := by
  rw [parse_eq, parseTrimmed] at read
  split at read
  · next outcome enclosing =>
    unfold parseBlock? at enclosing
    split at enclosing
    · next inner enclosed =>
      obtain rfl := Option.some.inj enclosing
      obtain ⟨inside, readInside, rfl⟩ := Except.map_eq_ok_iff.mp read
      exact .block enclosed readInside
    · cases enclosing
  · split at read
    · next named => exact .name (Except.ok.inj read ▸ named)
    · split at read
      · next made =>
        obtain ⟨before, entry, after, operands, entries, skipped, splits, accepted, rfl⟩ :=
          firstOperation_eq_ok_iff.mp made
        obtain rfl := Except.ok.inj read
        refine .operation entries ?_ ⟨parseOperands?_eq_some_iff.mp splits, accepted⟩
        intro other member operands takes
        exact skipped other member operands (parseOperands?_eq_some_iff.mpr takes.1) takes.2
      · split at read
        · next made =>
          obtain rfl := Except.ok.inj read
          unfold parseCall at made
          split at made
          · next function parts called =>
            split at made
            · next operands readOperands =>
              split at made
              · next accepted =>
                obtain rfl := Except.ok.inj made
                exact .call called (parseAll_eq_ok_iff.mp readOperands) accepted
              · cases made
            · cases made
          · cases made
        · unfold parseLiteral at read
          split at read
          · next written => exact Except.ok.inj read ▸ .literal written
          · cases read

/-- An operand that was read stands in one of the fragments. -/
theorem exists_part_of_readsAll {parts : List (List Char)} {operands : List Tree} {operand : Tree}
    (read : engine.ReadsAll parts operands) (member : operand ∈ operands) :
    ∃ part ∈ parts, engine.parse part = .ok operand := by
  induction read with
  | nil => exact absurd member List.not_mem_nil
  | @cons part first _ _ here _ ih =>
    rcases List.mem_cons.mp member with rfl | later
    · exact ⟨part, List.mem_cons_self .., here⟩
    · obtain ⟨other, inside, success⟩ := ih later
      exact ⟨other, List.mem_cons_of_mem _ inside, success⟩

/-- Each fragment that was read is an operand. -/
theorem exists_operand_of_readsAll {parts : List (List Char)} {operands : List Tree}
    {part : List Char} (read : engine.ReadsAll parts operands) (member : part ∈ parts) :
    ∃ operand ∈ operands, engine.parse part = .ok operand := by
  induction read with
  | nil => exact absurd member List.not_mem_nil
  | @cons _ first _ _ here _ ih =>
    rcases List.mem_cons.mp member with rfl | later
    · exact ⟨first, List.mem_cons_self .., here⟩
    · obtain ⟨other, inside, success⟩ := ih later
      exact ⟨other, List.mem_cons_of_mem _ inside, success⟩

/-- Whatever follows for a text from its shorter parts holds for all texts that are read. -/
theorem parse_induction {motive : List Char → Tree → Prop}
    (step : ∀ text tree, engine.parse text = .ok tree →
      (∀ part inner, part.length < text.length → engine.parse part = .ok inner →
        motive part inner) → motive text tree)
    (text : List Char) (tree : Tree) (read : engine.parse text = .ok tree) : motive text tree :=
  step text tree read fun part inner _ success =>
    parse_induction step part inner success
termination_by text.length

/-- A text between the delimiters of a block reads as that block or not at all. -/
theorem parse_block {inner : List Char}
    (enclosed : engine.dialect.enclosed? engine.dialect.blockOpen engine.dialect.blockClose
      (Text.trim text) = some inner) :
    engine.parse text = (engine.parse inner).map Tree.block := by
  have block : engine.parseBlock? (Text.trim text) (fun part _ => engine.parse part) =
      some ((engine.parse inner).map Tree.block) := by
    unfold parseBlock?
    split
    · next found same =>
      obtain rfl := Option.some.inj (same.symm.trans enclosed)
      rfl
    · next none => cases none.symm.trans enclosed
  rw [parse_eq, parseTrimmed, block]

/-- A text that reads as anything but a block is in none. -/
theorem bare_of_parse {tree : Tree} (read : engine.parse text = .ok tree)
    (other : ∀ inner, tree ≠ .block inner) :
    engine.dialect.enclosed? engine.dialect.blockOpen engine.dialect.blockClose (Text.trim text) = none := by
  cases enclosed : engine.dialect.enclosed? engine.dialect.blockOpen engine.dialect.blockClose
      (Text.trim text) with
  | none => rfl
  | some inner =>
    rw [parse_block enclosed] at read
    obtain ⟨tree, _, rfl⟩ := Except.map_eq_ok_iff.mp read
    exact absurd rfl (other tree)

section Bare

variable (bare : engine.dialect.enclosed? engine.dialect.blockOpen engine.dialect.blockClose
  (Text.trim text) = none)

include bare

private theorem parseBlock?_of_bare :
    engine.parseBlock? (Text.trim text) (fun part _ => engine.parse part) = none := by
  unfold parseBlock?
  split
  · next found same => cases same.symm.trans bare
  · rfl

theorem parse_name (named : engine.named? (Text.trim text) = some tree) :
    engine.parse text = .ok tree := by
  rw [parse_eq, parseTrimmed, parseBlock?_of_bare bare, named]

variable (unnamed : engine.named? (Text.trim text) = none)

include unnamed

/-- The first entry that takes a text makes the operation. -/
theorem parse_operation {before after : List OperatorEntry} {entry : OperatorEntry}
    {operands : List Tree} (entries : engine.operators = before ++ entry :: after)
    (skipped : ∀ other ∈ before, other.Skips engine (Text.trim text))
    (takes : entry.Takes engine (Text.trim text) operands) :
    engine.parse text = .ok (.operation entry.operator operands) := by
  have made : firstOperation (engine.parseOperands? (Text.trim text) fun part _ =>
      engine.parse part) none engine.operators = .ok (.operation entry.operator operands) := by
    refine firstOperation_eq_ok_iff.mpr ⟨before, entry, after, operands, entries, ?_,
      parseOperands?_eq_some_iff.mpr takes.1, takes.2, rfl⟩
    intro other member others splits accepted
    exact skipped other member others ⟨parseOperands?_eq_some_iff.mp splits, accepted⟩
  rw [parse_eq, parseTrimmed, parseBlock?_of_bare bare, unnamed]
  simp only [made]

/-- An entry that takes a text is the one that makes the operation, or an earlier one is. -/
theorem exists_parse_of_takes {entry : OperatorEntry} {operands : List Tree}
    (registered : entry ∈ engine.operators)
    (takes : entry.Takes engine (Text.trim text) operands) :
    ∃ before first after others, engine.operators = before ++ first :: after ∧
      entry ∈ first :: after ∧ (∀ other ∈ before, other.Skips engine (Text.trim text)) ∧
      first.Takes engine (Text.trim text) others ∧
      engine.parse text = .ok (.operation first.operator others) := by
  cases result : firstOperation (engine.parseOperands? (Text.trim text) fun part _ =>
      engine.parse part) none engine.operators with
  | error remembered =>
    exact absurd takes.2 (firstOperation_eq_error result entry registered operands
      (parseOperands?_eq_some_iff.mpr takes.1))
  | ok tree =>
    obtain ⟨before, first, after, others, entries, skipped, splits, accepted, rfl⟩ :=
      firstOperation_eq_ok_iff.mp result
    refine ⟨before, first, after, others, entries, ?_, fun other member operands takes => ?_,
      ⟨parseOperands?_eq_some_iff.mp splits, accepted⟩, ?_⟩
    · rw [entries] at registered
      exact (List.mem_append.mp registered).resolve_left fun member =>
        skipped entry member operands (parseOperands?_eq_some_iff.mpr takes.1) takes.2
    · exact skipped other member operands (parseOperands?_eq_some_iff.mpr takes.1) takes.2
    · rw [parse_eq, parseTrimmed, parseBlock?_of_bare bare, unnamed]
      simp only [result]

variable (skipped : ∀ entry ∈ engine.operators, entry.Skips engine (Text.trim text))

include skipped

omit bare unnamed in
private theorem exists_firstOperation_eq_error :
    ∃ remembered, firstOperation (engine.parseOperands? (Text.trim text) fun part _ =>
      engine.parse part) none engine.operators = .error remembered := by
  cases result : firstOperation (engine.parseOperands? (Text.trim text) fun part _ =>
      engine.parse part) none engine.operators with
  | error remembered => exact ⟨remembered, rfl⟩
  | ok tree =>
    obtain ⟨before, entry, after, operands, entries, _, splits, accepted, _⟩ :=
      firstOperation_eq_ok_iff.mp result
    refine absurd ⟨parseOperands?_eq_some_iff.mp splits, accepted⟩ (skipped entry ?_ operands)
    rw [entries]
    exact List.mem_append_right _ (List.mem_cons_self ..)

/-- A text that calls a registered function is read as the call, if the function accepts what the arguments
are read as. -/
theorem parse_call {function : Function} {parts : List (List Char)} {operands : List Tree}
    (called : engine.call? (Text.trim text) = some (function, parts))
    (read : engine.ReadsAll parts operands) (accepted : function.accepts operands = true) :
    engine.parse text = .ok (.call function operands) := by
  obtain ⟨remembered, failed⟩ := exists_firstOperation_eq_error skipped
  have made : engine.parseCall (Text.trim text) (fun part _ => engine.parse part) remembered =
      .ok (.call function operands) := by
    unfold parseCall
    split
    · next other others same =>
      obtain ⟨rfl, rfl⟩ := Prod.mk.inj (Option.some.inj (same.symm.trans called))
      simp only [parseAll_eq_ok_iff.mpr read, accepted, if_true]
    · next none => cases none.symm.trans called
  rw [parse_eq, parseTrimmed, parseBlock?_of_bare bare, unnamed]
  simp only [failed, made]

theorem parse_literal {value : Value} (uncalled : engine.call? (Text.trim text) = none)
    (written : engine.dialect.literal? (Text.trim text) = some value) :
    engine.parse text = .ok (.ofValue value) := by
  obtain ⟨remembered, failed⟩ := exists_firstOperation_eq_error skipped
  have rejected : engine.parseCall (Text.trim text) (fun part _ => engine.parse part) remembered =
      .error remembered := by
    unfold parseCall
    split
    · next other others same => cases same.symm.trans uncalled
    · rfl
  rw [parse_eq, parseTrimmed, parseBlock?_of_bare bare, unnamed]
  simp only [failed, rejected, parseLiteral, written]

end Bare

theorem toOption_parseAll {parts : List (List Char)} {parse : List Char → Except SyntaxError Tree} :
    (parseAll parts fun part _ => parse part).toOption = parts.mapM fun part => (parse part).toOption := by
  induction parts with
  | nil => rfl
  | cons part rest ih =>
    rw [parseAll, List.mapM_cons, ← ih]
    cases parse part with
    | error error => rfl
    | ok tree => cases parseAll rest fun part _ => parse part <;> rfl

theorem toOption_firstOperation {entries : List OperatorEntry} {remembered : Option SyntaxError}
    {parse : OperatorEntry → Option (Except SyntaxError (List Tree))} :
    (firstOperation parse remembered entries).toOption = entries.findSome? fun entry =>
      ((parse entry).bind Except.toOption).bind fun operands =>
        if entry.operator.accepts operands then some (.operation entry.operator operands) else none := by
  induction entries generalizing remembered with
  | nil => rfl
  | cons entry rest ih =>
    rw [firstOperation, List.findSome?_cons]
    cases parse entry with
    | none => exact ih
    | some read =>
      cases read with
      | error error => exact ih
      | ok operands =>
        dsimp only [Option.bind_some, Except.toOption]
        cases entry.operator.accepts operands with
        | true => rfl
        | false => exact ih

def reads? (engine : Engine) (text : List Char) : Option Tree := (engine.parse text).toOption

/-- The first operation that a registered operator makes of a text. -/
def operation? (engine : Engine) (text : List Char) : Option Tree :=
  engine.operators.findSome? fun entry =>
    ((entry.fragments? engine.dialect text).bind (List.mapM engine.reads?)).bind fun operands =>
      if entry.operator.accepts operands then some (.operation entry.operator operands) else none

def calling? (engine : Engine) (text : List Char) : Option Tree :=
  (engine.call? text).bind fun (function, parts) => (parts.mapM engine.reads?).bind fun operands =>
    if function.accepts operands then some (.call function operands) else none

theorem toOption_parseOperands? (entry : OperatorEntry) :
    (engine.parseOperands? text (fun part _ => engine.parse part) entry).bind Except.toOption =
      (entry.fragments? engine.dialect text).bind (List.mapM engine.reads?) := by
  unfold parseOperands?
  split
  · next parts fragments =>
    refine toOption_parseAll.trans ?_
    rw [fragments, Option.bind_some]
    rfl
  · next none =>
    rw [none]
    rfl

theorem toOption_parseCall (remembered : Option SyntaxError) :
    (engine.parseCall text (fun part _ => engine.parse part) remembered).toOption = engine.calling? text := by
  unfold parseCall
  split
  · next function parts called =>
    have read : (parseAll parts fun part _ => engine.parse part).toOption = parts.mapM engine.reads? :=
      toOption_parseAll
    have calls : engine.calling? text = (parts.mapM engine.reads?).bind fun operands =>
        if function.accepts operands then some (.call function operands) else none := by
      rw [calling?, called, Option.bind_some]
    rw [calls, ← read]
    cases parseAll parts fun part _ => engine.parse part with
    | error error => rfl
    | ok operands =>
      dsimp only [Except.toOption, Option.bind_some]
      cases function.accepts operands <;> rfl
  · next none =>
    rw [calling?, none]
    rfl

theorem toOption_parseLiteral (remembered : Option SyntaxError) :
    (engine.parseLiteral text remembered).toOption = (engine.dialect.literal? text).map Tree.ofValue := by
  unfold parseLiteral
  cases engine.dialect.literal? text <;> rfl

/-- The five ways to read a text, in their order. -/
theorem reads?_eq (engine : Engine) (text : List Char) :
    engine.reads? text =
      match engine.dialect.enclosed? engine.dialect.blockOpen engine.dialect.blockClose (Text.trim text) with
      | some inner => (engine.reads? inner).map Tree.block
      | none => (engine.named? (Text.trim text)).or ((engine.operation? (Text.trim text)).or
          ((engine.calling? (Text.trim text)).or
            ((engine.dialect.literal? (Text.trim text)).map Tree.ofValue))) := by
  split
  · next inner enclosed =>
    rw [reads?, parse_block enclosed, reads?]
    cases engine.parse inner <;> rfl
  · next bare =>
    have operation : (firstOperation (engine.parseOperands? (Text.trim text) fun part _ =>
        engine.parse part) none engine.operators).toOption = engine.operation? (Text.trim text) := by
      simp only [toOption_firstOperation, toOption_parseOperands?, operation?]
    rw [reads?, parse_eq, parseTrimmed, parseBlock?_of_bare bare, ← operation]
    cases engine.named? (Text.trim text) with
    | some tree => rfl
    | none =>
      cases firstOperation (engine.parseOperands? (Text.trim text) fun part _ => engine.parse part)
          none engine.operators with
      | ok tree => rfl
      | error remembered =>
        rw [← toOption_parseCall remembered]
        dsimp only
        cases engine.parseCall (Text.trim text) (fun part _ => engine.parse part) remembered with
        | ok tree => rfl
        | error reported => exact toOption_parseLiteral reported

end Engine

end Reckoner
