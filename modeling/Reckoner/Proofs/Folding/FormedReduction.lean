import Reckoner.Proofs.Folding.Formed

/-! # Reduced expressions are well formed

Reduction keeps expressions formed, whichever operators and functions fold on the way. The kind of an
expression stays what it was, or becomes null where it was a long, so that whatever stands around it
accepts it still.
-/

namespace Reckoner

open Reckoner.Tree

namespace Engine

variable {engine : Engine} {base : Tag} {lossless : Prop} {operands : List Tree} {folded : Folded}

section Operands

variable (formed : ∀ operand ∈ operands, All (engine.Formed base lossless) operand)

include formed

/-- Joined texts are formed texts, and one of them is declared a text if an operand is. -/
theorem joinRuns_form {run : Option String} {joined : List Tree}
    (exact : lossless → ∀ text ∈ run, '"' ∉ text.toList)
    (texts : ∀ operand ∈ operands, Kind.string.takes operand.kind = true)
    (join : joinRuns? run operands = some (some joined)) :
    (∀ part ∈ joined, All (engine.Formed base lossless) part ∧ Kind.string.takes part.kind = true) ∧
      (run.isSome = true ∨ Kind.string ∈ kinds operands → Kind.string ∈ kinds joined) := by
  have runs {run : Option String} (exact : lossless → ∀ text ∈ run, '"' ∉ text.toList) :
      (∀ part ∈ joinedRun run, All (engine.Formed base lossless) part ∧ Kind.string.takes part.kind = true) ∧
        (run.isSome = true → ∃ part ∈ joinedRun run, part.kind = .string) := by
    cases run with
    | none => exact ⟨List.forall_mem_nil _, fun other => absurd other Bool.false_ne_true⟩
    | some text =>
      refine ⟨List.forall_mem_singleton.mpr ⟨formed_literal fun demanded => exact demanded text rfl, by rw [ofValue, Tree.kind]; rfl⟩,
        fun _ => ⟨_, List.mem_singleton_self _, by rw [ofValue, Tree.kind]; rfl⟩⟩
  induction operands generalizing run joined with
  | nil =>
    obtain rfl := Option.some.inj (Option.some.inj join)
    obtain ⟨all, text⟩ := runs exact
    exact ⟨all, fun some => mem_kinds.mpr (text (some.resolve_right List.not_mem_nil))⟩
  | cons operand rest ih =>
    obtain ⟨here, others⟩ := List.forall_mem_cons.mp formed
    obtain ⟨text, texts⟩ := List.forall_mem_cons.mp texts
    rcases joinRuns?_cons join with ⟨value, more, known, read, join⟩ | ⟨later, behind, rfl⟩
    · have prolonged : lossless → ∀ text ∈ some (run.getD "" ++ more), '"' ∉ text.toList := by
        intro demanded text same
        have value := exact_of_literalValue? formed demanded (List.mem_cons_self ..) known
        obtain rfl := Option.some.inj same
        rw [String.toList_append, List.mem_append, not_or]
        refine ⟨?_, value.text read⟩
        cases run with
        | none => exact List.not_mem_nil
        | some text => exact exact demanded text rfl
      obtain ⟨all, some⟩ := ih others prolonged texts join
      exact ⟨all, fun _ => some (.inl rfl)⟩
    · have unstarted : lossless → ∀ text ∈ (none : Option String), '"' ∉ text.toList :=
        fun _ _ other => by cases other
      obtain ⟨all, some⟩ := ih others unstarted texts behind
      obtain ⟨front, frontText⟩ := runs exact
      refine ⟨fun part member => ?_, fun declared => ?_⟩
      · rcases List.mem_append.mp member with before | after
        · exact front part before
        · exact List.forall_mem_cons.mpr ⟨⟨here, text⟩, all⟩ part after
      · rw [mem_kinds]
        rcases declared with run | declared
        · obtain ⟨part, member, sort⟩ := frontText run
          exact ⟨part, List.mem_append_left _ member, sort⟩
        · rw [kinds, List.mem_cons] at declared
          rcases declared with same | declared
          · exact ⟨operand, List.mem_append_right _ (List.mem_cons_self ..), same.symm⟩
          · obtain ⟨part, member, sort⟩ := mem_kinds.mp (some (.inr declared))
            exact ⟨part, List.mem_append_right _ (List.mem_cons_of_mem _ member), sort⟩

/-- A folded concatenation is formed. -/
theorem foldConcatenation?_forms {operator : Operator} (concatenates : operator.kind = .concatenation)
    (registered : ∃ entry ∈ Library.operators base, entry.operator = operator)
    (declared : Kind.string ∈ kinds operands)
    (accepted : operator.accepts operands = true) (fold : foldConcatenation? operands = some folded) :
    engine.FormsAs base lossless .string (folded.result (.operation operator)) := by
  rw [Operator.accepts, concatenates] at accepted
  have texts := Kind.takesAll_iff.mp (Bool.and_eq_true_iff.mp accepted).2
  have text (operand : Tree) (member : operand ∈ operands) : Kind.string.takes operand.kind = true :=
    texts _ (mem_kinds.mpr ⟨operand, member, rfl⟩)
  rw [foldConcatenation?] at fold
  split at fold
  · cases fold
  · obtain rfl := Option.some.inj fold
    exact .literal fun _ => trivial
  · next joined join =>
    have unstarted : lossless → ∀ text ∈ (none : Option String), '"' ∉ text.toList :=
      fun _ _ other => by cases other
    obtain ⟨all, some⟩ := joinRuns_form formed unstarted text join
    have declared := some (.inr declared)
    split at fold
    · cases fold
    · rcases joined with _ | ⟨first, _ | ⟨second, others⟩⟩
      · exact absurd declared List.not_mem_nil
      · obtain rfl := Option.some.inj fold
        refine ⟨(all first (List.mem_singleton_self _)).1, .inl ?_⟩
        exact (List.mem_singleton.mp declared).symm
      · obtain rfl := Option.some.inj fold
        refine ⟨formed_operation registered (fun _ => declared) ?_ fun part member => (all part member).1,
          .inl ?_⟩
        · rw [Operator.accepts, concatenates, OperatorKind.accepts, Bool.and_eq_true, decide_eq_true_eq,
            Kind.takesAll_iff, kinds_eq_map, List.forall_mem_map, List.length_map]
          exact ⟨Nat.le_add_left 2 _, fun part member => (all part member).2⟩
        · rw [Folded.result, Tree.kind, concatenates, OperatorKind.resultKind]

/-- Whatever an operator folds to is formed and of the kind of the whole, or null in place of a long. -/
theorem fold?_forms {operator : Operator} (found : engine.Found base lossless (.operation operator operands))
    (accepted : operator.accepts operands = true) (fold : operator.kind.fold? operands = some folded) :
    engine.FormsAs base lossless (Tree.operation operator operands).kind (folded.result (.operation operator)) := by
  obtain ⟨registered, text⟩ := found
  rw [Tree.kind]
  cases form : operator.kind with
  | or | and =>
    rw [form] at fold
    rcases Option.or_eq_some_iff.mp fold with constant | ⟨_, fold⟩
    · exact foldConstant?_forms formed (fun _ => exact_connectiveAfter _ _) constant
    · split at fold
      · obtain rfl := Option.some.inj fold
        exact .literal fun _ => trivial
      · cases fold
  | not | comparison _ | square | negation =>
    rw [form] at fold
    exact foldConstant?_forms formed (fun exact => OperatorKind.exact_apply exact _) fold
  | addition =>
    rw [form] at fold
    exact foldAddition?_forms formed form registered accepted fold
  | concatenation =>
    rw [form] at fold
    exact foldConcatenation?_forms formed form registered (text form) accepted fold
  | subtraction _ _ =>
    rw [form] at fold
    exact foldSubtraction?_forms formed form registered accepted fold
  | multiplication =>
    rw [form] at fold
    exact foldMultiplication?_forms formed form registered accepted fold
  | division _ =>
    rw [form] at fold
    exact foldDivision?_forms formed form registered accepted fold

/-- Whatever a function folds to is formed and of the kind of the whole. -/
theorem foldCall?_forms {function : Function} (found : engine.Found base lossless (.call function operands))
    (fold : function.kind.fold? operands = some folded) :
    engine.FormsAs base lossless (Tree.call function operands).kind (folded.result (.call function)) := by
  rw [Tree.kind]
  cases form : function.kind with
  | conditional =>
    rw [form] at fold
    obtain ⟨_, _, _, _, _, _, branch, rfl, _, _, _, part, shape⟩ := exists_branch_of_foldConditional? fold
    rcases shape with ⟨same, rfl⟩ | ⟨value, result, evaluated, coerced, rfl⟩
    · exact ⟨formed branch part, .inl same⟩
    · exact .literal fun demanded =>
        (exact_of_literalValue? formed demanded part evaluated).coerce _ _ coerced
  | noNull =>
    rw [form] at fold
    obtain ⟨value, rfl, success⟩ := firstValue_of_foldFirstValue? none fold
    exact .literal fun demanded => exact_firstValue (exact_known formed demanded) _ value success
  | isNull | noZero | hexadecimal | squareRoot | kindName =>
    rw [form] at fold
    refine foldLiteral?_forms formed (fun exact => FunctionKind.exact_apply exact _ fun _ other => ?_) fold
    cases other
  | absolute | round | least | greatest | length | upper | lower =>
    rw [form] at fold
    refine foldConstant?_forms formed (fun exact => FunctionKind.exact_apply exact _ fun _ other => ?_) fold
    cases other
  | evaluates | now _ =>
    rw [form] at fold
    cases fold

end Operands

/-- An operation stays found and accepted over operands that differ in nothing but how they are written. -/
theorem found_of_alike {operator : Operator} {changed : List Tree}
    (alike : List.Forall₂ Alike changed operands) (found : engine.Found base lossless (.operation operator operands)) :
    engine.Found base lossless (.operation operator changed) :=
  ⟨found.1, fun text => kinds_of_alike alike ▸ found.2 text⟩

/-- Operands in blocks make a formed operation. -/
theorem regroup_formed {operator : Operator} (found : engine.Found base lossless (.operation operator operands))
    (accepted : operator.accepts operands = true)
    (formed : ∀ operand ∈ operands, All (engine.Formed base lossless) operand) :
    All (engine.Formed base lossless) (engine.regroup operator operands) := by
  obtain ⟨changed, same, grouped⟩ := engine.regroup_eq operator operands
  have alike : List.Forall₂ Alike changed operands := grouped.imp fun operand original found => by
    obtain ⟨isLeading, rfl⟩ := found
    exact engine.grouped_alike operator isLeading original
  have found := found_of_alike alike found
  rw [same]
  refine formed_operation found.1 found.2 ((Operator.accepts_of_alike alike).trans accepted) ?_
  intro operand member
  obtain ⟨original, inside, isLeading, rfl⟩ := exists_of_forall₂ grouped.flip member
  have here := formed original inside
  rcases engine.grouped_eq_or operator isLeading original with block | same
  · rw [block]
    exact all_of_children ⟨trivial, trivial⟩ (List.forall_mem_singleton.mpr here)
  · rw [same]
    exact here

/-- Blocks around operands keep an expression formed. -/
theorem regroupDeep_formed {tree : Tree} (formed : All (engine.Formed base lossless) tree) :
    All (engine.Formed base lossless) (engine.regroupDeep tree) := by
  have parts (operands : List Tree) : List.Forall₂ Alike (operands.map engine.regroupDeep) operands :=
    forall₂_map_self fun operand _ => engine.regroupDeep_alike operand
  induction tree with
  | literal | constant | input =>
    rw [regroupDeep]
    exact formed
  | operation operator operands ih =>
    obtain ⟨found, accepted⟩ := formed.self
    rw [regroupDeep, regroupAll_eq_map]
    refine regroup_formed (found_of_alike (parts operands) found)
      ((Operator.accepts_of_alike (parts operands)).trans accepted) ?_
    rw [List.forall_mem_map]
    exact fun operand member => ih operand member (formed.within (.operand member))
  | call function operands ih =>
    obtain ⟨found, accepted, settled⟩ := formed.self
    rw [regroupDeep, regroupAll_eq_map]
    refine all_of_children ⟨found, (Function.accepts_of_alike (parts operands)).trans accepted, ?_⟩ ?_
    · intro search
      rw [List.getLast?_map]
      intro operand place
      obtain ⟨last, inside, rfl⟩ := Option.map_eq_some_iff.mp place
      have fine := settled search last inside
      exact (regroupDeep_of_settled fine).symm ▸ fine
    · rw [children, List.forall_mem_map]
      exact fun operand member => ih operand member (formed.within (.argument member))
  | block inner ih =>
    rw [regroupDeep]
    exact all_of_children ⟨trivial, trivial⟩ (List.forall_mem_singleton.mpr (ih (formed.within .inside)))

/-- What an operation becomes is formed and of its kind, or of null in place of a long. -/
theorem foldOperation_forms {operator : Operator}
    (found : engine.Found base lossless (.operation operator operands)) (accepted : operator.accepts operands = true)
    (formed : ∀ operand ∈ operands, All (engine.Formed base lossless) operand) :
    engine.FormsAs base lossless (Tree.operation operator operands).kind (engine.foldOperation operator operands) := by
  unfold foldOperation
  split
  · next result fold =>
    obtain ⟨all, kind⟩ := fold?_forms formed found accepted fold
    exact ⟨regroupDeep_formed all, (engine.regroupDeep_alike result).kind ▸ kind⟩
  · next folded fold =>
    obtain ⟨all, kind⟩ := fold?_forms formed found accepted fold
    exact ⟨regroupDeep_formed all, (engine.regroupDeep_alike (.operation operator folded)).kind ▸ kind⟩
  · exact ⟨regroup_formed found accepted formed, .inl (engine.regroup_alike operator operands).kind⟩

/-- What a function becomes is formed and of its kind. -/
theorem foldCall_forms {function : Function} (formed : engine.Formed base lossless (.call function operands))
    (parts : ∀ operand ∈ operands, All (engine.Formed base lossless) operand) :
    engine.FormsAs base lossless (Tree.call function operands).kind (engine.foldCall function operands) := by
  unfold foldCall
  split
  · next result fold =>
    obtain ⟨all, kind⟩ := foldCall?_forms parts formed.found fold
    exact ⟨regroupDeep_formed all, (engine.regroupDeep_alike result).kind ▸ kind⟩
  · next folded fold =>
    obtain ⟨all, kind⟩ := foldCall?_forms parts formed.found fold
    exact ⟨regroupDeep_formed all, (engine.regroupDeep_alike (.call function folded)).kind ▸ kind⟩
  · exact ⟨all_of_children formed parts, .refl _⟩

section Reduced

variable (parts : ∀ operand ∈ operands, engine.FormsAs base lossless operand.kind (engine.reduce operand))

include parts

/-- What an operation over reduced operands becomes is formed and of the kind of the original one. -/
theorem foldOperation_reduced_forms {operator : Operator}
    (found : engine.Found base lossless (.operation operator operands))
    (accepted : operator.accepts operands = true) :
    engine.FormsAs base lossless (Tree.operation operator operands).kind
      (engine.foldOperation operator (operands.map engine.reduce)) := by
  have weaker := kinds_map_weaken fun operand member => (parts operand member).kind
  have acceptedToo : operator.accepts (operands.map engine.reduce) = true :=
    OperatorKind.accepts_of_weakens weaker accepted
  have declared : operator.kind = .concatenation → Kind.string ∈ kinds (operands.map engine.reduce) := by
    intro concatenates
    obtain ⟨operand, member, text⟩ := mem_kinds.mp (found.2 concatenates)
    refine mem_kinds.mpr ⟨_, List.mem_map_of_mem member, ?_⟩
    rcases (parts operand member).kind with same | ⟨_, long⟩
    · exact same.trans text
    · cases long.symm.trans text
  have same : (Tree.operation operator (operands.map engine.reduce)).kind =
      (Tree.operation operator operands).kind := by
    rw [Tree.kind, Tree.kind, OperatorKind.resultKind_of_weakens weaker]
  rw [← same]
  refine foldOperation_forms ⟨found.1, declared⟩ acceptedToo ?_
  rw [List.forall_mem_map]
  exact fun operand member => (parts operand member).formed

/-- What a function over reduced operands becomes is formed and of the kind of the original one, or of null
in place of a long. -/
theorem foldCall_reduced_forms {function : Function}
    (found : engine.Found base lossless (.call function operands))
    (accepted : function.accepts operands = true) (typed : ∀ operand ∈ operands, operand.Typed)
    (unasked : ∀ operand ∈ operands, ∀ function operands,
      Within (.call function operands) operand → function.kind ≠ .evaluates) :
    engine.FormsAs base lossless (Tree.call function operands).kind
      (engine.foldCall function (operands.map engine.reduce)) := by
  have acceptedToo : function.accepts (operands.map engine.reduce) = true :=
    accepts_map (fun operand member => (parts operand member).kind)
      (fun operand member _ => literalValue?_reduce (unasked operand member) (typed operand member)) accepted
  have settled : function.kind = .noNull →
      ∀ operand ∈ (operands.map engine.reduce).getLast?, operand.Settled := by
    intro search
    rw [Function.accepts, search, FunctionKind.accepts, Bool.and_eq_true, Bool.and_eq_true,
      Option.any_eq_true] at accepted
    obtain ⟨⟨⟨value, last, _⟩, _⟩, _⟩ := accepted
    obtain ⟨operand, place, known⟩ := Option.bind_eq_some_iff.mp last
    obtain ⟨constant, success⟩ := literalValue?_eq_some_iff.mp known
    have member := List.mem_of_getLast? place
    rw [List.getLast?_map, place]
    exact fun _ same => Option.some.inj same ▸
      reduce_settled (unasked operand member) (typed operand member) constant success
  have here : engine.Formed base lossless (.call function (operands.map engine.reduce)) :=
    ⟨found, acceptedToo, settled⟩
  obtain ⟨formed, kind⟩ := foldCall_forms here (List.forall_mem_map.mpr fun operand member =>
    (parts operand member).formed)
  refine ⟨formed, kind.trans ?_⟩
  rw [Tree.kind, Tree.kind]
  exact FunctionKind.resultKind_of_weakens
    (kinds_map_weaken fun operand member => (parts operand member).kind) accepted

end Reduced

/-- An expression whose parts are typed and found is reduced to a formed one of its kind, or of null in
place of a long, if no function asks whether its operands evaluate. -/
theorem reduce_forms {tree : Tree} (typed : tree.Typed) (found : All (engine.Found base lossless) tree)
    (unasked : ∀ function operands, Within (.call function operands) tree → function.kind ≠ .evaluates) :
    engine.FormsAs base lossless tree.kind (engine.reduce tree) := by
  induction typed with
  | literal sort =>
    rw [reduce]
    exact ⟨formed_literal found.self, .refl _⟩
  | constant =>
    rw [reduce]
    exact ⟨all_of_children ⟨found.self, trivial⟩ (List.forall_mem_nil _), .refl _⟩
  | input =>
    rw [reduce]
    exact ⟨all_of_children ⟨found.self, trivial⟩ (List.forall_mem_nil _), .refl _⟩
  | @operation operator operands _ accepted ih =>
    rw [reduce, reduceAll_eq_map]
    refine foldOperation_reduced_forms (fun operand member => ?_) found.self accepted
    exact ih operand member (found.within (.operand member))
      fun _ _ within => unasked _ _ (within.trans (.operand member))
  | @call function operands typed accepted ih =>
    have deeper (operand : Tree) (member : operand ∈ operands) :
        ∀ function operands, Within (.call function operands) operand → function.kind ≠ .evaluates :=
      fun _ _ within => unasked _ _ (within.trans (.argument member))
    rw [reduce, reduceAll_eq_map]
    refine foldCall_reduced_forms (fun operand member => ?_) found.self accepted typed deeper
    exact ih operand member (found.within (.argument member)) (deeper operand member)
  | @block inner _ ih =>
    rw [reduce, Tree.kind]
    exact ih (found.within .inside) fun _ _ within => unasked _ _ (within.trans .inside)

end Engine

end Reckoner
