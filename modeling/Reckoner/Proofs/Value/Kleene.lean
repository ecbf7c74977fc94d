import Mathlib.Data.List.MinMax
import Mathlib.Data.List.Perm.Basic
import Reckoner.Proofs.Typing.Soundness

/-! # Three-valued logic

The connectives go through their operands from the left and stop at the first one that decides them. Two
laws hold of that walk whatever the operands do, fail or answer: the two connectives are dual by negation,
and an operation in the leading place is as good as its operands. Where every operand has a truth value
the order does not matter either: with null between false and true, a disjunction is the greatest of its
operands and a conjunction the least.
-/

namespace Reckoner

/-- The value of a truth value, null where it is unknown. -/
def Value.ofTruth : Option Bool → Value
  | some truth => .boolean truth
  | none => .null

theorem Value.asTruth_ofTruth (truth : Option Bool) : (Value.ofTruth truth).asTruth = .ok truth := by
  cases truth <;> rfl

/-- The place of a truth value: false below unknown below true. -/
def truthRank : Option Bool → Nat
  | some false => 0
  | none => 1
  | some true => 2

section Walk

variable {dominant sawNull : Bool} {operands : List Operand}

/-- One step of the walk: the next operand fails, decides, or is passed by. -/
theorem connectiveAfter_cons (dominant sawNull : Bool) (operand : Operand) (rest : List Operand) :
    connectiveAfter dominant sawNull (operand :: rest) =
      operand.outcome >>= fun value => value.asTruth >>= fun truth =>
        if truth = some dominant then .ok (.boolean dominant)
        else connectiveAfter dominant (sawNull || truth.isNone) rest := by
  rw [connectiveAfter]
  refine Except.bind_eq_bind fun value _ => Except.bind_eq_bind fun truth _ => ?_
  cases truth with
  | none => rw [if_neg (by simp), Option.isNone_none, Bool.or_true]
  | some truth => simp only [Option.some.injEq, Option.isNone_some, Bool.or_false]

/-- The outcome of a walk is as good an operand as all operands that were walked over. -/
theorem connectiveAfter_nested (kind : Kind) (saw : Bool) (run rest : List Operand) :
    connectiveAfter dominant sawNull (⟨kind, connectiveAfter dominant saw run⟩ :: rest) =
      connectiveAfter dominant (sawNull || saw) (run ++ rest) := by
  induction run generalizing saw with
  | nil =>
    rw [connectiveAfter_cons, connectiveAfter, List.nil_append]
    cases saw <;> cases dominant <;> simp [Value.asTruth_null, Value.asTruth_boolean]
  | cons operand run ih =>
    rw [connectiveAfter_cons, connectiveAfter_cons, List.cons_append, connectiveAfter_cons]
    cases operand.outcome with
    | error error => rfl
    | ok value =>
      rw [Except.ok_bind, Except.ok_bind]
      cases value.asTruth with
      | error error => rfl
      | ok truth =>
        rw [Except.ok_bind, Except.ok_bind]
        by_cases decides : truth = some dominant
        · rw [if_pos decides, if_pos decides, Except.ok_bind, Value.asTruth_boolean, Except.ok_bind, if_pos rfl]
        · rw [if_neg decides, if_neg decides, Bool.or_assoc, ← ih, connectiveAfter_cons]

/-- A complement is the negated truth value of the first operand. -/
theorem complement_cons (operand : Operand) (rest : List Operand) :
    complement (operand :: rest) =
      operand.outcome >>= fun value => value.asTruth.map fun truth => .ofTruth (truth.map not) := by
  refine Except.bind_eq_bind fun value _ => ?_
  cases value.asTruth with
  | error error => rfl
  | ok truth => cases truth <;> rfl

def Operand.opposite (operand : Operand) : Operand := ⟨.boolean, complement [operand]⟩

/-- The opposite of a walk over the opposites is the walk of the other connective over the operands. -/
theorem complement_connectiveAfter_opposites (kind : Kind) :
    complement [⟨kind, connectiveAfter (!dominant) sawNull (operands.map Operand.opposite)⟩] =
      connectiveAfter dominant sawNull operands := by
  induction operands generalizing sawNull with
  | nil => cases sawNull <;> cases dominant <;> rfl
  | cons operand rest ih =>
    rw [complement_cons, List.map_cons, connectiveAfter_cons, connectiveAfter_cons, Operand.opposite,
      complement_cons]
    cases operand.outcome with
    | error error => rfl
    | ok value =>
      rw [Except.ok_bind, Except.ok_bind]
      cases value.asTruth with
      | error error => rfl
      | ok truth =>
        have same : truth.map not = some (!dominant) ↔ truth = some dominant := by
          cases truth <;> simp
        rw [Except.map_ok, Except.ok_bind, Except.ok_bind, Value.asTruth_ofTruth, Except.ok_bind,
          Option.isNone_map]
        by_cases decides : truth = some dominant
        · rw [if_pos decides, if_pos (same.mpr decides)]
          cases dominant <;> rfl
        · rw [if_neg decides, if_neg (decides ∘ same.mp), ← ih, complement_cons]

end Walk

section Truths

/-- What a walk over operands of these truth values comes to. -/
def verdict (dominant sawNull : Bool) (truths : List (Option Bool)) : Option Bool :=
  if some dominant ∈ truths then some dominant
  else if sawNull || none ∈ truths then none else some (!dominant)

variable {dominant : Bool} {truths : List (Option Bool)}

theorem verdict_cons (dominant sawNull : Bool) (truth : Option Bool) (rest : List (Option Bool)) :
    verdict dominant sawNull (truth :: rest) =
      if truth = some dominant then some dominant
      else verdict dominant (sawNull || truth.isNone) rest := by
  unfold verdict
  by_cases decides : truth = some dominant
  · rw [if_pos (decides ▸ List.mem_cons_self), if_pos decides]
  · rw [if_neg decides]
    have later : some dominant ∈ truth :: rest ↔ some dominant ∈ rest := by
      rw [List.mem_cons, or_iff_right (Ne.symm decides)]
    have unknown : (sawNull || decide (none ∈ truth :: rest)) =
        (sawNull || truth.isNone || decide (none ∈ rest)) := by
      cases truth <;> simp
    simp only [later, unknown]

/-- Where every operand has a truth value, the walk comes to the verdict on these. -/
theorem connectiveAfter_of_truths {sawNull : Bool} {operands : List Operand}
    (known : List.Forall₂ (fun operand truth => operand.outcome = .ok (.ofTruth truth)) operands truths) :
    connectiveAfter dominant sawNull operands = .ok (.ofTruth (verdict dominant sawNull truths)) := by
  induction known generalizing sawNull with
  | nil => cases sawNull <;> cases dominant <;> rfl
  | @cons operand truth _ _ here _ ih =>
    rw [connectiveAfter_cons, here, Except.ok_bind, Value.asTruth_ofTruth, Except.ok_bind, verdict_cons, ih]
    split <;> rfl

/-- The verdict does not depend on the order. -/
theorem verdict_perm {truthsToo : List (Option Bool)} (same : truthsToo.Perm truths) (sawNull : Bool) :
    verdict dominant sawNull truthsToo = verdict dominant sawNull truths := by
  simp only [verdict, same.mem_iff]

/-- A truth value among others is the verdict on all if nothing among them goes before it. -/
theorem eq_verdict {truth : Option Bool} (member : truth ∈ truths)
    (decides : some dominant ∈ truths → truth = some dominant)
    (unknown : none ∈ truths → truth ≠ some (!dominant)) : truth = verdict dominant false truths := by
  unfold verdict
  split
  · next found => exact decides found
  · next absent =>
    split
    · next found =>
      rw [Bool.false_or, decide_eq_true_eq] at found
      have other := unknown found
      cases truth with
      | none => rfl
      | some truth =>
        refine absurd member ?_
        rwa [show truth = dominant by cases truth <;> cases dominant <;> simp_all]
    · next found =>
      rw [Bool.false_or, decide_eq_true_eq] at found
      cases truth with
      | none => exact absurd member found
      | some truth =>
        have other : truth ≠ dominant := fun same => absent (same ▸ member)
        cases truth <;> cases dominant <;> simp_all

/-- The verdict of a disjunction is the greatest of the truth values. -/
theorem argmax_truthRank (present : truths ≠ []) :
    truths.argmax truthRank = some (verdict true false truths) := by
  obtain ⟨greatest, found⟩ := Option.ne_none_iff_exists'.mp fun none : truths.argmax truthRank = none =>
    present (List.argmax_eq_none.mp none)
  have above (truth : Option Bool) (member : truth ∈ truths) : truthRank truth ≤ truthRank greatest :=
    List.le_of_mem_argmax member found
  rw [found]
  refine congrArg some (eq_verdict (List.argmax_mem found) (fun member => ?_) fun member same => ?_)
  · have above := above _ member
    revert above
    rcases greatest with _ | _ | _ <;> decide
  · have above := above _ member
    rw [same] at above
    exact absurd above (by decide)

/-- The verdict of a conjunction is the least of the truth values. -/
theorem argmin_truthRank (present : truths ≠ []) :
    truths.argmin truthRank = some (verdict false false truths) := by
  obtain ⟨least, found⟩ := Option.ne_none_iff_exists'.mp fun none : truths.argmin truthRank = none =>
    present (List.argmin_eq_none.mp none)
  have below (truth : Option Bool) (member : truth ∈ truths) : truthRank least ≤ truthRank truth :=
    List.le_of_mem_argmin member found
  rw [found]
  refine congrArg some (eq_verdict (List.argmin_mem found) (fun member => ?_) fun member same => ?_)
  · have below := below _ member
    revert below
    rcases least with _ | _ | _ <;> decide
  · have below := below _ member
    rw [same] at below
    exact absurd below (by decide)

end Truths

namespace Tree

/-- The connective that the truth value `dominant` decides over some operands: a disjunction if it is true,
a conjunction if it is false. -/
def connected (dominant : Bool) (tag : Tag) (operands : List Tree) : Tree :=
  .operation ⟨tag, if dominant then .or else .and⟩ operands

def negated (tag : Tag) (operand : Tree) : Tree := .operation ⟨tag, .not⟩ [operand]

variable {document : Option Json} {operands : List Tree}

/-- A connective of expressions has the outcome of the connective over their outcomes. -/
theorem outcome_connected (dominant : Bool) (tag : Tag) (operands : List Tree) :
    (connected dominant tag operands).outcome document = connective dominant (operandsFor document operands) := by
  rw [connected, outcome]
  cases dominant <;> rfl

theorem operandsFor_negated (tag : Tag) :
    operandsFor document (operands.map (negated tag)) = (operandsFor document operands).map Operand.opposite := by
  rw [operandsFor_eq_map, operandsFor_eq_map, List.map_map, List.map_map]
  refine List.map_congr_left fun operand _ => ?_
  rw [Function.comp_apply, Function.comp_apply, negated, outcome, kind]
  rfl

/-- Operands with truth values as outcomes have them as operands of a connective. -/
theorem operandsFor_truths {truths : List (Option Bool)}
    (known : List.Forall₂ (fun operand truth => operand.outcome document = .ok (.ofTruth truth)) operands truths) :
    List.Forall₂ (fun (operand : Operand) truth => operand.outcome = .ok (.ofTruth truth))
      (operandsFor document operands) truths := by
  rwa [operandsFor_eq_map, List.forall₂_map_left_iff]

/-- A connective of expressions with truth values comes to the verdict on these. -/
theorem outcome_connected_of_truths {truths : List (Option Bool)} (dominant : Bool) (tag : Tag)
    (known : List.Forall₂ (fun operand truth => operand.outcome document = .ok (.ofTruth truth)) operands truths) :
    (connected dominant tag operands).outcome document = .ok (.ofTruth (verdict dominant false truths)) := by
  rw [outcome_connected]
  exact connectiveAfter_of_truths (operandsFor_truths known)

/-- What a connective takes has a truth value if it evaluates and none of its constants belies its value. -/
theorem Typed.exists_truth {operand : Tree} (typed : operand.Typed)
    (takes : Kind.boolean.takes operand.kind = true) {value : Value}
    (success : operand.outcome document = .ok value) : ∃ truth, operand.outcome document = .ok (.ofTruth truth) := by
  have fits := typed.outcome_yields document
  rw [success] at fits ⊢
  rcases Value.Fits.boolean fits takes with rfl | ⟨truth, rfl⟩
  · exact ⟨none, rfl⟩
  · exact ⟨some truth, rfl⟩

theorem exists_truths (known : ∀ operand ∈ operands, ∃ truth, operand.outcome document = .ok (.ofTruth truth)) :
    ∃ truths, List.Forall₂ (fun operand truth => operand.outcome document = .ok (.ofTruth truth)) operands truths := by
  induction operands with
  | nil => exact ⟨[], .nil⟩
  | cons operand rest ih =>
    obtain ⟨⟨truth, here⟩, others⟩ := List.forall_mem_cons.mp known
    obtain ⟨truths, later⟩ := ih others
    exact ⟨truth :: truths, .cons here later⟩

/-- A connective over any operands is the opposite of the other connective over their opposites, and a
leading run of operands may as well be one operation of the same connective, failures included. Where each
operand is true, false or null, a disjunction has the greatest of their values and a conjunction the
least, with null between false and true, in whatever order the operands stand. Operands that a connective
takes are such if they evaluate and no constant in them belies its value. -/
theorem connectives_three_valued (document : Option Json) (operands : List Tree) :
    (∀ dominant tag tagToo tagOuter tagInner,
      (connected dominant tag operands).outcome document =
        (negated tagOuter (connected (!dominant) tagToo (operands.map (negated tagInner)))).outcome document) ∧
    (∀ dominant tag run rest, operands = run ++ rest →
      (connected dominant tag (connected dominant tag run :: rest)).outcome document =
        (connected dominant tag operands).outcome document) ∧
    (∀ truths, operands ≠ [] →
      List.Forall₂ (fun operand truth => operand.outcome document = .ok (.ofTruth truth)) operands truths →
      (∃ greatest least, truths.argmax truthRank = some greatest ∧ truths.argmin truthRank = some least ∧
        ∀ tag, (connected true tag operands).outcome document = .ok (.ofTruth greatest) ∧
          (connected false tag operands).outcome document = .ok (.ofTruth least)) ∧
      ∀ shuffled, shuffled.Perm operands → ∀ dominant tag,
        (connected dominant tag shuffled).outcome document = (connected dominant tag operands).outcome document) ∧
    ((∀ operand ∈ operands, operand.Typed ∧ Kind.boolean.takes operand.kind = true ∧
        ∃ value, operand.outcome document = .ok value) →
      ∃ truths,
        List.Forall₂ (fun operand truth => operand.outcome document = .ok (.ofTruth truth)) operands truths) := by
  refine ⟨fun dominant tag tagToo tagOuter tagInner => ?_, fun dominant tag run rest same => ?_,
    fun truths present known => ⟨?_, fun shuffled perm dominant tag => ?_⟩, fun fine => ?_⟩
  · rw [negated, outcome, operandsFor, outcome_connected, outcome_connected, operandsFor_negated]
    exact (complement_connectiveAfter_opposites _).symm
  · rw [outcome_connected, outcome_connected, operandsFor, outcome_connected, same,
      operandsFor_eq_map document (run ++ rest), List.map_append, ← operandsFor_eq_map, ← operandsFor_eq_map]
    exact connectiveAfter_nested _ false _ _
  · have presentToo : truths ≠ [] := fun none => present (List.forall₂_nil_right_iff.mp (none ▸ known))
    exact ⟨_, _, argmax_truthRank presentToo, argmin_truthRank presentToo, fun tag =>
      ⟨outcome_connected_of_truths true tag known, outcome_connected_of_truths false tag known⟩⟩
  · obtain ⟨truthsToo, knownToo, permToo⟩ := List.perm_comp_forall₂ perm known
    rw [outcome_connected_of_truths dominant tag known, outcome_connected_of_truths dominant tag knownToo,
      verdict_perm permToo]
  · refine exists_truths fun operand member => ?_
    obtain ⟨typed, takes, _, success⟩ := fine operand member
    exact typed.exists_truth takes success

/-- A leading run in which an operand fails, and a null before a false. -/
theorem connectives_three_valued_of_null :
    let missing : Tree := .input ⟨0, "/x", .boolean⟩
    let unknown : Tree := .literal .null .null
    let denied : Tree := .literal .boolean (.boolean false)
    let granted : Tree := .literal .boolean (.boolean true)
    (connected true 1 [connected true 1 [unknown, missing], granted]).outcome none =
        (connected true 1 [unknown, missing, granted]).outcome none ∧
      (connected true 1 [unknown, denied]).outcome none = .ok .null ∧
      (connected false 2 [denied, unknown]).outcome none = .ok (.boolean false) := by
  intro missing unknown denied granted
  refine ⟨(connectives_three_valued none [unknown, missing, granted]).2.1 true 1 [unknown, missing] [granted] rfl, ?_⟩
  obtain ⟨⟨greatest, least, most, fewest, values⟩, shuffles⟩ :=
    (connectives_three_valued none [unknown, denied]).2.2.1 [none, some false] (List.cons_ne_nil _ _)
      (.cons rfl (.cons rfl .nil))
  obtain rfl : none = greatest := Option.some.inj most
  obtain rfl : some false = least := Option.some.inj fewest
  refine ⟨(values 1).1, ?_⟩
  rw [shuffles _ (.swap ..)]
  exact (values 2).2

/-- Two literals declared to be Boolean, one of which is a text. The text fails the disjunction unless the
other literal decides it first. -/
theorem exists_order_dependence :
    ∃ first second : Tree, (∀ tag, Operator.accepts ⟨tag, .or⟩ [first, second] = true) ∧
      (∃ value valueToo, first.outcome none = .ok value ∧ second.outcome none = .ok valueToo) ∧
      [second, first].Perm [first, second] ∧
      ∀ tag, (connected true tag [second, first]).outcome none ≠
        (connected true tag [first, second]).outcome none := by
  refine ⟨.literal .boolean (.string "a"), .literal .boolean (.boolean true), fun _ => rfl,
    ⟨_, _, rfl, rfl⟩, .swap .., fun tag same => ?_⟩
  cases same

end Tree

end Reckoner
