import Reckoner.Proofs.Source.Surface
import Mathlib.Data.List.Basic

/-! # Balanced texts

A balanced text leaves everything around it where it is: what stands behind it stands as deep as what
stands in front of it, and no block or call that is open in front of it is closed within it. Balanced
texts can be put behind each other, between delimiters, and into quotes.
-/

namespace Reckoner

namespace Dialect

variable {dialect : Dialect}

/-- From whatever depth outside of quotes, the text leads back there, without closing what is open. -/
structure Balanced (dialect : Dialect) (text : List Char) : Prop where
  scan : ∀ depth : Int, dialect.scan ⟨depth, false⟩ text = ⟨depth, false⟩
  closing : ∀ depth : Int, 1 ≤ depth → ∀ rest, dialect.closingFrom? ⟨depth, false⟩ (text ++ rest) =
    (dialect.closingFrom? ⟨depth, false⟩ rest).map (· + text.length)

/-- A character that does not lead to the surface is passed by. -/
theorem closingFrom?_cons {nesting : Nesting} {c : Char}
    (inside : 1 ≤ (nesting.after dialect c).depth) (rest : List Char) :
    dialect.closingFrom? nesting (c :: rest) =
      (dialect.closingFrom? (nesting.after dialect c) rest).map (· + 1) := by
  rw [closingFrom?, if_neg]
  rintro ⟨_, ends⟩
  omega

theorem balanced_nil : dialect.Balanced [] :=
  ⟨fun _ => rfl, fun _ _ _ => Option.map_id'.symm⟩

theorem balanced_singleton {c : Char} (plain : dialect.isDelimiter c = false) :
    dialect.Balanced [c] := by
  have same (depth : Int) := after_of_not_isDelimiter plain ⟨depth, false⟩
  refine ⟨same, fun depth inside rest => ?_⟩
  rw [List.singleton_append, closingFrom?_cons (by rw [same]; exact inside), same]
  rfl

/-- Balanced texts one after the other are balanced. -/
theorem Balanced.append {front back : List Char} (left : dialect.Balanced front)
    (right : dialect.Balanced back) : dialect.Balanced (front ++ back) := by
  refine ⟨fun depth => ?_, fun depth inside rest => ?_⟩
  · rw [scan_append, left.scan, right.scan]
  · rw [List.append_assoc, left.closing depth inside, right.closing depth inside, Option.map_map,
      List.length_append]
    congr 1
    funext position
    simp only [Function.comp_apply]
    omega

/-- A text without delimiters is balanced. -/
theorem balanced_of_plain {text : List Char} (plain : ∀ c ∈ text, dialect.isDelimiter c = false) :
    dialect.Balanced text := by
  induction text with
  | nil => exact balanced_nil
  | cons c rest ih =>
    obtain ⟨here, others⟩ := List.forall_mem_cons.mp plain
    exact (balanced_singleton here).append (ih others)

/-- Balanced texts with balanced ones between them are balanced. -/
theorem Balanced.intercalate {between : List Char} (balanced : dialect.Balanced between)
    {texts : List (List Char)} (all : ∀ text ∈ texts, dialect.Balanced text) :
    dialect.Balanced (List.intercalate between texts) := by
  induction texts with
  | nil => exact balanced_nil
  | cons first rest ih =>
    obtain ⟨here, others⟩ := List.forall_mem_cons.mp all
    cases rest with
    | nil =>
      rw [List.intercalate_singleton]
      exact here
    | cons second rest =>
      rw [List.intercalate_cons_cons]
      exact (here.append balanced).append (ih others)

section Delimiters

variable {opening closing : Char} {inner : List Char}
  (opens : ∀ depth, Nesting.after dialect ⟨depth, false⟩ opening = ⟨depth + 1, false⟩)
  (closes : ∀ depth, Nesting.after dialect ⟨depth, false⟩ closing = ⟨depth - 1, false⟩)
  (balanced : dialect.Balanced inner)

include opens closes balanced

/-- A balanced text between delimiters that belong to each other is balanced. -/
theorem Balanced.between : dialect.Balanced (opening :: inner ++ [closing]) := by
  refine ⟨fun depth => ?_, fun depth inside rest => ?_⟩
  · rw [List.cons_append, scan_cons, opens, scan_append, balanced.scan, scan_cons, closes,
      Int.add_sub_cancel]
    rfl
  · have deeper : 1 ≤ (Nesting.after dialect ⟨depth, false⟩ opening).depth := by
      rw [opens]
      exact Int.le_trans inside (Int.le_add_one (Int.le_refl _))
    have shallower : 1 ≤ (Nesting.after dialect ⟨depth + 1, false⟩ closing).depth := by
      rw [closes, Int.add_sub_cancel]
      exact inside
    rw [List.cons_append, List.cons_append, closingFrom?_cons deeper, opens, List.append_assoc,
      balanced.closing _ (by omega), List.singleton_append, closingFrom?_cons shallower, closes,
      Int.add_sub_cancel, Option.map_map, Option.map_map]
    congr 1
    funext position
    simp only [Function.comp_apply, List.length_cons, List.length_append, List.length_nil]
    omega

/-- A balanced text between two delimiters is what they enclose. -/
theorem Balanced.enclosed? :
    dialect.enclosed? opening closing (opening :: inner ++ [closing]) = some inner := by
  have ends : dialect.closingFrom? ⟨1, false⟩ (inner ++ [closing]) = some inner.length := by
    rw [balanced.closing 1 (Int.le_refl 1), closingFrom?, closes, if_pos ⟨rfl, rfl⟩, Option.map_some,
      Nat.zero_add]
  have last : dialect.closing? (opening :: (inner ++ [closing])) =
      some (inner ++ [closing]).length := by
    rw [closing?, Nesting.surface, closingFrom?_cons (by rw [opens]; decide), opens, Int.zero_add, ends,
      List.length_append]
    rfl
  rw [List.cons_append, Dialect.enclosed?, if_pos ⟨rfl, List.getLast?_concat, last⟩,
    List.dropLast_concat]

end Delimiters

/-- What is enclosed stands between its delimiters. -/
theorem eq_of_enclosed? {opening closing : Char} {text inner : List Char}
    (enclosed : dialect.enclosed? opening closing text = some inner) :
    text = opening :: inner ++ [closing] := by
  unfold Dialect.enclosed? at enclosed
  split at enclosed
  · cases enclosed
  · next c rest =>
    split at enclosed
    · next ends =>
      obtain ⟨rfl, last, _⟩ := ends
      obtain rfl := Option.some.inj enclosed
      rw [List.cons_append, List.dropLast_append_getLast? _ last]
    · cases enclosed

/-- A text without the closing quote is balanced between quotes. -/
theorem balanced_quoted {opening closing : Char} {inner : List Char}
    (opens : ∀ depth, Nesting.after dialect ⟨depth, false⟩ opening = ⟨depth, true⟩)
    (closes : ∀ depth, Nesting.after dialect ⟨depth, true⟩ closing = ⟨depth, false⟩)
    (hidden : ∀ c ∈ inner, c ≠ dialect.stringClose) :
    dialect.Balanced (opening :: inner ++ [closing]) := by
  have quoted (depth : Int) {text : List Char} (hidden : ∀ c ∈ text, c ≠ dialect.stringClose) :
      dialect.scan ⟨depth, true⟩ text = ⟨depth, true⟩ ∧ (1 ≤ depth → ∀ rest,
        dialect.closingFrom? ⟨depth, true⟩ (text ++ rest) =
          (dialect.closingFrom? ⟨depth, true⟩ rest).map (· + text.length)) := by
    induction text with
    | nil =>
      exact ⟨rfl, fun _ _ => Option.map_id'.symm⟩
    | cons c text ih =>
      obtain ⟨here, others⟩ := List.forall_mem_cons.mp hidden
      have same : Nesting.after dialect ⟨depth, true⟩ c = ⟨depth, true⟩ := by
        rw [Nesting.after, if_pos rfl, decide_eq_true here]
      obtain ⟨scan, closing⟩ := ih others
      refine ⟨by rw [scan_cons, same, scan], fun inside rest => ?_⟩
      rw [List.cons_append, closingFrom?_cons (by rw [same]; exact inside), same,
        closing inside, Option.map_map]
      rfl
  refine ⟨fun depth => ?_, fun depth inside rest => ?_⟩
  · rw [List.cons_append, scan_cons, opens, scan_append, (quoted depth hidden).1, scan_cons, closes]
    rfl
  · rw [List.cons_append, List.cons_append, closingFrom?_cons (by rw [opens]; exact inside), opens,
      List.append_assoc, (quoted depth hidden).2 inside, List.singleton_append,
      closingFrom?_cons (by rw [closes]; exact inside), closes, Option.map_map, Option.map_map]
    congr 1
    funext position
    simp only [Function.comp_apply, List.length_cons, List.length_append, List.length_nil]
    omega

end Dialect

end Reckoner
