import Reckoner.Text.Blank
import Mathlib.Data.List.TakeWhile

/-! # Blanks at the ends

A text is what trimming leaves of it, between blanks. Blanks at the ends of a text make no difference
to what trimming leaves.
-/

namespace Reckoner.Text

/-- What holds of all characters of a text is decided by going through the text. -/
instance decidableForallMem {fine : Char → Prop} [DecidablePred fine] (text : List Char) :
    Decidable (∀ c ∈ text, fine c) :=
  List.decidableBAll fine text

/-- Trimming takes blanks from the front and nothing else. -/
theorem exists_trimStart (text : List Char) :
    ∃ front, text = front ++ trimStart text ∧ ∀ c ∈ front, isBlank c = true :=
  ⟨text.takeWhile isBlank, (List.takeWhile_append_dropWhile).symm,
    fun _ member => List.mem_takeWhile_imp member⟩

/-- Trimming takes blanks from the back and nothing else. -/
theorem exists_trimEnd (text : List Char) :
    ∃ back, text = trimEnd text ++ back ∧ ∀ c ∈ back, isBlank c = true := by
  refine ⟨(text.reverse.takeWhile isBlank).reverse, ?_, fun c member =>
    List.mem_takeWhile_imp (List.mem_reverse.mp member)⟩
  rw [trimEnd, ← List.reverse_append, List.takeWhile_append_dropWhile, List.reverse_reverse]

/-- Trimming takes blanks away from both ends and nothing else. -/
theorem exists_trim (text : List Char) : ∃ front back, text = front ++ trim text ++ back ∧
    (∀ c ∈ front, isBlank c = true) ∧ ∀ c ∈ back, isBlank c = true := by
  obtain ⟨front, start, blank⟩ := exists_trimStart text
  obtain ⟨back, ending, blankToo⟩ := exists_trimEnd (trimStart text)
  exact ⟨front, back, by rw [List.append_assoc, trim, ← ending, ← start], blank, blankToo⟩

theorem trim_sublist (text : List Char) : (trim text).Sublist text := by
  obtain ⟨front, back, same, _⟩ := exists_trim text
  conv => rhs; rw [same]
  exact (List.sublist_append_right front _).trans (List.sublist_append_left _ back)

/-- Blanks in front do not matter to a trimmed text. -/
theorem trim_append_left {front : List Char} (blank : ∀ c ∈ front, isBlank c = true)
    (text : List Char) : trim (front ++ text) = trim text := by
  rw [trim, trimStart, List.dropWhile_append_of_pos blank, ← trimStart, ← trim]

theorem trimEnd_append {back : List Char} (blank : ∀ c ∈ back, isBlank c = true)
    (text : List Char) : trimEnd (text ++ back) = trimEnd text := by
  rw [trimEnd, List.reverse_append, List.dropWhile_append_of_pos, ← trimEnd]
  exact fun c member => blank c (List.mem_reverse.mp member)

theorem trimStart_eq_nil {text : List Char} (blank : ∀ c ∈ text, isBlank c = true) :
    trimStart text = [] := List.dropWhile_eq_nil_iff.mpr blank

/-- Blanks behind do not matter to a trimmed text. -/
theorem trim_append_right {back : List Char} (blank : ∀ c ∈ back, isBlank c = true)
    (text : List Char) : trim (text ++ back) = trim text := by
  by_cases all : ∀ c ∈ text, isBlank c = true
  · have whole : ∀ c ∈ text ++ back, isBlank c = true := fun c member =>
      (List.mem_append.mp member).elim (all c) (blank c)
    rw [trim, trim, trimStart_eq_nil whole, trimStart_eq_nil all]
  · have split : trimStart (text ++ back) = trimStart text ++ back := by
      rw [trimStart, List.dropWhile_append, if_neg, ← trimStart]
      rw [List.isEmpty_iff, List.dropWhile_eq_nil_iff]
      exact all
    rw [trim, split, trimEnd_append blank, ← trim]

/-- Visible characters in the middle stop the trimming of the front. -/
theorem trimStart_append_append {middle : List Char} (spelled : middle ≠ [])
    (visible : ∀ c ∈ middle, isBlank c = false) (left right : List Char) :
    trimStart (left ++ middle ++ right) = trimStart left ++ middle ++ right := by
  obtain ⟨c, rest, rfl⟩ := List.exists_cons_of_ne_nil spelled
  have here := visible c (List.mem_cons_self ..)
  rw [trimStart, List.append_assoc, List.cons_append, List.dropWhile_append]
  split
  · next all =>
    rw [List.dropWhile_cons_of_neg (by simp [here]), trimStart, List.isEmpty_iff.mp all,
      List.nil_append, List.cons_append]
  · rw [trimStart, List.append_assoc, List.cons_append]

/-- Trimming does not reach beyond what is visible in the middle of a text. -/
theorem trim_append_append {middle : List Char} (spelled : middle ≠ [])
    (visible : ∀ c ∈ middle, isBlank c = false) (left right : List Char) :
    trim (left ++ middle ++ right) = trimStart left ++ middle ++ trimEnd right := by
  have spelledToo : middle.reverse ≠ [] := fun empty => spelled (List.reverse_eq_nil_iff.mp empty)
  have mirrored := trimStart_append_append spelledToo
    (fun c member => visible c (List.mem_reverse.mp member)) right.reverse (trimStart left).reverse
  have ending : trimEnd (trimStart left ++ middle ++ right) =
      (trimStart (right.reverse ++ middle.reverse ++ (trimStart left).reverse)).reverse := by
    rw [trimEnd, List.reverse_append, List.reverse_append, ← trimStart, List.append_assoc]
  rw [trim, trimStart_append_append spelled visible, ending, mirrored]
  simp only [List.reverse_append, List.reverse_reverse, List.append_assoc, trimEnd, trimStart]

theorem trim_cons {c : Char} (visible : isBlank c = false) (text : List Char) :
    trim (c :: text) = c :: trimEnd text :=
  trim_append_append (List.cons_ne_nil c []) (List.forall_mem_singleton.mpr visible) [] text

theorem trim_concat {c : Char} (visible : isBlank c = false) (text : List Char) :
    trim (text ++ [c]) = trimStart text ++ [c] := by
  have whole := trim_append_append (List.cons_ne_nil c []) (List.forall_mem_singleton.mpr visible)
    text []
  rwa [List.append_nil, show trimEnd [] = [] from rfl, List.append_nil] at whole

theorem trim_trimStart (text : List Char) : trim (trimStart text) = trim text := by
  obtain ⟨front, same, blank⟩ := exists_trimStart text
  rw [← trim_append_left blank, ← same]

theorem trim_trimEnd (text : List Char) : trim (trimEnd text) = trim text := by
  obtain ⟨back, same, blank⟩ := exists_trimEnd text
  rw [← trim_append_right blank, ← same]

/-- A trimmed text is trimmed no further. -/
theorem trim_trim (text : List Char) : trim (trim text) = trim text := by
  obtain ⟨front, back, same, blank, blankToo⟩ := exists_trim text
  have whole := congrArg trim same
  rw [trim_append_right blankToo, trim_append_left blank] at whole
  exact whole.symm

structure Tight (text : List Char) : Prop where
  first : ∃ c rest, text = c :: rest ∧ isBlank c = false
  last : ∃ front c, text = front ++ [c] ∧ isBlank c = false

namespace Tight

theorem trim_eq {text : List Char} (tight : Tight text) : trim text = text := by
  obtain ⟨⟨c, rest, same, visible⟩, ⟨front, d, sameToo, visibleToo⟩⟩ := tight
  have start : trimStart text = text := by
    rw [same, trimStart, List.dropWhile_cons_of_neg (Bool.eq_false_iff.mp visible)]
  have ending : trimEnd text = text := by
    rw [trimEnd, sameToo, List.reverse_append, List.reverse_singleton, List.singleton_append,
      List.dropWhile_cons_of_neg (Bool.eq_false_iff.mp visibleToo), List.reverse_cons,
      List.reverse_reverse]
  rw [trim, start, ending]

theorem ne_nil {text : List Char} (tight : Tight text) : text ≠ [] := by
  obtain ⟨⟨c, rest, rfl, _⟩, _⟩ := tight
  exact List.cons_ne_nil c rest

/-- Tight texts keep a text tight whatever stands between them. -/
theorem append {left right : List Char} (tight : Tight left) (tightToo : Tight right)
    (middle : List Char) : Tight (left ++ middle ++ right) := by
  obtain ⟨⟨c, rest, rfl, visible⟩, _⟩ := tight
  obtain ⟨_, ⟨front, d, rfl, visibleToo⟩⟩ := tightToo
  exact ⟨⟨c, rest ++ middle ++ (front ++ [d]), by simp only [List.cons_append], visible⟩,
    ⟨c :: rest ++ middle ++ front, d, by simp only [List.append_assoc], visibleToo⟩⟩

theorem intercalate {texts : List (List Char)} (spelled : texts ≠ []) (all : ∀ text ∈ texts, Tight text)
    (between : List Char) : Tight (List.intercalate between texts) := by
  induction texts with
  | nil => exact absurd rfl spelled
  | cons first rest ih =>
    obtain ⟨here, others⟩ := List.forall_mem_cons.mp all
    cases rest with
    | nil =>
      rw [List.intercalate_singleton]
      exact here
    | cons second rest =>
      rw [List.intercalate_cons_cons]
      exact here.append (ih (List.cons_ne_nil _ _) others) between

end Tight

theorem tight_of_visible {text : List Char} (spelled : text ≠ [])
    (visible : ∀ c ∈ text, isBlank c = false) : Tight text := by
  obtain ⟨c, rest, rfl⟩ := List.exists_cons_of_ne_nil spelled
  refine ⟨⟨c, rest, rfl, visible c (List.mem_cons_self ..)⟩, ?_⟩
  refine ⟨(c :: rest).dropLast, (c :: rest).getLast spelled,
    (List.dropLast_concat_getLast spelled).symm, ?_⟩
  exact visible _ (List.getLast_mem spelled)

end Reckoner.Text
