import Reckoner.Proofs.Source.Trim
import Reckoner.Source.Fragments
import Mathlib.Tactic.ByContra
import Mathlib.Tactic.SplitIfs

/-! # The surface of a text

The characters of a text that stand outside of blocks, calls and quotes, and the slices between those
of them that satisfy a predicate. Slicing twice is slicing once by either predicate, in whichever
order: operators that bind looser and tighter than each other cut a text into the same pieces.
-/

namespace Reckoner

namespace Dialect

variable {dialect : Dialect}

/-- The character begins or ends a block, a call or a quoted text. -/
def isDelimiter (dialect : Dialect) (c : Char) : Bool :=
  c == dialect.blockOpen || c == dialect.blockClose || c == dialect.stringOpen ||
    c == dialect.stringClose || c == dialect.functionOpen || c == dialect.functionClose

/-- Only delimiters change where the next character stands. -/
theorem after_of_not_isDelimiter {c : Char} (plain : dialect.isDelimiter c = false)
    (nesting : Nesting) : nesting.after dialect c = nesting := by
  simp only [isDelimiter, Bool.or_eq_false_iff, beq_eq_false_iff_ne] at plain
  obtain ⟨⟨⟨⟨⟨blockOpen, blockClose⟩, stringOpen⟩, stringClose⟩, functionOpen⟩, functionClose⟩ := plain
  obtain ⟨depth, isQuoted⟩ := nesting
  cases isQuoted with
  | false => simp [Nesting.after, stringOpen, blockOpen, functionOpen, blockClose, functionClose]
  | true => simp [Nesting.after, stringClose]

/-- Where a character behind the text stands. -/
def scan (dialect : Dialect) (nesting : Nesting) (text : List Char) : Nesting :=
  text.foldl (Nesting.after dialect) nesting

theorem scan_cons (nesting : Nesting) (c : Char) (rest : List Char) :
    dialect.scan nesting (c :: rest) = dialect.scan (nesting.after dialect c) rest := rfl

/-- A scan over two texts is a scan over the second from where the first one ends. -/
theorem scan_append (nesting : Nesting) (front back : List Char) :
    dialect.scan nesting (front ++ back) = dialect.scan (dialect.scan nesting front) back :=
  List.foldl_append

/-- A text without delimiters ends where it began. -/
theorem scan_of_plain {text : List Char} (plain : ∀ c ∈ text, dialect.isDelimiter c = false)
    (nesting : Nesting) : dialect.scan nesting text = nesting := by
  induction text with
  | nil => rfl
  | cons c rest ih =>
    obtain ⟨here, others⟩ := List.forall_mem_cons.mp plain
    rw [scan_cons, after_of_not_isDelimiter here, ih others]

/-- The characters at the surface, for a text whose first character stands at `nesting`. -/
def surfaceFrom (dialect : Dialect) (nesting : Nesting) : List Char → List Char
  | [] => []
  | c :: rest =>
    if nesting = Nesting.surface then c :: surfaceFrom dialect (nesting.after dialect c) rest
    else surfaceFrom dialect (nesting.after dialect c) rest

/-- The characters at the surface of a text. -/
def surfaceChars (dialect : Dialect) (text : List Char) : List Char :=
  dialect.surfaceFrom Nesting.surface text

/-- The characters at the surface of two texts are those of each. -/
theorem surfaceFrom_append (nesting : Nesting) (front back : List Char) :
    dialect.surfaceFrom nesting (front ++ back) =
      dialect.surfaceFrom nesting front ++ dialect.surfaceFrom (dialect.scan nesting front) back := by
  induction front generalizing nesting with
  | nil => rfl
  | cons c rest ih =>
    rw [List.cons_append, surfaceFrom, surfaceFrom, scan_cons, ih]
    split
    · rw [List.cons_append]
    · rfl

/-- All characters of a text without delimiters are at its surface. -/
theorem surfaceFrom_of_plain {text : List Char} (plain : ∀ c ∈ text, dialect.isDelimiter c = false) :
    dialect.surfaceFrom Nesting.surface text = text := by
  induction text with
  | nil => rfl
  | cons c rest ih =>
    obtain ⟨here, others⟩ := List.forall_mem_cons.mp plain
    rw [surfaceFrom, if_pos rfl, after_of_not_isDelimiter here, ih others]

theorem mem_of_mem_surfaceFrom {nesting : Nesting} {text : List Char} {c : Char}
    (member : c ∈ dialect.surfaceFrom nesting text) : c ∈ text := by
  induction text generalizing nesting with
  | nil => exact member
  | cons d rest ih =>
    rw [surfaceFrom] at member
    split at member
    · rcases List.mem_cons.mp member with rfl | later
      · exact List.mem_cons_self ..
      · exact List.mem_cons_of_mem _ (ih later)
    · exact List.mem_cons_of_mem _ (ih member)

/-- The slices of a text between the characters at its surface that satisfy `cuts`, for a text whose
first character stands at `nesting`. -/
def slicesFrom (dialect : Dialect) (cuts : Char → Bool) (nesting : Nesting) :
    List Char → List (List Char)
  | [] => [[]]
  | c :: rest =>
    if nesting = Nesting.surface ∧ cuts c = true then
      [] :: slicesFrom dialect cuts Nesting.surface rest
    else (slicesFrom dialect cuts (nesting.after dialect c) rest).modifyHead (c :: ·)

/-- The slices of a text between the characters at its surface that satisfy `cuts`. -/
def slices (dialect : Dialect) (cuts : Char → Bool) (text : List Char) : List (List Char) :=
  dialect.slicesFrom cuts Nesting.surface text

/-- There is always a first slice. -/
theorem exists_slicesFrom (dialect : Dialect) (cuts : Char → Bool) (nesting : Nesting) (text : List Char) :
    ∃ first others, dialect.slicesFrom cuts nesting text = first :: others := by
  induction text generalizing nesting with
  | nil => exact ⟨[], [], rfl⟩
  | cons c rest ih =>
    rw [slicesFrom]
    split
    · exact ⟨_, _, rfl⟩
    · obtain ⟨first, others, same⟩ := ih (nesting.after dialect c)
      exact ⟨c :: first, others, by rw [same, List.modifyHead_cons]⟩

/-- A character that does not cut a text stands in front of its first slice. -/
theorem exists_of_modifyHead {c : Char} {slices others : List (List Char)} {first : List Char}
    (sliced : slices.modifyHead (c :: ·) = first :: others) :
    ∃ next, slices = next :: others ∧ first = c :: next := by
  cases slices with
  | nil => cases sliced
  | cons next later =>
    obtain ⟨rfl, rfl⟩ := List.cons.inj sliced
    exact ⟨next, rfl, rfl⟩

/-- Slicing the slices by another predicate is slicing by both at once. -/
theorem flatMap_slices (cuts : Char → Bool) {cutsToo : Char → Bool}
    (plain : ∀ c, cutsToo c = true → dialect.isDelimiter c = false) (text : List Char) :
    (dialect.slices cuts text).flatMap (dialect.slices cutsToo) =
      dialect.slices (fun c => cuts c || cutsToo c) text := by
  have spread (nesting : Nesting) (text first : List Char) (others : List (List Char))
      (sliced : dialect.slicesFrom cuts nesting text = first :: others) :
      dialect.slicesFrom cutsToo nesting first ++ others.flatMap (dialect.slices cutsToo) =
        dialect.slicesFrom (fun c => cuts c || cutsToo c) nesting text := by
    induction text generalizing nesting first others with
    | nil =>
      obtain ⟨rfl, rfl⟩ := List.cons.inj sliced
      rfl
    | cons c rest ih =>
      rw [slicesFrom] at sliced
      rw [slicesFrom]
      split at sliced
      · next cut =>
        obtain ⟨rfl, rfl⟩ := List.cons.inj sliced
        obtain ⟨next, later, same⟩ := exists_slicesFrom dialect cuts .surface rest
        rw [if_pos ⟨cut.1, by rw [cut.2, Bool.true_or]⟩, same, List.flatMap_cons, slices,
          ih .surface next later same]
        rfl
      · next uncut =>
        obtain ⟨next, same, rfl⟩ := exists_of_modifyHead sliced
        have further := ih _ next others same
        rw [slicesFrom]
        by_cases place : nesting = Nesting.surface ∧ cutsToo c = true
        · rw [after_of_not_isDelimiter (plain c place.2), place.1] at further
          rw [if_pos place, if_pos ⟨place.1, by rw [place.2, Bool.or_true]⟩, List.cons_append, further]
        · have neither : ¬ (nesting = Nesting.surface ∧ (cuts c || cutsToo c) = true) := by
            rintro ⟨surface, cut⟩
            rcases Bool.or_eq_true_iff.mp cut with here | there
            · exact uncut ⟨surface, here⟩
            · exact place ⟨surface, there⟩
          obtain ⟨head, tail, sliced⟩ :=
            exists_slicesFrom dialect cutsToo (nesting.after dialect c) next
          rw [sliced, List.cons_append] at further
          rw [if_neg place, if_neg neither, sliced, ← further, List.modifyHead_cons,
            List.modifyHead_cons, List.cons_append]
  obtain ⟨first, others, same⟩ := exists_slicesFrom dialect cuts .surface text
  rw [slices, same, List.flatMap_cons, slices, slices, ← spread .surface text first others same]

/-- What holds of every slice by either predicate holds of the slices of all slices. -/
theorem forall_slices_slices (cuts : Char → Bool) {cutsToo : Char → Bool} {fine : List Char → Prop}
    (plain : ∀ c, cutsToo c = true → dialect.isDelimiter c = false) {text : List Char} :
    (∀ slice ∈ dialect.slices cuts text, ∀ part ∈ dialect.slices cutsToo slice, fine part) ↔
      ∀ part ∈ dialect.slices (fun c => cuts c || cutsToo c) text, fine part := by
  rw [← flatMap_slices cuts plain]
  simp only [List.mem_flatMap]
  constructor
  · rintro all part ⟨slice, member, inside⟩
    exact all slice member part inside
  · exact fun all slice member part inside => all part ⟨slice, member, inside⟩

/-- A text without a cut at its surface is its own only slice. -/
theorem slicesFrom_of_uncut {cuts : Char → Bool} {nesting : Nesting} {text : List Char}
    (uncut : ∀ c ∈ dialect.surfaceFrom nesting text, cuts c = false) :
    dialect.slicesFrom cuts nesting text = [text] := by
  induction text generalizing nesting with
  | nil => rfl
  | cons c rest ih =>
    rw [surfaceFrom] at uncut
    rw [slicesFrom]
    split at uncut
    · obtain ⟨here, others⟩ := List.forall_mem_cons.mp uncut
      rw [if_neg (by simp [here]), ih others, List.modifyHead_cons]
    · next deep => rw [if_neg (fun place => deep place.1), ih uncut, List.modifyHead_cons]

/-- A text has a cut at its surface, or it is its own only slice. -/
theorem exists_cut_or_slices_eq (dialect : Dialect) (cuts : Char → Bool) (text : List Char) :
    (∃ c ∈ dialect.surfaceChars text, cuts c = true) ∨ dialect.slices cuts text = [text] := by
  by_cases cut : ∃ c ∈ dialect.surfaceChars text, cuts c = true
  · exact .inl cut
  · refine .inr (slicesFrom_of_uncut fun c member => Bool.eq_false_iff.mpr fun here => ?_)
    exact cut ⟨c, member, here⟩

/-- A text has a character at its surface, or it is the only slice that this character cuts it into. -/
theorem mem_surfaceChars_or_slices_eq (dialect : Dialect) (c : Char) (text : List Char) :
    c ∈ dialect.surfaceChars text ∨ dialect.slices (· == c) text = [text] := by
  rcases dialect.exists_cut_or_slices_eq (· == c) text with ⟨d, member, same⟩ | single
  · exact .inl (beq_iff_eq.mp same ▸ member)
  · exact .inr single

/-- A text with a cut at its surface has two slices at least. -/
theorem two_le_length_slicesFrom (cuts : Char → Bool) {nesting : Nesting} {text : List Char} {c : Char}
    (member : c ∈ dialect.surfaceFrom nesting text) (cut : cuts c = true) :
    2 ≤ (dialect.slicesFrom cuts nesting text).length := by
  induction text generalizing nesting with
  | nil => exact absurd member List.not_mem_nil
  | cons d rest ih =>
    rw [slicesFrom]
    split
    · obtain ⟨first, others, same⟩ := exists_slicesFrom dialect cuts .surface rest
      rw [same, List.length_cons, List.length_cons]
      omega
    · next uncut =>
      rw [List.length_modifyHead]
      rw [surfaceFrom] at member
      split at member
      · next place =>
        rcases List.mem_cons.mp member with rfl | later
        · exact absurd ⟨place, cut⟩ uncut
        · exact ih later
      · exact ih member

/-- The surface of a text is made of the surfaces of its slices and of the cuts. -/
theorem mem_surfaceChars_iff {cuts : Char → Bool}
    (plain : ∀ c, cuts c = true → dialect.isDelimiter c = false) {text : List Char} {c : Char}
    (uncut : cuts c = false) :
    c ∈ dialect.surfaceChars text ↔
      ∃ slice ∈ dialect.slices cuts text, c ∈ dialect.surfaceChars slice := by
  have spread (nesting : Nesting) (text first : List Char) (others : List (List Char))
      (sliced : dialect.slicesFrom cuts nesting text = first :: others) :
      c ∈ dialect.surfaceFrom nesting text ↔ c ∈ dialect.surfaceFrom nesting first ∨
        ∃ slice ∈ others, c ∈ dialect.surfaceChars slice := by
    induction text generalizing nesting first others with
    | nil =>
      obtain ⟨rfl, rfl⟩ := List.cons.inj sliced
      simp only [List.not_mem_nil, false_and, exists_false, or_false]
    | cons d rest ih =>
      rw [slicesFrom] at sliced
      split at sliced
      · next cut =>
        obtain ⟨rfl, rfl⟩ := List.cons.inj sliced
        obtain ⟨next, later, same⟩ := exists_slicesFrom dialect cuts .surface rest
        have other : c ≠ d := by
          rintro rfl
          exact absurd cut.2 (Bool.eq_false_iff.mp uncut)
        rw [surfaceFrom, surfaceFrom, if_pos cut.1, cut.1, after_of_not_isDelimiter (plain d cut.2),
          List.mem_cons, ih .surface next later same, same]
        simp only [other, false_or, List.not_mem_nil, List.mem_cons, exists_eq_or_imp, surfaceChars]
      · obtain ⟨next, same, rfl⟩ := exists_of_modifyHead sliced
        have further := ih _ next others same
        rw [surfaceFrom, surfaceFrom]
        split
        · rw [List.mem_cons, List.mem_cons, further, or_assoc]
        · exact further
  obtain ⟨first, others, same⟩ := exists_slicesFrom dialect cuts .surface text
  rw [surfaceChars, spread .surface text first others same, slices, same]
  simp only [List.mem_cons, exists_eq_or_imp, surfaceChars]

/-- No slice has a cut at its surface. -/
theorem uncut_of_mem_slices {cuts : Char → Bool} {text slice : List Char}
    (member : slice ∈ dialect.slices cuts text) :
    ∀ c ∈ dialect.surfaceChars slice, cuts c = false := by
  have spread (nesting : Nesting) (text first : List Char) (others : List (List Char))
      (sliced : dialect.slicesFrom cuts nesting text = first :: others) :
      (∀ c ∈ dialect.surfaceFrom nesting first, cuts c = false) ∧
        ∀ slice ∈ others, ∀ c ∈ dialect.surfaceChars slice, cuts c = false := by
    induction text generalizing nesting first others with
    | nil =>
      obtain ⟨rfl, rfl⟩ := List.cons.inj sliced
      exact ⟨List.forall_mem_nil _, List.forall_mem_nil _⟩
    | cons d rest ih =>
      rw [slicesFrom] at sliced
      split at sliced
      · obtain ⟨rfl, rfl⟩ := List.cons.inj sliced
        obtain ⟨next, later, same⟩ := exists_slicesFrom dialect cuts .surface rest
        refine ⟨List.forall_mem_nil _, ?_⟩
        rw [same]
        exact List.forall_mem_cons.mpr (ih .surface next later same)
      · next place =>
        obtain ⟨next, same, rfl⟩ := exists_of_modifyHead sliced
        obtain ⟨head, tail⟩ := ih _ next others same
        refine ⟨?_, tail⟩
        rw [surfaceFrom]
        split
        · next surface =>
          refine List.forall_mem_cons.mpr ⟨?_, head⟩
          exact Bool.eq_false_iff.mpr fun cut => place ⟨surface, cut⟩
        · exact head
  obtain ⟨first, others, same⟩ := exists_slicesFrom dialect cuts .surface text
  rw [slices, same] at member
  obtain ⟨head, tail⟩ := spread .surface text first others same
  rcases List.mem_cons.mp member with rfl | later
  · exact head
  · exact tail slice later

/-- One character ends one block or call at most, and does so outside of quotes. -/
theorem after_depth (dialect : Dialect) (nesting : Nesting) (c : Char) :
    nesting.depth ≤ (nesting.after dialect c).depth ∨
      (nesting.after dialect c).depth = nesting.depth - 1 ∧
        (nesting.after dialect c).isQuoted = false := by
  rw [Nesting.after]
  split_ifs
  · exact .inl (Int.le_refl _)
  · exact .inl (Int.le_refl _)
  · exact .inl (Int.le_add_one (Int.le_refl _))
  · exact .inr ⟨rfl, rfl⟩
  · exact .inl (Int.le_refl _)

/-- Nothing between the delimiters of a block or call stands at the surface, and what follows it
does. -/
theorem scan_of_closingFrom? {nesting : Nesting} {text : List Char} {position : Nat}
    (inside : 1 ≤ nesting.depth) (closes : dialect.closingFrom? nesting text = some position)
    (whole : text.length = position + 1) :
    dialect.surfaceFrom nesting text = [] ∧ dialect.scan nesting text = Nesting.surface := by
  induction text generalizing nesting position with
  | nil => cases closes
  | cons c rest ih =>
    have deep : nesting ≠ Nesting.surface := by
      rintro rfl
      exact absurd inside (by decide)
    rw [surfaceFrom, if_neg deep, scan_cons]
    rw [closingFrom?] at closes
    split at closes
    · next ends =>
      obtain rfl := Option.some.inj closes
      rw [List.length_eq_zero_iff.mp (Nat.succ.inj whole)]
      refine ⟨rfl, ?_⟩
      rcases after_depth dialect nesting c with above | ⟨depth, unquoted⟩
      · rw [ends.1, ends.2] at above
        exact absurd above (by decide)
      · change nesting.after dialect c = ⟨0, false⟩
        rw [← ends.2, ← unquoted]
    · next continues =>
      obtain ⟨later, found, rfl⟩ := Option.map_eq_some_iff.mp closes
      refine ih ?_ found (Nat.succ.inj whole)
      rcases after_depth dialect nesting c with above | ⟨depth, _⟩
      · omega
      · by_contra shallow
        exact continues ⟨by omega, by omega⟩

/-- Only the delimiter in front of a block or call is at the surface. -/
theorem scan_of_enclosed? {opening closing : Char} {text inner : List Char}
    (opens : Nesting.surface.after dialect opening = ⟨1, false⟩)
    (enclosed : dialect.enclosed? opening closing text = some inner) :
    dialect.surfaceChars text = [opening] ∧
      dialect.scan Nesting.surface text = Nesting.surface := by
  unfold enclosed? at enclosed
  split at enclosed
  · cases enclosed
  · next c rest =>
    split at enclosed
    · next ends =>
      obtain ⟨rfl, _, closes⟩ := ends
      rw [closing?, closingFrom?, opens, if_neg (by decide), Option.map_eq_some_iff] at closes
      obtain ⟨position, found, same⟩ := closes
      obtain ⟨hidden, balanced⟩ := scan_of_closingFrom? (by decide) found same.symm
      rw [surfaceChars, surfaceFrom, if_pos rfl, scan_cons, opens, hidden, balanced]
      exact ⟨rfl, rfl⟩
    · cases enclosed

section Blanks

variable (visible : ∀ c, Text.isBlank c = true → dialect.isDelimiter c = false)

include visible

/-- Blanks at the ends of a text do not change where it ends. -/
theorem scan_trim (text : List Char) :
    dialect.scan Nesting.surface (Text.trim text) = dialect.scan Nesting.surface text := by
  obtain ⟨front, back, same, blank, blankToo⟩ := Text.exists_trim text
  conv => rhs; rw [same]
  rw [scan_append, scan_append, scan_of_plain fun c member => visible c (blank c member),
    scan_of_plain fun c member => visible c (blankToo c member)]

/-- Blanks at the ends of a text stand at the surface themselves but hide nothing. -/
theorem mem_surfaceChars_trim {text : List Char} {c : Char} (noBlank : Text.isBlank c = false) :
    c ∈ dialect.surfaceChars (Text.trim text) ↔ c ∈ dialect.surfaceChars text := by
  obtain ⟨front, back, same, blank, blankToo⟩ := Text.exists_trim text
  have outside {nesting : Nesting} {ends : List Char} (all : ∀ d ∈ ends, Text.isBlank d = true) :
      c ∉ dialect.surfaceFrom nesting ends := fun member =>
    absurd (all c (mem_of_mem_surfaceFrom member)) (Bool.eq_false_iff.mp noBlank)
  conv => rhs; rw [same]
  rw [surfaceChars, surfaceChars, surfaceFrom_append, surfaceFrom_append,
    scan_of_plain fun c member => visible c (blank c member)]
  simp only [List.mem_append, outside blank, outside blankToo, false_or, or_false]

end Blanks

/-! Slices of a text that is put together of several. -/

section Joints

variable {cuts : Char → Bool} (plain : ∀ c, cuts c = true → dialect.isDelimiter c = false)

include plain

/-- Slicing a text that is put together of two merges the slices at the seam. -/
theorem slicesFrom_append (nesting : Nesting) (front back : List Char) :
    ∃ inner last first outer, dialect.slicesFrom cuts nesting front = inner ++ [last] ∧
      dialect.slicesFrom cuts (dialect.scan nesting front) back = first :: outer ∧
      dialect.slicesFrom cuts nesting (front ++ back) = inner ++ (last ++ first) :: outer := by
  induction front generalizing nesting with
  | nil =>
    obtain ⟨first, outer, same⟩ := exists_slicesFrom dialect cuts nesting back
    exact ⟨[], [], first, outer, rfl, same, same⟩
  | cons c rest ih =>
    obtain ⟨inner, last, first, outer, here, there, whole⟩ := ih (nesting.after dialect c)
    rw [List.cons_append, slicesFrom, slicesFrom, scan_cons]
    split
    · next place =>
      rw [after_of_not_isDelimiter (plain c place.2), place.1] at here there whole
      refine ⟨[] :: inner, last, first, outer, by rw [here]; rfl, ?_, by rw [whole]; rfl⟩
      rw [after_of_not_isDelimiter (plain c place.2), place.1, there]
    · rw [here, whole]
      cases inner with
      | nil => exact ⟨[], c :: last, first, outer, rfl, there, rfl⟩
      | cons head inner => exact ⟨(c :: head) :: inner, last, first, outer, rfl, there, rfl⟩

omit plain in
/-- A text begins with its first slice. -/
theorem exists_eq_append_of_slicesFrom {nesting : Nesting} {text first : List Char}
    {outer : List (List Char)} (sliced : dialect.slicesFrom cuts nesting text = first :: outer) :
    ∃ back, text = first ++ back := by
  induction text generalizing nesting first outer with
  | nil => exact ⟨[], (List.cons.inj sliced).1 ▸ rfl⟩
  | cons c rest ih =>
    rw [slicesFrom] at sliced
    split at sliced
    · exact ⟨c :: rest, (List.cons.inj sliced).1 ▸ rfl⟩
    · obtain ⟨next, same, rfl⟩ := exists_of_modifyHead sliced
      obtain ⟨back, rfl⟩ := ih same
      exact ⟨back, rfl⟩

omit plain in
/-- The only slice of a text is the text. -/
theorem eq_of_slicesFrom {nesting : Nesting} {text slice : List Char}
    (sliced : dialect.slicesFrom cuts nesting text = [slice]) : slice = text := by
  induction text generalizing nesting slice with
  | nil => exact (List.cons.inj sliced).1.symm
  | cons c rest ih =>
    rw [slicesFrom] at sliced
    split at sliced
    · obtain ⟨first, others, same⟩ := exists_slicesFrom dialect cuts .surface rest
      rw [same] at sliced
      exact absurd (congrArg List.length sliced) (by simp)
    · obtain ⟨next, same, rfl⟩ := exists_of_modifyHead sliced
      rw [ih same]

/-- A text ends with its last slice, and what stands in front of that ends at the surface. -/
theorem exists_append_eq_of_slicesFrom {nesting : Nesting} {text last : List Char}
    {inner : List (List Char)} (sliced : dialect.slicesFrom cuts nesting text = inner ++ [last]) :
    inner = [] ∧ last = text ∨
      ∃ front, text = front ++ last ∧ dialect.scan nesting front = Nesting.surface := by
  induction text generalizing nesting inner with
  | nil =>
    cases inner with
    | nil => exact .inl ⟨rfl, (List.cons.inj sliced).1.symm⟩
    | cons head inner => exact absurd (congrArg List.length sliced) (by simp [slicesFrom])
  | cons c rest ih =>
    cases inner with
    | nil => exact .inl ⟨rfl, eq_of_slicesFrom sliced⟩
    | cons head inner =>
      refine .inr ?_
      rw [slicesFrom] at sliced
      split at sliced
      · next place =>
        have further : dialect.scan nesting [c] = Nesting.surface := by
          rw [scan_cons, after_of_not_isDelimiter (plain c place.2), place.1]
          rfl
        rcases ih (List.cons.inj sliced).2 with ⟨_, rfl⟩ | ⟨front, rfl, balanced⟩
        · exact ⟨[c], rfl, further⟩
        · refine ⟨c :: front, rfl, ?_⟩
          rw [← List.singleton_append, scan_append, further, balanced]
      · obtain ⟨next, same, rfl⟩ := exists_of_modifyHead sliced
        rcases ih (show _ = (next :: inner) ++ [last] from same) with ⟨empty, _⟩ | ⟨front, rfl, balanced⟩
        · exact absurd empty (List.cons_ne_nil _ _)
        · exact ⟨c :: front, rfl, balanced⟩

/-- Plain characters in front of a text stand in front of its first slice. -/
theorem slices_append_left (front : List Char) (visible : ∀ c ∈ front, dialect.isDelimiter c = false)
    (uncut : ∀ c ∈ front, cuts c = false) (text : List Char) :
    ∃ first outer, dialect.slices cuts text = first :: outer ∧
      dialect.slices cuts (front ++ text) = (front ++ first) :: outer := by
  obtain ⟨inner, last, first, outer, here, there, whole⟩ :=
    slicesFrom_append plain Nesting.surface front text
  rw [slicesFrom_of_uncut fun c member => uncut c (mem_of_mem_surfaceFrom member)] at here
  obtain ⟨rfl, same⟩ := List.append_inj' (show [] ++ [front] = inner ++ [last] from here) rfl
  obtain rfl := (List.cons.inj same).1
  rw [scan_of_plain visible] at there
  exact ⟨first, outer, there, whole⟩

/-- Characters behind a text that do not cut it stand behind its last slice. -/
theorem slices_append_right (back : List Char) (uncut : ∀ c ∈ back, cuts c = false)
    (text : List Char) :
    ∃ inner last, dialect.slices cuts text = inner ++ [last] ∧
      dialect.slices cuts (text ++ back) = inner ++ [last ++ back] := by
  obtain ⟨inner, last, first, outer, here, there, whole⟩ :=
    slicesFrom_append plain Nesting.surface text back
  rw [slicesFrom_of_uncut fun c member => uncut c (mem_of_mem_surfaceFrom member)] at there
  obtain ⟨rfl, rfl⟩ := List.cons.inj there
  exact ⟨inner, last, here, whole⟩

/-- What stands between two texts at the surface joins the last slice of the one and the first of the
other. -/
theorem slices_join {left middle : List Char}
    (balanced : dialect.scan Nesting.surface left = Nesting.surface)
    (visible : ∀ c ∈ middle, dialect.isDelimiter c = false) (uncut : ∀ c ∈ middle, cuts c = false)
    (right : List Char) :
    ∃ inner last first outer, dialect.slices cuts left = inner ++ [last] ∧
      dialect.slices cuts right = first :: outer ∧
      dialect.slices cuts (left ++ middle ++ right) =
        inner ++ (last ++ middle ++ first) :: outer := by
  obtain ⟨inner, last, joined, outer, here, there, whole⟩ :=
    slicesFrom_append plain Nesting.surface left (middle ++ right)
  obtain ⟨first, others, same, front⟩ := slices_append_left plain middle visible uncut right
  rw [balanced, ← slices, front] at there
  obtain ⟨rfl, rfl⟩ := List.cons.inj there
  refine ⟨inner, last, first, others, here, same, ?_⟩
  rw [List.append_assoc, List.append_assoc]
  exact whole

/-- Blanks at the ends of a text are at the ends of its slices. -/
theorem map_trim_slices (visible : ∀ c, Text.isBlank c = true → dialect.isDelimiter c = false)
    (uncut : ∀ c, Text.isBlank c = true → cuts c = false) (text : List Char) :
    (dialect.slices cuts (Text.trim text)).map Text.trim = (dialect.slices cuts text).map Text.trim := by
  obtain ⟨front, back, same, blank, blankToo⟩ := Text.exists_trim text
  obtain ⟨first, outer, middle, left⟩ := slices_append_left plain front
    (fun c member => visible c (blank c member)) (fun c member => uncut c (blank c member))
    (Text.trim text)
  obtain ⟨inner, last, ending, right⟩ := slices_append_right plain back
    (fun c member => uncut c (blankToo c member)) (front ++ Text.trim text)
  have step : (dialect.slices cuts text).map Text.trim =
      (dialect.slices cuts (front ++ Text.trim text)).map Text.trim := by
    rw [ending, List.map_append, List.map_singleton, ← Text.trim_append_right blankToo last,
      ← List.map_singleton (f := Text.trim), ← List.map_append, ← right, ← same]
  rw [step, left, middle, List.map_cons, List.map_cons, Text.trim_append_left blank]

end Joints

end Dialect

end Reckoner
