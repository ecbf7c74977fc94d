import Reckoner.Proofs.Source.LiteralCase
import Reckoner.Proofs.Source.Trim
import Reckoner.Source.Fragments

/-! # Texts up to the case of their letters

Two texts that differ only in the case of ASCII letters outside of quotes become the same when these letters
are put into lower case. Delimiters, tokens and blanks are no letters, so this can be done before a text is
trimmed, cut or taken out of its delimiters, or afterwards.
-/

namespace Reckoner

open Text (asciiLower toLower_eq_iff)

namespace Dialect

/-- The texts have the same length, the same characters inside quotes, and the same characters up to the
case of ASCII letters outside of them, where the first characters stand at `nesting`. -/
def Recased (dialect : Dialect) (nesting : Nesting) : List Char → List Char → Prop
  | [], [] => True
  | c :: left, d :: right =>
    (if nesting.isQuoted then c = d else c.toLower = d.toLower) ∧
      Recased dialect (nesting.after dialect c) left right
  | _, _ => False

instance decidableRecased (dialect : Dialect) (nesting : Nesting) :
    (left right : List Char) → Decidable (dialect.Recased nesting left right)
  | [], [] => isTrue trivial
  | c :: left, _ :: right =>
    have := decidableRecased dialect (nesting.after dialect c) left right
    inferInstanceAs (Decidable (_ ∧ _))
  | [], _ :: _ => isFalse id
  | _ :: _, [] => isFalse id

example : standard.Recased Nesting.surface "Upper(\"a\")".toList "UPPER(\"a\")".toList ∧
    ¬ standard.Recased Nesting.surface "Upper(\"a\")".toList "Upper(\"A\")".toList := by decide

/-- A text with the ASCII letters outside of quotes in lower case, its first character at `nesting`. -/
def loweredFrom (dialect : Dialect) (nesting : Nesting) : List Char → List Char
  | [] => []
  | c :: rest =>
    (if nesting.isQuoted then c else c.toLower) :: loweredFrom dialect (nesting.after dialect c) rest

/-- A text with its ASCII letters outside of quotes in lower case. -/
def lowered (dialect : Dialect) (text : List Char) : List Char :=
  dialect.loweredFrom Nesting.surface text

end Dialect

/-- Letters are no delimiters, so their case does not matter to the scanner. -/
theorem Nesting.after_toLower (nesting : Nesting) (c : Char) :
    nesting.after Dialect.standard c.toLower = nesting.after Dialect.standard c := by
  have plain {d : Char} (letter : d.isAlpha = true) : Dialect.standard.isDelimiter d = false :=
    Dialect.isDelimiter_of_isPlainChar_or_isSign
      (.inl (Text.isPlainChar_of_isWordChar (Text.isWordChar_of_isAlpha letter)))
  cases letter : c.isAlpha with
  | true =>
    rw [Dialect.after_of_not_isDelimiter (plain letter),
      Dialect.after_of_not_isDelimiter (plain ((Text.isAlpha_toLower c).trans letter))]
  | false => rw [(toLower_eq_iff letter).mpr rfl]

/-- Whether the next character is quoted does not depend on how deep it stands. -/
theorem Nesting.isQuoted_after {nesting other : Nesting} (same : nesting.isQuoted = other.isQuoted)
    (dialect : Dialect) (c : Char) :
    (nesting.after dialect c).isQuoted = (other.after dialect c).isQuoted := by
  simp only [after, same]
  split_ifs <;> simp only [same]

namespace Dialect

variable {nesting other : Nesting}

/-- Recased texts have the same lowered form. -/
theorem loweredFrom_eq_of_recased {left right : List Char} (recased : standard.Recased nesting left right) :
    standard.loweredFrom nesting left = standard.loweredFrom nesting right := by
  fun_induction Recased standard nesting left right with
  | case1 => rfl
  | case2 nesting c left d right ih =>
    obtain ⟨here, others⟩ := recased
    have later := ih others
    rw [loweredFrom, loweredFrom]
    split at here
    · next quoted =>
      rw [if_pos quoted, if_pos quoted, ← here, later]
    · next bare =>
      have next : nesting.after standard c = nesting.after standard d := by
        rw [← nesting.after_toLower, here, nesting.after_toLower]
      rw [if_neg bare, if_neg bare, here, later, next]
  | case3 => exact recased.elim

/-- What is lowered depends on being inside of quotes, and on nothing else of the place. -/
theorem loweredFrom_congr (same : nesting.isQuoted = other.isQuoted) (text : List Char) :
    standard.loweredFrom nesting text = standard.loweredFrom other text := by
  induction text generalizing nesting other with
  | nil => rfl
  | cons c rest ih => rw [loweredFrom, loweredFrom, same, ih (Nesting.isQuoted_after same standard c)]

theorem length_loweredFrom (nesting : Nesting) (text : List Char) :
    (standard.loweredFrom nesting text).length = text.length := by
  induction text generalizing nesting with
  | nil => rfl
  | cons c rest ih => rw [loweredFrom, List.length_cons, ih, List.length_cons]

/-- A text is lowered in pieces, the second from where the first one ends. -/
theorem loweredFrom_append (nesting : Nesting) (front back : List Char) :
    standard.loweredFrom nesting (front ++ back) =
      standard.loweredFrom nesting front ++ standard.loweredFrom (standard.scan nesting front) back := by
  induction front generalizing nesting with
  | nil => rfl
  | cons c rest ih => rw [List.cons_append, loweredFrom, ih, loweredFrom, scan_cons, List.cons_append]

/-- In lower case altogether, a lowered text is what it was before. -/
theorem asciiLower_loweredFrom (nesting : Nesting) (text : List Char) :
    asciiLower (standard.loweredFrom nesting text) = asciiLower text := by
  induction text generalizing nesting with
  | nil => rfl
  | cons c rest ih =>
    rw [loweredFrom, Text.asciiLower_cons, ih, Text.asciiLower_cons, apply_ite Char.toLower,
      Text.toLower_toLower, ite_self]

/-- A character in lower case leads the scanner where the character does. -/
theorem after_lowered (nesting : Nesting) (quoted : Bool) (c : Char) :
    nesting.after standard (if quoted then c else c.toLower) = nesting.after standard c := by
  split
  · rfl
  · exact nesting.after_toLower c

/-- Delimiters close where they do, whatever is lowered. -/
theorem closingFrom?_loweredFrom (nesting other : Nesting) (text : List Char) :
    standard.closingFrom? other (standard.loweredFrom nesting text) = standard.closingFrom? other text := by
  induction text generalizing nesting other with
  | nil => rfl
  | cons c rest ih => rw [loweredFrom, closingFrom?, after_lowered, ih, closingFrom?]

/-- Whether a character of the lowered text is one without case does not depend on where it stands. -/
theorem lowered_eq_iff {d : Char} (noLetter : d.isAlpha = false) (quoted : Bool) (c : Char) :
    (if quoted then c else c.toLower) = d ↔ c = d := by
  split
  · exact Iff.rfl
  · exact toLower_eq_iff noLetter

/-- Lowering moves nothing but letters. -/
theorem mem_loweredFrom {d : Char} (noLetter : d.isAlpha = false) {text : List Char} :
    d ∈ standard.loweredFrom nesting text ↔ d ∈ text := by
  induction text generalizing nesting with
  | nil => exact Iff.rfl
  | cons c rest ih =>
    rw [loweredFrom, List.mem_cons, List.mem_cons, ih, eq_comm, lowered_eq_iff noLetter, eq_comm]

/-- Texts without letters have one case. -/
theorem loweredFrom_eq_self {text : List Char} (letterless : ∀ c ∈ text, c.isAlpha = false)
    (nesting : Nesting) : standard.loweredFrom nesting text = text := by
  induction text generalizing nesting with
  | nil => rfl
  | cons c rest ih =>
    obtain ⟨here, others⟩ := List.forall_mem_cons.mp letterless
    rw [loweredFrom, ih others, (toLower_eq_iff here).mpr rfl, ite_self]

theorem takeWhile_loweredFrom {fine : Char → Bool} (caseless : ∀ c, fine c.toLower = fine c)
    (nesting : Nesting) (text : List Char) :
    (standard.loweredFrom nesting text).takeWhile fine = standard.loweredFrom nesting (text.takeWhile fine) := by
  induction text generalizing nesting with
  | nil => rfl
  | cons c rest ih =>
    have here : fine (if nesting.isQuoted then c else c.toLower) = fine c := by
      rw [apply_ite fine, caseless, ite_self]
    rw [loweredFrom, List.takeWhile_cons, here, ih, List.takeWhile_cons, apply_ite (standard.loweredFrom nesting),
      loweredFrom]
    rfl

theorem dropWhile_loweredFrom {fine : Char → Bool} (caseless : ∀ c, fine c.toLower = fine c)
    (nesting : Nesting) (text : List Char) :
    (standard.loweredFrom nesting text).dropWhile fine =
      standard.loweredFrom (standard.scan nesting (text.takeWhile fine)) (text.dropWhile fine) := by
  have whole := loweredFrom_append nesting (text.takeWhile fine) (text.dropWhile fine)
  rw [List.takeWhile_append_dropWhile, ← takeWhile_loweredFrom caseless] at whole
  exact List.append_cancel_left (List.takeWhile_append_dropWhile.trans whole)

/-- The lowered text has its blanks where the text has them. -/
theorem trim_lowered (text : List Char) :
    Text.trim (standard.lowered text) = standard.lowered (Text.trim text) := by
  have blank {ends : List Char} (all : ∀ c ∈ ends, Text.isBlank c = true) (nesting : Nesting) :
      standard.loweredFrom nesting ends = ends :=
    loweredFrom_eq_self (fun c member => Text.isAlpha_of_isBlank c (all c member)) nesting
  obtain ⟨front, back, same, frontBlank, backBlank⟩ := Text.exists_trim text
  have plain : standard.scan Nesting.surface front = Nesting.surface :=
    scan_of_plain (fun c member => isDelimiter_of_isBlank (frontBlank c member)) _
  have parts : standard.lowered text = front ++ standard.lowered (Text.trim text) ++ back := by
    conv => lhs; rw [same]
    rw [lowered, loweredFrom_append, loweredFrom_append, blank frontBlank, blank backBlank, plain, lowered]
  rw [parts, Text.trim_append_right backBlank, Text.trim_append_left frontBlank]
  -- What is left after a second trimming is as long as what is left after the first, as it is in lower case.
  refine (Text.trim_sublist _).eq_of_length ?_
  rw [← Text.length_asciiLower (Text.trim _), ← Text.trim_asciiLower, lowered, asciiLower_loweredFrom,
    Text.trim_asciiLower, Text.trim_trim, Text.length_asciiLower, length_loweredFrom]

theorem getLast?_loweredFrom {d : Char} (noLetter : d.isAlpha = false) (nesting : Nesting) (text : List Char) :
    (standard.loweredFrom nesting text).getLast? = some d ↔ text.getLast? = some d := by
  rcases List.eq_nil_or_concat text with rfl | ⟨front, c, rfl⟩
  · exact Iff.rfl
  · rw [List.concat_eq_append, loweredFrom_append, loweredFrom, loweredFrom, List.getLast?_concat,
      List.getLast?_concat, Option.some.injEq, Option.some.injEq, lowered_eq_iff noLetter]

theorem dropLast_loweredFrom (nesting : Nesting) (text : List Char) :
    (standard.loweredFrom nesting text).dropLast = standard.loweredFrom nesting text.dropLast := by
  rcases List.eq_nil_or_concat text with rfl | ⟨front, c, rfl⟩
  · rfl
  · rw [List.concat_eq_append, loweredFrom_append, loweredFrom, loweredFrom, List.dropLast_concat,
      List.dropLast_concat]

/-- What delimiters enclose is lowered with the text. -/
theorem enclosed?_lowered (text : List Char) :
    standard.enclosed? '(' ')' (standard.lowered text) =
      (standard.enclosed? '(' ')' text).map standard.lowered := by
  cases text with
  | nil => rfl
  | cons c rest =>
    have opens : c.toLower = '(' ↔ c = '(' := toLower_eq_iff rfl
    have closes := closingFrom?_loweredFrom Nesting.surface Nesting.surface (c :: rest)
    change standard.enclosed? '(' ')' (c.toLower :: standard.loweredFrom _ rest) = _
    change standard.closing? (c.toLower :: standard.loweredFrom _ rest) = standard.closing? _ at closes
    simp only [enclosed?, opens, getLast?_loweredFrom (d := ')') rfl, closes, length_loweredFrom]
    split
    · next ends =>
      have inside : (Nesting.surface.after standard '(').isQuoted = Nesting.surface.isQuoted := rfl
      rw [dropLast_loweredFrom, Option.map_some, ends.1, loweredFrom_congr inside, lowered]
    · rfl

/-- A word in front of a text is found whether or not the text is lowered. -/
theorem afterSpelling?_loweredFrom {word : List Char} (plain : ∀ c ∈ word, standard.isDelimiter c = false)
    (nesting : Nesting) (text : List Char) :
    Text.afterSpelling? word (standard.loweredFrom nesting text) =
      (Text.afterSpelling? word text).map (standard.loweredFrom nesting) := by
  induction word generalizing text with
  | nil => rfl
  | cons c word ih =>
    obtain ⟨here, others⟩ := List.forall_mem_cons.mp plain
    cases text with
    | nil => rfl
    | cons d rest =>
      rw [loweredFrom, Text.afterSpelling?, apply_ite Char.toLower, Text.toLower_toLower, ite_self,
        Text.afterSpelling?]
      split
      · next same =>
        have next : nesting.after standard d = nesting := by
          rw [← nesting.after_toLower, same, after_of_not_isDelimiter here]
        rw [next, ih others]
      · rfl

section Cuts

variable {token : List Char} (plain : ∀ c ∈ token, standard.isDelimiter c = false)

include plain

/-- A token cuts a lowered text where it cuts the text. -/
theorem cutFrom?_loweredFrom (nesting : Nesting) (text : List Char) :
    standard.cutFrom? token nesting (standard.loweredFrom nesting text) =
      (standard.cutFrom? token nesting text).map fun (front, back) =>
        (standard.loweredFrom nesting front, standard.lowered back) := by
  induction text generalizing nesting with
  | nil => rfl
  | cons c rest ih =>
    have noQuote : (if nesting.isQuoted then c else c.toLower) ≠ standard.stringOpen ↔
        c ≠ standard.stringOpen := not_congr (lowered_eq_iff rfl _ _)
    have here : (if nesting = Nesting.surface ∧ c ≠ standard.stringOpen ∧ token ≠ [] then
          Text.afterSpelling? token (standard.loweredFrom nesting (c :: rest)) else none) =
        (if nesting = Nesting.surface ∧ c ≠ standard.stringOpen ∧ token ≠ [] then
          Text.afterSpelling? token (c :: rest) else none).map standard.lowered := by
      split
      · next place => rw [afterSpelling?_loweredFrom plain, place.1]; rfl
      · rfl
    rw [loweredFrom] at here ⊢
    simp only [cutFrom?, noQuote, here, after_lowered, ih]
    split
    · next found =>
      obtain ⟨back, cut, rfl⟩ := Option.map_eq_some_iff.mp found
      rw [cut]
      rfl
    · next absent =>
      rw [Option.map_eq_none_iff.mp absent, Option.map_map, Option.map_map]
      rfl

theorem cut?_lowered (text : List Char) :
    standard.cut? token (standard.lowered text) =
      (standard.cut? token text).map fun (front, back) => (standard.lowered front, standard.lowered back) :=
  cutFrom?_loweredFrom plain Nesting.surface text

/-- The pieces of a lowered text are the lowered pieces. -/
theorem pieces_lowered (text : List Char) :
    standard.pieces token (standard.lowered text) = (standard.pieces token text).map standard.lowered := by
  fun_induction pieces standard token text with
  | case1 text uncut =>
    have same := cut?_lowered plain text
    rw [uncut] at same
    rw [pieces]
    split
    · rfl
    · next found => cases found.symm.trans same
  | case2 text front back cut ih =>
    have same := cut?_lowered plain text
    rw [cut] at same
    rw [pieces]
    split
    · next none => cases none.symm.trans same
    · next found =>
      obtain ⟨rfl, rfl⟩ := Prod.mk.inj (Option.some.inj (found.symm.trans same))
      rw [ih, List.map_cons]

/-- A lowered text is split where the text is. -/
theorem split?_lowered (text : List Char) :
    standard.split? token (standard.lowered text) =
      (standard.split? token text).map (List.map standard.lowered) := by
  rw [split?, cut?_lowered plain, split?, Option.map_map, Option.map_map]
  refine Option.map_congr fun parts _ => ?_
  exact congrArg _ (pieces_lowered plain parts.2)

end Cuts

/-- The arguments of a lowered interior are the lowered arguments. -/
theorem arguments_lowered (interior : List Char) :
    standard.arguments (standard.lowered interior) = (standard.arguments interior).map standard.lowered := by
  have empty : (standard.lowered (Text.trim interior)).isEmpty = (Text.trim interior).isEmpty := by
    cases Text.trim interior <;> rfl
  have separator : ∀ c ∈ [standard.separator], standard.isDelimiter c = false := by decide
  rw [arguments, trim_lowered, empty, split?_lowered separator, arguments]
  split
  · rfl
  · cases standard.split? [standard.separator] interior <;> rfl

/-- A word at the end of a text is found whatever the case of its letters, inside of quotes or outside. -/
theorem beforeSpelling?_lowered (word text : List Char) :
    Text.beforeSpelling? word (standard.lowered text) =
      (Text.beforeSpelling? word text).map standard.lowered := by
  have spread (word text : List Char) :
      Text.afterSpelling? word (standard.lowered text).reverse =
        (Text.afterSpelling? word text.reverse).map fun rest => (standard.lowered rest.reverse).reverse := by
    induction word generalizing text with
    | nil =>
      rw [Text.afterSpelling?, Text.afterSpelling?, Option.map_some, List.reverse_reverse]
    | cons d word ih =>
      rcases List.eq_nil_or_concat text with rfl | ⟨front, c, rfl⟩
      · rfl
      · rw [List.concat_eq_append, lowered, loweredFrom_append, loweredFrom, loweredFrom, List.reverse_concat,
          List.reverse_concat, Text.afterSpelling?, Text.afterSpelling?, apply_ite Char.toLower,
          Text.toLower_toLower, ite_self]
        split
        · exact ih front
        · rfl
  rw [Text.beforeSpelling?, spread, Text.beforeSpelling?, Option.map_map, Option.map_map]
  exact Option.map_congr fun rest _ => List.reverse_reverse _

/-- Nothing inside of quotes is put into lower case. -/
theorem loweredFrom_of_quoted {text : List Char} (quoted : nesting.isQuoted = true)
    (unclosed : standard.stringClose ∉ text) : standard.loweredFrom nesting text = text := by
  induction text generalizing nesting with
  | nil => rfl
  | cons c rest ih =>
    obtain ⟨other, others⟩ := not_or.mp (mt List.mem_cons.mpr unclosed)
    have still : (nesting.after standard c).isQuoted = true := by
      rw [Nesting.after, if_pos quoted]
      exact decide_eq_true (Ne.symm other)
    rw [loweredFrom, if_pos quoted, ih still others]

/-- What stands in quotes is not lowered. -/
theorem quotedText?_lowered (text : List Char) :
    standard.quotedText? (standard.lowered text) = standard.quotedText? text := by
  cases text with
  | nil => rfl
  | cons c rest =>
    have opens : c.toLower = standard.stringOpen ↔ c = standard.stringOpen := toLower_eq_iff rfl
    change standard.quotedText? (c.toLower :: standard.loweredFrom _ rest) = _
    have closes {nesting : Nesting} {inner : List Char} :
        (standard.loweredFrom nesting inner).contains standard.stringClose =
          inner.contains standard.stringClose := by
      rw [Bool.eq_iff_iff, List.contains_iff_mem, List.contains_iff_mem, mem_loweredFrom rfl]
    simp only [quotedText?, opens, getLast?_loweredFrom (d := standard.stringClose) rfl,
      dropLast_loweredFrom, closes]
    split
    · next ends =>
      obtain ⟨rfl, _, unclosed⟩ := ends
      rw [Bool.not_eq_true', ← Bool.not_eq_true, List.contains_iff_mem] at unclosed
      rw [loweredFrom_of_quoted rfl unclosed]
    · rfl

/-- A lowered literal denotes what it denoted before. -/
theorem literal?_lowered (text : List Char) :
    standard.literal? (standard.lowered text) = standard.literal? text := by
  have spelling (word : List Char) :
      Text.sameSpelling (standard.lowered text) word = Text.sameSpelling text word := by
    rw [Text.sameSpelling, lowered, asciiLower_loweredFrom, Text.sameSpelling]
  have temporal : standard.temporal? (standard.lowered text) = standard.temporal? text := by
    rw [← temporal?_asciiLower, lowered, asciiLower_loweredFrom, temporal?_asciiLower]
  have number : standard.number? (standard.lowered text) = standard.number? text := by
    rw [← number?_asciiLower, lowered, asciiLower_loweredFrom, number?_asciiLower]
  simp only [literal?, spelling, temporal, number, quotedText?_lowered]

end Dialect

/-- Tokens leave of the lowered text what they leave of the text, in lower case. -/
theorem OperatorEntry.fragments?_lowered {entry : OperatorEntry}
    (plain : ∀ c ∈ entry.spelling, Dialect.standard.isDelimiter c = false) (text : List Char) :
    entry.fragments? Dialect.standard (Dialect.standard.lowered text) =
      (entry.fragments? Dialect.standard text).map (List.map Dialect.standard.lowered) := by
  have before : Text.afterSpelling? entry.spelling (Dialect.standard.lowered text) =
      (Text.afterSpelling? entry.spelling text).map Dialect.standard.lowered :=
    Dialect.afterSpelling?_loweredFrom plain Nesting.surface text
  rw [fragments?, Dialect.split?_lowered plain, Dialect.beforeSpelling?_lowered, before, fragments?]
  split_ifs
  · rfl
  · rfl
  · rw [Option.map_map, Option.map_map]
    rfl
  · rw [Option.map_map, Option.map_map]
    rfl

end Reckoner
