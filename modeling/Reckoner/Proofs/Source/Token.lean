import Reckoner.Proofs.Source.Surface

/-! # Where tokens stand

A token cuts a text at its first occurrence at the surface. For tokens without letters and delimiters
an occurrence can be stated without the scanner, as a place between two texts of which the first ends at
the surface, and so the cut of a part of a text can be read off the cut of the whole.
-/

namespace Reckoner

namespace Text

theorem toLower_eq_iff {c d : Char} (noLetter : c.isAlpha = false) : d.toLower = c ↔ d = c := by
  delta Char.isAlpha Char.isUpper Char.isLower at noLetter
  simp only [Bool.or_eq_false_iff, decide_eq_false_iff_not, Bool.and_eq_false_iff] at noLetter
  obtain ⟨noUpper, noLower⟩ := noLetter
  delta Char.toLower
  split
  · next upper =>
    obtain ⟨low, high⟩ := upper
    have sum : (d.val + ('a'.val - 'A'.val)).toNat = d.val.toNat + 32 := by
      rw [UInt32.toNat_add, Nat.mod_eq_of_lt]
      · rfl
      · exact Nat.lt_of_le_of_lt (Nat.add_le_add_right (UInt32.le_iff_toNat_le.mp high) _) (by decide)
    have atLeast := UInt32.le_iff_toNat_le.mp low
    have atMost := UInt32.le_iff_toNat_le.mp high
    change 65 ≤ _ at atLeast
    change _ ≤ 90 at atMost
    constructor
    · rintro rfl
      rcases noLower with below | above
      · refine absurd (UInt32.le_iff_toNat_le.mpr ?_) below
        change 97 ≤ (d.val + ('a'.val - 'A'.val)).toNat
        omega
      · refine absurd (UInt32.le_iff_toNat_le.mpr ?_) above
        change (d.val + ('a'.val - 'A'.val)).toNat ≤ 122
        omega
    · rintro rfl
      exact absurd ⟨low, high⟩ noUpper
  · exact Iff.rfl

/-- A word without letters is found exactly where it stands in front. -/
theorem afterSpelling?_eq_some_iff {word text rest : List Char}
    (letterless : ∀ c ∈ word, c.isAlpha = false) :
    afterSpelling? word text = some rest ↔ text = word ++ rest := by
  induction word generalizing text with
  | nil => simp only [afterSpelling?, Option.some.injEq, List.nil_append]
  | cons c word ih =>
    obtain ⟨here, others⟩ := List.forall_mem_cons.mp letterless
    cases text with
    | nil => simp only [afterSpelling?, reduceCtorEq, List.cons_append]
    | cons d text =>
      rw [afterSpelling?, List.cons_append, List.cons.injEq]
      split
      · next same => rw [ih others, (toLower_eq_iff here).mp same, eq_self, true_and]
      · next other =>
        rw [toLower_eq_iff here] at other
        simp only [reduceCtorEq, other, false_and]

/-- A word without letters is found exactly where it stands behind. -/
theorem beforeSpelling?_eq_some_iff {word text rest : List Char}
    (letterless : ∀ c ∈ word, c.isAlpha = false) :
    beforeSpelling? word text = some rest ↔ text = rest ++ word := by
  have letterlessToo : ∀ c ∈ word.reverse, c.isAlpha = false := fun c member =>
    letterless c (List.mem_reverse.mp member)
  rw [beforeSpelling?, Option.map_eq_some_iff]
  simp only [afterSpelling?_eq_some_iff letterlessToo]
  constructor
  · rintro ⟨back, same, rfl⟩
    rw [← List.reverse_reverse text, same, List.reverse_append, List.reverse_reverse]
  · rintro rfl
    exact ⟨rest.reverse, List.reverse_append, List.reverse_reverse _⟩

end Text

namespace Dialect

variable {dialect : Dialect} {token : List Char}

/-- The token stands at the surface behind `front` and in front of `back`, in a text whose first
character stands at `nesting`. -/
structure Stands (dialect : Dialect) (token : List Char) (nesting : Nesting)
    (text front back : List Char) : Prop where
  same : text = front ++ token ++ back
  surface : dialect.scan nesting front = Nesting.surface

/-- The tokens that are looked for character by character: there are characters, and neither letters
nor delimiters among them. -/
structure IsToken (dialect : Dialect) (token : List Char) : Prop where
  spelled : token ≠ []
  letterless : ∀ c ∈ token, c.isAlpha = false
  plain : ∀ c ∈ token, dialect.isDelimiter c = false

section Cuts

variable (isToken : dialect.IsToken token)

include isToken

private theorem cutFrom?_cons (nesting : Nesting) (c : Char) (rest : List Char) :
    (∃ back, c :: rest = token ++ back ∧ nesting = Nesting.surface ∧
        dialect.cutFrom? token nesting (c :: rest) = some ([], back)) ∨
      (∀ back, ¬ dialect.Stands token nesting (c :: rest) [] back) ∧
        dialect.cutFrom? token nesting (c :: rest) =
          (dialect.cutFrom? token (nesting.after dialect c) rest).map fun (front, back) =>
            (c :: front, back) := by
  by_cases here : nesting = Nesting.surface ∧ ∃ back, c :: rest = token ++ back
  · obtain ⟨place, back, same⟩ := here
    have unquoted : c ≠ dialect.stringOpen := by
      rintro rfl
      cases token with
      | nil => exact isToken.spelled rfl
      | cons d token =>
        have visible := isToken.plain d (List.mem_cons_self ..)
        rw [List.cons_append, List.cons.injEq] at same
        simp [isDelimiter, ← same.1] at visible
    refine .inl ⟨back, same, place, ?_⟩
    rw [cutFrom?, if_pos ⟨place, unquoted, isToken.spelled⟩,
      (Text.afterSpelling?_eq_some_iff isToken.letterless).mpr same]
  · refine .inr ⟨?_, ?_⟩
    · rintro back ⟨same, surface⟩
      exact here ⟨surface, back, same⟩
    · rw [cutFrom?]
      split
      · next found =>
        split at found
        · next place =>
          have same := (Text.afterSpelling?_eq_some_iff isToken.letterless).mp found
          exact absurd ⟨place.1, _, same⟩ here
        · cases found
      · rfl

omit isToken in
private theorem stands_cons_iff {nesting : Nesting} {c : Char} {rest front back : List Char} :
    dialect.Stands token nesting (c :: rest) (c :: front) back ↔
      dialect.Stands token (nesting.after dialect c) rest front back := by
  constructor
  · rintro ⟨same, surface⟩
    exact ⟨(List.cons.inj same).2, surface⟩
  · rintro ⟨rfl, surface⟩
    exact ⟨rfl, surface⟩

/-- A token that does not cut a text stands nowhere in it. -/
theorem not_stands_of_cutFrom? {nesting : Nesting} {text : List Char}
    (uncut : dialect.cutFrom? token nesting text = none) (front back : List Char) :
    ¬ dialect.Stands token nesting text front back := by
  induction text generalizing nesting front with
  | nil =>
    rintro ⟨same, _⟩
    have empty := List.append_eq_nil_iff.mp (List.append_eq_nil_iff.mp same.symm).1
    exact isToken.spelled empty.2
  | cons c rest ih =>
    rcases cutFrom?_cons isToken nesting c rest with ⟨other, _, _, cut⟩ | ⟨absent, further⟩
    · cases uncut.symm.trans cut
    · rw [further, Option.map_eq_none_iff] at uncut
      intro stands
      cases front with
      | nil => exact absent back stands
      | cons d front =>
        have same := stands.same
        obtain rfl := (List.cons.inj same).1
        exact ih uncut front (stands_cons_iff.mp stands)

/-- A token cuts a text where it stands first. -/
theorem stands_of_cutFrom? {nesting : Nesting} {text front back : List Char}
    (cut : dialect.cutFrom? token nesting text = some (front, back)) :
    dialect.Stands token nesting text front back ∧
      ∀ other behind, dialect.Stands token nesting text other behind →
        front.length ≤ other.length := by
  induction text generalizing nesting front with
  | nil => cases cut
  | cons c rest ih =>
    rcases cutFrom?_cons isToken nesting c rest with ⟨found, same, place, here⟩ | ⟨absent, further⟩
    · obtain ⟨rfl, rfl⟩ := Prod.mk.inj (Option.some.inj (cut.symm.trans here))
      exact ⟨⟨same, place⟩, fun other behind _ => Nat.zero_le _⟩
    · rw [further, Option.map_eq_some_iff] at cut
      obtain ⟨⟨front, back⟩, later, same⟩ := cut
      obtain ⟨rfl, rfl⟩ := Prod.mk.inj same
      obtain ⟨stands, first⟩ := ih later
      refine ⟨stands_cons_iff.mpr stands, fun other behind standsToo => ?_⟩
      cases other with
      | nil => exact absurd standsToo (absent behind)
      | cons d other =>
        have same := standsToo.same
        obtain rfl := (List.cons.inj same).1
        exact Nat.succ_le_succ (first other behind (stands_cons_iff.mp standsToo))

/-- A text is not cut exactly if the token stands nowhere at its surface. -/
theorem cut?_eq_none_iff {text : List Char} : dialect.cut? token text = none ↔
    ∀ front back, ¬ dialect.Stands token Nesting.surface text front back := by
  refine ⟨fun uncut => not_stands_of_cutFrom? isToken uncut, fun absent => ?_⟩
  cases cut : dialect.cut? token text with
  | none => rfl
  | some parts => exact absurd (stands_of_cutFrom? isToken cut).1 (absent _ _)

/-- A text is cut where the token stands first at its surface. -/
theorem cut?_eq_some_iff {text front back : List Char} :
    dialect.cut? token text = some (front, back) ↔
      dialect.Stands token Nesting.surface text front back ∧
        ∀ other behind, dialect.Stands token Nesting.surface text other behind →
          front.length ≤ other.length := by
  refine ⟨fun cut => stands_of_cutFrom? isToken cut, fun ⟨stands, first⟩ => ?_⟩
  cases cut : dialect.cut? token text with
  | none => exact absurd stands ((cut?_eq_none_iff isToken).mp cut front back)
  | some parts =>
    obtain ⟨standsToo, firstToo⟩ := stands_of_cutFrom? isToken cut
    have lengths := Nat.le_antisymm (first _ _ standsToo) (firstToo _ _ stands)
    have whole := stands.same.symm.trans standsToo.same
    rw [List.append_assoc, List.append_assoc] at whole
    obtain ⟨sameFront, rest⟩ := List.append_inj whole lengths
    rw [sameFront, (List.append_inj rest rfl).2]

omit isToken in
/-- An occurrence within a part of a text that begins at the surface is one in the text. -/
theorem Stands.widen {front text before after : List Char}
    (stands : dialect.Stands token Nesting.surface text before after)
    (balanced : dialect.scan Nesting.surface front = Nesting.surface) (back : List Char) :
    dialect.Stands token Nesting.surface (front ++ text ++ back) (front ++ before) (after ++ back) := by
  refine ⟨?_, by rw [scan_append, balanced, stands.surface]⟩
  rw [stands.same]
  simp only [List.append_assoc]

/-- A token that does not cut a text cuts no part of it. -/
theorem cut?_eq_none_of_part (front : List Char) {text back : List Char}
    (uncut : dialect.cut? token (front ++ text ++ back) = none)
    (balanced : dialect.scan Nesting.surface front = Nesting.surface) :
    dialect.cut? token text = none :=
  (cut?_eq_none_iff isToken).mpr fun _ _ stands =>
    (cut?_eq_none_iff isToken).mp uncut _ _ (stands.widen balanced back)

/-- The cut of a text is the cut of each part that contains the token. -/
theorem cut?_eq_some_of_part (front back : List Char) {left right : List Char}
    (cut : dialect.cut? token (front ++ (left ++ token ++ right) ++ back) =
      some (front ++ left, right ++ back))
    (balanced : dialect.scan Nesting.surface front = Nesting.surface) :
    dialect.cut? token (left ++ token ++ right) = some (left, right) := by
  obtain ⟨stands, first⟩ := (cut?_eq_some_iff isToken).mp cut
  have surface := stands.surface
  rw [scan_append, balanced] at surface
  refine (cut?_eq_some_iff isToken).mpr ⟨⟨rfl, surface⟩, fun other behind standsToo => ?_⟩
  have lengths := first _ _ (standsToo.widen balanced back)
  rw [List.length_append, List.length_append] at lengths
  omega

/-- The characters of a token that stands in a text are characters at the surface. -/
theorem Stands.mem_surfaceChars {text front back : List Char}
    (stands : dialect.Stands token Nesting.surface text front back) {c : Char} (member : c ∈ token) :
    c ∈ dialect.surfaceChars text := by
  have whole : dialect.surfaceFrom Nesting.surface token = token :=
    surfaceFrom_of_plain isToken.plain
  rw [surfaceChars, stands.same, surfaceFrom_append, surfaceFrom_append, stands.surface, whole]
  exact List.mem_append_left _ (List.mem_append_right _ member)

/-- The surface of a text is the surfaces of its pieces, and the tokens between them. -/
theorem mem_surfaceChars_of_split? {text : List Char} {parts : List (List Char)}
    (split : dialect.split? token text = some parts) {c : Char} :
    c ∈ dialect.surfaceChars text ↔ c ∈ token ∨ ∃ part ∈ parts, c ∈ dialect.surfaceChars part := by
  have joined {text front back : List Char} (cut : dialect.cut? token text = some (front, back)) :
      c ∈ dialect.surfaceChars text ↔
        c ∈ dialect.surfaceChars front ∨ c ∈ token ∨ c ∈ dialect.surfaceChars back := by
    have stands := ((cut?_eq_some_iff isToken).mp cut).1
    rw [surfaceChars, stands.same, surfaceFrom_append, surfaceFrom_append, scan_append,
      stands.surface, surfaceFrom_of_plain isToken.plain, scan_of_plain isToken.plain,
      List.mem_append, List.mem_append, or_assoc]
    rfl
  have pieced (text : List Char) (member : c ∈ dialect.surfaceChars text) :
      c ∈ token ∨ ∃ part ∈ dialect.pieces token text, c ∈ dialect.surfaceChars part := by
    fun_induction pieces dialect token text with
    | case1 text uncut => exact .inr ⟨text, List.mem_singleton_self _, member⟩
    | case2 text front back cut ih =>
      rcases (joined cut).mp member with here | between | there
      · exact .inr ⟨front, List.mem_cons_self .., here⟩
      · exact .inl between
      · exact (ih there).imp_right (Exists.imp fun part => And.imp_left (List.mem_cons_of_mem _))
  have whole (text part : List Char) (inside : part ∈ dialect.pieces token text)
      (member : c ∈ dialect.surfaceChars part) : c ∈ dialect.surfaceChars text := by
    fun_induction pieces dialect token text with
    | case1 text uncut => exact List.mem_singleton.mp inside ▸ member
    | case2 text front back cut ih =>
      refine (joined cut).mpr ?_
      rcases List.mem_cons.mp inside with rfl | later
      · exact .inl member
      · exact .inr (.inr (ih later))
  obtain ⟨⟨front, back⟩, cut, rfl⟩ := Option.map_eq_some_iff.mp split
  rw [joined cut]
  constructor
  · rintro (here | between | there)
    · exact .inr ⟨front, List.mem_cons_self .., here⟩
    · exact .inl between
    · exact (pieced back there).imp_right (Exists.imp fun part => And.imp_left (List.mem_cons_of_mem _))
  · rintro (between | ⟨part, inside, member⟩)
    · exact .inr (.inl between)
    · rcases List.mem_cons.mp inside with rfl | later
      · exact .inl member
      · exact .inr (.inr (whole back part later member))

/-- A text ends at the surface if its pieces do. -/
theorem scan_of_split? {text : List Char} {parts : List (List Char)}
    (split : dialect.split? token text = some parts)
    (all : ∀ part ∈ parts, dialect.scan Nesting.surface part = Nesting.surface) :
    dialect.scan Nesting.surface text = Nesting.surface := by
  have joined {text front back : List Char} (cut : dialect.cut? token text = some (front, back))
      (balanced : dialect.scan Nesting.surface back = Nesting.surface) :
      dialect.scan Nesting.surface text = Nesting.surface := by
    have stands := ((cut?_eq_some_iff isToken).mp cut).1
    rw [stands.same, scan_append, scan_append, stands.surface, scan_of_plain isToken.plain, balanced]
  have pieced (text : List Char)
      (all : ∀ part ∈ dialect.pieces token text, dialect.scan Nesting.surface part = Nesting.surface) :
      dialect.scan Nesting.surface text = Nesting.surface := by
    fun_induction pieces dialect token text with
    | case1 text uncut => exact all text (List.mem_singleton_self _)
    | case2 text front back cut ih => exact joined cut (ih (List.forall_mem_cons.mp all).2)
  obtain ⟨⟨front, back⟩, cut, rfl⟩ := Option.map_eq_some_iff.mp split
  exact joined cut (pieced back (List.forall_mem_cons.mp all).2)

/-- The pieces of a text with the token between them are the text. -/
theorem intercalate_pieces (text : List Char) :
    List.intercalate token (dialect.pieces token text) = text := by
  fun_induction pieces dialect token text with
  | case1 text uncut => exact List.intercalate_singleton
  | case2 text front back cut ih =>
    have spelled : dialect.pieces token back ≠ [] := by
      rw [pieces]
      split <;> exact List.cons_ne_nil _ _
    rw [List.intercalate_cons_of_ne_nil spelled, ih]
    exact ((cut?_eq_some_iff isToken).mp cut).1.same.symm

/-- The fragments of a split with the token between them are the text. -/
theorem intercalate_of_split? {text : List Char} {parts : List (List Char)}
    (split : dialect.split? token text = some parts) : List.intercalate token parts = text := by
  obtain ⟨⟨front, back⟩, cut, rfl⟩ := Option.map_eq_some_iff.mp split
  have whole := intercalate_pieces isToken text
  rw [pieces] at whole
  split at whole
  · next uncut => cases uncut.symm.trans cut
  · next found =>
    obtain ⟨rfl, rfl⟩ := Prod.mk.inj (Option.some.inj (found.symm.trans cut))
    exact whole

/-- The token does not cut the pieces again. -/
theorem cut?_of_mem_split? {text part : List Char} {parts : List (List Char)}
    (split : dialect.split? token text = some parts) (member : part ∈ parts) :
    dialect.cut? token part = none := by
  have first {text front back : List Char} (cut : dialect.cut? token text = some (front, back)) :
      dialect.cut? token front = none := by
    obtain ⟨stands, least⟩ := (cut?_eq_some_iff isToken).mp cut
    refine (cut?_eq_none_iff isToken).mpr fun before after earlier => ?_
    have wide : dialect.Stands token Nesting.surface ([] ++ front ++ (token ++ back)) ([] ++ before)
        (after ++ (token ++ back)) := earlier.widen rfl _
    rw [List.nil_append, List.nil_append, ← List.append_assoc, ← stands.same] at wide
    have lengths := least _ _ wide
    have whole := congrArg List.length earlier.same
    have spelled := List.length_pos_iff.mpr isToken.spelled
    rw [List.length_append, List.length_append] at whole
    omega
  have later (text : List Char) (member : part ∈ dialect.pieces token text) :
      dialect.cut? token part = none := by
    fun_induction pieces dialect token text with
    | case1 text uncut => exact List.mem_singleton.mp member ▸ uncut
    | case2 text front back cut ih =>
      rcases List.mem_cons.mp member with rfl | behind
      · exact first cut
      · exact ih behind
  obtain ⟨⟨front, back⟩, cut, rfl⟩ := Option.map_eq_some_iff.mp split
  rcases List.mem_cons.mp member with rfl | behind
  · exact first cut
  · exact later back behind

omit isToken in
/-- A text falls into two pieces where the token stands only once. -/
theorem split?_eq_pair_iff {text left right : List Char} :
    dialect.split? token text = some [left, right] ↔
      dialect.cut? token text = some (left, right) ∧ dialect.cut? token right = none := by
  have single (rest : List Char) : dialect.pieces token rest = [right] ↔
      rest = right ∧ dialect.cut? token right = none := by
    rw [pieces]
    split
    · next uncut =>
      rw [List.cons.injEq, and_iff_left rfl]
      exact ⟨fun same => ⟨same, same ▸ uncut⟩, And.left⟩
    · next front back cut =>
      refine ⟨fun same => ?_, ?_⟩
      · have empty := (List.cons.inj same).2
        rw [pieces] at empty
        split at empty <;> exact absurd empty (List.cons_ne_nil _ _)
      · rintro ⟨rfl, uncut⟩
        cases cut.symm.trans uncut
  rw [split?, Option.map_eq_some_iff]
  constructor
  · rintro ⟨⟨front, back⟩, cut, same⟩
    obtain ⟨rfl, tail⟩ := List.cons.inj same
    obtain ⟨rfl, uncut⟩ := (single back).mp tail
    exact ⟨cut, uncut⟩
  · rintro ⟨cut, uncut⟩
    exact ⟨(left, right), cut, congrArg _ ((single right).mpr ⟨rfl, uncut⟩)⟩

/-- Blanks at the ends of a text are blanks at the ends of what its cut leaves. -/
theorem cut?_trim {left right : List Char} (visible : ∀ c ∈ token, Text.isBlank c = false)
    (spaced : ∀ c, Text.isBlank c = true → dialect.isDelimiter c = false)
    (cut : dialect.cut? token (left ++ token ++ right) = some (left, right)) :
    dialect.cut? token (Text.trim (left ++ token ++ right)) =
      some (Text.trimStart left, Text.trimEnd right) := by
  obtain ⟨front, start, blank⟩ := Text.exists_trimStart left
  obtain ⟨back, ending, blankToo⟩ := Text.exists_trimEnd right
  rw [Text.trim_append_append isToken.spelled visible]
  refine cut?_eq_some_of_part isToken front back ?_
    (scan_of_plain (fun c member => spaced c (blank c member)) _)
  rw [← start, ← ending, ← cut]
  congr 1
  conv => rhs; rw [start, ending]
  simp only [List.append_assoc]

end Cuts

section Singletons

variable {c : Char} (isToken : dialect.IsToken [c])

include isToken

private theorem slicesFrom_of_cutFrom? (nesting : Nesting) (text : List Char) :
    (dialect.cutFrom? [c] nesting text = none →
        dialect.slicesFrom (· == c) nesting text = [text]) ∧
      ∀ front back, dialect.cutFrom? [c] nesting text = some (front, back) →
        dialect.slicesFrom (· == c) nesting text = front :: dialect.slices (· == c) back := by
  induction text generalizing nesting with
  | nil => exact ⟨fun _ => rfl, fun _ _ cut => by cases cut⟩
  | cons d rest ih =>
    obtain ⟨whole, parts⟩ := ih (nesting.after dialect d)
    rcases cutFrom?_cons isToken nesting d rest with ⟨back, same, place, here⟩ | ⟨absent, further⟩
    · obtain ⟨rfl, rfl⟩ := List.cons.inj same
      refine ⟨fun uncut => ?_, fun front behind cut => ?_⟩
      · cases uncut.symm.trans here
      obtain ⟨rfl, rfl⟩ := Prod.mk.inj (Option.some.inj (here.symm.trans cut))
      rw [slicesFrom, if_pos ⟨place, beq_self_eq_true _⟩]
      rfl
    · have uncut : ¬ (nesting = Nesting.surface ∧ (d == c) = true) := by
        rintro ⟨surface, same⟩
        exact absent rest ⟨by rw [beq_iff_eq.mp same]; rfl, surface⟩
      rw [slicesFrom, if_neg uncut, further]
      refine ⟨fun none => ?_, fun front back cut => ?_⟩
      · rw [whole (Option.map_eq_none_iff.mp none), List.modifyHead_cons]
      · obtain ⟨⟨before, after⟩, later, same⟩ := Option.map_eq_some_iff.mp cut
        obtain ⟨rfl, rfl⟩ := Prod.mk.inj same
        rw [parts before after later, List.modifyHead_cons]

/-- A token of one character takes a text apart into its slices. -/
theorem pieces_singleton (text : List Char) :
    dialect.pieces [c] text = dialect.slices (· == c) text := by
  fun_induction pieces dialect [c] text with
  | case1 text uncut => exact ((slicesFrom_of_cutFrom? isToken .surface text).1 uncut).symm
  | case2 text front back cut ih =>
    rw [ih, slices.eq_1 _ _ text, (slicesFrom_of_cutFrom? isToken .surface text).2 front back cut]

/-- A token of one character splits a text into its slices there. -/
theorem split?_singleton_eq_some_iff {text : List Char} {parts : List (List Char)} :
    dialect.split? [c] text = some parts ↔
      c ∈ dialect.surfaceChars text ∧ parts = dialect.slices (· == c) text := by
  have alone : c ∈ dialect.surfaceChars text → dialect.cut? [c] text ≠ none := by
    intro member uncut
    have lengths := two_le_length_slicesFrom (· == c) member (beq_self_eq_true c)
    rw [(slicesFrom_of_cutFrom? isToken .surface text).1 uncut] at lengths
    exact absurd lengths (Nat.not_succ_le_self 1)
  rw [split?]
  cases cut : dialect.cut? [c] text with
  | none =>
    refine ⟨nofun, fun ⟨member, _⟩ => absurd cut (alone member)⟩
  | some pair =>
    obtain ⟨front, back⟩ := pair
    have stands := (cut?_eq_some_iff isToken).mp cut
    rw [Option.map_some, Option.some.injEq, slices,
      (slicesFrom_of_cutFrom? isToken .surface text).2 front back cut,
      and_iff_right (stands.1.mem_surfaceChars isToken (List.mem_singleton_self c))]
    change front :: dialect.pieces [c] back = parts ↔ _
    rw [pieces_singleton isToken, eq_comm]

/-- The slices at a token that stands in a text are shorter than the text. -/
theorem length_lt_of_mem_slices {text slice : List Char} (member : c ∈ dialect.surfaceChars text)
    (inside : slice ∈ dialect.slices (· == c) text) : slice.length < text.length :=
  length_of_mem_split? ((split?_singleton_eq_some_iff isToken).mpr ⟨member, rfl⟩) inside

end Singletons

end Dialect

end Reckoner
