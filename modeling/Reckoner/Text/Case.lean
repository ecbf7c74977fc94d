import Reckoner.Text.CaseData

/-! # Letter case

Lower and upper case of whole texts. A letter may become several, and a capital sigma becomes a
final sigma exactly at the end of a word, so neither map is a map of single characters. On ASCII
texts both agree with the character maps of the core library.
-/

namespace Reckoner.Text

/-- Lower case of one letter, its neighbours ignored. -/
def lowerChar (c : Char) : List Char :=
  if c.toNat < 0x80 then [c.toLower]
  else if c = 'İ' then ['i', '\u0307']
  else [Char.ofNat (CaseRun.apply lowerRuns c.toNat)]

def upperChar (c : Char) : List Char :=
  if c.toNat < 0x80 then [c.toUpper]
  else match upperExpansions.lookup c.toNat with
    | some letters => letters.map Char.ofNat
    | none => [Char.ofNat (CaseRun.apply upperRuns c.toNat)]

/-- The nearest character that is not case-ignorable exists and has a case. -/
def meetsCased (text : List Char) : Bool :=
  match text.dropWhile fun c => flippedAt caseIgnorableFlips c.toNat with
  | c :: _ => flippedAt casedFlips c.toNat
  | [] => false

/-- Lower case of `text`, of which `before` is what precedes it, read backwards. -/
def lowerAfter (before : List Char) : List Char → List Char
  | [] => []
  | c :: rest =>
    (if c = 'Σ' then
      [if meetsCased before && !meetsCased rest then 'ς' else 'σ']
    else lowerChar c) ++ lowerAfter (c :: before) rest

def lower (text : List Char) : List Char := lowerAfter [] text

def upper (text : List Char) : List Char := text.flatMap upperChar

/-- ASCII letters in lower case and every other character unchanged. -/
def asciiLower (text : List Char) : List Char := text.map Char.toLower

/-- Two texts are one spelling when they differ at most in the case of ASCII letters. -/
def sameSpelling (left right : List Char) : Bool := asciiLower left == asciiLower right

/-- What follows `word` in a text whose ASCII letters are read in lower case. -/
def afterSpelling? : (word text : List Char) → Option (List Char)
  | [], text => some text
  | _, [] => none
  | c :: word, d :: text => if d.toLower = c then afterSpelling? word text else none

/-- What precedes `word` at the end of a text whose ASCII letters are read in lower case. -/
def beforeSpelling? (word text : List Char) : Option (List Char) :=
  (afterSpelling? word.reverse text.reverse).map List.reverse

/-- Words are taken away by their length. -/
theorem length_of_afterSpelling? {word text rest : List Char}
    (found : afterSpelling? word text = some rest) : text.length = word.length + rest.length := by
  fun_induction afterSpelling? word text with
  | case1 text =>
    cases found
    exact (Nat.zero_add _).symm
  | case2 => exact absurd found nofun
  | case3 d word text ih =>
    have shorter := ih found
    simp only [List.length_cons]
    omega
  | case4 => exact absurd found nofun

theorem length_of_beforeSpelling? {word text rest : List Char}
    (found : beforeSpelling? word text = some rest) :
    text.length = word.length + rest.length := by
  obtain ⟨back, foundBack, rfl⟩ := Option.map_eq_some_iff.mp found
  have lengths := length_of_afterSpelling? foundBack
  simpa only [List.length_reverse] using lengths

theorem length_asciiLower (text : List Char) : (asciiLower text).length = text.length :=
  List.length_map _

end Reckoner.Text
