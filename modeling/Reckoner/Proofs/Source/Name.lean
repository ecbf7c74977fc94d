import Reckoner.Proofs.Register
import Reckoner.Proofs.Source.Trim

/-! # The characters of names

Names are compared in lower case, and a character that is its own lower case stands in a text exactly
if it stands in the key of the text. So a text under which a word is found contains no such character
beside those of words.
-/

namespace Reckoner

namespace Text

/-- The characters of words: letters, digits and the underscore. -/
def isWordChar (c : Char) : Bool := c.isAlphanum || c == '_'

/-- The character is its own lower case, wherever it stands. -/
def isCaseless (c : Char) : Bool := lowerChar c == [c] && c != 'Σ'

/-- Changing the case of a text keeps the characters that have none. -/
theorem mem_lower {text : List Char} {c : Char} (caseless : isCaseless c = true)
    (member : c ∈ text) : c ∈ lower text := by
  rw [isCaseless, Bool.and_eq_true, beq_iff_eq, bne_iff_ne] at caseless
  have spread (before : List Char) : c ∈ lowerAfter before text := by
    induction text generalizing before with
    | nil => exact absurd member List.not_mem_nil
    | cons d rest ih =>
      rw [lowerAfter, List.mem_append]
      rcases List.mem_cons.mp member with rfl | later
      · rw [if_neg caseless.2, caseless.1]
        exact .inl (List.mem_singleton_self _)
      · exact .inr (ih later _)
  exact spread []

/-- What can be checked of the ASCII characters one by one holds of all of them. -/
theorem forall_ascii (fine : Char → Prop) (checked : ∀ n < 0x80, fine (Char.ofNat n)) {c : Char}
    (ascii : c.toNat < 0x80) : fine c := by
  rw [← Char.ofNat_toNat c]
  exact checked c.toNat ascii

/-- What does not tell the capitals of ASCII from their lower case, one by one, tells no character from it. -/
theorem apply_toLower {α : Type} (f : Char → α)
    (checked : ∀ n < 26, f (Char.ofNat (0x41 + n)).toLower = f (Char.ofNat (0x41 + n))) (c : Char) :
    f c.toLower = f c := by
  by_cases upper : c.val ≥ 'A'.val ∧ c.val ≤ 'Z'.val
  · have first : 0x41 ≤ c.toNat := UInt32.le_iff_toNat_le.mp upper.1
    have last : c.toNat ≤ 0x5A := UInt32.le_iff_toNat_le.mp upper.2
    have capital := checked (c.toNat - 0x41) (by omega)
    rwa [Nat.add_sub_cancel' first, Char.ofNat_toNat] at capital
  · exact congrArg f (dif_neg upper)

/-- The characters of words are ASCII characters. -/
theorem ascii_of_isWordChar {c : Char} (word : isWordChar c = true) : c.toNat < 0x80 := by
  rw [isWordChar, Char.isAlphanum] at word
  delta Char.isAlpha Char.isUpper Char.isLower Char.isDigit at word
  simp only [Bool.or_eq_true, Bool.and_eq_true, decide_eq_true_eq, beq_iff_eq] at word
  have below {bound : Char} (small : bound.toNat < 0x80) (le : c.val ≤ bound.val) :
      c.toNat < 0x80 := Nat.lt_of_le_of_lt (UInt32.le_iff_toNat_le.mp le) small
  rcases word with ((⟨_, upper⟩ | ⟨_, lower⟩) | ⟨_, digit⟩) | rfl
  · exact below (by decide) upper
  · exact below (by decide) lower
  · exact below (by decide) digit
  · decide

theorem isBlank_of_isWordChar {c : Char} (word : isWordChar c = true) : isBlank c = false := by
  have all : ∀ n < 0x80, isWordChar (Char.ofNat n) = true → isBlank (Char.ofNat n) = false := by
    decide +kernel
  exact forall_ascii (fun c => isWordChar c = true → isBlank c = false) all
    (ascii_of_isWordChar word) word

theorem isWordChar_of_isDigit {c : Char} (digit : c.isDigit = true) : isWordChar c = true := by
  rw [isWordChar, Char.isAlphanum, digit, Bool.or_true, Bool.true_or]

theorem isWordChar_of_isAlpha {c : Char} (letter : c.isAlpha = true) : isWordChar c = true := by
  rw [isWordChar, Char.isAlphanum, letter, Bool.true_or, Bool.true_or]

theorem toLower_of_isDigit {c : Char} (digit : c.isDigit = true) : c.toLower = c := by
  have all : ∀ n < 0x80, (Char.ofNat n).isDigit = true → (Char.ofNat n).toLower = Char.ofNat n := by
    decide +kernel
  exact forall_ascii (fun c => c.isDigit = true → c.toLower = c) all
    (ascii_of_isWordChar (isWordChar_of_isDigit digit)) digit

theorem isWordChar_toLower (c : Char) : isWordChar c.toLower = isWordChar c :=
  apply_toLower isWordChar (by decide +kernel) c

/-- A text is made of words if its lower-case spelling is. -/
theorem isWordChar_of_sameSpelling {left right : List Char}
    (same : sameSpelling left right = true) (word : ∀ c ∈ right, isWordChar c = true) :
    ∀ c ∈ left, isWordChar c = true := by
  intro c member
  have lower : c.toLower ∈ asciiLower right :=
    beq_iff_eq.mp same ▸ List.mem_map_of_mem (f := Char.toLower) member
  obtain ⟨d, inside, spelled⟩ := List.mem_map.mp lower
  rw [← isWordChar_toLower, ← spelled, isWordChar_toLower, word d inside]

/-- The lower case of a word is a word. -/
theorem isWordChar_of_mem_lower {text : List Char} (word : ∀ c ∈ text, isWordChar c = true) :
    ∀ c ∈ lower text, isWordChar c = true := by
  have spread (before : List Char) : ∀ c ∈ lowerAfter before text, isWordChar c = true := by
    induction text generalizing before with
    | nil => exact List.forall_mem_nil _
    | cons d rest ih =>
      obtain ⟨here, others⟩ := List.forall_mem_cons.mp word
      have ascii := ascii_of_isWordChar here
      have noSigma : d ≠ 'Σ' := by
        rintro rfl
        exact absurd ascii (by decide)
      rw [lowerAfter, List.forall_mem_append, if_neg noSigma, lowerChar, if_pos ascii]
      exact ⟨List.forall_mem_singleton.mpr ((isWordChar_toLower d).trans here), ih others _⟩
  exact spread []

/-- Trimming takes away no visible character. -/
theorem mem_trim {text : List Char} {c : Char} (visible : isBlank c = false) :
    c ∈ trim text ↔ c ∈ text := by
  obtain ⟨front, back, same, blank, blankToo⟩ := exists_trim text
  have outside {ends : List Char} (all : ∀ d ∈ ends, isBlank d = true) : c ∉ ends := fun member =>
    absurd (all c member) (Bool.eq_false_iff.mp visible)
  conv => rhs; rw [same]
  simp only [List.mem_append, outside blank, outside blankToo, false_or, or_false]

/-- The key of a text with a word character in front begins with its lower case. -/
theorem exists_nameKey_cons {c : Char} (word : isWordChar c = true) (rest : List Char) :
    ∃ others, nameKey (c :: rest) = c.toLower :: others := by
  have ascii := ascii_of_isWordChar word
  have noSigma : c ≠ 'Σ' := by
    rintro rfl
    exact absurd ascii (by decide)
  rw [nameKey, trim_cons (isBlank_of_isWordChar word), lower, lowerAfter, if_neg noSigma, lowerChar,
    if_pos ascii]
  exact ⟨_, rfl⟩

theorem mem_of_mem_trim {text : List Char} {c : Char} (member : c ∈ trim text) : c ∈ text := by
  obtain ⟨front, back, same, _⟩ := exists_trim text
  rw [same]
  exact List.mem_append_left _ (List.mem_append_right _ member)

end Text

namespace Register

variable {α : Type}

/-- The objects of the register stand under words. -/
def Worded (register : Register α) : Prop :=
  ∀ entry ∈ register.entries, ∀ c ∈ entry.name.toList, Text.isWordChar c = true

/-- A text under which an object is found has no character without case beside those of words. -/
theorem Worded.isWordChar_of_find? {register : Register α} (worded : register.Worded)
    {text : List Char} {item : α} (found : register.find? text = some item) :
    ∀ c ∈ text, Text.isBlank c = false → Text.isCaseless c = true → Text.isWordChar c = true := by
  obtain ⟨entry, place, _⟩ := Option.map_eq_some_iff.mp found
  have key := List.find?_some place
  rw [beq_iff_eq] at key
  have word := worded entry (List.mem_of_find?_eq_some place)
  intro c member visible caseless
  have inKey : c ∈ nameKey text := Text.mem_lower caseless ((Text.mem_trim visible).mpr member)
  rw [← key] at inKey
  exact Text.isWordChar_of_mem_lower (fun d inside => word d (Text.mem_of_mem_trim inside)) c inKey

end Register

end Reckoner
