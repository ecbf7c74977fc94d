import Reckoner.Proofs.Grammar.Standard

/-! # Names read back

An object is found under the name that it is called by. Names that begin with a letter or an underscore are
no numerals, and the names of constants and literals are not those of variables that keep clear of them.
-/

namespace Reckoner

namespace Engine

/-- The key of a name that begins with a letter or an underscore does not begin with a digit, and it
begins with something. -/
theorem nameKey_ne_of_isIdentifier {name : String} (identifier : isIdentifier name = true) {c : Char}
    (digit : c.isDigit = true) (rest : List Char) :
    nameKey name.toList ≠ nameKey (c :: rest) ∧ nameKey name.toList ≠ nameKey [] := by
  unfold isIdentifier at identifier
  split at identifier
  · exact absurd identifier Bool.false_ne_true
  · next first others same =>
    have start := (Bool.and_eq_true_iff.mp identifier).1
    have word : Text.isWordChar first = true := by
      rw [Text.isWordChar, Char.isAlphanum]
      rcases Bool.or_eq_true_iff.mp start with letter | underscore
      · rw [letter, Bool.true_or, Bool.true_or]
      · rw [underscore, Bool.or_true]
    have all : ∀ n < 0x80, ((Char.ofNat n).isAlpha || Char.ofNat n == '_') = true →
        (Char.ofNat n).toLower.isDigit = false := by decide +kernel
    have noDigit : first.toLower.isDigit = false := Text.forall_ascii
      (fun c => (c.isAlpha || c == '_') = true → c.toLower.isDigit = false) all
      (Text.ascii_of_isWordChar word) start
    obtain ⟨tail, key⟩ := Text.exists_nameKey_cons word others
    obtain ⟨tailToo, keyToo⟩ := Text.exists_nameKey_cons (Text.isWordChar_of_isDigit digit) rest
    rw [same, key, keyToo, Text.toLower_of_isDigit digit]
    refine ⟨fun equal => ?_, List.cons_ne_nil _ _⟩
    rw [(List.cons.inj equal).1, digit] at noDigit
    exact absurd noDigit Bool.false_ne_true.symm

theorem ne_nil_of_isIdentifier {name : String} (identifier : isIdentifier name = true) :
    name.toList ≠ [] := by
  intro empty
  unfold isIdentifier at identifier
  rw [empty] at identifier
  exact absurd identifier Bool.false_ne_true

/-- An identifier has no blanks at its ends. -/
theorem trimString_of_isIdentifier {name : String} (identifier : isIdentifier name = true) :
    Text.trimString name = name := by
  have tight := Text.tight_of_visible (ne_nil_of_isIdentifier identifier) fun c member =>
    Text.isBlank_of_isWordChar (isWordChar_of_isIdentifier identifier c member)
  rw [Text.trimString, tight.trim_eq, String.ofList_toList]

/-- The keys of the words that are literals. -/
def literalKeys : List (List Char) :=
  [['t', 'r', 'u', 'e'], ['f', 'a', 'l', 's', 'e'], ['n', 'u', 'l', 'l']]

def constantKeys : List (List Char) := [['p', 'i'], ['e']]

/-- The keys that variables keep clear of. -/
def reservedKeys : List (List Char) := literalKeys ++ constantKeys

/-- An ordinary engine in which names are identifiers that read back, and literals are no names. -/
structure Legible (engine : Engine) (base : Tag) : Prop extends engine.Ordinary base where
  constant : ∀ {item name}, engine.constants.nameOf? item = some name →
    isIdentifier name = true ∧ engine.named? name.toList = some (.constant item)
  input : ∀ {item name}, engine.inputs.nameOf? item = some name →
    isIdentifier name = true ∧ engine.named? name.toList = some (.input item)
  function : ∀ {item name}, engine.functions.nameOf? item = some name →
    isIdentifier name = true ∧ engine.functions.find? name.toList = some item
  unnamed : ∀ {text}, nameKey text ∈ literalKeys → engine.named? text = none
  uncounted : ∀ {c}, c.isDigit = true → ∀ rest, engine.named? (c :: rest) = none
  nameless : engine.named? [] = none

private theorem constants_fine (base : Tag) : ∀ entry ∈ (Library.constants base).entries,
    isIdentifier entry.name = true ∧ nameKey entry.name.toList ∈ constantKeys := by
  refine Register.forall_ofList (fun entry => isIdentifier entry.name = true ∧
    nameKey entry.name.toList ∈ constantKeys) ?_
  simp only [List.forall_mem_cons]
  exact ⟨by decide, by decide, List.forall_mem_nil _⟩

private theorem functions_fine (base : Tag) (now : DateTime) :
    ∀ entry ∈ (Library.functions base now).entries, isIdentifier entry.name = true := by
  refine Register.forall_ofList (fun entry => isIdentifier entry.name = true) ?_
  simp only [List.forall_mem_cons]
  refine ⟨?_, ?_, ?_, ?_, ?_, ?_, ?_, ?_, ?_, ?_, ?_, ?_, ?_, ?_, ?_, ?_, List.forall_mem_nil _⟩
  all_goals decide

/-- Names that are neither those of constants nor of variables name nothing. -/
theorem named?_withVariables {base : Tag} {now : DateTime} {items : List (String × Variable)}
    {keys : List (List Char)} (identifiers : ∀ entry ∈ items, isIdentifier entry.1 = true)
    (clear : ∀ entry ∈ items, nameKey entry.1.toList ∉ keys)
    (apart : ∀ key ∈ keys, key ∉ constantKeys) {text : List Char} (reserved : nameKey text ∈ keys) :
    (withVariables base now items).named? text = none := by
  have noConstant : (Library.constants base).find? text = none :=
    Register.find?_eq_none_iff.mpr fun entry member same => apart _ reserved
      ((show nameKey _ = nameKey text from same) ▸ (constants_fine base entry member).2)
  have inputs : ∀ entry ∈ (Register.ofList items).entries, nameKey entry.name.toList ∉ keys := by
    refine Register.forall_ofList (fun entry => nameKey entry.name.toList ∉ keys) fun entry member => ?_
    rw [trimString_of_isIdentifier (identifiers entry member)]
    exact clear entry member
  have noInput : (Register.ofList items).find? text = none :=
    Register.find?_eq_none_iff.mpr fun entry member same =>
      inputs entry member ((show nameKey _ = nameKey text from same) ▸ reserved)
  rw [withVariables_eq, named?, noInput]
  exact congrArg (fun constant : Option Constant => (constant.map Tree.constant).or none) noConstant

/-- The functions stand under identifiers, by which they are found. -/
theorem function_withVariables {base : Tag} {now : DateTime} {items : List (String × Variable)}
    {entry : Entry Function} (member : entry ∈ (withVariables base now items).functions.entries) :
    isIdentifier entry.name = true ∧
      (withVariables base now items).functions.find? entry.name.toList = some entry.item := by
  rw [withVariables_eq] at member ⊢
  exact ⟨functions_fine base now entry member, Register.find?_of_mem (Register.distinct_ofList _) member⟩

/-- No name is without any characters. -/
theorem nameless_withVariables {base : Tag} {now : DateTime} {items : List (String × Variable)}
    (identifiers : ∀ entry ∈ items, isIdentifier entry.1 = true) :
    (withVariables base now items).named? [] = none := by
  have absent {α : Type} {register : Register α}
      (names : ∀ entry ∈ register.entries, isIdentifier entry.name = true) :
      register.find? [] = none :=
    Register.find?_eq_none_iff.mpr fun entry member =>
      (nameKey_ne_of_isIdentifier (c := '0') (names entry member) (by decide) []).2
  have inputs : ∀ entry ∈ (Register.ofList items).entries, isIdentifier entry.name = true :=
    Register.forall_ofList (fun entry => isIdentifier entry.name = true) fun entry member => by
      rw [trimString_of_isIdentifier (identifiers entry member)]
      exact identifiers entry member
  rw [withVariables_eq, named?, absent inputs]
  exact congrArg (fun constant : Option Constant => (constant.map Tree.constant).or none)
    (absent fun entry member => (constants_fine base entry member).1)

/-- Variables under identifiers that keep clear of the reserved keys leave the engine legible. -/
theorem legible_withVariables {base : Tag} {now : DateTime} {items : List (String × Variable)}
    (identifiers : ∀ entry ∈ items, isIdentifier entry.1 = true)
    (clear : ∀ entry ∈ items, nameKey entry.1.toList ∉ reservedKeys) :
    (withVariables base now items).Legible base := by
  have ordinary : (withVariables base now items).Ordinary base := ordinary_withVariables identifiers
  have inputs : ∀ entry ∈ (Register.ofList items).entries,
      isIdentifier entry.name = true ∧ nameKey entry.name.toList ∉ reservedKeys := by
    refine Register.forall_ofList (fun entry => isIdentifier entry.name = true ∧
      nameKey entry.name.toList ∉ reservedKeys) fun entry member => ?_
    rw [trimString_of_isIdentifier (identifiers entry member)]
    exact ⟨identifiers entry member, clear entry member⟩
  have constants := constants_fine base
  have theConstants : (withVariables base now items).constants = Library.constants base := by
    rw [withVariables_eq]
    rfl
  have theInputs : (withVariables base now items).inputs = .ofList items := by rw [withVariables_eq]
  have noConstant {text : List Char} (other : nameKey text ∉ constantKeys) :
      (Library.constants base).find? text = none :=
    Register.find?_eq_none_iff.mpr fun entry member same =>
      other ((show nameKey _ = nameKey text from same) ▸ (constants entry member).2)
  refine ⟨ordinary, fun named => ?_, fun named => ?_, fun named => ?_, fun reserved => ?_,
    fun digit rest => ?_, ?_⟩
  · rw [theConstants] at named
    obtain ⟨entry, member, _, rfl⟩ := Register.exists_entry_of_nameOf? named
    have found : (Library.constants base).find? entry.name.toList = some _ :=
      Register.find?_of_nameOf? (Register.distinct_ofList _) named
    refine ⟨(constants entry member).1, ?_⟩
    rw [named?, theConstants, found]
    rfl
  · rw [theInputs] at named
    obtain ⟨entry, member, _, rfl⟩ := Register.exists_entry_of_nameOf? named
    obtain ⟨identifier, other⟩ := inputs entry member
    have found := Register.find?_of_nameOf? (Register.distinct_ofList _) named
    refine ⟨identifier, ?_⟩
    rw [named?, theConstants, theInputs, found,
      noConstant fun reserved => other (List.mem_append_right _ reserved)]
    rfl
  · obtain ⟨entry, member, rfl, rfl⟩ := Register.exists_entry_of_nameOf? named
    exact function_withVariables member
  · refine named?_withVariables identifiers (fun entry member literal => ?_) (by decide) reserved
    exact clear entry member (List.mem_append_left _ literal)
  · have absent {α : Type} {register : Register α}
        (names : ∀ entry ∈ register.entries, isIdentifier entry.name = true) :
        register.find? (_ :: rest) = none :=
      Register.find?_eq_none_iff.mpr fun entry member =>
        (nameKey_ne_of_isIdentifier (names entry member) digit rest).1
    rw [named?, theConstants, theInputs, absent fun entry member => (constants entry member).1,
      absent fun entry member => (inputs entry member).1]
    rfl
  · exact nameless_withVariables identifiers

end Engine

end Reckoner
