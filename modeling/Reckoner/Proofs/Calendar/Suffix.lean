import Reckoner.Proofs.Source.Literal

/-! # Reading by pattern goes from left to right

Every item of a pattern, a whole timestamp included, takes some text from the front and leaves the end of
the text to the items that follow. Nothing that stands behind is looked at twice, so every mark that the
pattern prescribes is found in the text as often as in the pattern.
-/

namespace Reckoner

namespace PatternItem

/-- What a step leaves is the end of the text. -/
def Step.Leaves (step : Step) : Prop :=
  ∀ fields text next rest, step fields text = some (next, rest) → rest <:+ text

theorem Step.Leaves.takes {step : Step} (leaves : step.Leaves) : step.Takes fun _ => True := by
  intro fields text next rest success
  obtain ⟨front, same⟩ := leaves fields text next rest success
  exact ⟨front, same.symm, fun _ _ => trivial⟩

theorem Step.Takes.leaves {step : Step} (takes : step.Takes fun _ => True) : step.Leaves := by
  intro fields text next rest success
  obtain ⟨front, same, _⟩ := takes fields text next rest success
  exact ⟨front, same.symm⟩

theorem suffix_of_afterWord? {word text rest : List Char} (success : afterWord? word text = some rest) :
    rest <:+ text := by
  fun_induction afterWord? word text with
  | case1 text => exact Option.some.inj success ▸ List.suffix_refl text
  | case2 => cases success
  | case3 c word d text same ih => exact (ih success).trans (List.suffix_cons d text)
  | case4 => cases success

theorem suffix_of_digits? {least most value : Nat} {text rest : List Char}
    (success : digits? least most text = some (value, rest)) : rest <:+ text := by
  obtain ⟨front, same, _⟩ := digits?_takes success
  exact ⟨front, same.symm⟩

theorem suffix_of_shortName? {names : List String} {text rest : List Char} {index : Nat}
    (success : shortName? names text = some (index, rest)) : rest <:+ text := by
  obtain ⟨entry, _, found⟩ := List.exists_of_findSome?_eq_some success
  obtain ⟨behind, after, same⟩ := Option.map_eq_some_iff.mp found
  obtain ⟨_, rfl⟩ := Prod.mk.inj same
  exact suffix_of_afterWord? after

theorem suffix_of_longName? {names : List String} {text rest : List Char} {index : Nat}
    (success : longName? names text = some (index, rest)) : rest <:+ text := by
  obtain ⟨⟨found, behind⟩, short, same⟩ := Option.bind_eq_some_iff.mp success
  obtain ⟨_, rfl⟩ := Prod.mk.inj (Option.some.inj same)
  refine List.IsSuffix.trans ?_ (suffix_of_shortName? short)
  cases ending : afterWord? (((names[found]?).map fun name => name.toList.drop 3).getD []) behind with
  | none => exact List.suffix_refl behind
  | some rest => exact suffix_of_afterWord? ending

theorem suffix_of_twoDigits? {greatest : Char} {text rest : List Char} {value : Nat}
    (success : twoDigits? greatest text = some (value, rest)) : rest <:+ text := by
  unfold twoDigits? at success
  split at success
  · next c d tail =>
    split at success
    · obtain ⟨_, rfl⟩ := Prod.mk.inj (Option.some.inj success)
      exact (List.suffix_cons d tail).trans (List.suffix_cons c _)
    · cases success
  · cases success

theorem suffix_of_signedOffset? {optionalMinutes : Bool} {text rest : List Char} {seconds : Int}
    (success : signedOffset? optionalMinutes text = some (seconds, rest)) : rest <:+ text := by
  unfold signedOffset? at success
  dsimp only at success
  split at success
  case h_4 => cases success
  all_goals
    refine List.IsSuffix.trans ?_ (List.suffix_cons _ _)
    obtain ⟨_, sign, success⟩ := Option.bind_eq_some_iff.mp success
    obtain rfl := Option.some.inj sign
    obtain ⟨⟨hours, behind⟩, two, success⟩ := Option.bind_eq_some_iff.mp success
    have left := (List.dropWhile_suffix fun c => c == ':' || Text.isBlank c).trans
      (suffix_of_twoDigits? two)
    dsimp only at success
    split at success
    · obtain ⟨_, rfl⟩ := Prod.mk.inj (Option.some.inj success)
      exact left
    · obtain ⟨⟨minutes, after⟩, more, same⟩ := Option.bind_eq_some_iff.mp success
      obtain ⟨_, rfl⟩ := Prod.mk.inj (Option.some.inj same)
      exact (suffix_of_twoDigits? more).trans left

/-- What a field leaves that is stated if it can be. -/
theorem suffix_of_set {set : Option Fields} {text tail rest : List Char} {next : Fields} (left : tail <:+ text)
    (success : (set.map fun fields => (fields, tail)) = some (next, rest)) : rest <:+ text := by
  obtain ⟨_, _, same⟩ := Option.map_eq_some_iff.mp success
  obtain ⟨_, rfl⟩ := Prod.mk.inj same
  exact left

theorem readNumber_leaves (field : NumberField) : (readNumber field).Leaves :=
  (readNumber_takes (fun _ _ => trivial) (fun _ _ => trivial) trivial trivial).leaves

theorem readHalf_leaves : readHalf.Leaves := by
  intro fields text next rest success
  unfold readHalf at success
  split at success
  · next after => exact suffix_of_set (suffix_of_afterWord? after) success
  · next after _ => exact suffix_of_set (suffix_of_afterWord? after) success
  · cases success

theorem readName_leaves (field : NameField) : (readName field).Leaves := by
  intro fields text next rest success
  have named (find : Option (Nat × List Char)) (set : Nat → Option Fields)
      (found : ∀ index behind, find = some (index, behind) → behind <:+ text)
      (success : (do let place ← find; some (← set place.1, place.2)) = some (next, rest)) :
      rest <:+ text := by
    obtain ⟨⟨index, behind⟩, short, success⟩ := Option.bind_eq_some_iff.mp success
    obtain ⟨_, _, same⟩ := Option.bind_eq_some_iff.mp success
    obtain ⟨_, rfl⟩ := Prod.mk.inj (Option.some.inj same)
    exact found index behind short
  cases field with
  | shortMonth =>
    exact named _ (fun index => fields.setMonth? (index + 1)) (fun _ _ => suffix_of_shortName?) success
  | longMonth =>
    exact named _ (fun index => fields.setMonth? (index + 1)) (fun _ _ => suffix_of_longName?) success
  | shortWeekday =>
    exact named _ (fun index => fields.setWeekday? index) (fun _ _ => suffix_of_shortName?) success
  | longWeekday =>
    exact named _ (fun index => fields.setWeekday? index) (fun _ _ => suffix_of_longName?) success
  | lowerHalf | upperHalf => exact readHalf_leaves fields text next rest success

theorem readFraction_leaves (count : Nat) : (readFraction count).Leaves := by
  intro fields text next rest success
  obtain ⟨⟨value, behind⟩, digits, success⟩ := Option.bind_eq_some_iff.mp success
  obtain ⟨_, _, same⟩ := Option.bind_eq_some_iff.mp success
  obtain ⟨_, rfl⟩ := Prod.mk.inj (Option.some.inj same)
  exact suffix_of_digits? digits

theorem readLongFraction_leaves : readLongFraction.Leaves := by
  intro fields text next rest success
  obtain ⟨⟨value, behind⟩, digits, success⟩ := Option.bind_eq_some_iff.mp success
  obtain ⟨_, _, same⟩ := Option.bind_eq_some_iff.mp success
  obtain ⟨_, rfl⟩ := Prod.mk.inj (Option.some.inj same)
  exact (List.dropWhile_suffix _).trans (suffix_of_digits? digits)

theorem afterPoint_leaves {step : Step} (leaves : step.Leaves) : (afterPoint step).Leaves := by
  intro fields text next rest success
  unfold afterPoint at success
  split at success
  · next behind => exact (leaves fields behind next rest success).trans (List.suffix_cons _ _)
  · exact (Prod.mk.inj (Option.some.inj success)).2 ▸ List.suffix_refl text

/-- What follows a distance from universal time is the end of the text. -/
theorem readOffset_leaves (zulu optionalMinutes : Bool) : (readOffset zulu optionalMinutes).Leaves := by
  intro fields text next rest success
  unfold readOffset at success
  split at success
  · exact suffix_of_set (List.suffix_cons _ _) success
  · exact suffix_of_set (List.suffix_cons _ _) success
  · obtain ⟨⟨seconds, behind⟩, signed, success⟩ := Option.bind_eq_some_iff.mp success
    obtain ⟨_, _, same⟩ := Option.bind_eq_some_iff.mp success
    obtain ⟨_, rfl⟩ := Prod.mk.inj (Option.some.inj same)
    exact suffix_of_signedOffset? signed

/-- Steps that each leave an end of their text leave one in a row. -/
theorem inOrder_leaves {steps : List Step} (all : ∀ step ∈ steps, step.Leaves) : (inOrder steps).Leaves :=
  (inOrder_takes fun step member => (all step member).takes).leaves

theorem readLiteral_leaves (c : Char) : (readLiteral c).Leaves := (readLiteral_takes trivial).leaves

theorem readBlank_leaves : readBlank.Leaves := (readBlank_takes fun _ _ => trivial).leaves

theorem readSeparator_leaves : readSeparator.Leaves := by
  intro fields text next rest success
  unfold readSeparator at success
  split at success
  case h_4 => cases success
  all_goals
    obtain ⟨_, rfl⟩ := Prod.mk.inj (Option.some.inj success)
    exact List.suffix_cons _ _

theorem readZone_leaves : readZone.Leaves := by
  intro fields text next rest success
  unfold readZone at success
  split at success
  · next after => exact suffix_of_set (suffix_of_afterWord? after) success
  · exact readOffset_leaves true false fields text next rest success

theorem readMark_leaves (c : Char) : (readMark c).Leaves :=
  inOrder_leaves (by simp [readBlank_leaves, readLiteral_leaves])

theorem readClock_leaves : readClock.Leaves :=
  inOrder_leaves (by simp [readNumber_leaves, readMark_leaves, afterPoint_leaves, readLongFraction_leaves])

theorem readHyphenated_leaves : readHyphenated.Leaves :=
  inOrder_leaves (by simp [readNumber_leaves, readMark_leaves])

/-- Every item leaves the end of the text. -/
theorem read_leaves (item : PatternItem) : item.read.Leaves := by
  cases item with
  | literal c => exact readLiteral_leaves c
  | blank => exact readBlank_leaves
  | number field => exact readNumber_leaves field
  | name field => exact readName_leaves field
  | fraction => exact afterPoint_leaves readLongFraction_leaves
  | pointFraction count => exact afterPoint_leaves (readFraction_leaves count)
  | bareFraction count => exact readFraction_leaves count
  | zoneName =>
    intro fields text next rest success
    exact (Prod.mk.inj (Option.some.inj success)).2 ▸ List.dropWhile_suffix _
  | zoneOffset lenient =>
    intro fields text next rest success
    exact (readOffset_leaves lenient lenient fields _ next rest success).trans (List.dropWhile_suffix _)
  | instant =>
    exact inOrder_leaves (by
      simp [readHyphenated_leaves, readSeparator_leaves, readClock_leaves, readBlank_leaves, readZone_leaves])

end PatternItem

end Reckoner
