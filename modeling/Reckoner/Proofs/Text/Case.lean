import Reckoner.Proofs.Source.Name
import Reckoner.Text.Case

/-! # Characters that have no case

Lower and upper case make nothing but letters out of letters. A character in front of the letters of
ASCII, such as a quote or a digit, is found in a mapped text only where it was before.
-/

namespace Reckoner.Text

/-- All letters to which the runs lead are characters, none of them in front of the letters of ASCII. -/
def CaseRun.Rises (runs : List CaseRun) : Prop :=
  ∀ run ∈ runs, 0x41 ≤ run.first + run.offset ∧ (run.last + run.offset < 0xD800 ∨
    0xE000 ≤ run.first + run.offset ∧ run.last + run.offset < 0x110000)

instance (runs : List CaseRun) : Decidable (CaseRun.Rises runs) :=
  inferInstanceAs (Decidable (∀ _ ∈ _, _))

/-- Runs that rise lead no character from beyond ASCII to one in front of the letters. -/
theorem CaseRun.le_apply {runs : List CaseRun} (rises : Rises runs) {c : Char}
    (beyond : ¬ c.toNat < 0x80) : 0x41 ≤ (Char.ofNat (apply runs c.toNat)).toNat := by
  unfold apply
  split
  · next run found =>
    obtain ⟨low, bounds⟩ := rises run (List.mem_of_find?_eq_some found)
    have inside := List.find?_some found
    simp only [Bool.and_eq_true, decide_eq_true_eq] at inside
    have valid : (c.toNat + run.offset).toNat.isValidChar := by
      rw [Nat.isValidChar]
      omega
    have same : (Char.ofNat (c.toNat + run.offset).toNat).toNat = (c.toNat + run.offset).toNat := by
      rw [Char.ofNat, dif_pos valid]
      rfl
    omega
  · rw [Char.ofNat_toNat]
    omega

theorem rises_lowerRuns : CaseRun.Rises lowerRuns := by decide +kernel

theorem rises_upperRuns : CaseRun.Rises upperRuns := by decide +kernel

variable {c : Char} (low : c.toNat < 0x41)

include low

/-- A character in front of the letters is the upper case of itself alone. -/
theorem eq_of_mem_upperChar {d : Char} (member : c ∈ upperChar d) : d = c := by
  unfold upperChar at member
  split at member
  · next ascii =>
    have checked : ∀ n < 0x80, (Char.ofNat n).toUpper.toNat < 0x41 →
        Char.ofNat n = (Char.ofNat n).toUpper := by decide +kernel
    obtain rfl := List.mem_singleton.mp member
    exact forall_ascii (fun d => d.toUpper.toNat < 0x41 → d = d.toUpper) checked ascii low
  · next beyond =>
    split at member
    · next letters found =>
      have high : ∀ entry ∈ upperExpansions, ∀ code ∈ entry.2, 0x41 ≤ (Char.ofNat code).toNat := by
        decide +kernel
      obtain ⟨code, inside, rfl⟩ := List.mem_map.mp member
      obtain ⟨_, _, same, _⟩ := List.lookup_eq_some_iff.mp found
      have entry : (d.toNat, letters) ∈ upperExpansions := by
        rw [same]
        exact List.mem_append_right _ (List.mem_cons_self ..)
      have above := high _ entry code inside
      omega
    · obtain rfl := List.mem_singleton.mp member
      have above := CaseRun.le_apply rises_upperRuns beyond
      omega

theorem eq_of_mem_lowerChar {d : Char} (member : c ∈ lowerChar d) : d = c := by
  unfold lowerChar at member
  split at member
  · next ascii =>
    have checked : ∀ n < 0x80, (Char.ofNat n).toLower.toNat < 0x41 →
        Char.ofNat n = (Char.ofNat n).toLower := by decide +kernel
    obtain rfl := List.mem_singleton.mp member
    exact forall_ascii (fun d => d.toLower.toNat < 0x41 → d = d.toLower) checked ascii low
  · next beyond =>
    split at member
    · have high : ∀ letter ∈ ['i', '\u0307'], 0x41 ≤ letter.toNat := by decide
      have above := high c member
      omega
    · obtain rfl := List.mem_singleton.mp member
      have above := CaseRun.le_apply rises_lowerRuns beyond
      omega

theorem mem_of_mem_upper {text : List Char} (member : c ∈ upper text) : c ∈ text := by
  obtain ⟨d, inside, made⟩ := List.mem_flatMap.mp member
  exact eq_of_mem_upperChar low made ▸ inside

theorem mem_of_mem_lower {text : List Char} (member : c ∈ lower text) : c ∈ text := by
  have spread (before text : List Char) (member : c ∈ lowerAfter before text) : c ∈ text := by
    induction text generalizing before with
    | nil => exact member
    | cons d rest ih =>
      rw [lowerAfter, List.mem_append] at member
      rcases member with here | later
      · split at here
        · have sigma : ∀ final : Bool, 0x41 ≤ (if final then 'ς' else 'σ').toNat := by decide
          obtain rfl := List.mem_singleton.mp here
          exact absurd low (Nat.not_lt.mpr (sigma _))
        · exact eq_of_mem_lowerChar low here ▸ List.mem_cons_self ..
      · exact List.mem_cons_of_mem d (ih _ later)
  exact spread [] text member

end Reckoner.Text
