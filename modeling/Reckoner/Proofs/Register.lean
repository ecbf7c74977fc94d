import Reckoner.Proofs.Source.Trim
import Reckoner.Register
import Mathlib.Data.List.Nodup

/-! # Registers keep what they are given

What holds of every entry that is registered holds of every entry in the register. No two entries have the
same key: registering under a key that is there takes over its place, and under any other key opens a new
place behind all others. So a name finds what was registered last under it, and an object is found under the
name that it is called by.
-/

namespace Reckoner

/-- Blanks around a name do not count. -/
theorem nameKey_trim (text : List Char) : nameKey (Text.trim text) = nameKey text := by
  rw [nameKey, nameKey, Text.trim_trim]

theorem Entry.key_mk {α : Type} (name : String) (item : α) :
    (⟨Text.trimString name, item⟩ : Entry α).key = nameKey name.toList := by
  rw [Entry.key, Text.trimString, String.toList_ofList, nameKey_trim]

namespace Register

variable {α : Type}

def insertAll (register : Register α) (history : List (String × α)) : Register α :=
  history.foldl (fun register entry => register.insert entry.1 entry.2) register

theorem insertAll_concat (register : Register α) (history : List (String × α)) (entry : String × α) :
    register.insertAll (history ++ [entry]) = (register.insertAll history).insert entry.1 entry.2 := by
  rw [insertAll, insertAll, List.foldl_append, List.foldl_cons, List.foldl_nil]

section Forall

variable (fine : Entry α → Prop)

theorem forall_put {entry : Entry α} {entries : List (Entry α)} (here : fine entry)
    (others : ∀ other ∈ entries, fine other) : ∀ other ∈ put entry entries, fine other := by
  induction entries with
  | nil => exact List.forall_mem_singleton.mpr here
  | cons first rest ih =>
    obtain ⟨head, tail⟩ := List.forall_mem_cons.mp others
    rw [put]
    split
    · exact List.forall_mem_cons.mpr ⟨here, tail⟩
    · exact List.forall_mem_cons.mpr ⟨head, ih tail⟩

/-- What holds of all entries and of a new one holds of all entries after the registration. -/
theorem forall_insert {register : Register α} {name : String} {item : α}
    (here : fine ⟨Text.trimString name, item⟩) (others : ∀ entry ∈ register.entries, fine entry) :
    ∀ entry ∈ (register.insert name item).entries, fine entry :=
  forall_put fine here others

theorem forall_insertAll {history : List (String × α)} {register : Register α}
    (all : ∀ entry ∈ history, fine ⟨Text.trimString entry.1, entry.2⟩)
    (others : ∀ entry ∈ register.entries, fine entry) :
    ∀ entry ∈ (register.insertAll history).entries, fine entry := by
  induction history generalizing register with
  | nil => exact others
  | cons first rest ih =>
    obtain ⟨head, tail⟩ := List.forall_mem_cons.mp all
    exact ih tail (forall_insert fine head others)

/-- What holds of all objects under their trimmed names holds of all entries. -/
theorem forall_ofList {entries : List (String × α)}
    (all : ∀ entry ∈ entries, fine ⟨Text.trimString entry.1, entry.2⟩) :
    ∀ entry ∈ (ofList entries).entries, fine entry :=
  forall_insertAll fine all (List.forall_mem_nil _)

end Forall

/-- A key keeps its place, and a new one goes behind all others. -/
theorem keys_put (entry : Entry α) (entries : List (Entry α)) :
    (put entry entries).map Entry.key = if entry.key ∈ entries.map Entry.key then entries.map Entry.key
      else entries.map Entry.key ++ [entry.key] := by
  induction entries with
  | nil => rw [put, List.map_nil, if_neg List.not_mem_nil, List.nil_append, List.map_singleton]
  | cons first rest ih =>
    rw [put, List.map_cons]
    by_cases same : first.key = entry.key
    · rw [if_pos same, if_pos (same ▸ List.mem_cons_self), List.map_cons, same]
    · rw [if_neg same, List.map_cons, ih]
      by_cases later : entry.key ∈ rest.map Entry.key
      · rw [if_pos later, if_pos (List.mem_cons_of_mem _ later)]
      · rw [if_neg later, if_neg (List.not_mem_cons_of_ne_of_not_mem (Ne.symm same) later), List.cons_append]

/-- No two entries have the same key. -/
def Distinct (register : Register α) : Prop := (register.entries.map Entry.key).Nodup

/-- Registration keeps the keys apart. -/
theorem nodup_put {entry : Entry α} {entries : List (Entry α)}
    (distinct : (entries.map Entry.key).Nodup) : ((put entry entries).map Entry.key).Nodup := by
  rw [keys_put]
  split
  · exact distinct
  · next absent => exact List.concat_eq_append ▸ distinct.concat absent

theorem distinct_insertAll {register : Register α} (distinct : register.Distinct)
    (history : List (String × α)) : (register.insertAll history).Distinct := by
  induction history generalizing register with
  | nil => exact distinct
  | cons first rest ih => exact ih (nodup_put distinct)

/-- However objects are registered, no two entries share a key. -/
theorem distinct_ofList (entries : List (String × α)) : (ofList entries).Distinct :=
  distinct_insertAll (show empty.Distinct from List.nodup_nil) entries

/-- Blanks around a text do not matter to what is found under it. -/
theorem find?_trim (register : Register α) (text : List Char) :
    register.find? (Text.trim text) = register.find? text := by
  rw [find?, find?, nameKey_trim]

/-- A registration changes what is found under its own key and under no other. -/
theorem find?_put (entry : Entry α) (entries : List (Entry α)) (key : List Char) :
    ((put entry entries).find? fun other => other.key == key) =
      if entry.key = key then some entry else entries.find? fun other => other.key == key := by
  induction entries with
  | nil => simp only [put, List.find?_singleton, List.find?_nil, beq_iff_eq]
  | cons first rest ih =>
    rw [put]
    by_cases same : first.key = entry.key
    · rw [if_pos same, List.find?_cons, List.find?_cons, same]
      by_cases wanted : entry.key = key
      · rw [if_pos wanted, beq_iff_eq.mpr wanted]
      · rw [if_neg wanted, beq_eq_false_iff_ne.mpr wanted]
    · rw [if_neg same, List.find?_cons, List.find?_cons, ih]
      by_cases wanted : entry.key = key
      · rw [if_pos wanted, if_pos wanted, beq_eq_false_iff_ne.mpr fun other => same (other.trans wanted.symm)]
      · rw [if_neg wanted, if_neg wanted]

/-- What was registered last under a name is found under it, and other names find what they found before. -/
theorem find?_insert (register : Register α) (name : String) (item : α) (text : List Char) :
    (register.insert name item).find? text =
      if nameKey name.toList = nameKey text then some item else register.find? text := by
  rw [insert, find?, find?_put, Entry.key_mk]
  split
  · rfl
  · rfl

theorem find?_eq_none_iff {register : Register α} {text : List Char} :
    register.find? text = none ↔ ∀ entry ∈ register.entries, entry.key ≠ nameKey text := by
  rw [find?, Option.map_eq_none_iff, List.find?_eq_none]
  exact forall₂_congr fun entry _ => not_congr beq_iff_eq

variable {register : Register α} {item : α} {name : String}

/-- The entry of a key is the only one with that key. -/
theorem find?_key_of_mem (distinct : register.Distinct) {entry : Entry α} (member : entry ∈ register.entries) :
    (register.entries.find? fun other => other.key == entry.key) = some entry := by
  cases found : register.entries.find? fun other => other.key == entry.key with
  | none => exact absurd BEq.rfl (List.find?_eq_none.mp found entry member)
  | some other =>
    have same := List.find?_some found
    rw [beq_iff_eq] at same
    rw [List.inj_on_of_nodup_map distinct (List.mem_of_find?_eq_some found) member same]

/-- An object is found under each of its names. -/
theorem find?_of_mem (distinct : register.Distinct) {entry : Entry α} (member : entry ∈ register.entries) :
    register.find? entry.name.toList = some entry.item := by
  have here := find?_key_of_mem distinct member
  rw [find?, ← Entry.key, here, Option.map_some]

variable [DecidableEq α]

/-- A name by which an object is called is that of an entry with the object. -/
theorem exists_entry_of_nameOf? (named : register.nameOf? item = some name) :
    ∃ entry ∈ register.entries, entry.item = item ∧ entry.name = name := by
  obtain ⟨entry, found, same⟩ := Option.map_eq_some_iff.mp named
  have place := List.find?_some found
  exact ⟨entry, List.mem_of_find?_eq_some found, beq_iff_eq.mp place, same⟩

/-- An object is found under the name that it is called by. -/
theorem find?_of_nameOf? (distinct : register.Distinct) (named : register.nameOf? item = some name) :
    register.find? name.toList = some item := by
  obtain ⟨entry, member, rfl, rfl⟩ := exists_entry_of_nameOf? named
  exact find?_of_mem distinct member

end Register

end Reckoner
