import Reckoner.Engine.Library
import Reckoner.Proofs.Register
import Mathlib.Data.List.Induction

/-! # Histories of registrations

An engine is built by registrations, and what it holds in the end is told by their history. A name finds what
was registered last under its key. The keys stand where they first appeared, each with the spelling and the
object of its last registration, and operators stand in the order in which they were added. The standard
engine has a history of its own, which any other goes behind.
-/

namespace Reckoner

namespace Register

variable {α : Type}

/-- What a history registered last under a key. -/
def latest? (history : List (String × α)) (key : List Char) : Option (String × α) :=
  history.reverse.find? fun registered => nameKey registered.1.toList == key

/-- The keys of a history, each where it first appeared. -/
def firstKeys (history : List (String × α)) : List (List Char) :=
  (history.map fun registered => nameKey registered.1.toList).eraseDups

def entryOf (registered : String × α) : Entry α := ⟨Text.trimString registered.1, registered.2⟩

/-- What a register is bound to hold after a history of registrations. -/
structure Records [DecidableEq α] (register : Register α) (history : List (String × α)) : Prop where
  /-- A name finds the object that was registered last under its key. -/
  find : ∀ text, register.find? text = (latest? history (nameKey text)).map Prod.snd
  /-- The keys keep their first places and take their last spellings and objects. -/
  entries : register.entries =
    (firstKeys history).filterMap fun key => (latest? history key).map entryOf
  /-- An object is called by the earliest entry that holds it. -/
  called : ∀ item name, register.nameOf? item = some name ↔
    ∃ earlier entry later, register.entries = earlier ++ entry :: later ∧ entry.item = item ∧
      entry.name = name ∧ ∀ other ∈ earlier, other.item ≠ item
  /-- An object without a name is held by no entry. -/
  uncalled : ∀ item, register.nameOf? item = none ↔ ∀ entry ∈ register.entries, entry.item ≠ item
  /-- The name of an object finds the object. -/
  found : ∀ item name, register.nameOf? item = some name → register.find? name.toList = some item

theorem entries_concat (earlier : List (String × α)) (last : String × α) :
    (ofList (earlier ++ [last])).entries = put (entryOf last) (ofList earlier).entries :=
  congrArg entries (insertAll_concat empty earlier last)

/-- What is found under a key is what the history registered last under it. -/
theorem find?_entries_ofList (history : List (String × α)) (key : List Char) :
    ((ofList history).entries.find? fun entry => entry.key == key) = (latest? history key).map entryOf := by
  induction history using List.reverseRecOn with
  | nil => rfl
  | append_singleton earlier last ih =>
    rw [entries_concat, find?_put, ih, latest?, latest?, List.reverse_concat, List.find?_cons, entryOf, Entry.key_mk]
    by_cases wanted : nameKey last.1.toList = key
    · rw [if_pos wanted, beq_iff_eq.mpr wanted]
      rfl
    · rw [if_neg wanted, beq_eq_false_iff_ne.mpr wanted]

/-- The keys stand in the order in which the history first mentioned them. -/
theorem keys_ofList (history : List (String × α)) :
    (ofList history).entries.map Entry.key = firstKeys history := by
  induction history using List.reverseRecOn with
  | nil => rfl
  | append_singleton earlier last ih =>
    rw [entries_concat, keys_put, ih, entryOf, Entry.key_mk, firstKeys, firstKeys, List.map_append,
      List.eraseDups_append, List.map_singleton, List.cons_removeAll, List.nil_removeAll]
    simp only [List.mem_eraseDups]
    by_cases present : nameKey last.1.toList ∈ earlier.map fun registered => nameKey registered.1.toList
    · rw [if_pos present, if_neg (by simp only [List.contains_iff_mem.mpr present, Bool.true_eq_false,
        not_false_eq_true]), List.eraseDups_nil, List.append_nil]
    · rw [if_neg present, if_pos (by simpa only [List.contains_eq_mem, decide_eq_false_iff_not] using present)]
      rfl

/-- A register is what its history says, key by key. -/
theorem entries_ofList (history : List (String × α)) :
    (ofList history).entries =
      (firstKeys history).filterMap fun key => (latest? history key).map entryOf := by
  rw [← keys_ofList, List.filterMap_map]
  refine ((List.filterMap_congr fun entry member => ?_).trans List.filterMap_some).symm
  rw [Function.comp_apply, ← find?_entries_ofList]
  exact find?_key_of_mem (distinct_ofList history) member

/-- A register holds what it is bound to hold after its history. -/
theorem records_ofList [DecidableEq α] (history : List (String × α)) : (ofList history).Records history where
  find text := by
    rw [find?, find?_entries_ofList, Option.map_map]
    rfl
  entries := entries_ofList history
  called item name := by
    rw [nameOf?, Option.map_eq_some_iff]
    simp only [List.find?_eq_some_iff_append, beq_iff_eq, Bool.not_eq_true', beq_eq_false_iff_ne]
    constructor
    · rintro ⟨entry, ⟨held, earlier, later, split, others⟩, named⟩
      exact ⟨earlier, entry, later, split, held, named, others⟩
    · rintro ⟨earlier, entry, later, split, held, named, others⟩
      exact ⟨entry, ⟨held, earlier, later, split, others⟩, named⟩
  uncalled item := by
    rw [nameOf?, Option.map_eq_none_iff, List.find?_eq_none]
    simp only [beq_iff_eq, ne_eq]
  found item name := find?_of_nameOf? (distinct_ofList history)

theorem put_of_not_mem {entry : Entry α} {entries : List (Entry α)}
    (absent : entry.key ∉ entries.map Entry.key) : put entry entries = entries ++ [entry] := by
  induction entries with
  | nil => rfl
  | cons first rest ih =>
    rw [List.map_cons] at absent
    rw [put, if_neg (Ne.symm (List.ne_of_not_mem_cons absent)), ih (List.not_mem_of_not_mem_cons absent),
      List.cons_append]

theorem trimmed_ofList (history : List (String × α)) :
    ∀ entry ∈ (ofList history).entries, Text.trimString entry.name = entry.name :=
  forall_ofList _ fun registered _ => by
    rw [Text.trimString, Text.trimString, String.toList_ofList, Text.trim_trim]

/-- Entries with different keys and without outer blanks register to themselves. -/
theorem ofList_entries {register : Register α} (distinct : register.Distinct)
    (trimmed : ∀ entry ∈ register.entries, Text.trimString entry.name = entry.name) :
    ofList (register.entries.map fun entry => (entry.name, entry.item)) = register := by
  obtain ⟨entries⟩ := register
  have spread (done rest : List (Entry α)) (distinct : ((done ++ rest).map Entry.key).Nodup)
      (trimmed : ∀ entry ∈ rest, Text.trimString entry.name = entry.name) :
      insertAll ⟨done⟩ (rest.map fun entry => (entry.name, entry.item)) = ⟨done ++ rest⟩ := by
    induction rest generalizing done with
    | nil => rw [List.append_nil]; rfl
    | cons first rest ih =>
      obtain ⟨here, others⟩ := List.forall_mem_cons.mp trimmed
      have absent : first.key ∉ done.map Entry.key := by
        rw [List.map_append, List.map_cons] at distinct
        intro present
        exact (List.nodup_append.mp distinct).2.2 _ present _ List.mem_cons_self rfl
      have opened : insert ⟨done⟩ first.name first.item = ⟨done ++ [first]⟩ := by
        rw [insert, here]
        exact congrArg Register.mk (put_of_not_mem absent)
      have extended := ih (done ++ [first]) (by rwa [List.append_assoc]) others
      rw [List.append_assoc, List.singleton_append] at extended
      rw [← extended, ← opened]
      rfl
  exact spread [] entries distinct trimmed

end Register

/-- One registration: an object under a name, or an operator under a token. -/
inductive Registration where
  | constant (name : String) (item : Constant)
  | input (name : String) (item : Variable)
  | function (name : String) (item : Function)
  | operator (token : String) (item : Operator)

namespace Registration

def constant? : Registration → Option (String × Constant)
  | constant name item => some (name, item)
  | _ => none

def input? : Registration → Option (String × Variable)
  | input name item => some (name, item)
  | _ => none

def function? : Registration → Option (String × Function)
  | function name item => some (name, item)
  | _ => none

def operator? : Registration → Option OperatorEntry
  | operator token item => some ⟨token, item⟩
  | _ => none

end Registration

def Library.registrations (base : Tag) (now : DateTime) : List Registration :=
  (constants base).entries.map (fun entry => .constant entry.name entry.item) ++
    (operators base).map (fun entry => .operator entry.token entry.operator) ++
    (functions base now).entries.map fun entry => .function entry.name entry.item

namespace Engine

def register (engine : Engine) : Registration → Engine
  | .constant name item => engine.addConstant name item
  | .input name item => engine.addVariable name item
  | .function name item => engine.addFunction name item
  | .operator token item => engine.addOperator token item

def run (engine : Engine) (history : List Registration) : Engine := history.foldl register engine

/-- Two histories one after the other are one history. -/
theorem run_append (engine : Engine) (earlier later : List Registration) :
    engine.run (earlier ++ later) = (engine.run earlier).run later :=
  List.foldl_append

/-- What an engine is bound to hold after a history of registrations that began with nothing. -/
structure Records (engine : Engine) (history : List Registration) : Prop where
  dialect : engine.dialect = Dialect.standard
  constants : engine.constants.Records (history.filterMap Registration.constant?)
  inputs : engine.inputs.Records (history.filterMap Registration.input?)
  functions : engine.functions.Records (history.filterMap Registration.function?)
  operators : engine.operators = history.filterMap Registration.operator?
  /-- The position of an operator is the least one that holds it. -/
  placed : ∀ item position, engine.positionOf? item = some position ↔
    ∃ inside : position < engine.operators.length, engine.operators[position].operator = item ∧
      ∀ earlier (before : earlier < position), engine.operators[earlier].operator ≠ item
  /-- An operator without a position is held nowhere. -/
  unplaced : ∀ item, engine.positionOf? item = none ↔ ∀ entry ∈ engine.operators, entry.operator ≠ item

/-- Every table goes through its own registrations, whatever is registered elsewhere in between. -/
theorem run_eq (engine : Engine) (history : List Registration) :
    engine.run history =
      ⟨engine.dialect, engine.constants.insertAll (history.filterMap Registration.constant?),
        engine.inputs.insertAll (history.filterMap Registration.input?),
        engine.functions.insertAll (history.filterMap Registration.function?),
        engine.operators ++ history.filterMap Registration.operator?⟩ := by
  induction history generalizing engine with
  | nil => simp only [List.filterMap_nil, List.append_nil]; rfl
  | cons first rest ih =>
    rw [run, List.foldl_cons, ← run, ih]
    cases first with
    | constant name item => rfl
    | input name item => rfl
    | function name item => rfl
    | operator token item => rw [register, addOperator, List.append_assoc]; rfl

/-- The standard engine is built from nothing. -/
theorem run_registrations (base : Tag) (now : DateTime) :
    empty.run (Library.registrations base now) = standard base now := by
  have constants : Register.ofList ((Library.constants base).entries.map fun entry =>
      (entry.name, entry.item)) = Library.constants base :=
    Register.ofList_entries (Register.distinct_ofList _) (Register.trimmed_ofList _)
  have functions : Register.ofList ((Library.functions base now).entries.map fun entry =>
      (entry.name, entry.item)) = Library.functions base now :=
    Register.ofList_entries (Register.distinct_ofList _) (Register.trimmed_ofList _)
  rw [run_eq, standard, ← constants, ← functions]
  simp only [Library.registrations, List.filterMap_append, List.filterMap_map, Function.comp_def,
    Registration.constant?, Registration.input?, Registration.function?, Registration.operator?,
    List.filterMap_eq_map', List.filterMap_none, List.append_nil, List.nil_append, List.map_id_fun', id_eq]
  rfl

/-- An engine holds what it is bound to hold after its history. -/
theorem records_run (history : List Registration) : (empty.run history).Records history where
  dialect := by rw [run_eq]; rfl
  constants := by rw [run_eq]; exact Register.records_ofList _
  inputs := by rw [run_eq]; exact Register.records_ofList _
  functions := by rw [run_eq]; exact Register.records_ofList _
  operators := by rw [run_eq]; rfl
  placed item position := by
    rw [positionOf?, List.findIdx?_eq_some_iff_getElem]
    simp only [beq_iff_eq, ne_eq]
  unplaced item := by
    rw [positionOf?, List.findIdx?_eq_none_iff]
    simp only [beq_eq_false_iff_ne]

/-- From nothing as from the standard engine, every history of registrations leaves what it records: the last
object of each name at the first place of its key, names that lead back to their objects, and operators at
their least positions. No table is touched by what is registered elsewhere. -/
theorem run_records (base : Tag) (now : DateTime) (history : List Registration) :
    (empty.run history).Records history ∧
      ((standard base now).run history).Records (Library.registrations base now ++ history) ∧
      ∀ engine : Engine, engine.run history =
        ⟨engine.dialect, engine.constants.insertAll (history.filterMap Registration.constant?),
          engine.inputs.insertAll (history.filterMap Registration.input?),
          engine.functions.insertAll (history.filterMap Registration.function?),
          engine.operators ++ history.filterMap Registration.operator?⟩ := by
  refine ⟨records_run history, ?_, fun engine => run_eq engine history⟩
  rw [← run_registrations, ← run_append]
  exact records_run _

/-- A constant that is registered again in other letters is found and called by its last registration. -/
example :
    let engine := empty.run [.constant "Answer" ⟨0, .boolean, .boolean false⟩,
      .constant "ANSWER" ⟨1, .boolean, .boolean true⟩]
    engine.constants.find? "answer".toList = some ⟨1, .boolean, .boolean true⟩ ∧
      engine.constants.nameOf? ⟨1, .boolean, .boolean true⟩ = some "ANSWER" ∧
      engine.constants.nameOf? ⟨0, .boolean, .boolean false⟩ = none := by
  decide

end Engine

end Reckoner
