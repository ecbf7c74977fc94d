import Reckoner.Engine.Library
import Reckoner.Proofs.Reading
import Reckoner.Proofs.Source.Part

/-! # The culprit of a syntax error

A text that cannot be read is blamed on a part of it, and that part cannot be read either: reading it on
its own blames it again. Blame passes up unchanged through blocks, and of the candidates for an operation
or a call the first one with something to blame is remembered; where there is none the text itself is the
culprit. So an error is empty only where nothing but blanks and the delimiters of blocks is left to read.

None of this depends on what operators and functions mean, nor on what is read as a literal, so that dates
may be written in any form whatever. It is stated for capabilities of any kind, over expressions of any
kind, of which those of an engine are one instance.
-/

namespace Reckoner

namespace Except

variable {ε α β : Type} {items : List α} {step stepToo : α → Except ε β}

theorem mapM_congr (same : ∀ item ∈ items, step item = stepToo item) :
    items.mapM step = items.mapM stepToo := by
  induction items with
  | nil => rfl
  | cons item rest ih =>
    obtain ⟨here, others⟩ := List.forall_mem_cons.mp same
    rw [List.mapM_cons, List.mapM_cons, here, ih others]

/-- A list of steps fails as one of the steps does. -/
theorem exists_of_mapM_eq_error {error : ε} (failed : items.mapM step = .error error) :
    ∃ item ∈ items, step item = .error error := by
  induction items with
  | nil => cases failed
  | cons item rest ih =>
    rw [List.mapM_cons, bind_eq_error_iff] at failed
    rcases failed with here | ⟨value, -, later⟩
    · exact ⟨item, List.mem_cons_self, here⟩
    · rcases bind_eq_error_iff.mp later with others | ⟨values, -, done⟩
      · obtain ⟨culprit, member, failed⟩ := ih others
        exact ⟨culprit, List.mem_cons_of_mem _ member, failed⟩
      · cases done

end Except

/-- Taking away blanks at the ends and the delimiters of a block around the rest, again and again, leaves
nothing of the text. -/
inductive Dialect.Hollow (dialect : Dialect) : List Char → Prop
  | blank {text : List Char} (nothing : Text.trim text = []) : Hollow dialect text
  | block {text inner : List Char}
    (enclosed : dialect.enclosed? dialect.blockOpen dialect.blockClose (Text.trim text) = some inner)
    (hollow : Hollow dialect inner) : Hollow dialect text

/-- A reader blames a text rightly: on a part of it that the reader blames on itself, and on nothing at all
only if there is nothing to read. -/
structure Blames {α : Type} (dialect : Dialect) (read : List Char → Except SyntaxError α)
    (text : List Char) (error : SyntaxError) : Prop where
  part : error.fragment <:+: text
  again : read error.fragment = .error error
  hollow : error.fragment = [] → dialect.Hollow text

/-- One way to take a text apart: the fragments to be read, and what their readings make if they suit. -/
structure Candidate (α : Type) where
  parts : List (List Char)
  make : List α → Option α

/-- An operator of any meaning. It is written like that of the entry, with the entry's token; what it makes
of its operands, if it accepts them, is up to it. -/
structure Capability (α : Type) where
  entry : OperatorEntry
  make : List α → Option α

/-- A dialect with capabilities over any kind of expressions. The dialect gives the delimiters; which texts
are literals is up to the capabilities. -/
structure Capabilities (α : Type) where
  dialect : Dialect
  named? : List Char → Option α
  operators : List (Capability α)
  function? : List Char → Option (List α → Option α)
  block : α → α
  literal? : List Char → Option α

/-- What the first candidate makes whose fragments can be read and suit, or the error to report. -/
def firstMade {α : Type} (read : List Char → Except SyntaxError α) (remembered : Option SyntaxError) :
    List (Candidate α) → Except (Option SyntaxError) α
  | [] => .error remembered
  | candidate :: rest =>
    match candidate.parts.mapM read with
    | .error error => firstMade read (SyntaxError.remember remembered error) rest
    | .ok operands => match candidate.make operands with
      | some tree => .ok tree
      | none => firstMade read remembered rest

section Candidates

variable {α : Type} {read readToo : List Char → Except SyntaxError α} {candidates : List (Candidate α)}

/-- What candidates make depends on nothing but how their fragments are read. -/
theorem firstMade_congr (remembered : Option SyntaxError)
    (same : ∀ candidate ∈ candidates, ∀ part ∈ candidate.parts, read part = readToo part) :
    firstMade read remembered candidates = firstMade readToo remembered candidates := by
  induction candidates generalizing remembered with
  | nil => rfl
  | cons candidate rest ih =>
    obtain ⟨here, others⟩ := List.forall_mem_cons.mp same
    rw [firstMade, firstMade, Except.mapM_congr here]
    split
    · exact ih _ others
    · split
      · rfl
      · exact ih _ others

/-- Candidates behind others are tried with the error that those have left. -/
theorem firstMade_append (remembered : Option SyntaxError) (front back : List (Candidate α)) :
    firstMade read remembered (front ++ back) =
      match firstMade read remembered front with
      | .ok tree => .ok tree
      | .error reported => firstMade read reported back := by
  induction front generalizing remembered with
  | nil => rfl
  | cons candidate rest ih =>
    rw [List.cons_append, firstMade, firstMade]
    split
    · exact ih _
    · split
      · rfl
      · exact ih _

/-- What is remembered is the first error that names something. -/
theorem remember_eq_some {remembered : Option SyntaxError} {error reported : SyntaxError}
    (kept : SyntaxError.remember remembered error = some reported) :
    remembered = some reported ∨ error = reported ∧ error.fragment ≠ [] := by
  unfold SyntaxError.remember at kept
  cases remembered with
  | some other => exact .inl kept
  | none =>
    rw [Option.none_or] at kept
    split at kept
    · cases kept
    · next spelled =>
      exact .inr ⟨Option.some.inj kept, fun empty => spelled (List.isEmpty_iff.mpr empty)⟩

/-- An error that is reported was remembered before, or it is what a fragment of a candidate is blamed on,
and then it is not empty. -/
theorem blamed_of_firstMade {remembered : Option SyntaxError} {reported : SyntaxError}
    (failed : firstMade read remembered candidates = .error (some reported)) :
    remembered = some reported ∨ reported.fragment ≠ [] ∧
      ∃ candidate ∈ candidates, ∃ part ∈ candidate.parts, read part = .error reported := by
  have later {candidate : Candidate α} {rest : List (Candidate α)}
      (found : ∃ other ∈ rest, ∃ part ∈ other.parts, read part = .error reported) :
      ∃ other ∈ candidate :: rest, ∃ part ∈ other.parts, read part = .error reported := by
    obtain ⟨other, member, blamed⟩ := found
    exact ⟨other, List.mem_cons_of_mem _ member, blamed⟩
  induction candidates generalizing remembered with
  | nil => exact .inl (Except.error.inj failed)
  | cons candidate rest ih =>
    rw [firstMade] at failed
    split at failed
    · next error unread =>
      rcases ih failed with kept | ⟨spelled, found⟩
      · rcases remember_eq_some kept with before | ⟨rfl, spelled⟩
        · exact .inl before
        · obtain ⟨part, member, blamed⟩ := Except.exists_of_mapM_eq_error unread
          exact .inr ⟨spelled, candidate, List.mem_cons_self, part, member, blamed⟩
      · exact .inr ⟨spelled, later found⟩
    · split at failed
      · cases failed
      · rcases ih failed with before | ⟨spelled, found⟩
        · exact .inl before
        · exact .inr ⟨spelled, later found⟩

end Candidates

/-- The way in which an operator takes a text apart. -/
def Capability.candidate? {α : Type} (dialect : Dialect) (text : List Char) (operator : Capability α) :
    Option (Candidate α) :=
  (operator.entry.fragments? dialect text).map fun parts => ⟨parts, operator.make⟩

namespace Capabilities

variable {α : Type} {capabilities : Capabilities α} {text : List Char}

def call? (capabilities : Capabilities α) (text : List Char) : Option (Candidate α) := do
  let (name, interior) ← capabilities.dialect.call? text
  let make ← capabilities.function? name
  some ⟨capabilities.dialect.arguments interior, make⟩

/-- All ways to take a text apart, operators before the call. -/
def candidates (capabilities : Capabilities α) (text : List Char) : List (Candidate α) :=
  capabilities.operators.filterMap (Capability.candidate? capabilities.dialect text) ++
    (capabilities.call? text).toList

/-- The expression that a text without blanks at its ends spells, its fragments read by `read`. -/
def readTrimmed (capabilities : Capabilities α) (read : List Char → Except SyntaxError α)
    (text : List Char) : Except SyntaxError α :=
  match capabilities.dialect.enclosed? capabilities.dialect.blockOpen capabilities.dialect.blockClose
      text with
  | some inner => (read inner).map capabilities.block
  | none => match capabilities.named? text with
    | some tree => .ok tree
    | none => match firstMade read none (capabilities.candidates text) with
      | .ok tree => .ok tree
      | .error remembered => match capabilities.literal? text with
        | some tree => .ok tree
        | none => .error (remembered.getD ⟨text⟩)

/-- The expression that a text spells. Nothing but shorter texts is ever asked for. -/
def read (capabilities : Capabilities α) (text : List Char) : Except SyntaxError α :=
  capabilities.readTrimmed (fun part =>
    if part.length < (Text.trim text).length then read capabilities part else .error ⟨part⟩)
    (Text.trim text)
termination_by text.length
decreasing_by
  have trimmed := Text.length_trim_le text
  omega

/-- What a candidate asks for is a shorter part of the text. -/
theorem part_of_mem_candidates {candidate : Candidate α} {part : List Char}
    (member : candidate ∈ capabilities.candidates text) (among : part ∈ candidate.parts) :
    part.length < text.length ∧ part <:+: text := by
  rcases List.mem_append.mp member with operation | call
  · obtain ⟨operator, -, found⟩ := List.mem_filterMap.mp operation
    obtain ⟨parts, fragments, rfl⟩ := Option.map_eq_some_iff.mp found
    exact ⟨OperatorEntry.length_of_mem_fragments? fragments among,
      OperatorEntry.isInfix_of_mem_fragments? fragments among⟩
  · obtain ⟨⟨name, interior⟩, enclosed, found⟩ := Option.bind_eq_some_iff.mp (Option.mem_toList.mp call)
    obtain ⟨make, -, same⟩ := Option.bind_eq_some_iff.mp found
    obtain rfl := Option.some.inj same
    have shorter := Dialect.length_of_call? enclosed
    have atMost := Dialect.length_of_mem_arguments among
    exact ⟨by omega, (Dialect.isInfix_of_mem_arguments among).trans (Dialect.isInfix_of_call? enclosed)⟩

/-- Reading a text asks for shorter texts alone. -/
theorem readTrimmed_congr {read readToo : List Char → Except SyntaxError α}
    (same : ∀ part, part.length < text.length → read part = readToo part) :
    capabilities.readTrimmed read text = capabilities.readTrimmed readToo text := by
  have candidates : firstMade read none (capabilities.candidates text) =
      firstMade readToo none (capabilities.candidates text) :=
    firstMade_congr none fun candidate member part among =>
      same part (part_of_mem_candidates member among).1
  unfold readTrimmed
  rw [candidates]
  split
  · next inner enclosed => rw [same inner (Dialect.length_of_enclosed? enclosed)]
  · rfl

/-- The equation of reading, without the test on lengths by which it terminates. -/
theorem read_eq (capabilities : Capabilities α) (text : List Char) :
    capabilities.read text = capabilities.readTrimmed capabilities.read (Text.trim text) := by
  rw [read]
  apply readTrimmed_congr
  intro part shorter
  rw [if_pos shorter]

/-- Trimming makes no difference to what is read. -/
theorem read_trim (capabilities : Capabilities α) (text : List Char) :
    capabilities.read (Text.trim text) = capabilities.read text := by
  rw [read_eq, read_eq capabilities text, Text.trim_trim]

/-- A text without blanks at its ends that cannot be read is blamed as the inside of its block is, or as a
part that a candidate asks for, or on itself. -/
theorem blamed_of_readTrimmed {error : SyntaxError}
    (failed : capabilities.readTrimmed capabilities.read text = .error error) :
    (∃ inner, capabilities.dialect.enclosed? capabilities.dialect.blockOpen
        capabilities.dialect.blockClose text = some inner ∧ capabilities.read inner = .error error) ∨
      (error.fragment ≠ [] ∧ ∃ part, part.length < text.length ∧ part <:+: text ∧
        capabilities.read part = .error error) ∨
      error = ⟨text⟩ := by
  unfold readTrimmed at failed
  split at failed
  · next inner enclosed =>
    exact .inl ⟨inner, enclosed, Except.map_eq_error_iff.mp failed⟩
  · right
    split at failed
    · cases failed
    · split at failed
      · cases failed
      · next remembered reported =>
        split at failed
        · cases failed
        · cases remembered with
          | none => exact .inr (Except.error.inj failed).symm
          | some other =>
            obtain rfl := Except.error.inj failed
            rcases blamed_of_firstMade reported with before | ⟨spelled, candidate, member, part, among, blamed⟩
            · cases before
            · obtain ⟨shorter, within⟩ := part_of_mem_candidates member among
              exact .inl ⟨spelled, part, shorter, within, blamed⟩

/-- Whatever the capabilities are, a text that cannot be read is blamed rightly. -/
theorem blames_of_read {error : SyntaxError} (failed : capabilities.read text = .error error) :
    Blames capabilities.dialect capabilities.read text error := by
  induction length : text.length using Nat.strong_induction_on generalizing text with
  | _ n ih =>
    subst length
    have within := Text.trim_isInfix_self text
    have atMost := Text.length_trim_le text
    have trimmed := failed
    rw [read_eq] at trimmed
    rcases blamed_of_readTrimmed trimmed with
      ⟨inner, enclosed, blamed⟩ | ⟨spelled, part, shorter, below, blamed⟩ | rfl
    · have shorter := Dialect.length_of_enclosed? enclosed
      obtain ⟨here, again, hollow⟩ := ih inner.length (by omega) blamed rfl
      refine ⟨?_, again, fun empty => .block enclosed (hollow empty)⟩
      exact (here.trans (Dialect.isInfix_of_enclosed? enclosed)).trans within
    · obtain ⟨here, again, -⟩ := ih part.length (by omega) blamed rfl
      exact ⟨(here.trans below).trans within, again, fun empty => absurd empty spelled⟩
    · exact ⟨within, (read_trim capabilities text).trans failed, .blank⟩

end Capabilities

/-! ## The capabilities of an engine -/

/-- The entry's operator, which makes the operation over operands that it accepts. -/
def OperatorEntry.capability (entry : OperatorEntry) : Capability Tree where
  entry := entry
  make operands :=
    if entry.operator.accepts operands then some (.operation entry.operator operands) else none

def Function.making (function : Function) (operands : List Tree) : Option Tree :=
  if function.accepts operands then some (.call function operands) else none

namespace Engine

variable {engine : Engine} {text : List Char} {read : List Char → Except SyntaxError Tree}

/-- What the engine has registered, as capabilities over its expressions. -/
def capabilities (engine : Engine) : Capabilities Tree where
  dialect := engine.dialect
  named? := engine.named?
  operators := engine.operators.map OperatorEntry.capability
  function? name := (engine.functions.find? name).map Function.making
  block := .block
  literal? text := (engine.dialect.literal? text).map .ofValue

theorem parseAll_eq_mapM (parts : List (List Char)) :
    (parseAll parts fun part _ => read part) = parts.mapM read := by
  induction parts with
  | nil => rfl
  | cons part rest ih =>
    rw [parseAll, ih, List.mapM_cons]
    rfl

theorem parseOperands?_eq_map (entry : OperatorEntry) :
    engine.parseOperands? text (fun part _ => read part) entry =
      (entry.fragments? engine.dialect text).map fun parts => parts.mapM read := by
  unfold parseOperands?
  split
  · next parts fragments =>
    simp only [fragments, Option.map_some, parseAll_eq_mapM]
  · next none => simp only [none, Option.map_none]

/-- The operators of an engine are the first candidates for a text. -/
theorem firstOperation_eq_firstMade (entries : List OperatorEntry) (remembered : Option SyntaxError) :
    firstOperation (engine.parseOperands? text fun part _ => read part) remembered entries =
      firstMade read remembered ((entries.map OperatorEntry.capability).filterMap
        (Capability.candidate? engine.dialect text)) := by
  induction entries generalizing remembered with
  | nil => rfl
  | cons entry rest ih =>
    have candidate : entry.capability.candidate? engine.dialect text =
        (entry.fragments? engine.dialect text).map fun parts => ⟨parts, entry.capability.make⟩ := rfl
    rw [firstOperation, parseOperands?_eq_map, List.map_cons, List.filterMap_cons, candidate]
    cases entry.fragments? engine.dialect text with
    | none => exact ih remembered
    | some parts =>
      dsimp only [Option.map_some]
      rw [firstMade]
      dsimp only
      cases parts.mapM read with
      | error error => exact ih _
      | ok operands =>
        dsimp only [OperatorEntry.capability]
        split
        · rfl
        · exact ih remembered

theorem call?_capabilities : engine.capabilities.call? text =
    (engine.call? text).map fun call => ⟨call.2, call.1.making⟩ := by
  unfold Capabilities.call? Engine.call?
  change (engine.dialect.call? text).bind _ = ((engine.dialect.call? text).bind _).map _
  cases engine.dialect.call? text with
  | none => rfl
  | some enclosed =>
    obtain ⟨name, interior⟩ := enclosed
    change ((engine.functions.find? name).map Function.making).bind _ =
      ((engine.functions.find? name).bind _).map _
    cases engine.functions.find? name <;> rfl

/-- The call is the last candidate for a text. -/
theorem parseCall_eq_firstMade (remembered : Option SyntaxError) :
    engine.parseCall text (fun part _ => read part) remembered =
      firstMade read remembered (engine.capabilities.call? text).toList := by
  rw [call?_capabilities]
  unfold parseCall
  split
  · next function parts call =>
    simp only [call, Option.map_some, Option.toList_some, firstMade, parseAll_eq_mapM]
    cases parts.mapM read with
    | error error => rfl
    | ok operands =>
      dsimp only [Function.making]
      split <;> rfl
  · next none =>
    simp only [none, Option.map_none, Option.toList_none, firstMade]

theorem parseBlock?_eq_map : engine.parseBlock? text (fun part _ => read part) =
    (engine.dialect.enclosed? engine.dialect.blockOpen engine.dialect.blockClose text).map
      fun inner => (read inner).map Tree.block := by
  unfold parseBlock?
  split
  · next inner enclosed => simp only [enclosed, Option.map_some]
  · next none => simp only [none, Option.map_none]

/-- An engine reads a trimmed text as its capabilities do. -/
theorem parseTrimmed_eq_readTrimmed :
    engine.parseTrimmed text (fun part _ => read part) = engine.capabilities.readTrimmed read text := by
  have candidates : engine.capabilities.candidates text =
      (engine.operators.map OperatorEntry.capability).filterMap (Capability.candidate? engine.dialect text) ++
        (engine.capabilities.call? text).toList := rfl
  unfold parseTrimmed Capabilities.readTrimmed
  rw [candidates, firstMade_append, ← firstOperation_eq_firstMade, parseBlock?_eq_map]
  dsimp only [capabilities]
  cases engine.dialect.enclosed? engine.dialect.blockOpen engine.dialect.blockClose text with
  | some inner => rfl
  | none =>
    dsimp only [Option.map_none]
    cases engine.named? text with
    | some tree => rfl
    | none =>
      dsimp only
      cases firstOperation (engine.parseOperands? text fun part _ => read part) none engine.operators with
      | ok tree => rfl
      | error remembered =>
        dsimp only
        rw [parseCall_eq_firstMade]
        dsimp only [capabilities]
        cases firstMade read remembered _ with
        | ok tree => rfl
        | error reported =>
          cases written : engine.dialect.literal? text <;>
            simp only [parseLiteral, written, Option.map_none, Option.map_some]

/-- Reading with the engine's capabilities is what the engine does. -/
theorem read_capabilities (engine : Engine) (text : List Char) :
    engine.capabilities.read text = engine.parse text := by
  induction length : text.length using Nat.strong_induction_on generalizing text with
  | _ n ih =>
    subst length
    have atMost := Text.length_trim_le text
    rw [parse_eq, parseTrimmed_eq_readTrimmed, Capabilities.read_eq]
    apply Capabilities.readTrimmed_congr
    intro part shorter
    exact ih part.length (by omega) part rfl

/-- Every syntax error names a part of the text that is blamed on itself, and names nothing only if there is
nothing to read; for the capabilities of an engine as for any other ones, of which the former are a case. -/
theorem culprit_of_error :
    (∀ (engine : Engine) (text : List Char) (error : SyntaxError), engine.parse text = .error error →
      Blames engine.dialect engine.parse text error) ∧
    (∀ (α : Type) (capabilities : Capabilities α) (text : List Char) (error : SyntaxError),
      capabilities.read text = .error error →
        Blames capabilities.dialect capabilities.read text error) ∧
    ∀ (engine : Engine) (text : List Char), engine.capabilities.read text = engine.parse text := by
  refine ⟨fun engine text error failed => ?_, fun _ _ _ _ => Capabilities.blames_of_read,
    read_capabilities⟩
  rw [← read_capabilities] at failed
  obtain ⟨part, again, hollow⟩ := Capabilities.blames_of_read failed
  exact ⟨part, by rwa [← read_capabilities], hollow⟩

/-- An operand of an operand is the culprit of one text, and nothing is that of another. -/
theorem culprit_of_error_of_operand :
    let engine := standard 0 ⟨Date.epoch, Time.midnight⟩
    ("$$".toList <:+: "1 + 2 * $$".toList ∧ engine.parse "$$".toList = .error ⟨"$$".toList⟩) ∧
      Dialect.standard.Hollow "(( ) )".toList := by
  intro engine
  have unread (text fragment : List Char)
      (checked : (match engine.parse text with
        | .error error => decide (error.fragment = fragment)
        | .ok _ => false) = true) : engine.parse text = .error ⟨fragment⟩ := by
    split at checked
    · next error failed =>
      obtain rfl := of_decide_eq_true checked
      exact failed
    · cases checked
  constructor
  · obtain ⟨part, again, -⟩ := culprit_of_error.1 engine "1 + 2 * $$".toList ⟨"$$".toList⟩
      (unread _ _ (by decide +kernel))
    exact ⟨part, again⟩
  · exact (culprit_of_error.1 engine "(( ) )".toList ⟨[]⟩ (unread _ _ (by decide +kernel))).hollow rfl

end Engine

end Reckoner
