import Reckoner.Json.Read
import Reckoner.Settings.Basic
import Reckoner.Toml.Read

/-! # Settings from documents

Settings are a table with the entries `syntax` and `variables`. Entries that are left out keep their
standard values and unknown entries mean nothing, but a known entry must be of its type and must not
occur twice. A table with fixed entries may also be given as the array of its values in order.
-/

namespace Reckoner

/-- The two notations for settings. -/
inductive Markup where
  | toml
  | json
deriving DecidableEq

namespace Settings

/-- How an entry of a table changes what is known of it. -/
abbrev Setter (α : Type) := Json → α → Option α

/-- A text of one character. -/
def character? : Json → Option Char
  | .string text => match text.toList with
    | [c] => some c
    | _ => none
  | _ => none

def text? : Json → Option String
  | .string text => some text
  | _ => none

/-- An integer of 32 bits without sign. -/
def word? : Json → Option Nat
  | .integer n => if 0 ≤ n ∧ n < 4294967296 then some n.toNat else none
  | _ => none

/-- What stands for nothing beside the name of a kind. -/
def isNothing (form : Markup) (document : Json) : Bool :=
  match form, document with
  | .json, .null => true
  | .toml, .array [] => true
  | .toml, .object [] => true
  | _, _ => false

/-- The name of a kind, alone or as the only entry of a table. -/
def kind? (form : Markup) : Json → Option Kind
  | .string name => Kind.ofName? name
  | .object [(name, content)] => if isNothing form content then Kind.ofName? name else none
  | _ => none

/-- The only value under this name; nothing if there is none, and no answer if there are two. -/
def only? (name : String) (members : List (String × Json)) : Option (Option Json) :=
  match members.filter fun member => member.1 == name with
  | [] => some none
  | [member] => some (some member.2)
  | _ => none

/-- What a table or an array says of the entries, which start from `start`. -/
def fill? {α : Type} (form : Markup) (entries : List (String × Setter α)) (start : α) :
    Json → Option α
  | .object members => entries.foldlM (fun done entry => do
      match ← only? entry.1 members with
      | some value => entry.2 value done
      | none => some done) start
  | .array items =>
    if form = .json ∧ entries.length < items.length then none
    else (entries.zip items).foldlM (fun done (entry, item) => entry.2 item done) start
  | _ => none

def settingCharacter (set : Char → Dialect → Dialect) : Setter Dialect := fun value dialect =>
  (character? value).map fun c => set c dialect

def settingText (set : String → Dialect → Dialect) : Setter Dialect := fun value dialect =>
  (text? value).map fun text => set text dialect

def dialectEntries : List (String × Setter Dialect) :=
  [("block_open", settingCharacter fun c dialect => { dialect with blockOpen := c }),
    ("block_close", settingCharacter fun c dialect => { dialect with blockClose := c }),
    ("string_open", settingCharacter fun c dialect => { dialect with stringOpen := c }),
    ("string_close", settingCharacter fun c dialect => { dialect with stringClose := c }),
    ("function_open", settingCharacter fun c dialect => { dialect with functionOpen := c }),
    ("function_close", settingCharacter fun c dialect => { dialect with functionClose := c }),
    ("separator", settingCharacter fun c dialect => { dialect with separator := c }),
    ("radix", fun value dialect => (word? value).map fun n => { dialect with radix := n }),
    ("null_literal", settingText fun text dialect => { dialect with nullSpelling := text }),
    ("true_literal", settingText fun text dialect => { dialect with trueSpelling := text }),
    ("false_literal", settingText fun text dialect => { dialect with falseSpelling := text }),
    ("date_pattern", settingText fun text dialect => { dialect with datePattern := text }),
    ("time_pattern", settingText fun text dialect => { dialect with timePattern := text }),
    ("datetime_pattern", settingText fun text dialect => { dialect with momentPattern := text })]

/-- The dialect with one entry changed, without regard to whether it can be used. -/
def set? (name : String) (value : Json) (dialect : Dialect) : Option Dialect := do
  (← dialectEntries.lookup name) value dialect

def variableEntries (form : Markup) :
    List (String × Setter (Option String × Option Kind)) :=
  [("pointer", fun value (_, kind) => (text? value).map fun text => (some text, kind)),
    ("type", fun value (pointer, _) => (kind? form value).map fun kind => (pointer, some kind))]

/-- A variable of this name. Both of its entries are needed. -/
def declaration? (form : Markup) (name : String) (document : Json) : Option VariableSetting := do
  let (pointer, kind) ← fill? form (variableEntries form) (none, none) document
  some ⟨name, ← pointer, ← kind⟩

/-- A variable put in place of the one with the same name, or behind all others. -/
def putVariable (setting : VariableSetting) : List VariableSetting → List VariableSetting
  | [] => [setting]
  | other :: rest =>
    if other.name = setting.name then setting :: rest else other :: putVariable setting rest

/-- The variables of a table. The last of those with the same name counts. -/
def declarations? (form : Markup) : Json → Option (List VariableSetting)
  | .object members => members.foldlM (fun done (name, document) =>
      (declaration? form name document).map fun setting => putVariable setting done) []
  | _ => none

def entries (form : Markup) : List (String × Setter Settings) :=
  [("syntax", fun value settings =>
      (fill? form dialectEntries Dialect.standard value).map fun dialect =>
        { settings with dialect := dialect }),
    ("variables", fun value settings =>
      (declarations? form value).map fun inputs => { settings with inputs := inputs })]

def ofDocument? (form : Markup) (document : Json) : Option Settings :=
  fill? form (entries form) standard document

def ofJson (text : String) : Except SettingsError Settings :=
  match (Json.read? text.toList).bind (ofDocument? .json) with
  | some settings => .ok settings
  | none => .error .malformedJson

def ofToml (text : String) : Except SettingsError Settings :=
  match (Toml.read? text.toList).bind (ofDocument? .toml) with
  | some settings => .ok settings
  | none => .error .malformedToml

end Settings

end Reckoner
