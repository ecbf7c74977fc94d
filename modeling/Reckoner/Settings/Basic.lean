import Reckoner.Engine.Library
import Reckoner.Value.Temporal

/-! # Settings

A dialect and a list of variables, as they are declared outside of the program. Settings become an
engine only if the dialect can be used: an engine is made of the standard library, the dialect and
the variables in the order of their declaration.
-/

namespace Reckoner

structure VariableSetting where
  name : String
  pointer : String
  kind : Kind

/-- A dialect and declared variables, no two of which have the same name. -/
structure Settings where
  dialect : Dialect
  inputs : List VariableSetting

/-- Why there are no settings, or none that can be used. -/
inductive SettingsError where
  | malformedToml
  | malformedJson
  | radix (radix : Nat)
  | blockDelimiters (delimiter : Char)
  | functionDelimiters (delimiter : Char)
  | stringDelimiter (delimiter : Char)
  | separator (delimiter : Char)
  | emptySpelling (what : String)
  | pattern (pattern : String)
  | namelessVariable

namespace SettingsError

/-- What is wrong with settings that can be read. -/
def detail : SettingsError → String
  | malformedToml | malformedJson => "malformed document"
  | radix n => "radix " ++ String.ofList (Numeral.ofNat 10 n) ++ " is outside 2..=36"
  | blockDelimiters delimiter => "block delimiters are both '" ++ delimiter.toString ++ "'"
  | functionDelimiters delimiter => "function delimiters are both '" ++ delimiter.toString ++ "'"
  | stringDelimiter delimiter =>
    "string delimiter '" ++ delimiter.toString ++ "' is also a nesting delimiter"
  | separator delimiter => "separator '" ++ delimiter.toString ++ "' is also a delimiter"
  | emptySpelling what => what ++ " literal is empty"
  | pattern text => "unusable date pattern \"" ++ text ++ "\""
  | namelessVariable => "variable with an empty name"

def message (error : SettingsError) : String :=
  match error with
  | malformedToml => "Invalid TOML configuration: " ++ error.detail
  | malformedJson => "Invalid JSON configuration: " ++ error.detail
  | _ => "Invalid configuration: " ++ error.detail

end SettingsError

namespace Dialect

def nestingDelimiters (dialect : Dialect) : List Char :=
  [dialect.blockOpen, dialect.blockClose, dialect.functionOpen, dialect.functionClose]

def isBlankText (text : String) : Bool := (Text.trim text.toList).isEmpty

/-- The first reason for which a dialect cannot be used. -/
def flaw? (dialect : Dialect) : Option SettingsError :=
  if dialect.radix < 2 ∨ 36 < dialect.radix then some (.radix dialect.radix)
  else if dialect.blockOpen = dialect.blockClose then some (.blockDelimiters dialect.blockOpen)
  else if dialect.functionOpen = dialect.functionClose then
    some (.functionDelimiters dialect.functionOpen)
  else if dialect.stringOpen ∈ dialect.nestingDelimiters then
    some (.stringDelimiter dialect.stringOpen)
  else if dialect.stringClose ∈ dialect.nestingDelimiters then
    some (.stringDelimiter dialect.stringClose)
  else if dialect.separator ∈ dialect.nestingDelimiters ∨
      dialect.separator = dialect.stringOpen ∨ dialect.separator = dialect.stringClose then
    some (.separator dialect.separator)
  else if isBlankText dialect.nullSpelling then some (.emptySpelling "null")
  else if isBlankText dialect.trueSpelling then some (.emptySpelling "true")
  else if isBlankText dialect.falseSpelling then some (.emptySpelling "false")
  else ([dialect.datePattern, dialect.timePattern, dialect.momentPattern].find? fun pattern =>
    !Value.isPattern pattern).map .pattern

/-- The dialect itself if it can be used. -/
def checked (dialect : Dialect) : Except SettingsError Dialect :=
  match dialect.flaw? with
  | some flaw => .error flaw
  | none => .ok dialect

end Dialect

namespace Settings

/-- The standard dialect and no variables. -/
def standard : Settings := ⟨Dialect.standard, []⟩

/-- The engine with further variables, tagged from `tag` on. -/
def register (tag : Tag) (engine : Engine) :
    List VariableSetting → Except SettingsError Engine
  | [] => .ok engine
  | setting :: rest =>
    if Dialect.isBlankText setting.name then .error .namelessVariable
    else register (tag + 1)
      (engine.addVariable setting.name ⟨tag, setting.pointer, setting.kind⟩) rest

/-- The engine that the settings describe, its objects tagged from `base` on. -/
def engine (settings : Settings) (base : Tag) (now : DateTime) : Except SettingsError Engine := do
  let dialect ← settings.dialect.checked
  register (base + Library.size) { Engine.standard base now with dialect := dialect }
    settings.inputs

def size (settings : Settings) : Nat := Library.size + settings.inputs.length

end Settings

end Reckoner
