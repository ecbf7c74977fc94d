import Reckoner.Reduction
import Reckoner.Settings.Decode
import Reckoner.Source.Format
import Reckoner.Source.Parse

/-! # The command line

One expression is evaluated, or reduced if so requested, under settings from a file and for a
document given as an argument. The outcome is one line of output, or one line that says what is
wrong. A document that cannot be read goes unnoticed when the expression is only reduced.
-/

namespace Reckoner

namespace CommandLine

/-- What the arguments ask for. -/
structure Request where
  settingsFile : Option String
  context : Option String
  reduces : Bool
  expression : String

inductive Failure where
  | noFileName
  | noDocument
  | unexpected (argument : String)
  | noExpression
  | file (name reason : String)
  | settings (error : SettingsError)
  | parsing (error : SyntaxError)
  | context
  | evaluation (error : EvalError)
  | formatting (error : FormatError)

namespace Failure

def message : Failure → String
  | noFileName => "--config needs a file name"
  | noDocument => "--context needs a JSON document"
  | unexpected argument => "Unexpected argument: " ++ argument
  | noExpression => "Missing expression."
  | file name reason => name ++ ": " ++ reason
  | settings error => error.message
  | parsing error => error.message
  | context => "Invalid context: malformed document"
  | evaluation error => error.message
  | formatting error => error.message

end Failure

/-- The request after more arguments. The last of repeated options counts; the first argument that
is no option is the expression. -/
def readArguments (file context : Option String) (reduces : Bool) (expression : Option String) :
    List String → Except Failure Request
  | [] => match expression with
    | some expression => .ok ⟨file, context, reduces, expression⟩
    | none => .error .noExpression
  | "--config" :: [] => .error .noFileName
  | "--config" :: name :: rest => readArguments (some name) context reduces expression rest
  | "--context" :: [] => .error .noDocument
  | "--context" :: document :: rest =>
    readArguments file (some document) reduces expression rest
  | "--reduce" :: rest => readArguments file context true expression rest
  | argument :: rest => match expression with
    | none => readArguments file context reduces (some argument) rest
    | some _ => .error (.unexpected argument)

def Request.ofArguments (arguments : List String) : Except Failure Request :=
  readArguments none none false none arguments

/-- An outcome with its error told as a failure. -/
def failing {ε α : Type} (failure : ε → Failure) (outcome : Except ε α) : Except Failure α :=
  outcome.mapError failure

/-- The settings in a file, whose name tells its notation. -/
def settingsIn (name text : String) : Except SettingsError Settings :=
  if name.endsWith ".json" then Settings.ofJson text else Settings.ofToml text

def engineFor (readFile : String → Except String String) (now : DateTime) (request : Request) :
    Except Failure Engine :=
  match request.settingsFile with
  | none => .ok (Engine.standard 0 now)
  | some name => do
    let text ← failing (.file name) (readFile name)
    let settings ← failing .settings (settingsIn name text)
    failing .settings (settings.engine 0 now)

/-- The document that a request gives, null if it gives none. -/
def documentFor (request : Request) : Except Failure Json :=
  match request.context with
  | none => .ok .null
  | some text => match Json.readSound? text.toList with
    | some document => .ok document
    | none => .error .context

def answer (readFile : String → Except String String) (now : DateTime) (request : Request) :
    Except Failure (List Char) := do
  let engine ← engineFor readFile now request
  let tree ← failing .parsing (engine.parse request.expression.toList)
  if request.reduces then failing .formatting (engine.format (engine.reduce tree))
  else
    let document ← documentFor request
    let value ← failing .evaluation (tree.outcome (some document))
    failing .formatting (engine.dialect.literalText value.kind value)

structure Outcome where
  succeeds : Bool
  output : String
  errors : String

/-- A run with these arguments, with files read by `readFile`, at the instant `now`. -/
def run (readFile : String → Except String String) (now : DateTime) (arguments : List String) :
    Outcome :=
  match Request.ofArguments arguments >>= answer readFile now with
  | .ok text => ⟨true, String.ofList text ++ "\n", ""⟩
  | .error failure => ⟨false, "", failure.message ++ "\n"⟩

end CommandLine

end Reckoner
