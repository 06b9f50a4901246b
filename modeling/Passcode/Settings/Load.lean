import Passcode.Settings.Basic
import Passcode.Settings.Dotenv
import Passcode.Web.Url

/-!
Loading settings from the variables of the process and two files: that of the environment, and
`.env`. A variable that is set already is never set again, so the process comes first and the common
file last. How files and URLs are written is handed in.
-/

set_option autoImplicit false

namespace Passcode.Settings

/-- Variables that are set, each once. No variable can hold a NUL; the values of files are taken to
be free of it too. -/
abbrev Variables := List (String × String)

def Variables.value? (vars : Variables) : Lookup :=
  fun name => vars.lookup name

abbrev Files := List (String × String)

inductive LoadError where
  | noProvider
  | malformedUrl (url : String)
  | unsupportedScheme (scheme : String)
  | malformedFile (name : String)
  deriving DecidableEq, Repr

namespace LoadError

/-- The settings themselves are at fault, not the form of a file or a URL. -/
def isConfiguration : LoadError → Bool
  | noProvider | unsupportedScheme _ => true
  | malformedUrl _ | malformedFile _ => false

def detail : LoadError → String
  | noProvider => "OTP_PROVIDER must not be empty"
  | malformedUrl url => "invalid OTP_API_BASE_URL: " ++ url
  | unsupportedScheme scheme => "OTP_API_BASE_URL must use http or https, got " ++ scheme
  | malformedFile name => "failed to load " ++ name

def message (e : LoadError) : String :=
  (if e.isConfiguration then "Configuration error: " else "Infrastructure error: ") ++ e.detail

end LoadError

/-- What is made of the texts that others wrote. -/
structure Formats where
  /-- The assignments of a file in their order, unless it is malformed. -/
  file? : String → Option (List Dotenv.Assignment)
  /-- The scheme of an absolute URL. -/
  scheme? : String → Option String

def Formats.standard : Formats where
  file? := Dotenv.parse?
  scheme? url := (Web.Url.parse? url).map Web.Url.scheme

/-! ### Validation -/

variable (formats : Formats)

def checkUrl (url : String) : Except LoadError Unit :=
  match formats.scheme? url with
  | none => .error (.malformedUrl url)
  | some scheme =>
    if scheme = "http" ∨ scheme = "https" then .ok () else .error (.unsupportedScheme scheme)

/-- Refuses settings that no service can work with. -/
def Client.check (c : Client) : Except LoadError Unit :=
  if Text.showsNothing c.provider then .error .noProvider
  else if c.provider = "http" then checkUrl formats c.baseUrl
  else .ok ()

/-! ### Files -/

/-- The text of a value; a variable that is not set stands for nothing. -/
def expand (vars : Variables) (value : List Dotenv.Part) : String :=
  String.ofList <| value.flatMap fun
    | .char c => [c]
    | .variable name => ((vars.value? (String.ofList name)).getD "").toList

/-- Sets a variable unless it is set already. -/
def assign (vars : Variables) (a : Dotenv.Assignment) : Variables :=
  if (vars.value? a.name).isSome then vars else vars ++ [(a.name, expand vars a.value)]

def loadFile (files : Files) (vars : Variables) (name : String) : Except LoadError Variables :=
  match files.lookup name with
  | none => .ok vars
  | some text =>
    match formats.file? text with
    | none => .error (.malformedFile name)
    | some assignments => .ok (assignments.foldl assign vars)

def commonFile : String := ".env"

/-- The variables of the process and of both files. The process alone decides which file belongs to
the environment. -/
def layers (files : Files) (process : Variables) : Except LoadError Variables := do
  let vars ← loadFile formats files process (Environment.ofVars process.value?).fileName
  loadFile formats files vars commonFile

def load (files : Files) (process : Variables) : Except LoadError Settings := do
  let vars ← layers formats files process
  let settings := Settings.ofVars vars.value?
  settings.client.check formats
  return settings

end Passcode.Settings
