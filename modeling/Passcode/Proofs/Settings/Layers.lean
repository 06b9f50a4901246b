import Mathlib.Data.List.Basic
import Passcode.Proofs.Casing
import Passcode.Settings.Load

/-!
Loading settings is one lookup in three layers: the variables of the process, the file of the
environment that they name, and the common file. The variables are set one after the other, and the
settings are read when all are set; the layers say at once what is read then.
-/

set_option autoImplicit false

namespace Passcode.Settings

open Dotenv (Assignment Part)

/-! ### Layers -/

def resolve (known : Lookup) (value : List Part) : String :=
  String.ofList <| value.flatMap fun
    | .char c => [c]
    | .variable name => ((known (String.ofList name)).getD "").toList

/-- What is known once a variable has been set. What is known already is not set again. -/
def learn (known : Lookup) (a : Assignment) : Lookup :=
  fun name => (known name).or (if a.name = name then some (resolve known a.value) else none)

/-- The text that the first assignment of a name gives it. It may refer to what is known, and to
what is assigned before. -/
def firstText (known : Lookup) : List Assignment → Lookup
  | [], _ => none
  | a :: as, name =>
    if a.name = name then some (resolve known a.value) else firstText (learn known a) as name

def withFile (known : Lookup) (as : List Assignment) : Lookup :=
  fun name => (known name).or (firstText known as name)

/-- The process, the file of its environment and the common file, the first that has a name
deciding. -/
def layered (process : Lookup) (own common : List Assignment) : Lookup :=
  fun name => (process name).or
    ((firstText process own name).or (firstText (withFile process own) common name))

theorem withFile_nil (known : Lookup) : withFile known [] = known := by
  funext name
  exact Option.or_none

theorem withFile_cons (known : Lookup) (a : Assignment) (as : List Assignment) :
    withFile known (a :: as) = withFile (learn known a) as := by
  funext name
  simp only [withFile, learn, firstText]
  by_cases assigned : a.name = name
  · simp only [assigned, ↓reduceIte, Option.or_assoc, Option.some_or]
  · simp only [assigned, ↓reduceIte, Option.or_none]

theorem withFile_withFile (process : Lookup) (own common : List Assignment) :
    withFile (withFile process own) common = layered process own common := by
  funext name
  exact Option.or_assoc

/-! ### Literal values -/

/-- No value refers to another variable. -/
def Literal (as : List Assignment) : Prop :=
  ∀ a ∈ as, ∀ name, Part.variable name ∉ a.value

def literalText (as : List Assignment) : Lookup :=
  fun name => (as.find? (·.name == name)).map fun a => resolve (fun _ => none) a.value

theorem resolve_congr {known other : Lookup} {value : List Part}
    (same : ∀ name, Part.variable name ∈ value →
      known (String.ofList name) = other (String.ofList name)) :
    resolve known value = resolve other value := by
  refine congrArg String.ofList (List.flatMap_congr ?_)
  rintro (c | name) member
  · rfl
  · simp only [same name member]

theorem firstText_of_literal {as : List Assignment} (literal : Literal as) (known : Lookup) :
    firstText known as = literalText as := by
  funext name
  induction as generalizing known with
  | nil => rfl
  | cons a as ih =>
    have later := ih (fun b member => literal b (List.mem_cons_of_mem a member)) (learn known a)
    have plain : resolve known a.value = resolve (fun _ => none) a.value := by
      apply resolve_congr
      intro n member
      exact absurd member (literal a List.mem_cons_self n)
    rw [firstText, later, plain, literalText, literalText]
    by_cases assigned : a.name = name
    · simp [assigned]
    · simp [assigned]

/-! ### Variables are set one after the other -/

theorem value?_assign (vars : Variables) (a : Assignment) :
    (assign vars a).value? = learn vars.value? a := by
  funext name
  rw [assign]
  split
  · next set =>
    -- It is set already, so nothing is learnt about it.
    by_cases assigned : a.name = name
    · subst assigned
      obtain ⟨text, found⟩ := Option.isSome_iff_exists.mp set
      simp only [learn, found, Option.some_or]
    · simp only [learn, assigned, ↓reduceIte, Option.or_none]
  · rw [Variables.value?, List.lookup_append, learn]
    by_cases assigned : a.name = name
    · subst assigned
      simp only [List.lookup_cons_self, ↓reduceIte]
      rfl
    · have apart : (name == a.name) = false := by simp [Ne.symm assigned]
      simp only [List.lookup_cons, apart, List.lookup_nil, assigned, ↓reduceIte]
      rfl

theorem value?_foldl_assign (vars : Variables) (as : List Assignment) :
    (as.foldl assign vars).value? = withFile vars.value? as := by
  induction as generalizing vars with
  | nil => rw [List.foldl_nil, withFile_nil]
  | cons a as ih => rw [List.foldl_cons, ih, value?_assign, withFile_cons]

/-! ### Files -/

/-- The assignments of a file. A file that is missing has none; `none` if it is malformed. -/
def Files.assignments? (files : Files) (formats : Formats) (name : String) :
    Option (List Assignment) :=
  match files.lookup name with
  | none => some []
  | some text => formats.file? text

def ownFile (process : Variables) : String :=
  (Environment.ofVars process.value?).fileName

variable {formats : Formats}

theorem loadFile_of_assignments {files : Files} {name : String} {as : List Assignment}
    (read : files.assignments? formats name = some as) (vars : Variables) :
    loadFile formats files vars name = .ok (as.foldl assign vars) := by
  rw [Files.assignments?] at read
  rw [loadFile]
  cases found : files.lookup name with
  | none =>
    rw [found] at read
    obtain rfl := Option.some.inj read
    rfl
  | some text =>
    rw [found] at read
    have parsed : formats.file? text = some as := read
    simp only [parsed]

theorem loadFile_of_malformed {files : Files} {name : String}
    (malformed : files.assignments? formats name = none) (vars : Variables) :
    loadFile formats files vars name = .error (.malformedFile name) := by
  rw [Files.assignments?] at malformed
  rw [loadFile]
  cases found : files.lookup name with
  | none =>
    rw [found] at malformed
    cases malformed
  | some text =>
    rw [found] at malformed
    have unparsed : formats.file? text = none := malformed
    simp only [unparsed]

variable {files : Files} {process : Variables} {own common : List Assignment}

theorem load_of_assignments (ownRead : files.assignments? formats (ownFile process) = some own)
    (commonRead : files.assignments? formats commonFile = some common) :
    load formats files process =
      ((Settings.ofVars (layered process.value? own common)).client.check formats).map fun _ =>
        Settings.ofVars (layered process.value? own common) := by
  have first := loadFile_of_assignments ownRead process
  have second := loadFile_of_assignments commonRead (own.foldl assign process)
  have vars : (common.foldl assign (own.foldl assign process)).value? =
      layered process.value? own common := by
    rw [value?_foldl_assign, value?_foldl_assign, withFile_withFile]
  rw [ownFile] at first
  rw [load, layers, first]
  simp only [bind, Except.bind, second, vars]
  cases (Settings.ofVars (layered process.value? own common)).client.check formats with
  | error e => rfl
  | ok done => rfl

theorem load_of_malformed_own (malformed : files.assignments? formats (ownFile process) = none) :
    load formats files process = .error (.malformedFile (ownFile process)) := by
  have first := loadFile_of_malformed malformed process
  rw [ownFile] at first
  rw [load, layers, first]
  rfl

theorem load_of_malformed_common (ownRead : files.assignments? formats (ownFile process) = some own)
    (malformed : files.assignments? formats commonFile = none) :
    load formats files process = .error (.malformedFile commonFile) := by
  have first := loadFile_of_assignments ownRead process
  rw [ownFile] at first
  rw [load, layers, first]
  simp only [bind, Except.bind, loadFile_of_malformed malformed]

theorem load_cases (formats : Formats) (files : Files) (process : Variables) :
    (files.assignments? formats (ownFile process) = none ∧
      load formats files process = .error (.malformedFile (ownFile process))) ∨
    (∃ own, files.assignments? formats (ownFile process) = some own ∧
      files.assignments? formats commonFile = none ∧
      load formats files process = .error (.malformedFile commonFile)) ∨
    (∃ own common, files.assignments? formats (ownFile process) = some own ∧
      files.assignments? formats commonFile = some common ∧
      load formats files process =
        ((Settings.ofVars (layered process.value? own common)).client.check formats).map fun _ =>
          Settings.ofVars (layered process.value? own common)) := by
  cases ownRead : files.assignments? formats (ownFile process) with
  | none => exact Or.inl ⟨rfl, load_of_malformed_own ownRead⟩
  | some own =>
    cases commonRead : files.assignments? formats commonFile with
    | none =>
      exact Or.inr (Or.inl ⟨own, rfl, rfl, load_of_malformed_common ownRead commonRead⟩)
    | some common =>
      exact Or.inr (Or.inr ⟨own, common, rfl, rfl, load_of_assignments ownRead commonRead⟩)

theorem loadFile_congr {others : Files} {name : String}
    (same : others.lookup name = files.lookup name) (vars : Variables) :
    loadFile formats others vars name = loadFile formats files vars name := by
  rw [loadFile, loadFile, same]

theorem load_congr {others : Files}
    (ownSame : others.lookup (ownFile process) = files.lookup (ownFile process))
    (commonSame : others.lookup commonFile = files.lookup commonFile) :
    load formats others process = load formats files process := by
  have first : loadFile formats others process (ownFile process) =
      loadFile formats files process (ownFile process) := loadFile_congr ownSame process
  rw [ownFile] at first
  rw [load, load, layers, layers, first]
  simp only [loadFile_congr commonSame]

/-! ### The provider is never blank -/

theorem showsNothing_of_provider? {s provider : String}
    (found : Client.provider? s = some provider) : Text.showsNothing provider = false := by
  rw [Client.provider?, nonempty?] at found
  split at found
  · cases found
  · next nonempty =>
    obtain rfl := Option.some.inj found
    cases shown : Text.showsNothing s with
    | false => exact Text.showsNothing_lower (Text.showsNothing_trim shown)
    | true =>
      rw [Text.showsNothing_iff.mp shown] at nonempty
      exact absurd rfl nonempty

theorem showsNothing_provider_ofVars (known : Lookup) :
    Text.showsNothing (Client.ofVars known).provider = false := by
  have same : (Client.ofVars known).provider =
      ((known "OTP_PROVIDER").bind Client.provider?).getD "http" := rfl
  rw [same]
  cases given : (known "OTP_PROVIDER").bind Client.provider? with
  | none => decide
  | some provider =>
    obtain ⟨s, -, found⟩ := Option.bind_eq_some_iff.mp given
    exact showsNothing_of_provider? found

theorem check_ofVars_ne_noProvider (formats : Formats) (known : Lookup) :
    (Client.ofVars known).check formats ≠ .error .noProvider := by
  rw [Client.check, showsNothing_provider_ofVars]
  simp only [Bool.false_eq_true, ↓reduceIte]
  split
  · rw [checkUrl]
    split
    · simp
    · split
      · simp
      · simp
  · simp

/-! ### One lookup -/

/-- What is loaded in a process is what the layers say. -/
structure LoadsLayers (formats : Formats) (files : Files) (process : Variables) : Prop where
  accepted : ∀ settings, load formats files process = .ok settings ↔
    ∃ own common, files.assignments? formats (ownFile process) = some own ∧
      files.assignments? formats ".env" = some common ∧
      settings = Settings.ofVars (layered process.value? own common) ∧
      settings.client.check formats = .ok ()
  rejected : ∀ own common error, files.assignments? formats (ownFile process) = some own →
    files.assignments? formats ".env" = some common →
      (Settings.ofVars (layered process.value? own common)).client.check formats = .error error →
        load formats files process = .error error
  /-- Where no value refers to another variable, each layer has the texts as they are written. -/
  literal : ∀ own common, Literal own → Literal common → ∀ name,
    layered process.value? own common name =
      (process.value? name).or ((literalText own name).or (literalText common name))
  /-- A malformed file is reported whatever the settings are. -/
  malformedOwn : files.assignments? formats (ownFile process) = none →
    ∃ error, load formats files process = .error error ∧ error.isConfiguration = false ∧
      error.detail = "failed to load " ++ ownFile process
  malformedCommon : ∀ own, files.assignments? formats (ownFile process) = some own →
    files.assignments? formats ".env" = none →
      ∃ error, load formats files process = .error error ∧ error.isConfiguration = false ∧
        error.detail = "failed to load .env"
  /-- No other file is read. -/
  alone : ∀ others : Files, others.lookup (ownFile process) = files.lookup (ownFile process) →
    others.lookup ".env" = files.lookup ".env" → load formats others process = load formats files process
  provider : load formats files process ≠ .error .noProvider

private theorem map_eq_ok_iff {α : Type} {checked : Except LoadError Unit} {x y : α} :
    (checked.map fun _ => x) = .ok y ↔ y = x ∧ checked = .ok () := by
  cases checked with
  | error e => simp [Except.map]
  | ok done => simp [Except.map, eq_comm]

private theorem map_eq_error_iff {α : Type} {checked : Except LoadError Unit} {x : α}
    {e : LoadError} : (checked.map fun _ => x) = .error e ↔ checked = .error e := by
  cases checked with
  | error other => simp [Except.map]
  | ok done => simp [Except.map]

theorem load_eq_ok_iff {settings : Settings} : load formats files process = .ok settings ↔
    ∃ own common, files.assignments? formats (ownFile process) = some own ∧
      files.assignments? formats commonFile = some common ∧
      settings = Settings.ofVars (layered process.value? own common) ∧
      settings.client.check formats = .ok () := by
  constructor
  · intro loaded
    rcases load_cases formats files process with
      ⟨-, failed⟩ | ⟨own, -, -, failed⟩ | ⟨own, common, ownRead, commonRead, read⟩
    · rw [failed] at loaded
      cases loaded
    · rw [failed] at loaded
      cases loaded
    · rw [read, map_eq_ok_iff] at loaded
      obtain ⟨rfl, checked⟩ := loaded
      exact ⟨own, common, ownRead, commonRead, rfl, checked⟩
  · rintro ⟨own, common, ownRead, commonRead, rfl, checked⟩
    rw [load_of_assignments ownRead commonRead, map_eq_ok_iff]
    exact ⟨rfl, checked⟩

private theorem load_ne_noProvider : load formats files process ≠ .error .noProvider := by
  rcases load_cases formats files process with
    ⟨-, failed⟩ | ⟨own, -, -, failed⟩ | ⟨own, common, -, -, read⟩
  · simp [failed]
  · simp [failed]
  · rw [read, ne_eq, map_eq_error_iff]
    exact check_ofVars_ne_noProvider formats (layered process.value? own common)

/-- Loading is one lookup in layers, whatever the files and the variables of the process are, and
however files and URLs are read. -/
theorem load_is_layered_lookup (formats : Formats) (files : Files) (process : Variables) :
    LoadsLayers formats files process where
  accepted settings := load_eq_ok_iff
  rejected own common error ownRead commonRead checked := by
    rw [load_of_assignments ownRead commonRead, map_eq_error_iff]
    exact checked
  literal own common ownLiteral commonLiteral name := by
    rw [layered, firstText_of_literal ownLiteral, firstText_of_literal commonLiteral]
  malformedOwn malformed := ⟨_, load_of_malformed_own malformed, rfl, rfl⟩
  malformedCommon own ownRead malformed :=
    ⟨_, load_of_malformed_common ownRead malformed, rfl, rfl⟩
  alone others ownSame commonSame := load_congr ownSame commonSame
  provider := load_ne_noProvider

/-- A variable that is blank in the process still hides those of the files. -/
example :
    load .standard [(".env.staging", "LOG_LEVEL=trace\nOTP_PROVIDER=http\n")]
      [("ENV", "staging"), ("LOG_LEVEL", " "), ("OTP_PROVIDER", "mock")] =
        .ok ⟨.staging, { provider := "mock" }, ⟨"info", .json⟩⟩ := by
  decide +kernel

end Passcode.Settings
