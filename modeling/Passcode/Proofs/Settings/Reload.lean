import Passcode.Proofs.Settings.Layers

/-!
Loading again. The environment that settings report is read once the files are, the file of the
environment is chosen before. Where the two agree, settings that are loaded again in the environment
they report are the same.
-/

set_option autoImplicit false

namespace Passcode.Settings

open Dotenv (Assignment Part)

/-! ### Lookups that agree -/

def AgreeOn (matters : String → Prop) (known other : Lookup) : Prop :=
  ∀ name, matters name → known name = other name

def RefersTo (matters : String → Prop) (as : List Assignment) : Prop :=
  ∀ a ∈ as, ∀ name, Part.variable name ∈ a.value → matters (String.ofList name)

variable {matters : String → Prop} {known other : Lookup} {as : List Assignment}

private theorem agreeOn_learn (agree : AgreeOn matters known other) {a : Assignment}
    (text : resolve known a.value = resolve other a.value) :
    AgreeOn matters (learn known a) (learn other a) := by
  intro name matter
  rw [learn, learn, agree name matter, text]

theorem firstText_congr (agree : AgreeOn matters known other) (refers : RefersTo matters as) :
    firstText known as = firstText other as := by
  funext name
  induction as generalizing known other with
  | nil => rfl
  | cons a as ih =>
    have text : resolve known a.value = resolve other a.value := by
      apply resolve_congr
      intro n member
      exact agree _ (refers a List.mem_cons_self n member)
    have later := ih (agreeOn_learn agree text)
      (fun b member => refers b (List.mem_cons_of_mem a member))
    rw [firstText, firstText, later, text]

theorem agreeOn_withFile (agree : AgreeOn matters known other) (refers : RefersTo matters as) :
    AgreeOn matters (withFile known as) (withFile other as) := by
  intro name matter
  rw [withFile, withFile, agree name matter, firstText_congr agree refers]

theorem agreeOn_layered {own common : List Assignment} (agree : AgreeOn matters known other)
    (ownRefers : RefersTo matters own) (commonRefers : RefersTo matters common) :
    AgreeOn matters (layered known own common) (layered other own common) := by
  rw [← withFile_withFile, ← withFile_withFile]
  exact agreeOn_withFile (agreeOn_withFile agree ownRefers) commonRefers

/-! ### The environment -/

theorem Environment.parse_name (e : Environment) : parse e.name = .ok e := by
  cases e with
  | development => decide
  | staging => decide
  | production => decide

theorem Environment.ofVars_of_name {e : Environment} (named : known "ENVIRONMENT" = some e.name) :
    ofVars known = e := by
  simp only [ofVars, variableNames, List.findSome?_cons, named, Option.map_some, parse_name]

theorem ofVars_congr (agree : AgreeOn (· ≠ "ENVIRONMENT") known other)
    (environment : Environment.ofVars known = Environment.ofVars other) :
    Settings.ofVars known = Settings.ofVars other := by
  have provider := agree "OTP_PROVIDER" (by decide)
  have baseUrl := agree "OTP_API_BASE_URL" (by decide)
  have timeout := agree "OTP_REQUEST_TIMEOUT_SECS" (by decide)
  have channels := agree "OTP_PREFERRED_CHANNELS" (by decide)
  have level := agree "LOG_LEVEL" (by decide)
  have format := agree "LOG_FORMAT" (by decide)
  simp only [Settings.ofVars, Client.ofVars, Logging.ofVars, environment, provider, baseUrl,
    timeout, channels, level, format]

/-! ### Loading in the environment that was reported -/

/-- The process with `ENVIRONMENT` set to the name of `e`. -/
def Variables.inEnvironment (process : Variables) (e : Environment) : Variables :=
  ("ENVIRONMENT", e.name) :: process

/-- Some value of the two files that are read refers to the variable. -/
def Files.Refer (files : Files) (formats : Formats) (process : Variables) (name : String) : Prop :=
  ∃ file ∈ [ownFile process, commonFile], ∃ as ∈ files.assignments? formats file, ∃ a ∈ as,
    Part.variable name.toList ∈ a.value

instance (files : Files) (formats : Formats) (process : Variables) (name : String) :
    Decidable (files.Refer formats process name) :=
  inferInstanceAs (Decidable (∃ file ∈ [ownFile process, commonFile],
    ∃ as ∈ files.assignments? formats file, ∃ a ∈ as, Part.variable name.toList ∈ a.value))

variable {formats : Formats} {files : Files} {process : Variables} {settings : Settings}

theorem value?_inEnvironment (process : Variables) (e : Environment) :
    (process.inEnvironment e).value? "ENVIRONMENT" = some e.name :=
  List.lookup_cons_self

theorem value?_inEnvironment_of_ne (process : Variables) (e : Environment) {name : String}
    (other : name ≠ "ENVIRONMENT") :
    (process.inEnvironment e).value? name = process.value? name := by
  have apart : (name == "ENVIRONMENT") = false := by simp [other]
  rw [Variables.value?, Variables.value?, Variables.inEnvironment, List.lookup_cons, apart]

theorem ownFile_inEnvironment (process : Variables) (e : Environment) :
    ownFile (process.inEnvironment e) = e.fileName := by
  rw [ownFile, Environment.ofVars_of_name (value?_inEnvironment process e)]

/-- What a process knows of the name stays when `ENVIRONMENT` is set to the name of `e`. -/
def Variables.Unaffected (process : Variables) (e : Environment) (name : String) : Prop :=
  name ≠ "ENVIRONMENT" ∨ process.value? "ENVIRONMENT" = some e.name

theorem agreeOn_inEnvironment (process : Variables) (e : Environment) :
    AgreeOn (process.Unaffected e) process.value? (process.inEnvironment e).value? := by
  intro name unaffected
  by_cases first : name = "ENVIRONMENT"
  · subst first
    rw [value?_inEnvironment]
    exact unaffected.resolve_left (not_not_intro rfl)
  · rw [value?_inEnvironment_of_ne process e first]

theorem refersTo_unaffected {e : Environment} {file : String} {as : List Assignment}
    (settled : files.Refer formats process "ENVIRONMENT" → process.value? "ENVIRONMENT" = some e.name)
    (consulted : file ∈ [ownFile process, commonFile])
    (read : files.assignments? formats file = some as) : RefersTo (process.Unaffected e) as := by
  intro a member name reference
  by_cases first : String.ofList name = "ENVIRONMENT"
  · right
    apply settled
    refine ⟨file, consulted, as, read, a, member, ?_⟩
    rw [← first, String.toList_ofList]
    exact reference
  · exact Or.inl first

/-- Settings come from the file of the environment they report, and loading them in that environment
gives the same, if the process alone names it; a value may refer to the name only where the process
sets it already. -/
theorem load_inEnvironment (loaded : load formats files process = .ok settings)
    (named : settings.environment = Environment.ofVars process.value?)
    (settled : files.Refer formats process "ENVIRONMENT" →
      process.value? "ENVIRONMENT" = some settings.environment.name) :
    ownFile process = settings.environment.fileName ∧
      load formats files (process.inEnvironment settings.environment) = .ok settings := by
  obtain ⟨own, common, ownRead, commonRead, same, checked⟩ := load_eq_ok_iff.mp loaded
  have consulted : ownFile process = settings.environment.fileName := by rw [ownFile, named]
  have sameFile : ownFile (process.inEnvironment settings.environment) = ownFile process := by
    rw [ownFile_inEnvironment, consulted]
  -- The same files are read, and in them nothing is known differently but `ENVIRONMENT` itself.
  have agree := agreeOn_layered (agreeOn_inEnvironment process settings.environment)
    (refersTo_unaffected settled (by simp) ownRead)
    (refersTo_unaffected settled (by simp) commonRead)
  have again : layered (process.inEnvironment settings.environment).value? own common
      "ENVIRONMENT" = some settings.environment.name := by
    rw [layered, value?_inEnvironment, Option.some_or]
  have reported : Environment.ofVars (layered process.value? own common) =
      settings.environment := by
    rw [same]
    rfl
  have equal : Settings.ofVars (layered process.value? own common) =
      Settings.ofVars
        (layered (process.inEnvironment settings.environment).value? own common) := by
    apply ofVars_congr
    · intro name other
      exact agree name (Or.inl other)
    · rw [Environment.ofVars_of_name again, reported]
  refine ⟨consulted, load_eq_ok_iff.mpr ⟨own, common, ?_, commonRead, ?_, checked⟩⟩
  · rw [sameFile]
    exact ownRead
  · exact same.trans equal

theorem load_inEnvironment_of_short_name :
    let files : Files := [(".env.staging", "OTP_PROVIDER=mock\nLOG_LEVEL=trace\n"),
      (".env", "LOG_LEVEL=error\n")]
    let settings : Settings := ⟨.staging, { provider := "mock" }, ⟨"trace", .json⟩⟩
    load .standard files [("ENV", "stage")] = .ok settings ∧
      ¬files.Refer .standard [("ENV", "stage")] "ENVIRONMENT" ∧
      ownFile [("ENV", "stage")] = ".env.staging" ∧
      load .standard files [("ENVIRONMENT", "staging"), ("ENV", "stage")] = .ok settings := by
  intro files settings
  have loaded : load .standard files [("ENV", "stage")] = .ok settings := by decide +kernel
  have named : settings.environment =
      Environment.ofVars (Variables.value? [("ENV", "stage")]) := by decide
  have unreferred : ¬files.Refer .standard [("ENV", "stage")] "ENVIRONMENT" := by decide +kernel
  have again := load_inEnvironment loaded named (fun refers => absurd refers unreferred)
  exact ⟨loaded, unreferred, again.1, again.2⟩

/-- The common file names an environment whose file was not read: the settings report production
and log as its file does not say. -/
theorem load_differs_of_named_by_file :
    let files : Files := [(".env", "ENVIRONMENT=production\nOTP_PROVIDER=mock\n"),
      (".env.production", "LOG_LEVEL=error\n")]
    let settings : Settings := ⟨.production, { provider := "mock" }, ⟨"warn", .json⟩⟩
    load .standard files [] = .ok settings ∧ ownFile [] = ".env.development" ∧
      load .standard files (Variables.inEnvironment [] settings.environment) =
        .ok { settings with logging := ⟨"error", .json⟩ } := by
  decide +kernel

end Passcode.Settings
