import Passcode.Gateway.Basic
import Passcode.Proofs.Decimal
import Passcode.Proofs.Settings.Channels
import Passcode.Settings.Load

/-!
Client settings that are reported in variables and read from them again. They are the same again,
but for a base URL that was written with slashes after a blank: only the slashes are taken away, so
that the blank stays and goes the next time.
-/

set_option autoImplicit false

namespace Passcode.Settings.Client

open Text (StartsClear EndsClear isBlank)

/-! ### Reporting settings -/

def toVariables (c : Client) : Variables := [
  ("OTP_PROVIDER", c.provider),
  ("OTP_API_BASE_URL", c.baseUrl),
  ("OTP_REQUEST_TIMEOUT_SECS", Text.decimal c.timeout.toNat),
  ("OTP_PREFERRED_CHANNELS", ",".intercalate c.channels)]

/-- A lookup that reports settings, whatever else it knows. -/
def reported (c : Client) (rest : Lookup) : Lookup :=
  fun name => (c.toVariables.value? name).or (rest name)

theorem ofVars_reported (c : Client) (rest : Lookup) : ofVars (c.reported rest) =
    { provider := (provider? c.provider).getD "http"
      baseUrl := (baseUrl? c.baseUrl).getD "http://localhost:8080"
      timeout := (timeout? (Text.decimal c.timeout.toNat)).getD 30
      channels := parseChannels (",".intercalate c.channels) } := by
  have provider : c.reported rest "OTP_PROVIDER" = some c.provider := rfl
  have baseUrl : c.reported rest "OTP_API_BASE_URL" = some c.baseUrl := rfl
  have timeout : c.reported rest "OTP_REQUEST_TIMEOUT_SECS" =
      some (Text.decimal c.timeout.toNat) := rfl
  have channels : c.reported rest "OTP_PREFERRED_CHANNELS" =
      some (",".intercalate c.channels) := rfl
  simp only [ofVars, provider, baseUrl, timeout, channels, Option.bind_some, Option.map_some,
    Option.getD_some]

theorem nonempty?_eq_some_iff {s t : String} : nonempty? s = some t ↔ s ≠ "" ∧ s = t := by
  rw [nonempty?]
  split
  · next empty => simp [String.isEmpty_iff.mp empty]
  · next nonempty =>
    rw [String.isEmpty_iff] at nonempty
    simp [nonempty]

/-! ### Provider, timeout and channels -/

theorem provider?_stable {s provider : String} (found : provider? s = some provider) :
    provider? provider = some provider := by
  rw [provider?, nonempty?_eq_some_iff] at found ⊢
  obtain ⟨nonempty, rfl⟩ := found
  rw [Text.lower_trim_lower_trim]
  exact ⟨nonempty, rfl⟩

theorem provider?_ofVars (known : Lookup) :
    provider? (ofVars known).provider = some (ofVars known).provider := by
  have same : (ofVars known).provider =
      ((known "OTP_PROVIDER").bind provider?).getD "http" := rfl
  rw [same]
  cases given : (known "OTP_PROVIDER").bind provider? with
  | none => decide +kernel
  | some provider =>
    obtain ⟨s, -, found⟩ := Option.bind_eq_some_iff.mp given
    exact provider?_stable found

theorem timeout?_decimal {timeout : UInt64} (positive : timeout ≠ 0) :
    timeout? (Text.decimal timeout.toNat) = some timeout := by
  have digits : ∀ c ∈ Text.decimalDigits timeout.toNat, isBlank c = false :=
    fun c member => Text.isBlank_of_isDigit (Text.isDigit_of_mem_decimalDigits member)
  have trimmed : Text.trimChars (Text.decimalDigits timeout.toNat) =
      Text.decimalDigits timeout.toNat := by
    rw [Text.trimChars_eq_self_iff]
    exact ⟨fun c first => digits c (List.mem_of_mem_head? first),
      fun c last => digits c (List.mem_of_getLast? last)⟩
  rw [timeout?, Text.decimal, String.toList_ofList, trimmed, Option.filter_eq_some_iff]
  refine ⟨Text.word64?_eq_some_iff.mpr (Text.writesNumber_decimalDigits timeout.toNat), ?_⟩
  simpa using positive

theorem timeout_ofVars_ne_zero (known : Lookup) : (ofVars known).timeout ≠ 0 := by
  have same : (ofVars known).timeout =
      ((known "OTP_REQUEST_TIMEOUT_SECS").bind timeout?).getD 30 := rfl
  rw [same]
  cases given : (known "OTP_REQUEST_TIMEOUT_SECS").bind timeout? with
  | none => decide
  | some timeout =>
    obtain ⟨s, -, found⟩ := Option.bind_eq_some_iff.mp given
    rw [timeout?, Option.filter_eq_some_iff] at found
    simpa using found.2

theorem parseChannels_ofVars (known : Lookup) :
    parseChannels (",".intercalate (ofVars known).channels) = (ofVars known).channels := by
  have same : (ofVars known).channels =
      ((known "OTP_PREFERRED_CHANNELS").map parseChannels).getD [] := rfl
  rw [same]
  cases known "OTP_PREFERRED_CHANNELS" with
  | none => decide
  | some s => exact parseChannels_stable s

/-! ### The base URL -/

/-- The text ends in slashes behind a blank, apart from blanks at its end. -/
def SlashesBehindBlank (s : String) : Prop :=
  ∃ front blank slashes, (Text.trim s).toList = front ++ blank :: slashes ∧
    isBlank blank = true ∧ slashes ≠ [] ∧ ∀ c ∈ slashes, c = '/'

/-- The base URL is given with slashes behind a blank. -/
def Frays (known : Lookup) : Prop :=
  ∃ s ∈ known "OTP_API_BASE_URL", SlashesBehindBlank s

def urlChars (s : String) : List Char :=
  Text.dropEnd (· == '/') (Text.trimChars s.toList)

theorem startsClear_urlChars (s : String) : StartsClear isBlank (urlChars s) :=
  (Text.startsClear_trimChars s.toList).dropEnd (· == '/')

theorem endsClear_urlChars (s : String) : EndsClear (· == '/') (urlChars s) :=
  Text.endsClear_dropEnd (· == '/') (Text.trimChars s.toList)

theorem endsClear_urlChars_iff (s : String) :
    EndsClear isBlank (urlChars s) ↔ ¬SlashesBehindBlank s := by
  constructor
  · -- The slashes would all be dropped, which leaves the blank before them at the end.
    rintro ends ⟨front, blank, slashes, split, gap, -, all⟩
    rw [Text.trim, String.toList_ofList] at split
    have rest : ∀ c ∈ slashes.reverse, (c == '/') = true := by
      intro c member
      simpa using all c (List.mem_reverse.mp member)
    have other : (blank == '/') = false := by
      rw [beq_eq_false_iff_ne]
      rintro rfl
      revert gap
      decide
    have chars : urlChars s = front ++ [blank] := by
      rw [urlChars, split, Text.dropEnd, List.reverse_append, List.reverse_cons,
        List.append_assoc, List.dropWhile_append_of_pos rest, List.singleton_append,
        List.dropWhile_cons_of_neg (by simpa using other)]
      simp
    have shown := ends blank (by rw [chars]; exact List.getLast?_concat)
    rw [gap] at shown
    cases shown
  · intro smooth c last
    rw [Bool.eq_false_iff]
    intro blank
    obtain ⟨front, chars⟩ := List.getLast?_eq_some_iff.mp (Option.mem_def.mp last)
    obtain ⟨slashes, split, all⟩ := Text.dropEnd_split (· == '/') (Text.trimChars s.toList)
    have whole : Text.trimChars s.toList = front ++ c :: slashes := by
      rw [urlChars] at chars
      rw [split, chars, List.append_assoc]
      rfl
    apply smooth
    refine ⟨front, c, slashes, ?_, blank, ?_, ?_⟩
    · rw [Text.trim, String.toList_ofList, whole]
    · -- Without slashes the trimmed text itself would end in a blank.
      rintro rfl
      have ends := Text.endsClear_trimChars s.toList
      rw [whole] at ends
      have shown := ends c List.getLast?_concat
      rw [blank] at shown
      cases shown
    · intro d member
      simpa using all d member

theorem urlChars_eq_self_iff {s : String} (ends : EndsClear (· == '/') s.toList) :
    urlChars s = s.toList ↔ StartsClear isBlank s.toList ∧ EndsClear isBlank s.toList := by
  rw [← Text.trimChars_eq_self_iff]
  constructor
  · intro same
    obtain ⟨left, right, split, -⟩ := Text.trimChars_split s.toList
    have shorter := Text.length_dropEnd_le (· == '/') (Text.trimChars s.toList)
    have lengths := congrArg List.length split
    have kept := congrArg List.length same
    rw [List.length_append, List.length_append] at lengths
    rw [urlChars] at kept
    have nothing : left = [] ∧ right = [] := by
      rw [← List.length_eq_zero_iff, ← List.length_eq_zero_iff]
      omega
    rw [nothing.1, nothing.2, List.nil_append, List.append_nil] at split
    exact split.symm
  · intro trimmed
    rw [urlChars, trimmed]
    exact Text.dropEnd_eq_self_iff.mpr ends

theorem baseUrl?_eq_some_iff {s url : String} :
    baseUrl? s = some url ↔ url ≠ "" ∧ urlChars s = url.toList := by
  rw [baseUrl?, nonempty?_eq_some_iff, Text.withoutTrailing, Text.trim, String.toList_ofList,
    ← urlChars]
  constructor
  · rintro ⟨nonempty, rfl⟩
    exact ⟨nonempty, String.toList_ofList.symm⟩
  · rintro ⟨nonempty, chars⟩
    rw [chars, String.ofList_toList]
    exact ⟨nonempty, rfl⟩

theorem baseUrl?_eq_none_iff {s : String} : baseUrl? s = none ↔ urlChars s = [] := by
  rw [Option.eq_none_iff_forall_ne_some]
  constructor
  · intro unread
    by_contra left
    refine unread (String.ofList (urlChars s)) (baseUrl?_eq_some_iff.mpr ⟨?_, ?_⟩)
    · intro empty
      have chars := congrArg String.toList empty
      rw [String.toList_ofList] at chars
      exact left chars
    · rw [String.toList_ofList]
  · intro nothing url read
    obtain ⟨nonempty, chars⟩ := baseUrl?_eq_some_iff.mp read
    rw [nothing] at chars
    exact nonempty (String.toList_eq_nil_iff.mp chars.symm)

/-- The base URL is the default, or what a text leaves of itself. -/
theorem baseUrl_ofVars_cases (known : Lookup) :
    ((ofVars known).baseUrl = "http://localhost:8080" ∧ ¬Frays known) ∨
    (∃ s, (Frays known ↔ SlashesBehindBlank s) ∧ (ofVars known).baseUrl ≠ "" ∧
      urlChars s = (ofVars known).baseUrl.toList) := by
  have same : (ofVars known).baseUrl =
      ((known "OTP_API_BASE_URL").bind baseUrl?).getD "http://localhost:8080" := rfl
  rw [same, Frays]
  cases known "OTP_API_BASE_URL" with
  | none => exact .inl ⟨rfl, fun ⟨_, found, _⟩ => nomatch found⟩
  | some s =>
    have only : (∃ t ∈ some s, SlashesBehindBlank t) ↔ SlashesBehindBlank s :=
      ⟨fun ⟨_, found, frayed⟩ => Option.some.inj found ▸ frayed, fun frayed => ⟨s, rfl, frayed⟩⟩
    rw [Option.bind_some, only]
    cases read : baseUrl? s with
    | none =>
      have nothing := baseUrl?_eq_none_iff.mp read
      refine .inl ⟨rfl, (endsClear_urlChars_iff s).mp ?_⟩
      rw [nothing]
      exact nofun
    | some url =>
      obtain ⟨nonempty, chars⟩ := baseUrl?_eq_some_iff.mp read
      exact .inr ⟨s, Iff.rfl, nonempty, chars⟩

theorem clear_baseUrl_ofVars (known : Lookup) :
    StartsClear isBlank (ofVars known).baseUrl.toList ∧
      EndsClear (· == '/') (ofVars known).baseUrl.toList ∧
      (EndsClear isBlank (ofVars known).baseUrl.toList ↔ ¬Frays known) := by
  rcases baseUrl_ofVars_cases known with ⟨standard, smooth⟩ | ⟨s, frays, -, chars⟩
  · have trimmed : Text.trimChars "http://localhost:8080".toList =
        "http://localhost:8080".toList := by decide
    have cut : Text.dropEnd (· == '/') "http://localhost:8080".toList =
        "http://localhost:8080".toList := by decide
    obtain ⟨starts, ends⟩ := Text.trimChars_eq_self_iff.mp trimmed
    rw [standard]
    exact ⟨starts, Text.dropEnd_eq_self_iff.mp cut, iff_of_true ends smooth⟩
  · rw [← chars, frays]
    exact ⟨startsClear_urlChars s, endsClear_urlChars s, endsClear_urlChars_iff s⟩

theorem baseUrl_ofVars_ne_empty (known : Lookup) : (ofVars known).baseUrl ≠ "" := by
  rcases baseUrl_ofVars_cases known with ⟨standard, -⟩ | ⟨-, -, nonempty, -⟩
  · rw [standard]
    decide
  · exact nonempty

theorem baseUrl_reported_iff (known : Lookup) :
    (baseUrl? (ofVars known).baseUrl).getD "http://localhost:8080" = (ofVars known).baseUrl ↔
      ¬Frays known := by
  obtain ⟨starts, ends, shown⟩ := clear_baseUrl_ofVars known
  rw [← shown]
  constructor
  · intro same
    cases read : baseUrl? (ofVars known).baseUrl with
    | none =>
      -- Nothing is read of a text that is all blanks and slashes, which the default is not.
      rw [read, Option.getD_none] at same
      have nothing := baseUrl?_eq_none_iff.mp read
      have standard : urlChars "http://localhost:8080" ≠ [] := by decide
      rw [← same] at nothing
      exact absurd nothing standard
    | some url =>
      rw [read, Option.getD_some] at same
      obtain ⟨-, chars⟩ := baseUrl?_eq_some_iff.mp read
      rw [same] at chars
      exact ((urlChars_eq_self_iff ends).mp chars).2
  · intro shown
    have chars := (urlChars_eq_self_iff ends).mpr ⟨starts, shown⟩
    rw [baseUrl?_eq_some_iff.mpr ⟨baseUrl_ofVars_ne_empty known, chars⟩, Option.getD_some]

/-! ### Reading settings again -/

/-- Settings that are reported and read again are the same, but for the base URL; that is the same
exactly if it was not given with slashes behind a blank, and exactly then it does not end in a
blank. -/
theorem ofVars_reported_iff (known rest : Lookup) :
    let c := ofVars known
    let again := ofVars (c.reported rest)
    (again = c ↔ ¬Frays known) ∧
      again = { c with baseUrl := again.baseUrl } ∧
      StartsClear isBlank c.baseUrl.toList ∧ EndsClear (· == '/') c.baseUrl.toList ∧
      (EndsClear isBlank c.baseUrl.toList ↔ ¬Frays known) := by
  intro c again
  have others : again = { c with baseUrl := again.baseUrl } := by
    have timeout := timeout?_decimal (timeout_ofVars_ne_zero known)
    simp only [again, c, ofVars_reported, provider?_ofVars, timeout, parseChannels_ofVars,
      Option.getD_some]
  have baseUrl : again.baseUrl = c.baseUrl ↔ ¬Frays known := by
    rw [← baseUrl_reported_iff known]
    simp only [again, c, ofVars_reported]
  refine ⟨?_, others, clear_baseUrl_ofVars known⟩
  rw [← baseUrl]
  constructor
  · intro same
    rw [same]
  · intro same
    rw [others, same]

/-- A slash behind a blank leaves a base URL that passes the check, that no request can be sent to,
and that is another one when it is read again. -/
theorem reported_differs_of_slash_behind_blank :
    let known : Lookup := Variables.value? [("OTP_API_BASE_URL", "http://host /")]
    let c := ofVars known
    Frays known ∧ c.baseUrl = "http://host " ∧ c.check .standard = .ok () ∧
      Gateway.target? c.baseUrl Gateway.sendPath = none ∧
      (ofVars (c.reported fun _ => none)).baseUrl = "http://host" := by
  refine ⟨⟨"http://host /", rfl, "http://host".toList, ' ', ['/'], ?_⟩, ?_⟩
  · refine ⟨by decide, rfl, List.cons_ne_nil _ _, ?_⟩
    intro c member
    exact List.mem_singleton.mp member
  · decide +kernel

end Passcode.Settings.Client
