import TelemetryRelay.Proofs.Settings.Verdicts
import TelemetryRelay.Proofs.Text.Encoding

/-! # White space in settings

    A setting that holds nothing but white space is read as if it were not set. White space
    around a value stays in the texts that are taken as they are, such as addresses and keys,
    but makes no difference to the settings that are trimmed. Values are octets, and white
    space is put around these, whether they are a text or not.

    The log level is read twice: by itself, before there is a log, and with the other
    settings, where a blank one is left out first. This module says that both agree.
-/

namespace TelemetryRelay

/-! ## Section 1: Variables -/

namespace Environment

variable {environment other : Environment} {name : String}

/-- **Blank**: what a variable holds that is not set, or is nothing but white space. -/
inductive Blank : Option Bytes → Prop
  | unset : Blank none
  | white (value : String) : Text.allBlank value = true → Blank (some (Bytes.ofText value))

/-- **Padded**: what a variable holds if white space is put around its value. -/
inductive Padded : Option Bytes → Option Bytes → Prop
  | around (lead trail : String) (octets : Bytes) : Text.allBlank lead = true →
      Text.allBlank trail = true →
      Padded (some octets) (some (Bytes.ofText lead ++ octets ++ Bytes.ofText trail))

/-- Two environments that differ in variables which are blank in both. -/
def DifferInBlanks (environment other : Environment) : Prop :=
  ∀ name, other name = environment name ∨ Blank (environment name) ∧ Blank (other name)

/-- Two environments of which the second has white space around some of these variables. -/
def DifferInPadding (names : List String) (environment other : Environment) : Prop :=
  ∀ name, other name = environment name ∨ name ∈ names ∧ Padded (environment name) (other name)

/-- Nothing is read from a blank variable. -/
theorem filled?_eq_none (h : Blank (environment name)) : environment.filled? name = none := by
  generalize hheld : environment name = held at h
  cases h with
  | unset => rw [filled?, text?, hheld, Option.bind_none, Option.filter_none]
  | white value hvalue =>
    refine filled?_blank environment name value ?_ hvalue
    rw [text?, hheld]
    exact Utf8.decode_eq_some_iff.mpr rfl

/-- From a padded variable, the same is read but for the white space. -/
theorem map_trim_filled? (h : Padded (environment name) (other name)) :
    (other.filled? name).map Text.trim = (environment.filled? name).map Text.trim := by
  unfold filled? text?
  generalize environment name = held at h ⊢
  generalize other name = padded at h ⊢
  cases h with
  | around lead trail octets hlead htrail =>
    rw [Option.bind_some, Option.bind_some, Utf8.decode_append]
    cases Utf8.decode octets with
    | none => rfl
    | some value =>
      rw [Option.map_some, Option.filter_some, Option.filter_some,
        Text.allBlank_append hlead htrail]
      split
      · rw [Option.map_some, Option.map_some, Text.trim_append hlead htrail]
      · rfl

end Environment

/-! ## Section 2: Settings that are trimmed -/

namespace Setting

variable {α : Type} {environment other : Environment} {setting : Setting}

/-- The settings that are trimmed before they are read. -/
def trimmed : List Setting := checked ++ [.logLevel]

theorem value?_eq_of_blanks (h : environment.DifferInBlanks other) (setting : Setting) :
    setting.value? other = setting.value? environment := by
  rcases h setting.name with hsame | ⟨hblank, hother⟩
  · exact value?_congr hsame
  · rw [value?, value?, Environment.filled?_eq_none hblank, Environment.filled?_eq_none hother]

/-- A setting has a name of its own. -/
theorem notMem_trimmed_name (h : setting ∉ trimmed) : setting.name ∉ trimmed.map name := by
  revert h
  cases setting <;> decide

variable (h : environment.DifferInPadding (trimmed.map name) other)
include h

theorem value?_eq_of_padding (hother : setting ∉ trimmed) :
    setting.value? other = setting.value? environment := by
  rcases h setting.name with hsame | ⟨hmem, -⟩
  · exact value?_congr hsame
  · exact absurd hmem (notMem_trimmed_name hother)

theorem map_trim_value? (setting : Setting) :
    (setting.value? other).map Text.trim = (setting.value? environment).map Text.trim := by
  rcases h setting.name with hsame | ⟨-, hpadded⟩
  · rw [value?_congr hsame]
  · exact Environment.map_trim_filled? hpadded

theorem parsed_eq_ok_congr (setting : Setting) {standard x : α}
    {read : String → Except String α} :
    setting.parsed other standard read = .ok x ↔
      setting.parsed environment standard read = .ok x := by
  have htrim := map_trim_value? h setting
  rw [parsed_eq_ok_iff, parsed_eq_ok_iff]
  cases hother : setting.value? other with
  | none =>
    rw [hother, Option.map_none, eq_comm, Option.map_eq_none_iff] at htrim
    rw [htrim]
  | some value =>
    rw [hother, Option.map_some, eq_comm, Option.map_eq_some_iff] at htrim
    obtain ⟨held, hheld, htrim⟩ := htrim
    simp [hheld, htrim]

theorem quantity_eq_ok_congr (setting : Setting) {standard n : Nat} :
    setting.quantity other standard = .ok n ↔ setting.quantity environment standard = .ok n := by
  rw [quantity_eq_ok_iff, quantity_eq_ok_iff, parsed_eq_ok_congr h]

theorem compressionScheme_eq_ok_congr {scheme : Compression.Scheme} :
    compressionScheme other = .ok scheme ↔ compressionScheme environment = .ok scheme := by
  have hunset : Setting.compressionLevel.value? other = none ↔
      Setting.compressionLevel.value? environment = none := by
    rw [← Option.map_eq_none_iff, map_trim_value? h, Option.map_eq_none_iff]
  simp only [compressionScheme_eq_ok_iff, parsed_eq_ok_congr h, hunset, ne_eq]

end Setting

/-! ## Section 3: The log level -/

namespace Log.Level

variable {environment other : Environment} {text : String}

theorem parse?_trim (text : String) : parse? (Text.trim text) = parse? text := by
  rw [parse?, parse?, Text.trim_trim]

/-- White space names no level. -/
theorem parse?_of_allBlank (h : Text.allBlank text = true) : parse? text = none := by
  rw [parse?, Text.trim_of_allBlank h]
  decide

/-- **Both readers agree**: leaving out a blank value changes nothing, as it names no level. -/
theorem ofEnvironment_eq (environment : Environment) : ofEnvironment environment =
    ((Setting.logLevel.value? environment).bind parse?).getD .standard := by
  unfold ofEnvironment Setting.value? Environment.filled?
  cases environment.text? Setting.logLevel.name with
  | none => rfl
  | some value =>
    rw [Option.filter_some]
    split
    · rfl
    · next hblank =>
      rw [Option.bind_some, parse?_of_allBlank (by simpa using hblank)]
      rfl

/-- Only what is left of a value when it is trimmed matters for the level. -/
theorem bind_parse?_congr {held padded : Option String}
    (h : padded.map Text.trim = held.map Text.trim) : padded.bind parse? = held.bind parse? := by
  have htrim (value : Option String) : value.bind parse? = (value.map Text.trim).bind parse? := by
    cases value with
    | none => rfl
    | some text => rw [Option.map_some, Option.bind_some, Option.bind_some, parse?_trim]
  rw [htrim, h, ← htrim]

theorem ofEnvironment_congr (h : (Setting.logLevel.value? other).map Text.trim =
    (Setting.logLevel.value? environment).map Text.trim) :
    ofEnvironment other = ofEnvironment environment := by
  rw [ofEnvironment_eq, ofEnvironment_eq, bind_parse?_congr h]

end Log.Level

/-! ## Section 4: All settings -/

namespace Settings

variable {environment other : Environment} {settings : Settings}

/-- Settings are read from the values of variables that are not blank, and so are the notices
    about them. -/
theorem ofEnvironment_congr
    (h : ∀ setting : Setting, setting.value? other = setting.value? environment) :
    ofEnvironment other = ofEnvironment environment := by
  have hnotices : logLevelNotices other = logLevelNotices environment := by
    rw [logLevelNotices, logLevelNotices, h]
  have hread : read other = read environment := by
    have hquantity (setting : Setting) (standard : Nat) :
        setting.quantity other standard = setting.quantity environment standard :=
      Setting.quantity_congr (h setting) standard
    have hscheme := Setting.compressionScheme_congr (h .compression) (h .compressionLevel)
    have hoverrides : overridesOf other = overridesOf environment := by
      simp only [overridesOf, h]
    simp only [read, hquantity, hscheme, hoverrides, Setting.parsed_congr (h _), h]
  rw [ofEnvironment, ofEnvironment, hnotices, hread]

/-- White space around values that are trimmed makes no difference to what is read. -/
theorem readings_congr
    (h : environment.DifferInPadding (Setting.trimmed.map Setting.name) other) :
    Readings other settings ↔ Readings environment settings := by
  have hvalue (setting : Setting) (hother : setting ∉ Setting.trimmed) :
      setting.value? other = setting.value? environment := Setting.value?_eq_of_padding h hother
  have hoverrides : overridesOf other = overridesOf environment := by
    rw [overridesOf, overridesOf, hvalue .logEndpoint (by decide),
      hvalue .metricEndpoint (by decide), hvalue .eventEndpoint (by decide),
      hvalue .traceEndpoint (by decide)]
  have hlevel := Log.Level.bind_parse?_congr (Setting.map_trim_value? h .logLevel)
  have hproxy := hvalue .proxy (by decide)
  have hcommon := hvalue .commonProxy (by decide)
  -- texts that are taken as they are hold the same, the others are read alike
  rw [readings_iff, readings_iff, hvalue .licenseKey (by decide),
    hvalue .licenseKeySecret (by decide), hvalue .accountId (by decide), hoverrides, hlevel,
    hproxy, hcommon, Setting.compressionScheme_eq_ok_congr h]
  simp only [Setting.quantity_eq_ok_congr h, Setting.parsed_eq_ok_congr h]

/-- **White space is left aside**: it makes no difference whether a variable is not set or
    blank, nor whether there is white space around the value of a setting that is trimmed, for
    all settings together as well as for the log level by itself. What is read of the log
    level with all settings is what is read of it alone, whatever octets it holds. -/
theorem white_space_is_left_aside (environment : Environment) :
    (∀ other : Environment, environment.DifferInBlanks other →
      ofEnvironment other = ofEnvironment environment ∧
      Log.Level.ofEnvironment other = Log.Level.ofEnvironment environment) ∧
    (∀ other : Environment,
      environment.DifferInPadding (Setting.trimmed.map Setting.name) other →
      (∀ settings, (ofEnvironment other).result = .ok settings ↔
        (ofEnvironment environment).result = .ok settings) ∧
      Log.Level.ofEnvironment other = Log.Level.ofEnvironment environment) ∧
    (∀ settings, (ofEnvironment environment).result = .ok settings →
      settings.logLevel = Log.Level.ofEnvironment environment) := by
  refine ⟨?_, ?_, ?_⟩
  · intro other h
    have hvalue := Setting.value?_eq_of_blanks h
    exact ⟨ofEnvironment_congr hvalue,
      Log.Level.ofEnvironment_congr (congrArg _ (hvalue .logLevel))⟩
  · intro other h
    refine ⟨?_, Log.Level.ofEnvironment_congr (Setting.map_trim_value? h .logLevel)⟩
    intro settings
    exact read_eq_ok_iff.trans ((readings_congr h).trans read_eq_ok_iff.symm)
  · intro settings hread
    have hreadings := read_eq_ok_iff.mp hread
    rw [Log.Level.ofEnvironment_eq, hreadings.logLevel]

end Settings

end TelemetryRelay
