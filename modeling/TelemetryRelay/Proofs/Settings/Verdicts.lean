import Mathlib.Tactic.MkIffOfInductiveProp
import TelemetryRelay.Proofs.Decimal.Numerals
import TelemetryRelay.Proofs.Results
import TelemetryRelay.Proofs.Text.Trimming
import TelemetryRelay.Settings

/-! # Which settings are accepted

    Settings are read one after the other, and the first one whose value is not accepted is
    reported. This module says what that comes to for all settings together:

    - eight of them are checked, in a fixed order; a setting that is not set, or blank, is
      accepted, and so is any other if its text is,
    - settings are read if all of the eight are accepted, and otherwise the report is about
      the first that is not,
    - nothing else in the environment matters for that.
-/

namespace TelemetryRelay

open Decimal (Numeral SignedNumeral)
open Results (exists_of_bind bind_eq_error_iff)

/-! ## Section 1: Texts that are accepted -/

namespace Setting

variable {α β : Type} {environment other : Environment} {setting : Setting}

/-- The settings that are numbers above zero. -/
def quantities : List Setting := [.batchOctets, .batchInterval, .sendTimeout, .payloadLimit]

/-- The settings that are checked, in the order they are. -/
def checked : List Setting :=
  quantities ++ [.compression, .compressionLevel, .listenerPort, .collects]

/-- **Accepted text**: what a setting may be, white space around it aside. -/
def Accepts : Setting → String → Prop
  | .batchOctets, text | .batchInterval, text | .sendTimeout, text | .payloadLimit, text =>
    ∃ n, Numeral text n ∧ n ≠ 0 ∧ n ≤ Decimal.maxWord
  | .compression, text => Text.lower text ∈ ["gzip", "gz", "zstd"]
  | .compressionLevel, text =>
    ∃ level, SignedNumeral text level ∧ -(levelBound : Int) ≤ level ∧ level < levelBound
  | .listenerPort, text => ∃ n, Numeral text n ∧ n ≤ Decimal.maxPort
  | .collects, text => Text.lower text ∈ ["true", "1", "yes", "false", "0", "no"]
  | _, _ => True

/-- A setting is accepted if it is not set, or its text is. -/
def Acceptable (environment : Environment) (setting : Setting) : Prop :=
  ∀ value, setting.value? environment = some value → setting.Accepts (Text.trim value)

/-- **Fault**: what is reported about a setting that is not accepted. A quantity of zero is
    reported as such, and any other with the value as it was set. -/
inductive Fault (environment : Environment) (setting : Setting) : SettingError → Prop
  | zero (value : String) : setting ∈ quantities → setting.value? environment = some value →
      Numeral (Text.trim value) 0 → Fault environment setting (.zero setting)
  | invalid (value reason : String) : setting.value? environment = some value →
      ¬ setting.Accepts (Text.trim value) →
      ¬ (setting ∈ quantities ∧ Numeral (Text.trim value) 0) →
      Fault environment setting (.invalid setting value reason)

/-- The quantities accept the same texts. -/
theorem accepts_quantity (hquantity : setting ∈ quantities) (text : String) :
    setting.Accepts text ↔ ∃ n, Numeral text n ∧ n ≠ 0 ∧ n ≤ Decimal.maxWord := by
  simp only [quantities, List.mem_cons, List.not_mem_nil, or_false] at hquantity
  rcases hquantity with rfl | rfl | rfl | rfl <;> rfl

/-! ## Section 2: Reading one setting -/

/-- What a setting is read as: the standard without a value, else what its text is. -/
theorem parsed_eq_ok_iff {standard x : α} {read : String → Except String α} :
    setting.parsed environment standard read = .ok x ↔
      setting.value? environment = none ∧ standard = x ∨
      ∃ value, setting.value? environment = some value ∧ read (Text.trim value) = .ok x := by
  unfold parsed
  cases setting.value? environment with
  | none => simp
  | some value => cases hread : read (Text.trim value) <;> simp [hread]

/-- A value that is set has been read. -/
theorem read_of_parsed {standard x : α} {read : String → Except String α} {value : String}
    (h : setting.parsed environment standard read = .ok x)
    (hvalue : setting.value? environment = some value) : read (Text.trim value) = .ok x := by
  rcases parsed_eq_ok_iff.mp h with ⟨hnone, -⟩ | ⟨found, hfound, hread⟩
  · rw [hnone] at hvalue
    cases hvalue
  · rw [hvalue] at hfound
    obtain rfl := Option.some.inj hfound
    exact hread

theorem parsed_eq_error_iff {standard : α} {read : String → Except String α}
    {e : SettingError} :
    setting.parsed environment standard read = .error e ↔
      ∃ value reason, setting.value? environment = some value ∧
        read (Text.trim value) = .error reason ∧ e = .invalid setting value reason := by
  unfold parsed
  cases setting.value? environment with
  | none => simp
  | some value => cases hread : read (Text.trim value) <;> simp [hread, eq_comm]

/-- The numbers that are read are the numerals up to the limit. -/
theorem readNumber_eq_ok_iff {limit n : Nat} {text : String} :
    readNumber limit text = .ok n ↔ Numeral text n ∧ n ≤ limit := by
  rw [← Decimal.parseUnsigned_eq_ok_iff, readNumber]
  cases Decimal.parseUnsigned limit text <;> simp [Except.mapError]

/-- The levels that are read are the signed numerals of 32 bits. -/
theorem readLevel_eq_ok_iff {level : Int} {text : String} :
    readLevel text = .ok level ↔
      SignedNumeral text level ∧ -(levelBound : Int) ≤ level ∧ level < levelBound := by
  rw [← Decimal.parseSigned_eq_ok_iff (by decide), readLevel]
  cases Decimal.parseSigned levelBound text <;> simp [Except.mapError]

/-- The flags that are read are the six words. -/
theorem exists_readFlag_iff {text : String} :
    (∃ flag, readFlag text = .ok flag) ↔ Setting.collects.Accepts text := by
  have hwords : Setting.collects.Accepts text ↔
      Text.lower text ∈ ["true", "1", "yes"] ∨ Text.lower text ∈ ["false", "0", "no"] :=
    @List.mem_append _ (Text.lower text) ["true", "1", "yes"] ["false", "0", "no"]
  rw [hwords]
  simp only [readFlag, List.contains_iff_mem]
  split
  · next hyes => exact ⟨fun _ => .inl hyes, fun _ => ⟨true, rfl⟩⟩
  · next hyes =>
    split
    · next hno => exact ⟨fun _ => .inr hno, fun _ => ⟨false, rfl⟩⟩
    · next hno => exact ⟨nofun, fun h => (h.elim hyes hno).elim⟩

/-- The schemes that are read are the three names. -/
theorem exists_scheme_iff {text : String} :
    (∃ scheme, Compression.Scheme.parse (Text.trim text) = .ok scheme) ↔
      Setting.compression.Accepts (Text.trim text) := by
  have hnames : Setting.compression.Accepts (Text.trim text) ↔
      (Text.lower (Text.trim text) = "gzip" ∨ Text.lower (Text.trim text) = "gz") ∨
        Text.lower (Text.trim text) = "zstd" := by
    simp [Accepts, or_assoc]
  rw [hnames]
  simp only [Compression.Scheme.parse, Text.trim_trim]
  split
  · next hgzip => exact ⟨fun _ => .inl hgzip, fun _ => ⟨_, rfl⟩⟩
  · next hgzip =>
    split
    · next hzstd => exact ⟨fun _ => .inr hzstd, fun _ => ⟨_, rfl⟩⟩
    · next hzstd => exact ⟨nofun, fun h => (h.elim hgzip hzstd).elim⟩

/-- A quantity is a number that is read and is not zero. -/
theorem quantity_eq_ok_iff {standard n : Nat} :
    setting.quantity environment standard = .ok n ↔
      setting.parsed environment standard (readNumber Decimal.maxWord) = .ok n ∧ n ≠ 0 := by
  unfold quantity
  cases setting.parsed environment standard (readNumber Decimal.maxWord) with
  | error e => simp [bind, Except.bind]
  | ok m =>
    simp only [bind, Except.bind]
    split
    · next hzero => simp [hzero, eq_comm]
    · next hzero =>
      rw [Except.ok.injEq]
      exact ⟨fun h => ⟨h, h ▸ hzero⟩, And.left⟩

/-- It is at fault if it cannot be read, or is zero. -/
theorem quantity_eq_error_iff {standard : Nat} {e : SettingError} :
    setting.quantity environment standard = .error e ↔
      setting.parsed environment standard (readNumber Decimal.maxWord) = .error e ∨
        setting.parsed environment standard (readNumber Decimal.maxWord) = .ok 0 ∧
          e = .zero setting := by
  unfold quantity
  cases setting.parsed environment standard (readNumber Decimal.maxWord) with
  | error e => simp [bind, Except.bind]
  | ok m =>
    simp only [bind, Except.bind]
    split
    · next hzero => simp [hzero, eq_comm]
    · next hzero => simp [hzero]

/-- A setting has the value its variable holds. -/
theorem value?_congr (h : other setting.name = environment setting.name) :
    setting.value? other = setting.value? environment := by
  simp only [value?, Environment.filled?, Environment.text?, h]

/-- Only the value of a setting matters for what it is read as. -/
theorem parsed_congr (h : setting.value? other = setting.value? environment) (standard : α)
    (read : String → Except String α) :
    setting.parsed other standard read = setting.parsed environment standard read := by
  rw [parsed, parsed, h]

theorem quantity_congr (h : setting.value? other = setting.value? environment)
    (standard : Nat) :
    setting.quantity other standard = setting.quantity environment standard := by
  rw [quantity, quantity, parsed_congr h]

theorem compressionScheme_congr
    (hscheme : Setting.compression.value? other = Setting.compression.value? environment)
    (hlevel :
      Setting.compressionLevel.value? other = Setting.compressionLevel.value? environment) :
    compressionScheme other = compressionScheme environment := by
  rw [compressionScheme, compressionScheme, parsed_congr hscheme, parsed_congr hlevel, hlevel]

/-- The compression is the scheme that is named, at its own level or the one that is set. -/
theorem compressionScheme_eq_ok_iff {scheme : Compression.Scheme} :
    compressionScheme environment = .ok scheme ↔
      ∃ named, Setting.compression.parsed environment Compression.Scheme.standard
          Compression.Scheme.parse = .ok named ∧
        (Setting.compressionLevel.value? environment = none ∧ named = scheme ∨
          Setting.compressionLevel.value? environment ≠ none ∧
          ∃ level, Setting.compressionLevel.parsed environment 0 readLevel = .ok level ∧
            named.withLevel level = scheme) := by
  constructor
  · intro h
    obtain ⟨named, hnamed, h⟩ := exists_of_bind h
    refine ⟨named, hnamed, ?_⟩
    split at h
    · next hset =>
      obtain ⟨level, hlevel, h⟩ := exists_of_bind h
      exact .inr ⟨Option.isSome_iff_ne_none.mp hset, level, hlevel, Except.ok.inj h⟩
    · next hset => exact .inl ⟨by simpa using hset, Except.ok.inj h⟩
  · rintro ⟨named, hnamed, ⟨hnone, rfl⟩ | ⟨hset, level, hlevel, rfl⟩⟩
    · rw [compressionScheme, hnamed, hnone]
      rfl
    · rw [compressionScheme, hnamed, hlevel, Option.isSome_iff_ne_none.mpr hset]
      rfl

/-- A scheme that is named comes at its standard level. -/
theorem standard_of_parse {text : String} {scheme : Compression.Scheme}
    (h : Compression.Scheme.parse text = .ok scheme) :
    scheme = .gzip Compression.Scheme.standardGzipLevel ∨
      scheme = .zstd Compression.Scheme.standardZstdLevel := by
  simp only [Compression.Scheme.parse] at h
  split at h
  · exact .inl (Except.ok.inj h).symm
  · split at h
    · exact .inr (Except.ok.inj h).symm
    · cases h

/-- A gzip level that is read is one of the ten there are. -/
theorem level_le_of_gzip {level : Nat} (h : compressionScheme environment = .ok (.gzip level)) :
    level ≤ 9 := by
  obtain ⟨named, hnamed, ⟨-, rfl⟩ | ⟨-, chosen, -, hscheme⟩⟩ := compressionScheme_eq_ok_iff.mp h
  · have hstandard : level = Compression.Scheme.standardGzipLevel := by
      rcases parsed_eq_ok_iff.mp hnamed with ⟨-, heq⟩ | ⟨value, -, hparse⟩
      · exact (Compression.Scheme.gzip.inj heq).symm
      · rcases standard_of_parse hparse with heq | heq
        · exact Compression.Scheme.gzip.inj heq
        · cases heq
    rw [hstandard]
    decide
  · cases named with
    | zstd _ => cases hscheme
    | gzip old =>
      obtain ⟨n, hlevel, hle⟩ := Compression.Scheme.withLevel_gzip_le old chosen
      rw [hlevel] at hscheme
      exact Compression.Scheme.gzip.inj hscheme ▸ hle

/-! ## Section 3: Verdicts -/

/-- **Verdict**: a result that says of some settings, in order, whether they are accepted. It
    is a report about the first that is not, if there is one. -/
structure Verdict (environment : Environment) (settings : List Setting)
    (result : Except SettingError α) : Prop where
  accepted : ∀ x, result = .ok x → ∀ setting ∈ settings, setting.Acceptable environment
  refused : ∀ e, result = .error e → ∃ before setting after,
    settings = before ++ setting :: after ∧
    (∀ earlier ∈ before, earlier.Acceptable environment) ∧ setting.Fault environment e

/-- Nothing is said without a setting. -/
theorem verdict_nil (x : α) : Verdict environment [] (.ok x) := ⟨nofun, nofun⟩

/-- A verdict on one setting. -/
theorem verdict_singleton {result : Except SettingError α}
    (haccepted : ∀ x, result = .ok x → setting.Acceptable environment)
    (hrefused : ∀ e, result = .error e → setting.Fault environment e) :
    Verdict environment [setting] result where
  accepted x hx := List.forall_mem_singleton.mpr (haccepted x hx)
  refused e he := ⟨[], setting, [], rfl, nofun, hrefused e he⟩

/-- **One after the other**: what goes on after a verdict extends it. -/
theorem Verdict.bind {first second : List Setting} {result : Except SettingError α}
    {next : α → Except SettingError β} (h : Verdict environment first result)
    (hnext : ∀ x, Verdict environment second (next x)) :
    Verdict environment (first ++ second) (result >>= next) := by
  cases result with
  | error e =>
    refine ⟨nofun, ?_⟩
    rintro _ ⟨⟩
    obtain ⟨before, setting, after, rfl, hbefore, hfault⟩ := h.refused e rfl
    exact ⟨before, setting, after ++ second, by simp, hbefore, hfault⟩
  | ok x =>
    have hfirst := h.accepted x rfl
    constructor
    · intro y hy
      exact List.forall_mem_append.mpr ⟨hfirst, (hnext x).accepted y hy⟩
    · intro e he
      obtain ⟨before, setting, after, rfl, hbefore, hfault⟩ := (hnext x).refused e he
      exact ⟨first ++ before, setting, after, by simp,
        List.forall_mem_append.mpr ⟨hfirst, hbefore⟩, hfault⟩

/-- A fault is about a setting that is not accepted. -/
theorem Fault.not_acceptable {e : SettingError} (h : setting.Fault environment e) :
    ¬ setting.Acceptable environment := by
  intro haccepted
  cases h with
  | zero value hquantity hvalue hzero =>
    obtain ⟨n, hnumeral, hpos, -⟩ := (accepts_quantity hquantity _).mp (haccepted value hvalue)
    exact hpos (hnumeral.unique hzero)
  | invalid value reason hvalue hnot _ => exact hnot (haccepted value hvalue)

/-- Settings are accepted exactly if there is a result. -/
theorem Verdict.exists_iff {settings : List Setting} {result : Except SettingError α}
    (h : Verdict environment settings result) :
    (∃ x, result = .ok x) ↔ ∀ setting ∈ settings, setting.Acceptable environment := by
  constructor
  · rintro ⟨x, hx⟩
    exact h.accepted x hx
  · intro haccepted
    cases hresult : result with
    | ok x => exact ⟨x, rfl⟩
    | error e =>
      obtain ⟨before, setting, after, rfl, -, hfault⟩ := h.refused e hresult
      exact absurd (haccepted setting (by simp)) hfault.not_acceptable

/-- Other settings than quantities are accepted if they can be read. -/
theorem verdict_parsed {standard : α} {read : String → Except String α}
    (hother : setting ∉ quantities)
    (hread : ∀ value, (∃ x, read (Text.trim value) = .ok x) ↔
      setting.Accepts (Text.trim value)) :
    Verdict environment [setting] (setting.parsed environment standard read) := by
  apply verdict_singleton
  · intro x hx value hvalue
    exact (hread value).mp ⟨x, read_of_parsed hx hvalue⟩
  · intro e he
    obtain ⟨value, reason, hvalue, herror, rfl⟩ := parsed_eq_error_iff.mp he
    refine .invalid value reason hvalue ?_ fun h => hother h.1
    intro haccepts
    obtain ⟨x, hok⟩ := (hread value).mpr haccepts
    rw [hok] at herror
    cases herror

/-- A quantity is accepted if it is a numeral in the range that is not zero. -/
theorem verdict_quantity {standard : Nat} (hquantity : setting ∈ quantities)
    (hstandard : standard ≠ 0) :
    Verdict environment [setting] (setting.quantity environment standard) := by
  apply verdict_singleton
  · intro n hn value hvalue
    obtain ⟨hparsed, hpos⟩ := quantity_eq_ok_iff.mp hn
    obtain ⟨hnumeral, hle⟩ := readNumber_eq_ok_iff.mp (read_of_parsed hparsed hvalue)
    exact (accepts_quantity hquantity _).mpr ⟨n, hnumeral, hpos, hle⟩
  · intro e he
    rcases quantity_eq_error_iff.mp he with hparsed | ⟨hparsed, rfl⟩
    · obtain ⟨value, reason, hvalue, herror, rfl⟩ := parsed_eq_error_iff.mp hparsed
      -- a numeral that is not read is past the range, and so is none for zero
      have hnot {n : Nat} (hnumeral : Numeral (Text.trim value) n) : ¬ n ≤ Decimal.maxWord := by
        intro hle
        rw [readNumber_eq_ok_iff.mpr ⟨hnumeral, hle⟩] at herror
        cases herror
      refine .invalid value reason hvalue ?_ fun h => hnot h.2 (Nat.zero_le _)
      rw [accepts_quantity hquantity]
      rintro ⟨n, hnumeral, -, hle⟩
      exact hnot hnumeral hle
    · rcases parsed_eq_ok_iff.mp hparsed with ⟨-, hzero⟩ | ⟨value, hvalue, hok⟩
      · exact absurd hzero hstandard
      · exact .zero value hquantity hvalue (readNumber_eq_ok_iff.mp hok).1

/-- The level of compression is looked at after the scheme. -/
theorem verdict_compressionScheme :
    Verdict environment [.compression, .compressionLevel] (compressionScheme environment) := by
  have hscheme : Verdict environment [.compression] (Setting.compression.parsed environment
      Compression.Scheme.standard Compression.Scheme.parse) :=
    verdict_parsed (by decide) fun _ => exists_scheme_iff
  refine hscheme.bind fun scheme => ?_
  split
  · have hlevel : Verdict environment [.compressionLevel]
        (Setting.compressionLevel.parsed environment 0 readLevel) :=
      verdict_parsed (by decide) fun _ => exists_congr fun _ => readLevel_eq_ok_iff
    exact hlevel.bind fun _ => verdict_nil _
  · next hnone =>
    -- without a level that is set there is nothing to accept
    apply verdict_singleton
    · intro _ _ value hvalue
      rw [hvalue] at hnone
      exact absurd rfl hnone
    · nofun

end Setting

/-! ## Section 4: All settings -/

namespace Settings

variable {environment other : Environment} {settings : Settings}

/-- The settings are read as one verdict on all that are checked. -/
theorem verdict_read (environment : Environment) :
    Setting.Verdict environment Setting.checked (read environment) := by
  have hflag (value : String) : (∃ flag, Setting.readFlag (Text.trim value) = .ok flag) ↔
      Setting.collects.Accepts (Text.trim value) := Setting.exists_readFlag_iff
  have hport (value : String) :
      (∃ n, Setting.readNumber Decimal.maxPort (Text.trim value) = .ok n) ↔
        Setting.listenerPort.Accepts (Text.trim value) :=
    exists_congr fun _ => Setting.readNumber_eq_ok_iff
  -- one step for each setting, in the order in which they are checked
  refine (Setting.verdict_quantity (by decide) (by decide)).bind fun _ => ?_
  refine (Setting.verdict_quantity (by decide) (by decide)).bind fun _ => ?_
  refine (Setting.verdict_quantity (by decide) (by decide)).bind fun _ => ?_
  refine (Setting.verdict_quantity (by decide) (by decide)).bind fun _ => ?_
  refine Setting.verdict_compressionScheme.bind fun _ => ?_
  refine (Setting.verdict_parsed (by decide) hport).bind fun _ => ?_
  exact (Setting.verdict_parsed (by decide) hflag).bind fun _ => Setting.verdict_nil _

/-- **Readings**: what an environment is read as, setting by setting. -/
@[mk_iff]
structure Readings (environment : Environment) (settings : Settings) : Prop where
  licenseKey : Setting.licenseKey.value? environment = settings.licenseKey
  licenseKeySecret :
    (Setting.licenseKeySecret.value? environment).getD standardSecret = settings.licenseKeySecret
  accountId : Setting.accountId.value? environment = settings.accountId
  batchOctets :
    Setting.batchOctets.quantity environment standardBatchOctets = .ok settings.batchOctets
  batchInterval :
    Setting.batchInterval.quantity environment standardBatchInterval = .ok settings.batchInterval
  sendTimeout :
    Setting.sendTimeout.quantity environment standardSendTimeout = .ok settings.sendTimeout
  overrides : overridesOf environment = settings.overrides
  compression : Setting.compressionScheme environment = .ok settings.compression
  logLevel : ((Setting.logLevel.value? environment).bind Log.Level.parse?).getD .standard =
    settings.logLevel
  listenerPort : Setting.listenerPort.parsed environment standardListenerPort
    (Setting.readNumber Decimal.maxPort) = .ok settings.listenerPort
  proxy : (Setting.proxy.value? environment).or (Setting.commonProxy.value? environment) =
    settings.proxy
  payloadLimit : Setting.payloadLimit.quantity environment Telemetry.standardPayloadLimit =
    .ok settings.payloadLimit
  collects : Setting.collects.parsed environment true Setting.readFlag = .ok settings.collects

/-- Settings are read if each one can be. -/
theorem read_eq_ok_iff : read environment = .ok settings ↔ Readings environment settings := by
  constructor
  · intro h
    obtain ⟨batchOctets, hbatchOctets, h⟩ := exists_of_bind h
    obtain ⟨batchInterval, hbatchInterval, h⟩ := exists_of_bind h
    obtain ⟨sendTimeout, hsendTimeout, h⟩ := exists_of_bind h
    obtain ⟨payloadLimit, hpayloadLimit, h⟩ := exists_of_bind h
    obtain ⟨compression, hcompression, h⟩ := exists_of_bind h
    obtain ⟨listenerPort, hlistenerPort, h⟩ := exists_of_bind h
    obtain ⟨collects, hcollects, h⟩ := exists_of_bind h
    obtain rfl := Except.ok.inj h
    exact ⟨rfl, rfl, rfl, hbatchOctets, hbatchInterval, hsendTimeout, rfl, hcompression, rfl,
      hlistenerPort, rfl, hpayloadLimit, hcollects⟩
  · intro h
    rw [read, h.batchOctets, h.batchInterval, h.sendTimeout, h.payloadLimit, h.compression,
      h.listenerPort, h.collects, h.licenseKey, h.licenseKeySecret, h.accountId, h.overrides,
      h.logLevel, h.proxy]
    rfl

/-- Only the settings that are checked say what is reported. -/
theorem read_eq_error_congr (e : SettingError)
    (h : ∀ setting ∈ Setting.checked, other setting.name = environment setting.name) :
    read other = .error e ↔ read environment = .error e := by
  have hvalue : ∀ setting ∈ Setting.checked,
      setting.value? other = setting.value? environment := by
    intro setting hmem
    exact Setting.value?_congr (h setting hmem)
  have hscheme := Setting.compressionScheme_congr (hvalue .compression (by decide))
    (hvalue .compressionLevel (by decide))
  rw [read, read, Setting.quantity_congr (hvalue .batchOctets (by decide)),
    Setting.quantity_congr (hvalue .batchInterval (by decide)),
    Setting.quantity_congr (hvalue .sendTimeout (by decide)),
    Setting.quantity_congr (hvalue .payloadLimit (by decide)), hscheme,
    Setting.parsed_congr (hvalue .listenerPort (by decide)),
    Setting.parsed_congr (hvalue .collects (by decide))]
  -- the steps are the same, and the settings that come out of them are no report
  refine bind_eq_error_iff fun _ => bind_eq_error_iff fun _ => bind_eq_error_iff fun _ => ?_
  refine bind_eq_error_iff fun _ => bind_eq_error_iff fun _ => bind_eq_error_iff fun _ => ?_
  refine bind_eq_error_iff fun _ => ?_
  constructor
  · intro h
    cases h
  · intro h
    cases h

/-- **The first fault is reported**: settings are read exactly if all that are checked are
    accepted, and otherwise the report is about the first that is not. No other setting has
    a part in that, and what is read is in range. -/
theorem read_reports_first_fault (environment : Environment) :
    ((∃ settings, read environment = .ok settings) ↔
      ∀ setting ∈ Setting.checked, setting.Acceptable environment) ∧
    (∀ e, read environment = .error e → ∃ before setting after,
      Setting.checked = before ++ setting :: after ∧
      (∀ earlier ∈ before, earlier.Acceptable environment) ∧
      ¬ setting.Acceptable environment ∧ setting.Fault environment e) ∧
    (∀ other : Environment,
      (∀ setting ∈ Setting.checked, other setting.name = environment setting.name) →
      ∀ e, read other = .error e ↔ read environment = .error e) ∧
    (∀ settings, read environment = .ok settings →
      0 < settings.batchOctets ∧ 0 < settings.batchInterval ∧ 0 < settings.sendTimeout ∧
      0 < settings.payloadLimit ∧ ∀ level, settings.compression = .gzip level → level ≤ 9) := by
  have hverdict := verdict_read environment
  refine ⟨hverdict.exists_iff, ?_, fun other h e => read_eq_error_congr e h, ?_⟩
  · intro e he
    obtain ⟨before, setting, after, hchecked, hbefore, hfault⟩ := hverdict.refused e he
    exact ⟨before, setting, after, hchecked, hbefore, hfault.not_acceptable, hfault⟩
  · intro settings hread
    have hreadings := read_eq_ok_iff.mp hread
    refine ⟨Setting.quantity_pos _ _ _ _ hreadings.batchOctets,
      Setting.quantity_pos _ _ _ _ hreadings.batchInterval,
      Setting.quantity_pos _ _ _ _ hreadings.sendTimeout,
      Setting.quantity_pos _ _ _ _ hreadings.payloadLimit, ?_⟩
    intro level hgzip
    exact Setting.level_le_of_gzip (hreadings.compression.trans (congrArg Except.ok hgzip))

end Settings

end TelemetryRelay
