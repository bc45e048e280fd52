import KernelLog.Proofs.AcceptedDocuments

/-!
# Configurations from several sources

A process takes its configuration from the defaults, from a file, and from a directory that
overrides the one in the others. A file counts as a whole: it holds the document of a
configuration, or it fails, and nothing of a file that fails is used. As what it holds is
valid by itself, the directory that comes last, which is never empty, leaves it valid: the
validation after it finds nothing.
-/

namespace KernelLog

open Bytes

/-! ## The law -/

/-- A variable is set to a value, and not to an empty one. -/
def Sets (setting : Option Bytes) (value : Bytes) : Prop := setting = some value ∧ value ≠ []

section Sources

variable (read : Bytes → Except IoError Bytes)

/-- The file at a path is read, and its content is the text of a document. -/
def ReadsAs (path : Bytes) (document : Toml.Document) : Prop :=
  ∃ text, read path = .ok (ofText text) ∧ Toml.Document.parse? text = some document

/-- The file at a path holds the document of a configuration. -/
structure Holds (path : Bytes) (document : Toml.Document) (config : Config) : Prop where
  readsAs : ReadsAs read path document
  acceptable : Acceptable document
  describes : Describes document config

/-- What is wrong with the file at a path: it cannot be read, or what is read is no text, or the
text is no document, or the document is refused. -/
inductive Fails (path : Bytes) : ConfigError → Prop
  | unreadable {cause : IoError} (failed : read path = .error cause) :
      Fails path (.unreadable path cause)
  | noText {content : Bytes} (got : read path = .ok content)
      (foreign : ∀ text, content ≠ ofText text) : Fails path (.unreadable path .invalidText)
  | noDocument {text : String} (got : read path = .ok (ofText text))
      (unparsed : Toml.Document.parse? text = none) : Fails path (.document .malformed)
  | refused {document : Toml.Document} {cause : ConfigError} (readsAs : ReadsAs read path document)
      (refused : Refused document cause) : Fails path cause

/-- The configuration in which nothing has been overridden: the one in the file if a file is set,
and the default one otherwise. -/
inductive Underlies (setting : Option Bytes) : Config → Prop
  | default (unset : ∀ path, ¬ Sets setting path) : Underlies setting Config.default
  | file {path : Bytes} {document : Toml.Document} {config : Config} (set : Sets setting path)
      (holds : Holds read path document config) : Underlies setting config

end Sources

/-- A configuration in which the directory is overridden, if an overriding one is set. -/
inductive Overrides (setting : Option Bytes) (base : Config) : Config → Prop
  | replaced {directory : Bytes} (set : Sets setting directory) :
      Overrides setting base { base with deviceDir := directory }
  | kept (unset : ∀ directory, ¬ Sets setting directory) : Overrides setting base base

/-! ## Files -/

/-- The text of a configuration is that of an acceptable document. -/
theorem ofText_ok_iff (text : String) (config : Config) :
    Config.ofText text = .ok config ↔
      ∃ document, Toml.Document.parse? text = some document ∧
        Acceptable document ∧ Describes document config := by
  rw [Config.ofText]
  cases parsed : Toml.Document.parse? text with
  | none => simp
  | some document =>
    have names := (Toml.Document.distinct_of_parse parsed).names
    simp [accepted_iff document names]

/-- Other texts are no document, or one that is refused. -/
theorem ofText_error_iff (text : String) (cause : ConfigError) :
    Config.ofText text = .error cause ↔
      (Toml.Document.parse? text = none ∧ cause = .document .malformed) ∨
      ∃ document, Toml.Document.parse? text = some document ∧ Refused document cause := by
  rw [Config.ofText]
  cases parsed : Toml.Document.parse? text with
  | none => simp [eq_comm]
  | some document =>
    have names := (Toml.Document.distinct_of_parse parsed).names
    simp [refused_iff document names]

section Files

variable {read : Bytes → Except IoError Bytes} {path : Bytes}

/-- A file that cannot be read gives no configuration. -/
theorem ofFile_unreadable {cause : IoError} (failed : read path = .error cause) :
    Config.ofFile read path = .error (.unreadable path cause) := by
  simp [Config.ofFile, failed, Except.mapError, bind, Except.bind]

/-- Nor does a file whose content is no text. -/
theorem ofFile_noText {content : Bytes} (got : read path = .ok content)
    (foreign : ∀ text, content ≠ ofText text) :
    Config.ofFile read path = .error (.unreadable path .invalidText) := by
  have undecoded : Text.Utf8.decode? content = none := by
    rw [Option.eq_none_iff_forall_ne_some]
    intro text decoded
    exact foreign text ((Text.Utf8.decode_iff _ _).mp decoded)
  simp [Config.ofFile, got, undecoded, Except.mapError, bind, Except.bind]

/-- Any other file is judged by its text. -/
theorem ofFile_text {text : String} (got : read path = .ok (ofText text)) :
    Config.ofFile read path = Config.ofText text := by
  have decoded : Text.Utf8.decode? (ofText text) = some text := (Text.Utf8.decode_iff _ _).mpr rfl
  simp [Config.ofFile, got, decoded, Except.mapError, bind, Except.bind]

/-- There are no files but these. -/
theorem file_cases (read : Bytes → Except IoError Bytes) (path : Bytes) :
    (∃ cause, read path = .error cause) ∨
    (∃ content, read path = .ok content ∧ ∀ text, content ≠ ofText text) ∨
    ∃ text, read path = .ok (ofText text) := by
  cases read path with
  | error cause => exact .inl ⟨cause, rfl⟩
  | ok content =>
    by_cases isText : ∃ text, content = ofText text
    · obtain ⟨text, rfl⟩ := isText
      exact .inr (.inr ⟨text, rfl⟩)
    · exact .inr (.inl ⟨content, rfl, not_exists.mp isText⟩)

/-- A file gives the configuration whose document it holds. -/
theorem ofFile_ok_iff (config : Config) :
    Config.ofFile read path = .ok config ↔ ∃ document, Holds read path document config := by
  constructor
  · intro given
    obtain ⟨_, failed⟩ | ⟨_, got, foreign⟩ | ⟨text, got⟩ := file_cases read path
    · rw [ofFile_unreadable failed] at given
      cases given
    · rw [ofFile_noText got foreign] at given
      cases given
    · rw [ofFile_text got, ofText_ok_iff] at given
      obtain ⟨document, parsed, acceptable, describes⟩ := given
      exact ⟨document, ⟨text, got, parsed⟩, acceptable, describes⟩
  · rintro ⟨document, ⟨text, got, parsed⟩, acceptable, describes⟩
    rw [ofFile_text got, ofText_ok_iff]
    exact ⟨document, parsed, acceptable, describes⟩

/-- Every other file fails. -/
theorem ofFile_error_iff (cause : ConfigError) :
    Config.ofFile read path = .error cause ↔ Fails read path cause := by
  constructor
  · intro given
    obtain ⟨_, failed⟩ | ⟨_, got, foreign⟩ | ⟨text, got⟩ := file_cases read path
    · rw [ofFile_unreadable failed] at given
      exact Except.error.inj given ▸ .unreadable failed
    · rw [ofFile_noText got foreign] at given
      exact Except.error.inj given ▸ .noText got foreign
    · rw [ofFile_text got, ofText_error_iff] at given
      obtain ⟨unparsed, rfl⟩ | ⟨document, parsed, refused⟩ := given
      · exact .noDocument got unparsed
      · exact .refused ⟨text, got, parsed⟩ refused
  · rintro (failed | ⟨got, foreign⟩ | ⟨got, unparsed⟩ | ⟨⟨text, got, parsed⟩, refused⟩)
    · exact ofFile_unreadable failed
    · exact ofFile_noText got foreign
    · rw [ofFile_text got, ofText_error_iff]
      exact .inl ⟨unparsed, rfl⟩
    · rw [ofFile_text got, ofText_error_iff]
      exact .inr ⟨_, parsed, refused⟩

/-- What a file holds is valid. -/
theorem Holds.valid {document : Toml.Document} {config : Config}
    (holds : Holds read path document config) : config.Valid := by
  obtain ⟨⟨_, _, parsed⟩, acceptable, describes⟩ := holds
  have names := (Toml.Document.distinct_of_parse parsed).names
  have taken := (accepted_iff document names config).mpr ⟨acceptable, describes⟩
  exact ((ofDocument_ok_iff document config).mp taken).2

end Files

/-! ## Layers -/

/-- What is given by a variable is what it is set to. -/
theorem given_iff (setting : Option Bytes) (value : Bytes) :
    Environment.given setting = some value ↔ Sets setting value := by
  simp [Environment.given, Sets, Option.filter_eq_some_iff]

/-- Nothing is given by a variable that is set to nothing. -/
theorem given_none_iff (setting : Option Bytes) :
    Environment.given setting = none ↔ ∀ value, ¬ Sets setting value := by
  simp only [← given_iff, Option.eq_none_iff_forall_ne_some, ne_eq]

section Layers

variable {environment : Environment} {read : Bytes → Except IoError Bytes}

/-- What is under the overriding directory is valid. -/
theorem Underlies.valid {setting : Option Bytes} {base : Config}
    (underlies : Underlies read setting base) : base.Valid := by
  obtain _ | ⟨_, holds⟩ := underlies
  · exact default_valid
  · exact holds.valid

/-- It is still valid under that. -/
theorem Overrides.valid {setting : Option Bytes} {base config : Config}
    (overrides : Overrides setting base config) (valid : base.Valid) : config.Valid := by
  obtain ⟨_, filled⟩ | _ := overrides
  · exact ⟨valid.letter, filled⟩
  · exact valid

/-- A configuration whose directory is overridden, as it is validated. -/
def Environment.overridden (environment : Environment) (base : Config) :
    Except ConfigError Config :=
  match given environment.deviceDir with
  | some directory => Config.validate { base with deviceDir := directory }
  | none => base.validate

/-- What is valid can be overridden, whatever there is to override it. -/
theorem overridden_iff {base : Config} (valid : base.Valid) (result : Except ConfigError Config) :
    environment.overridden base = result ↔
      ∃ config, Overrides environment.deviceDir base config ∧ result = .ok config := by
  rw [Environment.overridden]
  constructor
  · rintro rfl
    cases found : Environment.given environment.deviceDir with
    | none =>
      refine ⟨base, .kept ((given_none_iff _).mp found), ?_⟩
      exact (validate_ok_iff _ _).mpr ⟨valid, rfl⟩
    | some directory =>
      have set := (given_iff _ _).mp found
      refine ⟨_, .replaced set, ?_⟩
      exact (validate_ok_iff _ _).mpr ⟨⟨valid.letter, set.2⟩, rfl⟩
  · rintro ⟨config, overrides, rfl⟩
    have still := overrides.valid valid
    obtain set | unset := overrides
    · rw [(given_iff _ _).mpr set]
      exact (validate_ok_iff _ _).mpr ⟨still, rfl⟩
    · rw [(given_none_iff _).mpr unset]
      exact (validate_ok_iff _ _).mpr ⟨still, rfl⟩

/-- Something can always be overridden. -/
theorem exists_overrides (setting : Option Bytes) (base : Config) :
    ∃ config, Overrides setting base config := by
  by_cases set : ∃ directory, Sets setting directory
  · obtain ⟨directory, set⟩ := set
    exact ⟨_, .replaced set⟩
  · exact ⟨base, .kept (not_exists.mp set)⟩

/-- Overriding leaves the letter and the properties alone. -/
theorem Overrides.keeps {setting : Option Bytes} {base config : Config}
    (overrides : Overrides setting base config) :
    config.fallbackPriority = base.fallbackPriority ∧ config.properties = base.properties := by
  obtain _ | _ := overrides <;> exact ⟨rfl, rfl⟩

/-- The configuration that is read before the directory overrides it. -/
def Environment.base (environment : Environment) (read : Bytes → Except IoError Bytes) :
    Except ConfigError Config :=
  match given environment.configFile with
  | some path => Config.ofFile read path
  | none => .ok Config.default

/-- What is read is what lies under the overriding directory. -/
theorem base_ok_iff (base : Config) :
    environment.base read = .ok base ↔ Underlies read environment.configFile base := by
  rw [Environment.base]
  constructor
  · intro given
    cases found : Environment.given environment.configFile with
    | none =>
      rw [found] at given
      exact Except.ok.inj given ▸ .default ((given_none_iff _).mp found)
    | some path =>
      rw [found] at given
      obtain ⟨document, holds⟩ := (ofFile_ok_iff base).mp given
      exact .file ((given_iff _ _).mp found) holds
  · rintro (unset | ⟨set, holds⟩)
    · rw [(given_none_iff _).mpr unset]
    · rw [(given_iff _ _).mpr set]
      exact (ofFile_ok_iff base).mpr ⟨_, holds⟩

/-- Nothing is read from a file that fails. -/
theorem base_error_iff (cause : ConfigError) :
    environment.base read = .error cause ↔
      ∃ path, Sets environment.configFile path ∧ Fails read path cause := by
  rw [Environment.base]
  constructor
  · intro given
    cases found : Environment.given environment.configFile with
    | none =>
      rw [found] at given
      cases given
    | some path =>
      rw [found] at given
      exact ⟨path, (given_iff _ _).mp found, (ofFile_error_iff cause).mp given⟩
  · rintro ⟨path, set, fails⟩
    rw [(given_iff _ _).mpr set]
    exact (ofFile_error_iff cause).mpr fails

/-- A configuration is read, and then overridden. -/
theorem config_eq :
    environment.config read = environment.base read >>= environment.overridden := by
  rw [Environment.config, Environment.base]
  cases Environment.given environment.configFile <;> rfl

/-- A process has the configuration that its sources make, one over the other. -/
theorem config_ok_iff (config : Config) :
    environment.config read = .ok config ↔
      ∃ base, Underlies read environment.configFile base ∧
        Overrides environment.deviceDir base config := by
  rw [config_eq, bind_ok_iff]
  simp only [base_ok_iff]
  refine exists_congr fun base => and_congr_right fun underlies => ?_
  rw [overridden_iff underlies.valid]
  simp

/-- It has none if its file fails. -/
theorem config_error_iff (cause : ConfigError) :
    environment.config read = .error cause ↔
      ∃ path, Sets environment.configFile path ∧ Fails read path cause := by
  rw [config_eq, bind_error_iff, base_error_iff]
  refine or_iff_left ?_
  rintro ⟨base, given, refused⟩
  have valid := ((base_ok_iff base).mp given).valid
  obtain ⟨_, _, same⟩ := (overridden_iff valid _).mp refused
  cases same

end Layers

/-- The letter of a valid configuration is that of the priority it falls back to. -/
theorem Config.Valid.fallback {config : Config} (valid : config.Valid) :
    (config.fallbackPriority, config.fallback) ∈ Threshold.letters := by
  obtain ⟨priority, named⟩ := valid.letter
  rwa [Config.fallback, (Threshold.fallbackOfLetter_iff _ _).mpr named, Option.getD_some]

/-- A configuration is the default one or that of a file, with a directory that overrides its own if
one is set. It is always valid, so the priority it falls back to is the one of its letter. The
overriding directory decides neither whether there is a configuration nor on anything else in it.
There is none only if a file is set that fails. -/
theorem configuration_is_layered (environment : Environment)
    (read : Bytes → Except IoError Bytes) :
    (∀ config, environment.config read = .ok config ↔
      ∃ base, Underlies read environment.configFile base ∧
        Overrides environment.deviceDir base config) ∧
    (∀ config, environment.config read = .ok config →
      (config.fallbackPriority, config.fallback) ∈ Threshold.letters ∧ config.deviceDir ≠ []) ∧
    (∀ override config, environment.config read = .ok config →
      ∃ other, { environment with deviceDir := override }.config read = .ok other ∧
        other.fallbackPriority = config.fallbackPriority ∧ other.properties = config.properties) ∧
    ((∀ path, ¬ Sets environment.configFile path) →
      ∃ config, environment.config read = .ok config) ∧
    ∀ override cause, { environment with deviceDir := override }.config read = .error cause ↔
      ∃ path, Sets environment.configFile path ∧ Fails read path cause := by
  refine ⟨config_ok_iff, fun config given => ?_, fun override config given => ?_, fun unset => ?_,
    fun override => config_error_iff⟩
  · obtain ⟨base, underlies, overrides⟩ := (config_ok_iff config).mp given
    have valid := overrides.valid underlies.valid
    exact ⟨valid.fallback, valid.directory⟩
  · obtain ⟨base, underlies, overrides⟩ := (config_ok_iff config).mp given
    obtain ⟨other, overridesOther⟩ := exists_overrides override base
    refine ⟨other, (config_ok_iff other).mpr ⟨base, underlies, overridesOther⟩, ?_, ?_⟩
    · rw [overrides.keeps.1, overridesOther.keeps.1]
    · rw [overrides.keeps.2, overridesOther.keeps.2]
  · obtain ⟨config, overrides⟩ := exists_overrides environment.deviceDir Config.default
    exact ⟨config, (config_ok_iff config).mpr ⟨_, .default unset, overrides⟩⟩

/-- A file that sets the letter, under a directory that another variable sets. -/
theorem directory_is_laid_over_a_file :
    ∃ config, Environment.config ⟨some (ofText "c"), some (ofText "d")⟩
        (fun _ => .ok (ofText "fallback_priority=\"W\"")) = .ok config ∧
      config.deviceDir = ofText "d" ∧ config.fallback = .warn := by
  let environment : Environment := ⟨some (ofText "c"), some (ofText "d")⟩
  let read : Bytes → Except IoError Bytes := fun _ => .ok (ofText "fallback_priority=\"W\"")
  let base : Config := { Config.default with fallbackPriority := 'W' }
  have parsed : Toml.Document.parse? "fallback_priority=\"W\"" =
      some [("fallback_priority", .string "W")] := by
    simp only [Toml.Document.parse?, String.reduceToList]
    rfl
  have got : read (ofText "c") = .ok (ofText "fallback_priority=\"W\"") := rfl
  have given : Config.ofFile read (ofText "c") = .ok base := by
    rw [ofFile_text got, Config.ofText, parsed]
    rfl
  obtain ⟨document, holds⟩ := (ofFile_ok_iff base).mp given
  obtain ⟨layered, _⟩ := configuration_is_layered environment read
  refine ⟨{ base with deviceDir := ofText "d" }, (layered _).mpr ⟨base, ?_, ?_⟩, rfl, by decide⟩
  · exact .file ⟨rfl, by decide⟩ holds
  · exact .replaced ⟨rfl, by decide⟩

end KernelLog
