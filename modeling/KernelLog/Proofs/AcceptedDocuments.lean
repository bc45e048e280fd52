import KernelLog.Proofs.DocumentEntries
import KernelLog.Proofs.ReadDocuments
import KernelLog.Proofs.Thresholds
import KernelLog.Proofs.WellFormedText

/-!
# Documents that are configurations

A document is judged in two stages: its entries are taken in one after another, and what
they make is validated. `Acceptable` and `Refused` say which documents are configurations,
and why the others are none, without either stage; `Describes` says which configuration
it is.

Between the stages stands a configuration that is described but not validated. It tells
from the document what validation needs to know: whether its letter names a priority and
whether its directory is empty.
-/

namespace KernelLog

open Bytes

/-! ## The law -/

/-- A document that is a configuration: there are no other names in it than those of the fields, and
each field holds what is allowed there. -/
structure Acceptable (document : Toml.Document) : Prop where
  names : ∀ entry ∈ document, ∃ expected, (entry.1, expected) ∈ Config.fields
  directory : ∀ value, ("device_dir", value) ∈ document →
    ∃ text, value = .string text ∧ text ≠ ""
  letter : ∀ value, ("fallback_priority", value) ∈ document →
    ∃ letter priority, value = .string (String.singleton letter) ∧
      (letter, priority) ∈ Threshold.letters
  properties : ∀ value, ("properties", value) ∈ document →
    ∃ entries, value.asTable? = some entries ∧ ∀ entry ∈ entries, ∃ text, entry.2 = .string text

/-- The configuration of a document: the default one, except for the fields that the document
gives. -/
structure Describes (document : Toml.Document) (config : Config) : Prop where
  directory : ∀ text, ("device_dir", .string text) ∈ document → config.deviceDir = ofText text
  noDirectory : (∀ value, ("device_dir", value) ∉ document) →
    config.deviceDir = Config.default.deviceDir
  letter : ∀ letter, ("fallback_priority", .string (String.singleton letter)) ∈ document →
    config.fallbackPriority = letter
  noLetter : (∀ value, ("fallback_priority", value) ∉ document) →
    config.fallbackPriority = Config.default.fallbackPriority
  properties : ∀ value, ("properties", value) ∈ document →
    value.asTable? = some (Config.entriesOf config.properties)
  noProperties : (∀ value, ("properties", value) ∉ document) →
    config.properties = Config.default.properties

/-- All places in a document fit. -/
def Fits (document : Toml.Document) : Prop := ∀ place ∈ Place.ofDocument document, place.Fits

/-- The letter that a document gives, if any, is the letter of a priority. -/
def NamesPriority (document : Toml.Document) : Prop :=
  ∀ letter, ("fallback_priority", .string (String.singleton letter)) ∈ document →
    ∃ priority, (letter, priority) ∈ Threshold.letters

/-- Why a document is no configuration: the first misfit in it, or else a letter that names no
priority, or else an empty directory. -/
inductive Refused (document : Toml.Document) : ConfigError → Prop
  | misfit {fault : DocumentError} (first : FirstMisfit (Place.ofDocument document) fault) :
      Refused document (.document fault)
  | letter {letter : Char} (fits : Fits document)
      (given : ("fallback_priority", .string (String.singleton letter)) ∈ document)
      (nameless : ∀ priority, (letter, priority) ∉ Threshold.letters) :
      Refused document (.fallbackPriority letter)
  | directory (fits : Fits document) (named : NamesPriority document)
      (empty : ("device_dir", .string "") ∈ document) : Refused document .emptyDeviceDir

/-! ## The first stage -/

/-- Values that all are strings are those of properties. -/
theorem strings_iff (entries : List (String × Toml.Value)) :
    (∀ entry ∈ entries, ∃ text, entry.2 = .string text) ↔
      ∃ properties, entries = Config.entriesOf properties := by
  induction entries with
  | nil => exact ⟨fun _ => ⟨[], rfl⟩, fun _ => by simp⟩
  | cons entry rest inductionHypothesis =>
    rw [List.forall_mem_cons, inductionHypothesis]
    constructor
    · rintro ⟨⟨text, isText⟩, properties, rfl⟩
      obtain ⟨name, value⟩ := entry
      obtain rfl : value = .string text := isText
      exact ⟨(name, text) :: properties, rfl⟩
    · rintro ⟨properties, same⟩
      obtain ⟨first, others, rfl, rfl, rfl⟩ := List.map_eq_cons_iff.mp same.symm
      exact ⟨⟨first.2, rfl⟩, others, rfl⟩

/-- The entries that properties are read from give the properties. -/
theorem entriesOf_inj {properties others : Properties}
    (same : Config.entriesOf properties = Config.entriesOf others) : properties = others := by
  refine (List.map_inj_right fun first second equal => ?_).mp same
  obtain ⟨names, texts⟩ := Prod.mk.inj equal
  exact Prod.ext names (Toml.Value.string.inj texts)

/-- What an entry is if its places fit. -/
theorem entry_fits_iff (name : String) (value : Toml.Value) :
    (∀ place ∈ Place.ofEntry name value, place.Fits) ↔
      (name = "device_dir" ∧ ∃ text, value = .string text) ∨
      (name = "fallback_priority" ∧ ∃ letter, value = .string (String.singleton letter)) ∨
      (name = "properties" ∧
        ∃ properties, value.asTable? = some (Config.entriesOf properties)) := by
  rw [all_fit_iff]
  simp only [← Config.withEntry_error_iff Config.default]
  constructor
  · intro none
    cases taken : Config.default.withEntry name value with
    | error fault => exact absurd taken (none fault)
    | ok after =>
      obtain ⟨rfl, text, isText, _⟩ | ⟨rfl, letter, isLetter, _⟩ | ⟨rfl, properties, isTable, _⟩ :=
        (Config.withEntry_ok_iff _ _ _ _).mp taken
      · exact .inl ⟨rfl, text, isText⟩
      · exact .inr (.inl ⟨rfl, letter, isLetter⟩)
      · exact .inr (.inr ⟨rfl, properties, isTable⟩)
  · intro shape fault refused
    have taken : ∃ after, Config.default.withEntry name value = .ok after := by
      simp only [Config.withEntry_ok_iff]
      obtain ⟨named, text, isText⟩ | ⟨named, letter, isLetter⟩ | ⟨named, properties, isTable⟩ :=
        shape
      · exact ⟨_, .inl ⟨named, text, isText, rfl⟩⟩
      · exact ⟨_, .inr (.inl ⟨named, letter, isLetter, rfl⟩)⟩
      · exact ⟨_, .inr (.inr ⟨named, properties, isTable, rfl⟩)⟩
    obtain ⟨after, taken⟩ := taken
    rw [refused] at taken
    cases taken

/-- What the entries of a document are if all its places fit. -/
theorem fits_iff (document : Toml.Document) :
    Fits document ↔
      (∀ entry ∈ document, ∃ expected, (entry.1, expected) ∈ Config.fields) ∧
      (∀ value, ("device_dir", value) ∈ document → ∃ text, value = .string text) ∧
      (∀ value, ("fallback_priority", value) ∈ document →
        ∃ letter, value = .string (String.singleton letter)) ∧
      (∀ value, ("properties", value) ∈ document →
        ∃ properties, value.asTable? = some (Config.entriesOf properties)) := by
  have each : Fits document ↔
      ∀ entry ∈ document, ∀ place ∈ Place.ofEntry entry.1 entry.2, place.Fits := by
    simp only [Fits, Place.ofDocument, List.mem_flatMap, forall_exists_index, and_imp]
    exact ⟨fun all entry among place within => all place entry among within,
      fun all place entry among within => all entry among place within⟩
  simp only [each, entry_fits_iff]
  constructor
  · intro shape
    refine ⟨fun entry among => ?_, fun value among => ?_, fun value among => ?_,
      fun value among => ?_⟩
    · obtain ⟨named, _⟩ | ⟨named, _⟩ | ⟨named, _⟩ := shape entry among
      all_goals simp [named, Config.fields]
    all_goals simpa using shape _ among
  · rintro ⟨names, directory, letter, properties⟩ ⟨name, value⟩ among
    obtain ⟨expected, known⟩ := names _ among
    simp only [Config.fields, List.mem_cons, Prod.mk.injEq, List.not_mem_nil, or_false] at known
    obtain ⟨rfl, _⟩ | ⟨rfl, _⟩ | ⟨rfl, _⟩ := known
    · exact .inl ⟨rfl, directory value among⟩
    · exact .inr (.inl ⟨rfl, letter value among⟩)
    · exact .inr (.inr ⟨rfl, properties value among⟩)

/-- A document has an entry of a name, or it has none. -/
theorem given_or_absent (document : Toml.Document) (name : String) :
    (∃ value, (name, value) ∈ document) ∨ ∀ value, (name, value) ∉ document := by
  rw [← not_exists]
  exact Classical.em _

section Taken

variable {document : Toml.Document} {config other : Config}

/-- What comes of the entries of a document is described by it. -/
theorem describes_of_decode (names : (document.map Prod.fst).Nodup)
    (taken : Config.decode document = .ok config) : Describes document config := by
  rw [Config.decode_eq] at taken
  obtain ⟨directory, noDirectory⟩ := Config.withEntries_directory names taken
  obtain ⟨letter, noLetter⟩ := Config.withEntries_letter names taken
  obtain ⟨properties, noProperties⟩ := Config.withEntries_properties names taken
  exact ⟨directory, noDirectory, letter, noLetter, properties, noProperties⟩

/-- A document whose places fit describes one configuration. -/
theorem Describes.unique (fits : Fits document) (describes : Describes document config)
    (describesOther : Describes document other) : config = other := by
  obtain ⟨_, isText, isLetter, isTable⟩ := (fits_iff document).mp fits
  have directories : config.deviceDir = other.deviceDir := by
    obtain ⟨value, among⟩ | absent := given_or_absent document "device_dir"
    · obtain ⟨text, rfl⟩ := isText value among
      rw [describes.directory text among, describesOther.directory text among]
    · rw [describes.noDirectory absent, describesOther.noDirectory absent]
  have letters : config.fallbackPriority = other.fallbackPriority := by
    obtain ⟨value, among⟩ | absent := given_or_absent document "fallback_priority"
    · obtain ⟨letter, rfl⟩ := isLetter value among
      rw [describes.letter letter among, describesOther.letter letter among]
    · rw [describes.noLetter absent, describesOther.noLetter absent]
  have properties : config.properties = other.properties := by
    obtain ⟨value, among⟩ | absent := given_or_absent document "properties"
    · have same := (describes.properties value among).symm.trans
        (describesOther.properties value among)
      exact entriesOf_inj (Option.some.inj same)
    · rw [describes.noProperties absent, describesOther.noProperties absent]
  obtain ⟨_, _, _⟩ := config
  obtain ⟨_, _, _⟩ := other
  rw [Config.mk.injEq]
  exact ⟨directories, letters, properties⟩

end Taken

/-- The first misfit in a document ends it. -/
theorem decode_error_iff (document : Toml.Document) (fault : DocumentError) :
    Config.decode document = .error fault ↔ FirstMisfit (Place.ofDocument document) fault :=
  Config.withEntries_error_iff Config.default document fault

/-- All entries of a document are taken in if all its places fit. -/
theorem fits_iff_decode (document : Toml.Document) :
    Fits document ↔ ∃ config, Config.decode document = .ok config := by
  rw [Fits, all_fit_iff]
  simp only [← decode_error_iff]
  cases Config.decode document <;> simp

/-- What comes of them is what the document describes. -/
theorem decode_ok_iff (document : Toml.Document) (names : (document.map Prod.fst).Nodup)
    (config : Config) :
    Config.decode document = .ok config ↔ Fits document ∧ Describes document config := by
  constructor
  · intro taken
    have fits := (fits_iff_decode document).mpr ⟨config, taken⟩
    exact ⟨fits, describes_of_decode names taken⟩
  · rintro ⟨fits, describes⟩
    obtain ⟨other, taken⟩ := (fits_iff_decode document).mp fits
    rw [taken, describes.unique fits (describes_of_decode names taken)]

/-! ## The second stage -/

/-- A configuration that is valid: its letter names a priority, and its directory is not empty. -/
structure Config.Valid (config : Config) : Prop where
  letter : ∃ priority, (config.fallbackPriority, priority) ∈ Threshold.letters
  directory : config.deviceDir ≠ []

/-- A letter is refused by validation if it names no priority. -/
theorem nameless_iff (letter : Char) :
    (Config.fallbackOfLetter? letter).isNone = true ↔
      ¬ ∃ priority, (letter, priority) ∈ Threshold.letters := by
  simp only [← Threshold.fallbackOfLetter_iff]
  cases Config.fallbackOfLetter? letter <;> simp

/-- Validation accepts a valid configuration, as it is. -/
theorem validate_ok_iff (config after : Config) :
    config.validate = .ok after ↔ config.Valid ∧ config = after := by
  rw [Config.validate]
  split_ifs with nameless empty
  · have invalid : ¬ config.Valid := fun valid => (nameless_iff _).mp nameless valid.letter
    simp [invalid]
  · have invalid : ¬ config.Valid := fun valid => valid.directory empty
    simp [invalid]
  · rw [nameless_iff, not_not] at nameless
    have valid : config.Valid := ⟨nameless, empty⟩
    simp [valid]

/-- It refuses every other, for the letter first. -/
theorem validate_error_iff (config : Config) (cause : ConfigError) :
    config.validate = .error cause ↔
      (∀ priority, (config.fallbackPriority, priority) ∉ Threshold.letters) ∧
        cause = .fallbackPriority config.fallbackPriority ∨
      (∃ priority, (config.fallbackPriority, priority) ∈ Threshold.letters) ∧
        config.deviceDir = [] ∧ cause = .emptyDeviceDir := by
  rw [Config.validate, ← not_exists]
  split_ifs with nameless empty
  · rw [nameless_iff] at nameless
    simp [nameless, eq_comm]
  · rw [nameless_iff, not_not] at nameless
    simp [nameless, empty, eq_comm]
  · simp [empty, (nameless_iff _).not.mp nameless]

/-- The default configuration is valid. -/
theorem default_valid : Config.default.Valid := ⟨⟨.info, by decide⟩, by decide⟩

/-- A text is empty in bytes if it is. -/
theorem ofText_eq_nil_iff (text : String) : ofText text = [] ↔ text = "" :=
  ofText_inj_iff text ""

namespace Describes

variable {document : Toml.Document} {config : Config} (fits : Fits document)
  (describes : Describes document config)
include fits describes

/-- The letter of a configuration names a priority if the one in the document does. -/
theorem letter_iff :
    (∃ priority, (config.fallbackPriority, priority) ∈ Threshold.letters) ↔
      NamesPriority document := by
  obtain ⟨_, _, isLetter, _⟩ := (fits_iff document).mp fits
  obtain ⟨value, among⟩ | absent := given_or_absent document "fallback_priority"
  · obtain ⟨letter, rfl⟩ := isLetter value among
    constructor
    · intro named other amongOther
      rwa [← describes.letter other amongOther]
    · intro named
      rw [describes.letter letter among]
      exact named letter among
  · rw [describes.noLetter absent]
    exact ⟨fun _ letter among => absurd among (absent _), fun _ => default_valid.letter⟩

/-- The directory of a configuration is empty if the one in the document is. -/
theorem directory_iff : config.deviceDir = [] ↔ ("device_dir", .string "") ∈ document := by
  obtain ⟨_, isText, _, _⟩ := (fits_iff document).mp fits
  constructor
  · intro empty
    obtain ⟨value, among⟩ | absent := given_or_absent document "device_dir"
    · obtain ⟨text, rfl⟩ := isText value among
      rw [describes.directory text among, ofText_eq_nil_iff] at empty
      rwa [empty] at among
    · rw [describes.noDirectory absent] at empty
      exact absurd empty default_valid.directory
  · intro among
    exact describes.directory "" among

end Describes

/-- Two stages lead to a configuration. -/
theorem ofDocument_ok_iff (document : Toml.Document) (config : Config) :
    Config.ofDocument document = .ok config ↔
      Config.decode document = .ok config ∧ config.Valid := by
  rw [Config.ofDocument, bind_ok_iff]
  cases Config.decode document with
  | error fault => simp [Except.mapError]
  | ok taken =>
    simp only [Except.mapError, Except.ok.injEq, exists_eq_left', validate_ok_iff]
    constructor
    · rintro ⟨valid, rfl⟩
      exact ⟨rfl, valid⟩
    · rintro ⟨rfl, valid⟩
      exact ⟨valid, rfl⟩

/-- Each stage has its causes for there being none. -/
theorem ofDocument_error_iff (document : Toml.Document) (cause : ConfigError) :
    Config.ofDocument document = .error cause ↔
      (∃ fault, Config.decode document = .error fault ∧ cause = .document fault) ∨
      ∃ config, Config.decode document = .ok config ∧ config.validate = .error cause := by
  rw [Config.ofDocument, bind_error_iff]
  cases Config.decode document <;> simp [Except.mapError, eq_comm]

/-! ## Both stages -/

section Judgement

variable (document : Toml.Document) (names : (document.map Prod.fst).Nodup)

/-- What is acceptable fits, names a priority and gives no empty directory. -/
theorem acceptable_iff :
    Acceptable document ↔
      Fits document ∧ NamesPriority document ∧ ("device_dir", .string "") ∉ document := by
  rw [fits_iff]
  constructor
  · rintro ⟨known, directory, letter, properties⟩
    refine ⟨⟨known, fun value among => ?_, fun value among => ?_, fun value among => ?_⟩,
      fun name among => ?_, fun among => ?_⟩
    · obtain ⟨text, isText, _⟩ := directory value among
      exact ⟨text, isText⟩
    · obtain ⟨name, _, isLetter, _⟩ := letter value among
      exact ⟨name, isLetter⟩
    · obtain ⟨entries, isTable, strings⟩ := properties value among
      obtain ⟨given, rfl⟩ := (strings_iff entries).mp strings
      exact ⟨given, isTable⟩
    · obtain ⟨other, priority, same, named⟩ := letter _ among
      rw [String.singleton_inj.mp (Toml.Value.string.inj same)]
      exact ⟨priority, named⟩
    · obtain ⟨text, same, filled⟩ := directory _ among
      exact filled (Toml.Value.string.inj same).symm
  · rintro ⟨⟨known, isText, isLetter, isTable⟩, named, filled⟩
    refine ⟨known, fun value among => ?_, fun value among => ?_, fun value among => ?_⟩
    · obtain ⟨text, rfl⟩ := isText value among
      exact ⟨text, rfl, fun empty => filled (empty ▸ among)⟩
    · obtain ⟨letter, rfl⟩ := isLetter value among
      obtain ⟨priority, known⟩ := named letter among
      exact ⟨letter, priority, rfl, known⟩
    · obtain ⟨properties, table⟩ := isTable value among
      exact ⟨_, table, (strings_iff _).mpr ⟨properties, rfl⟩⟩

include names

/-- An acceptable document gives the configuration that it describes. -/
theorem accepted_iff (config : Config) :
    Config.ofDocument document = .ok config ↔ Acceptable document ∧ Describes document config := by
  rw [ofDocument_ok_iff, decode_ok_iff document names, acceptable_iff]
  constructor
  · rintro ⟨⟨fits, describes⟩, letter, directory⟩
    refine ⟨⟨fits, (describes.letter_iff fits).mp letter, ?_⟩, describes⟩
    rwa [← describes.directory_iff fits]
  · rintro ⟨⟨fits, named, filled⟩, describes⟩
    refine ⟨⟨fits, describes⟩, (describes.letter_iff fits).mpr named, ?_⟩
    rwa [Ne, describes.directory_iff fits]

/-- What fits describes a configuration. -/
theorem exists_describes (fits : Fits document) : ∃ config, Describes document config := by
  obtain ⟨config, taken⟩ := (fits_iff_decode document).mp fits
  exact ⟨config, describes_of_decode names taken⟩

/-- So an acceptable document is not refused. -/
theorem taken_iff : (∃ config, Config.ofDocument document = .ok config) ↔ Acceptable document := by
  simp only [accepted_iff document names, exists_and_left, and_iff_left_iff_imp]
  intro acceptable
  exact exists_describes document names ((acceptable_iff document).mp acceptable).1

/-- Other documents are refused. -/
theorem refused_iff (cause : ConfigError) :
    Config.ofDocument document = .error cause ↔ Refused document cause := by
  rw [ofDocument_error_iff]
  simp only [decode_ok_iff document names, decode_error_iff, validate_error_iff]
  constructor
  · rintro (⟨fault, first, rfl⟩ | ⟨config, ⟨fits, describes⟩, invalid⟩)
    · exact .misfit first
    obtain ⟨nameless, rfl⟩ | ⟨named, empty, rfl⟩ := invalid
    · -- The default letter names a priority, so the one that names none is in the document.
      have unnamed : ¬ NamesPriority document := by
        rw [← describes.letter_iff fits]
        exact not_exists.mpr nameless
      simp only [NamesPriority, not_forall] at unnamed
      obtain ⟨letter, given, _⟩ := unnamed
      rw [describes.letter letter given] at nameless ⊢
      exact .letter fits given nameless
    · exact .directory fits ((describes.letter_iff fits).mp named)
        ((describes.directory_iff fits).mp empty)
  · rintro (first | ⟨fits, given, nameless⟩ | ⟨fits, named, empty⟩)
    · exact .inl ⟨_, first, rfl⟩
    · obtain ⟨config, describes⟩ := exists_describes document names fits
      rw [← describes.letter _ given] at nameless ⊢
      exact .inr ⟨config, ⟨fits, describes⟩, .inl ⟨nameless, rfl⟩⟩
    · obtain ⟨config, describes⟩ := exists_describes document names fits
      refine .inr ⟨config, ⟨fits, describes⟩, .inr ⟨?_, ?_, rfl⟩⟩
      · exact (describes.letter_iff fits).mpr named
      · exact (describes.directory_iff fits).mpr empty

end Judgement

/-- Texts that are no document are refused as malformed. A document, in which no name occurs twice,
is taken exactly if it is acceptable, and then gives the one configuration that it describes.
Otherwise it is refused, for its first misfit or, if all places fit, for its letter before its
directory. -/
theorem documents_are_taken_whole_or_refused :
    (∀ text, Toml.Document.parse? text = none →
      Config.ofText text = .error (.document .malformed)) ∧
    (∀ text document, Toml.Document.parse? text = some document →
      document.Distinct ∧ Config.ofText text = Config.ofDocument document) ∧
    ∀ document : Toml.Document, document.Distinct →
      ((∃ config, Config.ofDocument document = .ok config) ↔ Acceptable document) ∧
      (∀ config, Config.ofDocument document = .ok config ↔
        Acceptable document ∧ Describes document config) ∧
      ∀ cause, Config.ofDocument document = .error cause ↔ Refused document cause := by
  refine ⟨fun text unread => ?_, fun text document read => ?_, fun document distinct => ?_⟩
  · rw [Config.ofText, unread]
  · refine ⟨Toml.Document.distinct_of_parse read, ?_⟩
    rw [Config.ofText, read]
  · have names := distinct.names
    exact ⟨taken_iff document names, accepted_iff document names, refused_iff document names⟩

/-- A document with two mistakes that are found by validation: the letter is the one that is
found. -/
theorem letter_is_refused_before_the_directory :
    ∃ document, Toml.Document.parse? "device_dir=\"\"\nfallback_priority=\"Q\"" = some document ∧
      document.Distinct ∧ ("device_dir", .string "") ∈ document ∧
      Config.ofDocument document = .error (.fallbackPriority 'Q') := by
  let document : Toml.Document := [("device_dir", .string ""), ("fallback_priority", .string "Q")]
  have read : Toml.Document.parse? "device_dir=\"\"\nfallback_priority=\"Q\"" = some document := by
    simp only [Toml.Document.parse?, String.reduceToList]
    rfl
  obtain ⟨_, texts, documents⟩ := documents_are_taken_whole_or_refused
  obtain ⟨distinct, _⟩ := texts _ _ read
  obtain ⟨_, _, refused⟩ := documents document distinct
  have fits : Fits document := (fits_iff_decode document).mpr ⟨_, rfl⟩
  refine ⟨document, read, distinct, List.mem_cons_self, ?_⟩
  apply (refused _).mpr
  apply Refused.letter fits
  · exact List.mem_cons_of_mem _ List.mem_cons_self
  · simp [Threshold.letters]

end KernelLog
