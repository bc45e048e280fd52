import KernelLog.Config
import KernelLog.Proofs.DistinctNames
import Mathlib.Tactic.SplitIfs

/-!
# The entries of a configuration's document

A document is taken in entry by entry, and the first one that does not fit ends it. What
fits and what does not is said here apart from that: `Misfit` lists the mistakes that can
be made in one place of a document, and `FirstMisfit` says which is the first of them.
The entries of the table of properties are places of their own, behind the table's own
place.

A document in which every place fits gives a configuration. As no name occurs twice in
it, each field is what the entry of its name says, and the default without one.
-/

namespace KernelLog

open Bytes

/-! ## Mistakes -/

/-- The entries of a value that is presented as a table: those of a table, and the only one of a
date. -/
def Toml.Value.asTable? : Toml.Value → Option (List (String × Toml.Value))
  | .table entries => some entries
  | .datetime text => some [(Config.datetimeEntry, .string text)]
  | _ => none

/-- A place in a document where something particular is expected. -/
inductive Place
  /-- An entry of the document. -/
  | field (name : String) (value : Toml.Value)
  /-- A value in the table of properties. -/
  | property (value : Toml.Value)

namespace Place

/-- The places in the table of properties. -/
def ofProperties (entries : List (String × Toml.Value)) : List Place :=
  entries.map fun entry => .property entry.2

/-- The places of one entry: its own, and for the table of properties those in the table. -/
def ofEntry (name : String) (value : Toml.Value) : List Place :=
  .field name value ::
    if name = "properties" then ofProperties (value.asTable?.getD []) else []

/-- The places of a document, in its order. -/
def ofDocument (document : Toml.Document) : List Place :=
  document.flatMap fun entry => ofEntry entry.1 entry.2

end Place

/-- The fields of a configuration, and what is expected in each. -/
def Config.fields : List (String × Expected) :=
  [("device_dir", .path), ("fallback_priority", .character), ("properties", .map)]

/-- A value of the type that is expected. -/
def Expected.Admits (expected : Expected) (value : Toml.Value) : Prop :=
  match expected with
  | .map => value.asTable?.isSome
  | .path | .character | .string => ∃ text, value = .string text

namespace Place

/-- The value that stands in a place. -/
def value : Place → Toml.Value
  | .field _ value => value
  | .property value => value

/-- What is expected in a place, if anything is. -/
def expected? : Place → Option Expected
  | .field name _ => Config.fields.lookup name
  | .property _ => some .string

end Place

/-- The mistakes that can be made in a place. -/
inductive Misfit : Place → DocumentError → Prop
  | name {name : String} {value : Toml.Value} (foreign : Config.fields.lookup name = none) :
      Misfit (.field name value) (.unknownField name)
  | type {place : Place} {expected : Expected} (expects : place.expected? = some expected)
      (wrong : ¬ expected.Admits place.value) :
      Misfit place (.wrongType (Found.ofValue place.value) expected)
  | length {place : Place} {text : String} (expects : place.expected? = some .character)
      (isText : place.value = .string text) (notOne : text.length ≠ 1) :
      Misfit place (.notOneCharacter text)

/-- The mistakes that can be made where something is expected: a value of another type and, where a
character is expected, a string that is not one character long. -/
theorem misfit_iff (place : Place) (expected : Expected)
    (expects : place.expected? = some expected) (fault : DocumentError) :
    Misfit place fault ↔
      (¬ expected.Admits place.value ∧
        fault = .wrongType (Found.ofValue place.value) expected) ∨
      (expected = .character ∧ ∃ text, place.value = .string text ∧ text.length ≠ 1 ∧
        fault = .notOneCharacter text) := by
  constructor
  · rintro (foreign | ⟨same, wrong⟩ | ⟨same, isText, notOne⟩)
    · rw [Place.expected?, foreign] at expects
      cases expects
    · obtain rfl := Option.some.inj (expects.symm.trans same)
      exact .inl ⟨wrong, rfl⟩
    · obtain rfl := Option.some.inj (expects.symm.trans same)
      exact .inr ⟨rfl, _, isText, notOne, rfl⟩
  · rintro (⟨wrong, rfl⟩ | ⟨rfl, text, isText, notOne, rfl⟩)
    · exact .type expects wrong
    · exact .length expects isText notOne

/-- No mistake is made in a place. -/
def Place.Fits (place : Place) : Prop := ∀ fault, ¬ Misfit place fault

/-- The first mistake in places that are looked at one after another. -/
inductive FirstMisfit : List Place → DocumentError → Prop
  | here {place : Place} {fault : DocumentError} {rest : List Place} (misfit : Misfit place fault) :
      FirstMisfit (place :: rest) fault
  | later {place : Place} {fault : DocumentError} {rest : List Place} (fits : place.Fits)
      (first : FirstMisfit rest fault) : FirstMisfit (place :: rest) fault

/-- No mistake is made nowhere. -/
theorem not_firstMisfit_nil (fault : DocumentError) : ¬ FirstMisfit [] fault := nofun

/-- The first mistake is in the first place, or behind it if that fits. -/
theorem firstMisfit_cons_iff (place : Place) (rest : List Place) (fault : DocumentError) :
    FirstMisfit (place :: rest) fault ↔
      Misfit place fault ∨ place.Fits ∧ FirstMisfit rest fault := by
  constructor
  · rintro (misfit | ⟨fits, first⟩)
    · exact .inl misfit
    · exact .inr ⟨fits, first⟩
  · rintro (misfit | ⟨fits, first⟩)
    · exact .here misfit
    · exact .later fits first

/-- Where there is one place, the first mistake is the one made there. -/
theorem firstMisfit_singleton_iff (place : Place) (fault : DocumentError) :
    FirstMisfit [place] fault ↔ Misfit place fault := by
  rw [firstMisfit_cons_iff]
  simp only [not_firstMisfit_nil, and_false, or_false]

/-- There is a first mistake unless all places fit. -/
theorem all_fit_iff (places : List Place) :
    (∀ place ∈ places, place.Fits) ↔ ∀ fault, ¬ FirstMisfit places fault := by
  induction places with
  | nil => simp [not_firstMisfit_nil]
  | cons place rest inductionHypothesis =>
    rw [List.forall_mem_cons, inductionHypothesis]
    simp only [firstMisfit_cons_iff, not_or, not_and]
    constructor
    · rintro ⟨fits, others⟩ fault
      exact ⟨fits fault, fun _ => others fault⟩
    · intro none
      have fits : place.Fits := fun fault => (none fault).1
      exact ⟨fits, fun fault => (none fault).2 fits⟩

/-- The first mistake is made in the first places, or in others if the first ones fit. -/
theorem firstMisfit_append_iff (places others : List Place) (fault : DocumentError) :
    FirstMisfit (places ++ others) fault ↔
      FirstMisfit places fault ∨ (∀ place ∈ places, place.Fits) ∧ FirstMisfit others fault := by
  induction places with
  | nil => simp [not_firstMisfit_nil]
  | cons place rest inductionHypothesis =>
    rw [List.cons_append, firstMisfit_cons_iff, inductionHypothesis, firstMisfit_cons_iff,
      List.forall_mem_cons]
    constructor
    · rintro (misfit | ⟨fits, first | ⟨otherwise, first⟩⟩)
      · exact .inl (.inl misfit)
      · exact .inl (.inr ⟨fits, first⟩)
      · exact .inr ⟨⟨fits, otherwise⟩, first⟩
    · rintro ((misfit | ⟨fits, first⟩) | ⟨⟨fits, otherwise⟩, first⟩)
      · exact .inl misfit
      · exact .inr ⟨fits, .inl first⟩
      · exact .inr ⟨fits, .inr ⟨otherwise, first⟩⟩

/-! ## Values -/

section Steps

variable {ε α β : Type} (first : Except ε α) (next : α → Except ε β)

/-- Two steps succeed if both do. -/
theorem bind_ok_iff (result : β) :
    (first >>= next) = .ok result ↔ ∃ middle, first = .ok middle ∧ next middle = .ok result := by
  cases first with
  | ok middle => simp [bind, Except.bind]
  | error cause => simp [bind, Except.bind]

/-- Two steps fail if one of them does; the second is not taken if the first one does. -/
theorem bind_error_iff (cause : ε) :
    (first >>= next) = .error cause ↔
      first = .error cause ∨ ∃ middle, first = .ok middle ∧ next middle = .error cause := by
  cases first with
  | ok middle => simp [bind, Except.bind]
  | error cause => simp [bind, Except.bind]

end Steps

namespace Config

/-- A string is what a value has to be for its text. -/
theorem textOf_ok_iff (expected : Expected) (value : Toml.Value) (text : String) :
    textOf expected value = .ok text ↔ value = .string text := by
  cases value <;> simp [textOf]

/-- Every other value is of a wrong type. -/
theorem textOf_error_iff (expected : Expected) (value : Toml.Value) (fault : DocumentError) :
    textOf expected value = .error fault ↔
      (¬ ∃ text, value = .string text) ∧ fault = .wrongType (Found.ofValue value) expected := by
  cases value <;> simp [textOf, eq_comm]

/-- A string of one character is a letter, and every other is too long or too short. -/
theorem characterOf_string (text : String) :
    (∃ letter, text = String.singleton letter ∧ characterOf (.string text) = .ok letter) ∨
      text.length ≠ 1 ∧ characterOf (.string text) = .error (.notOneCharacter text) := by
  simp only [characterOf, textOf, bind, Except.bind]
  rw [← String.length_toList]
  cases shape : text.toList with
  | nil => exact .inr ⟨Nat.zero_ne_one, rfl⟩
  | cons first rest =>
    cases rest with
    | nil =>
      refine .inl ⟨first, ?_, rfl⟩
      rw [← String.toList_inj, shape, String.toList_singleton]
    | cons second others => exact .inr ⟨by simp, rfl⟩

/-- A letter is a string of one character. -/
theorem characterOf_ok_iff (value : Toml.Value) (letter : Char) :
    characterOf value = .ok letter ↔ value = .string (String.singleton letter) := by
  constructor
  · intro read
    obtain ⟨text, isText, _⟩ := (bind_ok_iff _ _ _).mp read
    obtain rfl := (textOf_ok_iff _ _ _).mp isText
    obtain ⟨other, rfl, same⟩ | ⟨_, refused⟩ := characterOf_string text
    · rw [same] at read
      rw [Except.ok.inj read]
    · rw [refused] at read
      cases read
  · rintro rfl
    obtain ⟨other, same, read⟩ | ⟨notOne, _⟩ := characterOf_string (String.singleton letter)
    · rw [read, String.singleton_inj.mp same]
    · exact absurd String.length_singleton notOne

/-- What is no letter is a mistake in the place of one. -/
theorem characterOf_error_iff (value : Toml.Value) (fault : DocumentError) :
    characterOf value = .error fault ↔ Misfit (.field "fallback_priority" value) fault := by
  rw [misfit_iff _ .character rfl]
  constructor
  · intro read
    obtain wrong | ⟨text, isText, _⟩ := (bind_error_iff _ _ _).mp read
    · exact .inl ((textOf_error_iff _ _ _).mp wrong)
    · obtain rfl := (textOf_ok_iff _ _ _).mp isText
      obtain ⟨_, _, same⟩ | ⟨notOne, refused⟩ := characterOf_string text
      · rw [same] at read
        cases read
      · rw [refused] at read
        exact .inr ⟨rfl, text, rfl, notOne, (Except.error.inj read).symm⟩
  · rintro (wrong | ⟨_, text, isText, notOne, rfl⟩)
    · exact (bind_error_iff _ _ _).mpr (.inl ((textOf_error_iff _ _ _).mpr wrong))
    · obtain rfl : value = .string text := isText
      obtain ⟨letter, rfl, _⟩ | ⟨_, refused⟩ := characterOf_string text
      · exact absurd String.length_singleton notOne
      · exact refused

/-- The entries that properties are read from. -/
def entriesOf (properties : Properties) : List (String × Toml.Value) :=
  properties.map fun entry => (entry.1, .string entry.2)

/-- Reads one property. -/
def propertyOf (entry : String × Toml.Value) : Except DocumentError (String × String) := do
  let text ← textOf .string entry.2
  pure (entry.1, text)

/-- Properties are read from a table, one after another. -/
theorem propertiesOf_eq (value : Toml.Value) :
    propertiesOf value =
      match value.asTable? with
      | some entries => entries.mapM propertyOf
      | none => .error (.wrongType (Found.ofValue value) .map) := by
  cases value <;> rfl

/-- A property is read from an entry that is a string. -/
theorem propertyOf_ok_iff (entry : String × Toml.Value) (property : String × String) :
    propertyOf entry = .ok property ↔ entry = (property.1, .string property.2) := by
  obtain ⟨name, value⟩ := entry
  obtain ⟨key, text⟩ := property
  rw [propertyOf, bind_ok_iff]
  simp only [textOf_ok_iff, pure, Except.pure, Except.ok.injEq, Prod.mk.injEq]
  constructor
  · rintro ⟨_, rfl, rfl, rfl⟩
    exact ⟨rfl, rfl⟩
  · rintro ⟨rfl, rfl⟩
    exact ⟨text, rfl, rfl, rfl⟩

/-- Any other entry is a mistake in its place. -/
theorem propertyOf_error_iff (entry : String × Toml.Value) (fault : DocumentError) :
    propertyOf entry = .error fault ↔ Misfit (.property entry.2) fault := by
  rw [propertyOf, bind_error_iff, textOf_error_iff, misfit_iff _ .string rfl]
  constructor
  · rintro (wrong | ⟨_, _, ⟨⟩⟩)
    exact .inl wrong
  · rintro (wrong | ⟨⟨⟩, _⟩)
    exact .inl wrong

/-- Properties are read from entries that all are strings. -/
theorem properties_ok_iff (entries : List (String × Toml.Value)) (properties : Properties) :
    entries.mapM propertyOf = .ok properties ↔ entries = entriesOf properties := by
  induction entries generalizing properties with
  | nil => cases properties <;> simp [entriesOf, pure, Except.pure]
  | cons entry rest inductionHypothesis =>
    rw [List.mapM_cons, bind_ok_iff]
    simp only [bind_ok_iff, propertyOf_ok_iff, inductionHypothesis, pure, Except.pure,
      Except.ok.injEq]
    constructor
    · rintro ⟨first, rfl, others, rfl, rfl⟩
      rfl
    · intro same
      obtain ⟨first, others, rfl, one, several⟩ := List.map_eq_cons_iff.mp same.symm
      exact ⟨first, one.symm, others, several.symm, rfl⟩

/-- Otherwise the first that is not is the mistake. -/
theorem properties_error_iff (entries : List (String × Toml.Value)) (fault : DocumentError) :
    entries.mapM propertyOf = .error fault ↔ FirstMisfit (Place.ofProperties entries) fault := by
  induction entries with
  | nil => simp [Place.ofProperties, not_firstMisfit_nil, pure, Except.pure]
  | cons entry rest inductionHypothesis =>
    rw [List.mapM_cons, bind_error_iff, Place.ofProperties, List.map_cons, firstMisfit_cons_iff,
      ← Place.ofProperties, ← inductionHypothesis]
    cases one : propertyOf entry with
    | ok first =>
      have fits : (Place.property entry.2).Fits := by
        intro other misfit
        rw [← propertyOf_error_iff, one] at misfit
        cases misfit
      simp [fits, fits fault, bind_error_iff, pure, Except.pure]
    | error other =>
      have misfit := (propertyOf_error_iff _ _).mp one
      have notFits : ¬ (Place.property entry.2).Fits := fun fits => fits other misfit
      simp [notFits, ← propertyOf_error_iff, one]

/-- What a value has to be, to be taken for properties. -/
theorem propertiesOf_ok_iff (value : Toml.Value) (properties : Properties) :
    propertiesOf value = .ok properties ↔ value.asTable? = some (entriesOf properties) := by
  rw [propertiesOf_eq]
  cases value.asTable? with
  | none => simp
  | some entries => simp only [properties_ok_iff, Option.some.injEq]

example : propertiesOf (.datetime "1979-05-27") = .ok [(datetimeEntry, "1979-05-27")] := rfl

/-- A value is not taken for properties if it is no table, or because of the first value in the
table that is no string. -/
theorem propertiesOf_error_iff (value : Toml.Value) (fault : DocumentError) :
    propertiesOf value = .error fault ↔
      FirstMisfit (Place.ofEntry "properties" value) fault := by
  rw [propertiesOf_eq, Place.ofEntry, if_pos rfl, firstMisfit_cons_iff, Place.Fits]
  simp only [misfit_iff (.field "properties" value) .map rfl,
    Expected.Admits, Place.value]
  cases found : value.asTable? with
  | none => simp [Place.ofProperties, not_firstMisfit_nil, eq_comm]
  | some entries => simp [properties_error_iff]

/-! ## Entries -/

/-- What one entry of a document does to a configuration. -/
theorem withEntry_ok_iff (config after : Config) (name : String) (value : Toml.Value) :
    config.withEntry name value = .ok after ↔
      (name = "device_dir" ∧ ∃ text, value = .string text ∧
        after = { config with deviceDir := Bytes.ofText text }) ∨
      (name = "fallback_priority" ∧ ∃ letter, value = .string (String.singleton letter) ∧
        after = { config with fallbackPriority := letter }) ∨
      (name = "properties" ∧ ∃ properties, value.asTable? = some (entriesOf properties) ∧
        after = { config with properties := properties }) := by
  rw [withEntry]
  split_ifs with directory letter table
  · subst directory
    rw [bind_ok_iff]
    simp [textOf_ok_iff, pure, Except.pure, @eq_comm _ after]
  · subst letter
    rw [bind_ok_iff]
    simp [characterOf_ok_iff, pure, Except.pure, @eq_comm _ after]
  · subst table
    rw [bind_ok_iff]
    simp [propertiesOf_ok_iff, pure, Except.pure, @eq_comm _ after]
  · simp [directory, letter, table]

/-- An entry is refused for the first mistake in its places. -/
theorem withEntry_error_iff (config : Config) (name : String) (value : Toml.Value)
    (fault : DocumentError) :
    config.withEntry name value = .error fault ↔ FirstMisfit (Place.ofEntry name value) fault := by
  rw [withEntry]
  split_ifs with directory letter table
  · subst directory
    rw [Place.ofEntry, if_neg (by decide), firstMisfit_singleton_iff,
      misfit_iff _ .path rfl, bind_error_iff, textOf_error_iff]
    simp [pure, Except.pure, Expected.Admits, Place.value]
  · subst letter
    rw [Place.ofEntry, if_neg (by decide), firstMisfit_singleton_iff, ← characterOf_error_iff,
      bind_error_iff]
    simp [pure, Except.pure]
  · subst table
    rw [← propertiesOf_error_iff, bind_error_iff]
    simp [pure, Except.pure]
  · have foreign : fields.lookup name = none := by
      simp [fields, List.lookup_cons, beq_false_of_ne directory, beq_false_of_ne letter,
        beq_false_of_ne table]
    rw [Place.ofEntry, if_neg table, firstMisfit_singleton_iff]
    constructor
    · rintro ⟨⟩
      exact .name foreign
    · rintro (_ | ⟨expects, _⟩ | ⟨expects, _, _⟩)
      · rfl
      · rw [Place.expected?, foreign] at expects
        cases expects
      · rw [Place.expected?, foreign] at expects
        cases expects

/-! ## Documents -/

/-- Takes in the entries of a document, one after another. -/
def withEntries (config : Config) (document : Toml.Document) : Except DocumentError Config :=
  document.foldlM (fun config entry => config.withEntry entry.1 entry.2) config

/-- A document is taken in from the defaults. -/
theorem decode_eq (document : Toml.Document) : decode document = default.withEntries document := rfl

/-- Entries are taken in behind those before them. -/
theorem withEntries_append (config : Config) (before after : Toml.Document) :
    config.withEntries (before ++ after) =
      config.withEntries before >>= fun middle => middle.withEntries after :=
  List.foldlM_append

/-- Entries are refused for the first mistake in their places. -/
theorem withEntries_error_iff (config : Config) (document : Toml.Document) (fault : DocumentError) :
    config.withEntries document = .error fault ↔
      FirstMisfit (Place.ofDocument document) fault := by
  induction document generalizing config with
  | nil => simp [withEntries, Place.ofDocument, not_firstMisfit_nil, pure, Except.pure]
  | cons entry rest inductionHypothesis =>
    rw [withEntries, List.foldlM_cons, bind_error_iff, Place.ofDocument, List.flatMap_cons,
      ← Place.ofDocument, firstMisfit_append_iff, all_fit_iff]
    simp only [← withEntry_error_iff config]
    constructor
    · rintro (refused | ⟨middle, taken, refused⟩)
      · exact .inl refused
      · refine .inr ⟨fun other wrong => ?_, (inductionHypothesis middle).mp refused⟩
        rw [taken] at wrong
        cases wrong
    · rintro (refused | ⟨fits, first⟩)
      · exact .inl refused
      · cases taken : config.withEntry entry.1 entry.2 with
        | ok middle => exact .inr ⟨middle, rfl, (inductionHypothesis middle).mpr first⟩
        | error other => exact absurd taken (fits other)

/-- Each field of a configuration is what the entry of its name says, and remains as it was without
one. Induct over the document: the entry of the field changes it, and the entries of other names do
not. -/
theorem withEntries_field {α : Type} (name : String) (field : Config → α)
    (Says : Toml.Value → α → Prop)
    (own : ∀ {config after : Config} {value : Toml.Value},
      config.withEntry name value = .ok after → Says value (field after))
    (other : ∀ {config after : Config} {another : String} {value : Toml.Value}, another ≠ name →
      config.withEntry another value = .ok after → field after = field config)
    {document : Toml.Document} (names : (document.map Prod.fst).Nodup) {config last : Config}
    (taken : config.withEntries document = .ok last) :
    (∀ value, (name, value) ∈ document → Says value (field last)) ∧
      ((∀ value, (name, value) ∉ document) → field last = field config) := by
  induction document generalizing config with
  | nil =>
    obtain rfl : config = last := Except.ok.inj taken
    exact ⟨fun _ absent => absurd absent List.not_mem_nil, fun _ => rfl⟩
  | cons entry rest inductionHypothesis =>
    obtain ⟨another, value⟩ := entry
    obtain ⟨middle, step, following⟩ := (bind_ok_iff _ _ _).mp taken
    obtain ⟨new, namesRest⟩ := List.nodup_cons.mp names
    obtain ⟨present, absent⟩ := inductionHypothesis namesRest following
    by_cases same : another = name
    · subst same
      have last_eq : field last = field middle :=
        absent fun _ among => new (List.mem_map.mpr ⟨_, among, rfl⟩)
      refine ⟨fun found member => ?_, fun none => absurd List.mem_cons_self (none value)⟩
      obtain first | among := List.mem_cons.mp member
      · obtain rfl := (Prod.mk.inj first).2
        rw [last_eq]
        exact own step
      · exact absurd (List.mem_map.mpr ⟨_, among, rfl⟩) new
    · refine ⟨fun found member => ?_, fun none => ?_⟩
      · obtain first | among := List.mem_cons.mp member
        · exact absurd (Prod.mk.inj first).1.symm same
        · exact present found among
      · rw [absent fun found among => none found (List.mem_cons_of_mem _ among), other same step]

section Fields

variable {document : Toml.Document} {config last : Config}
  (names : (document.map Prod.fst).Nodup) (taken : config.withEntries document = .ok last)
include names taken

/-- The directory is the one that the document gives, if any. -/
theorem withEntries_directory :
    (∀ text, ("device_dir", .string text) ∈ document → last.deviceDir = Bytes.ofText text) ∧
      ((∀ value, ("device_dir", value) ∉ document) → last.deviceDir = config.deviceDir) := by
  obtain ⟨given, absent⟩ := withEntries_field "device_dir" deviceDir
    (fun value path => ∃ text, value = .string text ∧ path = Bytes.ofText text)
    (by
      intro before after value step
      obtain ⟨text, isText, rfl⟩ := by simpa [withEntry_ok_iff] using step
      exact ⟨text, isText, rfl⟩)
    (by
      intro before after name value foreign step
      obtain ⟨same, _⟩ | ⟨_, _, _, rfl⟩ | ⟨_, _, _, rfl⟩ := (withEntry_ok_iff _ _ _ _).mp step
      · exact absurd same foreign
      · rfl
      · rfl)
    names taken
  refine ⟨fun text among => ?_, absent⟩
  obtain ⟨_, same, path⟩ := given _ among
  rw [path, Toml.Value.string.inj same]

/-- The letter is the one that the document gives, if any. -/
theorem withEntries_letter :
    (∀ letter, ("fallback_priority", .string (String.singleton letter)) ∈ document →
        last.fallbackPriority = letter) ∧
      ((∀ value, ("fallback_priority", value) ∉ document) →
        last.fallbackPriority = config.fallbackPriority) := by
  obtain ⟨given, absent⟩ := withEntries_field "fallback_priority" fallbackPriority
    (fun value letter => value = .string (String.singleton letter))
    (by
      intro before after value step
      obtain ⟨letter, isLetter, rfl⟩ := by simpa [withEntry_ok_iff] using step
      exact isLetter)
    (by
      intro before after name value foreign step
      obtain ⟨_, _, _, rfl⟩ | ⟨same, _⟩ | ⟨_, _, _, rfl⟩ := (withEntry_ok_iff _ _ _ _).mp step
      · rfl
      · exact absurd same foreign
      · rfl)
    names taken
  refine ⟨fun letter among => ?_, absent⟩
  exact (String.singleton_inj.mp (Toml.Value.string.inj (given _ among))).symm

/-- The properties are those that the document gives, if any. -/
theorem withEntries_properties :
    (∀ value, ("properties", value) ∈ document →
        value.asTable? = some (entriesOf last.properties)) ∧
      ((∀ value, ("properties", value) ∉ document) → last.properties = config.properties) := by
  apply withEntries_field "properties" properties
    (fun value properties => value.asTable? = some (entriesOf properties)) _ _ names taken
  · intro before after value step
    obtain ⟨properties, isTable, rfl⟩ := by simpa [withEntry_ok_iff] using step
    exact isTable
  · intro before after name value foreign step
    obtain ⟨_, _, _, rfl⟩ | ⟨_, _, _, rfl⟩ | ⟨same, _⟩ := (withEntry_ok_iff _ _ _ _).mp step
    · rfl
    · rfl
    · exact absurd same foreign

end Fields

end Config
end KernelLog
