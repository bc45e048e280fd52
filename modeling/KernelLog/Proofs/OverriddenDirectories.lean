import KernelLog.Proofs.LayeredConfigurations
import Mathlib.Data.List.Nodup

/-!
# Directories that are overridden

A directory that is set by a variable takes the place of the one in the file, but the file
is validated before that. `ofDocument_sets` tells what a document is worth of which one
entry is the directory: what the other entries are worth, unless the directory is empty.
So the overridden directory is as good as any other if it is not empty, and an empty one
spoils the file although nothing would be left of it.
-/

namespace KernelLog

open Bytes

/-- A document that sets the directory to a text, among other entries. -/
def SetsDirectory (others : Toml.Document) (text : String) (document : Toml.Document) : Prop :=
  ∃ before after, others = before ++ after ∧
    document = before ++ ("device_dir", .string text) :: after

namespace Config

/-- A configuration with another directory. -/
def withDeviceDir (config : Config) (directory : Bytes) : Config :=
  { config with deviceDir := directory }

/-- What the other entries do to a configuration has nothing to do with its directory. -/
theorem withEntry_withDeviceDir (config : Config) (directory : Bytes) {name : String}
    (other : name ≠ "device_dir") (value : Toml.Value) :
    (config.withDeviceDir directory).withEntry name value =
      (config.withEntry name value).map (·.withDeviceDir directory) := by
  rw [withEntry, withEntry, if_neg other, if_neg other]
  split_ifs with letter table
  · cases characterOf value <;> rfl
  · cases propertiesOf value <;> rfl
  · rfl

/-- Nor has what all of them do. Induct over the entries: none of them sets the directory. -/
theorem withEntries_withDeviceDir (config : Config) (directory : Bytes) {document : Toml.Document}
    (others : "device_dir" ∉ document.map Prod.fst) :
    (config.withDeviceDir directory).withEntries document =
      (config.withEntries document).map (·.withDeviceDir directory) := by
  induction document generalizing config with
  | nil => rfl
  | cons entry rest inductionHypothesis =>
    rw [List.map_cons, List.mem_cons, not_or] at others
    rw [withEntries, withEntries, List.foldlM_cons, List.foldlM_cons,
      withEntry_withDeviceDir config directory (Ne.symm others.1)]
    cases config.withEntry entry.1 entry.2 with
    | error fault => rfl
    | ok middle => exact inductionHypothesis middle others.2

end Config

section Documents

variable {others document : Toml.Document} {text : String}
  (sets : SetsDirectory others text document) (names : (document.map Prod.fst).Nodup)
include sets names

/-- The other entries have other names. -/
theorem SetsDirectory.names_others : ("device_dir" :: others.map Prod.fst).Nodup := by
  obtain ⟨before, after, rfl, rfl⟩ := sets
  rw [List.map_append, List.map_cons, List.nodup_middle] at names
  rwa [List.map_append]

/-- An entry that sets the directory changes that, wherever it stands among the others. -/
theorem decode_sets :
    Config.decode document = (Config.decode others).map (·.withDeviceDir (ofText text)) := by
  have foreign := (List.nodup_cons.mp (sets.names_others names)).1
  obtain ⟨before, after, rfl, rfl⟩ := sets
  rw [List.map_append, List.mem_append, not_or] at foreign
  rw [Config.decode_eq, Config.decode_eq, Config.withEntries_append, Config.withEntries_append]
  cases Config.default.withEntries before with
  | error fault => rfl
  | ok config => exact config.withEntries_withDeviceDir (ofText text) foreign.2

/-- A document that sets the directory is worth what the other entries are, with that directory,
unless it is empty. -/
theorem ofDocument_sets :
    Config.ofDocument document =
      Config.ofDocument others >>= fun config =>
        if text = "" then .error .emptyDeviceDir
        else .ok (config.withDeviceDir (ofText text)) := by
  rw [Config.ofDocument, Config.ofDocument, decode_sets sets names]
  cases taken : Config.decode others with
  | error fault => rfl
  | ok config =>
    -- Without the entry the directory is the default one, so validation judges the other entries by
    -- their letter alone.
    obtain ⟨foreign, namesOthers⟩ := List.nodup_cons.mp (sets.names_others names)
    have filled : config.deviceDir ≠ [] := by
      rw [(describes_of_decode namesOthers taken).noDirectory]
      · exact default_valid.directory
      · exact fun value among => foreign (List.mem_map.mpr ⟨_, among, rfl⟩)
    change Config.validate (config.withDeviceDir (ofText text)) = config.validate >>= _
    simp only [Config.validate, Config.withDeviceDir, ofText_eq_nil_iff, if_neg filled]
    split_ifs <;> rfl

end Documents

/-! ## The directory that overrides -/

section Runs

variable {read : Bytes → Except IoError Bytes} {path directory : Bytes} (named : path ≠ [])
  (filled : directory ≠ [])
include named filled

/-- What is overridden is what the document in the file makes. -/
theorem config_document {document : Toml.Document} (readsAs : ReadsAs read path document) :
    Environment.config ⟨some path, some directory⟩ read =
      (Config.ofDocument document).map (·.withDeviceDir directory) := by
  obtain ⟨text, got, parsed⟩ := readsAs
  have set : Environment.given (some path) = some path := (given_iff _ _).mpr ⟨rfl, named⟩
  have judged : Config.ofFile read path = Config.ofDocument document := by
    rw [ofFile_text got, Config.ofText, parsed]
  rw [config_eq, Environment.base, set]
  change Config.ofFile read path >>= _ = _
  rw [judged]
  cases made : Config.ofDocument document with
  | error cause => rfl
  | ok base =>
    -- The file is valid by itself, so the second validation finds nothing.
    have valid := ((ofDocument_ok_iff document base).mp made).2
    exact (overridden_iff valid _).mpr ⟨_, .replaced ⟨rfl, filled⟩, rfl⟩

section Sets

variable {others document : Toml.Document} {text : String} (readsAs : ReadsAs read path document)
  (sets : SetsDirectory others text document)
include readsAs sets

/-- Of the directory in a file that is overridden, it matters only whether it is empty. -/
theorem config_sets :
    Environment.config ⟨some path, some directory⟩ read =
      Config.ofDocument others >>= fun config =>
        if text = "" then .error .emptyDeviceDir else .ok (config.withDeviceDir directory) := by
  have names : (document.map Prod.fst).Nodup := by
    obtain ⟨_, _, parsed⟩ := readsAs
    exact (Toml.Document.distinct_of_parse parsed).names
  rw [config_document named filled readsAs, ofDocument_sets sets names]
  cases Config.ofDocument others with
  | error cause => rfl
  | ok config =>
    change Except.map _ (ite _ _ _) = ite _ _ _
    split_ifs <;> rfl

/-- It does not matter if something else is wrong in the file. -/
theorem config_sets_error {cause : ConfigError} (made : Config.ofDocument others = .error cause) :
    Environment.config ⟨some path, some directory⟩ read = .error cause := by
  rw [config_sets named filled readsAs sets, made]
  rfl

/-- It matters if nothing else is. -/
theorem config_sets_ok {config : Config} (made : Config.ofDocument others = .ok config) :
    Environment.config ⟨some path, some directory⟩ read =
      if text = "" then .error .emptyDeviceDir else .ok (config.withDeviceDir directory) := by
  rw [config_sets named filled readsAs sets, made]
  rfl

end Sets

end Runs

/-- Two files set the directory, and are the same document otherwise; another directory overrides
both. They give the same configuration, or fail in the same way, exactly if both of their
directories are empty or neither is, or if the rest of the document is no configuration. Where the
rest is one, an empty directory is the failure. -/
theorem overridden_directory_matters_if_empty {read : Bytes → Except IoError Bytes}
    {directory firstPath secondPath : Bytes} (filled : directory ≠ [])
    (firstNamed : firstPath ≠ []) (secondNamed : secondPath ≠ [])
    {others firstDocument secondDocument : Toml.Document} {first second : String}
    (firstReads : ReadsAs read firstPath firstDocument)
    (secondReads : ReadsAs read secondPath secondDocument)
    (firstSets : SetsDirectory others first firstDocument)
    (secondSets : SetsDirectory others second secondDocument) :
    let outcome (path : Bytes) := Environment.config ⟨some path, some directory⟩ read
    (outcome firstPath = outcome secondPath ↔
      ((first = "" ↔ second = "") ∨ ¬ Acceptable others)) ∧
    (Acceptable others →
      (outcome firstPath = .error .emptyDeviceDir ↔ first = "") ∧
      (first ≠ "" → ∃ config, outcome firstPath = .ok config ∧ config.deviceDir = directory)) := by
  intro outcome
  have names : (others.map Prod.fst).Nodup := by
    obtain ⟨_, _, parsed⟩ := firstReads
    have distinct := Toml.Document.distinct_of_parse parsed
    exact (List.nodup_cons.mp (firstSets.names_others distinct.names)).2
  cases made : Config.ofDocument others with
  | error cause =>
    have firstFails : outcome firstPath = .error cause :=
      config_sets_error firstNamed filled firstReads firstSets made
    have secondFails : outcome secondPath = .error cause :=
      config_sets_error secondNamed filled secondReads secondSets made
    have unacceptable : ¬ Acceptable others := by
      rw [← taken_iff others names, made]
      exact fun ⟨_, taken⟩ => by cases taken
    rw [firstFails, secondFails]
    exact ⟨iff_of_true rfl (.inr unacceptable), fun acceptable => absurd acceptable unacceptable⟩
  | ok config =>
    have firstOutcome : outcome firstPath =
        if first = "" then .error .emptyDeviceDir else .ok (config.withDeviceDir directory) :=
      config_sets_ok firstNamed filled firstReads firstSets made
    have secondOutcome : outcome secondPath =
        if second = "" then .error .emptyDeviceDir else .ok (config.withDeviceDir directory) :=
      config_sets_ok secondNamed filled secondReads secondSets made
    have acceptable : Acceptable others := (taken_iff others names).mp ⟨config, made⟩
    rw [firstOutcome, secondOutcome]
    by_cases firstEmpty : first = "" <;> by_cases secondEmpty : second = "" <;>
      simp [firstEmpty, secondEmpty, acceptable, Config.withDeviceDir]

/-- Two directories that are not empty are overridden alike. -/
theorem filled_directories_are_overridden_alike :
    let read : Bytes → Except IoError Bytes := fun path =>
      .ok (ofText (if path = ofText "a" then "device_dir=\"d\"" else "device_dir=\"e\""))
    let outcome (path : String) := Environment.config ⟨some (ofText path), some (ofText "o")⟩ read
    outcome "a" = outcome "b" := by
  intro read outcome
  have firstReads : ReadsAs read (ofText "a") [("device_dir", .string "d")] := by
    refine ⟨"device_dir=\"d\"", rfl, ?_⟩
    simp only [Toml.Document.parse?, String.reduceToList]
    rfl
  have secondReads : ReadsAs read (ofText "b") [("device_dir", .string "e")] := by
    refine ⟨"device_dir=\"e\"", rfl, ?_⟩
    simp only [Toml.Document.parse?, String.reduceToList]
    rfl
  have firstSets : SetsDirectory [] "d" [("device_dir", .string "d")] := ⟨[], [], rfl, rfl⟩
  have secondSets : SetsDirectory [] "e" [("device_dir", .string "e")] := ⟨[], [], rfl, rfl⟩
  have overriding : ofText "o" ≠ [] := by decide
  have law := overridden_directory_matters_if_empty overriding (by decide) (by decide)
    firstReads secondReads firstSets secondSets
  exact law.1.mpr (.inl (by decide))

/-- An empty directory is not overridden: the file that sets it is refused, although the same file
with any other directory is not. -/
theorem empty_directory_is_not_overridden :
    let read : Bytes → Except IoError Bytes := fun path =>
      .ok (ofText (if path = ofText "a" then "device_dir=\"\"" else "device_dir=\"d\""))
    let outcome (path : String) := Environment.config ⟨some (ofText path), some (ofText "o")⟩ read
    outcome "a" = .error .emptyDeviceDir ∧
    outcome "b" = .ok (Config.default.withDeviceDir (ofText "o")) ∧
    ¬ ∀ (read : Bytes → Except IoError Bytes) (directory firstPath secondPath : Bytes)
        (others firstDocument secondDocument : Toml.Document) (first second : String),
        directory ≠ [] → firstPath ≠ [] → secondPath ≠ [] →
        ReadsAs read firstPath firstDocument → ReadsAs read secondPath secondDocument →
        SetsDirectory others first firstDocument → SetsDirectory others second secondDocument →
        Environment.config ⟨some firstPath, some directory⟩ read =
          Environment.config ⟨some secondPath, some directory⟩ read := by
  intro read outcome
  have overriding : ofText "o" ≠ [] := by decide
  have emptyReads : ReadsAs read (ofText "a") [("device_dir", .string "")] := by
    refine ⟨"device_dir=\"\"", rfl, ?_⟩
    simp only [Toml.Document.parse?, String.reduceToList]
    rfl
  have filledReads : ReadsAs read (ofText "b") [("device_dir", .string "d")] := by
    refine ⟨"device_dir=\"d\"", rfl, ?_⟩
    simp only [Toml.Document.parse?, String.reduceToList]
    rfl
  have emptySets : SetsDirectory [] "" [("device_dir", .string "")] := ⟨[], [], rfl, rfl⟩
  have filledSets : SetsDirectory [] "d" [("device_dir", .string "d")] := ⟨[], [], rfl, rfl⟩
  have refused : outcome "a" = .error .emptyDeviceDir :=
    config_sets (by decide) overriding emptyReads emptySets
  have taken : outcome "b" = .ok (Config.default.withDeviceDir (ofText "o")) :=
    config_sets (by decide) overriding filledReads filledSets
  refine ⟨refused, taken, fun alike => ?_⟩
  have same : outcome "a" = outcome "b" :=
    alike read (ofText "o") (ofText "a") (ofText "b") [] _ _ "" "d" overriding (by decide)
      (by decide) emptyReads filledReads emptySets filledSets
  rw [refused, taken] at same
  cases same

end KernelLog
