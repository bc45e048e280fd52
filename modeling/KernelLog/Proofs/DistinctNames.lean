import KernelLog.Toml.Table

/-!
# Tables in which no name occurs twice

`Apart` says of a table that no two of its entries have one name, together with a property
that all of its entries have. The property of the entries is to be such tables themselves,
so names are distinct at whatever depth.

Nothing checks this as a whole. Each time an entry is added to a table under construction,
its name is free; and whatever else is done to the table leaves the names as they are or
takes some away. Finishing a table changes no names.
-/

namespace KernelLog.Toml

/-! ## Tables -/

/-- Named things of which no two have one name, and of which each has a property. -/
structure Apart {α : Type} (Holds : α → Prop) (entries : List (String × α)) : Prop where
  names : (entries.map Prod.fst).Nodup
  each : ∀ entry ∈ entries, Holds entry.2

namespace Apart

variable {α : Type} {Holds : α → Prop} {entries : List (String × α)}

/-- Nothing has a name. -/
theorem empty : Apart Holds ([] : List (String × α)) where
  names := List.nodup_nil
  each := fun _ absent => absurd absent List.not_mem_nil

/-- What is found under a name has the property. -/
theorem found (apart : Apart Holds entries) {name : String} {thing : α}
    (known : entries.lookup name = some thing) : Holds thing := by
  obtain ⟨before, after, rfl, _⟩ := List.lookup_eq_some_iff.mp known
  exact apart.each (name, thing) (List.mem_append_right _ List.mem_cons_self)

/-- A thing may be added under a name that is free. -/
theorem added (apart : Apart Holds entries) {name : String} {thing : α}
    (free : entries.lookup name = none) (holds : Holds thing) :
    Apart Holds (entries ++ [(name, thing)]) where
  names := by
    have new : name ∉ entries.map Prod.fst := by
      intro known
      obtain ⟨entry, member, rfl⟩ := List.mem_map.mp known
      have other := List.lookup_eq_none_iff.mp free entry member
      simp at other
    rw [List.map_append, List.map_singleton, List.nodup_append]
    refine ⟨apart.names, List.pairwise_singleton _ _, ?_⟩
    rintro known among last isNew rfl
    rw [List.mem_singleton.mp isNew] at among
    exact new among
  each := by
    intro entry member
    obtain among | last := List.mem_append.mp member
    · exact apart.each entry among
    · obtain rfl := List.mem_singleton.mp last
      exact holds

end Apart

/-- A value in whose tables, itself and those within it, no name occurs twice. -/
inductive Value.Distinct : Value → Prop
  | string (text : String) : Distinct (.string text)
  | integer (number : Int) : Distinct (.integer number)
  | float (number : Decimal.Binary64) : Distinct (.float number)
  | boolean (truth : Bool) : Distinct (.boolean truth)
  | datetime (text : String) : Distinct (.datetime text)
  | array {items : List Value} (each : ∀ item ∈ items, Distinct item) : Distinct (.array items)
  | table {entries : List (String × Value)} (names : (entries.map Prod.fst).Nodup)
      (each : ∀ entry ∈ entries, Distinct entry.2) : Distinct (.table entries)

/-- An entry under construction in whose tables, itself and those within it, no name occurs
twice. -/
inductive Node.Distinct : Node → Prop
  | value {finished : Value} (distinct : finished.Distinct) : Distinct (.value finished)
  | table {origin : Origin} {entries : Entries} (names : (entries.map Prod.fst).Nodup)
      (each : ∀ entry ∈ entries, Distinct entry.2) : Distinct (.table origin entries)
  | tables {elements : List Entries}
      (names : ∀ entries ∈ elements, (entries.map Prod.fst).Nodup)
      (each : ∀ entries ∈ elements, ∀ entry ∈ entries, Distinct entry.2) :
      Distinct (.tables elements)

/-- Names are distinct in a document and in all tables within it. -/
abbrev Document.Distinct (document : Document) : Prop := Apart Value.Distinct document

/-- Names are distinct in a table under construction and in all tables within it. -/
abbrev Entries.Distinct (entries : Entries) : Prop := Apart Node.Distinct entries

/-! ## Finished tables -/

/-- Finishing entries changes no names. -/
theorem Node.names_toValues (entries : Entries) :
    (Node.toValues entries).map Prod.fst = entries.map Prod.fst := by
  induction entries with
  | nil => rfl
  | cons entry rest inductionHypothesis =>
    rw [Node.toValues, List.map_cons, List.map_cons, inductionHypothesis]

mutual

/-- A finished entry has distinct names if it had them under construction. -/
theorem Node.distinct_toValue : ∀ node : Node, node.Distinct → node.toValue.Distinct
  | .value _, .value distinct => distinct
  | .table _ entries, .table names each =>
    .table (Node.names_toValues entries ▸ names) (Node.distinct_toValues entries each)
  | .tables elements, .tables names each => .array (Node.distinct_toTables elements names each)

/-- So have finished entries. -/
theorem Node.distinct_toValues : ∀ entries : List (String × Node),
    (∀ entry ∈ entries, entry.2.Distinct) → ∀ entry ∈ Node.toValues entries, entry.2.Distinct
  | [], _, _, absent => absurd absent List.not_mem_nil
  | (name, node) :: rest, each, entry, member => by
    rw [List.forall_mem_cons] at each
    obtain rfl | later := List.mem_cons.mp member
    · exact Node.distinct_toValue node each.1
    · exact Node.distinct_toValues rest each.2 entry later

/-- So has each table of a finished array. -/
theorem Node.distinct_toTables : ∀ elements : List (List (String × Node)),
    (∀ entries ∈ elements, (entries.map Prod.fst).Nodup) →
    (∀ entries ∈ elements, ∀ entry ∈ entries, entry.2.Distinct) →
    ∀ item ∈ Node.toTables elements, item.Distinct
  | [], _, _, _, absent => absurd absent List.not_mem_nil
  | entries :: rest, names, each, item, member => by
    rw [List.forall_mem_cons] at names each
    obtain rfl | later := List.mem_cons.mp member
    · exact .table (Node.names_toValues entries ▸ names.1) (Node.distinct_toValues entries each.1)
    · exact Node.distinct_toTables rest names.2 each.2 item later

end

/-- A finished table has distinct names if it had them under construction. -/
theorem Entries.Distinct.toValues {entries : Entries} (apart : entries.Distinct) :
    Document.Distinct (Node.toValues entries) where
  names := Node.names_toValues entries ▸ apart.names
  each := Node.distinct_toValues entries apart.each

/-- A table under construction has distinct names as an entry if it has them as a table. -/
theorem Node.distinct_table_iff {origin : Origin} {entries : Entries} :
    (Node.table origin entries).Distinct ↔ entries.Distinct := by
  constructor
  · rintro (_ | ⟨names, each⟩)
    exact ⟨names, each⟩
  · rintro ⟨names, each⟩
    exact .table names each

/-- So does an array of tables. -/
theorem Node.distinct_tables_iff {elements : List Entries} :
    (Node.tables elements).Distinct ↔ ∀ entries ∈ elements, entries.Distinct := by
  constructor
  · rintro (_ | _ | ⟨names, each⟩) entries member
    exact ⟨names entries member, each entries member⟩
  · intro apart
    exact .tables (fun entries member => (apart entries member).names)
      fun entries member => (apart entries member).each

/-! ## Tables under construction -/

namespace Entries

variable {entries : Entries}

/-- Another entry may be put in the place of the one with its name. -/
theorem distinct_replace (apart : entries.Distinct) (name : String) {node : Node}
    (distinct : node.Distinct) : (entries.replace name node).Distinct where
  names := by
    have same : (entries.replace name node).map Prod.fst = entries.map Prod.fst := by
      rw [replace, List.map_map]
      refine List.map_congr_left fun entry _ => ?_
      rw [Function.comp_apply]
      split
      · rename_i equal
        exact (eq_of_beq equal).symm
      · rfl
    rw [same]
    exact apart.names
  each := by
    intro entry member
    obtain ⟨old, among, rfl⟩ := List.mem_map.mp member
    split
    · exact distinct
    · exact apart.each old among

/-- An entry may be taken away. -/
theorem distinct_erase (apart : entries.Distinct) (name : String) :
    (entries.erase name).Distinct where
  names := apart.names.sublist (List.filter_sublist.map Prod.fst)
  each := fun entry member => apart.each entry (List.mem_filter.mp member).1

/-- The last table of an array, or an empty one if there is none. -/
theorem distinct_last {elements : List Entries} (each : ∀ inner ∈ elements, inner.Distinct) :
    Entries.Distinct (elements.getLast?.getD []) := by
  cases last : elements.getLast? with
  | none => exact .empty
  | some inner => exact each inner (List.mem_of_getLast? last)

/-- A path leads to a table with distinct names. -/
theorem distinct_follow (path : List String) (apart : entries.Distinct) :
    (entries.follow path).Distinct := by
  induction path generalizing entries with
  | nil => exact apart
  | cons name path inductionHypothesis =>
    rw [follow]
    split
    · rename_i known
      exact inductionHypothesis (Node.distinct_table_iff.mp (apart.found known))
    · rename_i known
      exact inductionHypothesis (distinct_last (Node.distinct_tables_iff.mp (apart.found known)))
    · exact .empty

/-- A change that keeps names distinct may be made in the table at the end of a path. Induct over
the path: a table on the way is put back in its place, and one that is missing is added. -/
theorem distinct_update (isDotted : Bool) {change : Origin → Entries → Option Entries}
    (keeps : ∀ origin before after, Entries.Distinct before → change origin before = some after →
      after.Distinct) (path : List String) (origin : Origin) (apart : entries.Distinct)
    {changed : Entries} (done : entries.update isDotted change path origin = some changed) :
    changed.Distinct := by
  induction path generalizing entries origin changed with
  | nil => exact keeps origin entries changed apart done
  | cons name path inductionHypothesis =>
    simp only [update, Option.pure_def, Option.bind_eq_bind] at done
    split at done
    · rename_i free
      obtain ⟨inner, made, last⟩ := Option.bind_eq_some_iff.mp done
      obtain rfl := Option.some.inj last
      exact apart.added free (Node.distinct_table_iff.mpr (inductionHypothesis _ .empty made))
    · cases done
    · rename_i elements known
      obtain ⟨inner, made, last⟩ := Option.bind_eq_some_iff.mp done
      obtain rfl := Option.some.inj last
      have old := Node.distinct_tables_iff.mp (apart.found known)
      refine distinct_replace apart name (Node.distinct_tables_iff.mpr fun element member => ?_)
      obtain kept | isNew := List.mem_append.mp member
      · exact old element ((List.dropLast_sublist elements).mem kept)
      · obtain rfl := List.mem_singleton.mp isNew
        exact inductionHypothesis _ (distinct_last old) made
    · rename_i way known
      split at done
      · cases done
      · obtain ⟨inner, made, last⟩ := Option.bind_eq_some_iff.mp done
        obtain rfl := Option.some.inj last
        have old := Node.distinct_table_iff.mp (apart.found known)
        exact distinct_replace apart name
          (Node.distinct_table_iff.mpr (inductionHypothesis _ old made))

/-- An assignment adds its entry under a free name. -/
theorem distinct_assign (apart : entries.Distinct) {path : List String} {name : String}
    {value : Value} (distinct : value.Distinct) {changed : Entries}
    (done : entries.assign path name value = some changed) : changed.Distinct := by
  refine distinct_update true (fun origin before after kept made => ?_) path .header apart done
  split at made
  · cases made
  · rename_i admitted
    obtain rfl := Option.some.inj made
    rw [Bool.or_eq_true, not_or, Option.not_isSome_iff_eq_none] at admitted
    exact kept.added admitted.2 (.value distinct)

end Entries

end KernelLog.Toml
