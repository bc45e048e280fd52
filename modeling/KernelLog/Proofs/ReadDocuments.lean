import KernelLog.Proofs.DistinctNames
import KernelLog.Toml.Document

/-!
# In a document that is read, no name occurs twice

This holds of the document and of every table in it. Inline tables are put together by
assignments that have free names, and so are the tables of headers; a draft of a document
has distinct names in both of its parts, and every statement keeps them so.

`Scan.Gives` says that whatever a reader finds has a property. A reader made from others
gives what these give, so the property goes up from plain values to whole statements.
-/

namespace KernelLog.Toml

/-! ## Values that are read -/

namespace Scan

/-- All that is taken off the front of a text has a property. -/
def Gives {α : Type} (Holds : α → Prop) (scan : Scan α) : Prop :=
  ∀ text found rest, scan text = some (found, rest) → Holds found

/-- A date is no table. -/
theorem gives_datetime : Gives Value.Distinct datetime := by
  intro text found rest read
  simp only [datetime] at read
  split at read
  · split at read <;> cases read <;> exact .datetime _
  · obtain ⟨⟨clock, more⟩, _, same⟩ := Option.map_eq_some_iff.mp read
    cases same
    exact .datetime _

/-- Nor is a number with a fraction or an exponent. -/
theorem gives_finiteFloat : Gives Value.Distinct finiteFloat := by
  intro text found rest read
  simp only [finiteFloat, Option.pure_def, Option.bind_eq_bind] at read
  obtain ⟨⟨⟨negative, whole⟩, more⟩, _, read⟩ := Option.bind_eq_some_iff.mp read
  dsimp only at read
  -- With a fraction or without, what is left to do is the same.
  split at read <;> try split at read
  all_goals
    obtain ⟨⟨places, power, last⟩, _, read⟩ := Option.bind_eq_some_iff.mp read
    split at read <;> cases read
    exact .float _

/-- Nor is an infinity, or what is no number. -/
theorem gives_specialFloat : Gives Value.Distinct specialFloat := by
  intro text found rest read
  simp only [specialFloat] at read
  split at read
  · cases read
    exact .float _
  · obtain ⟨more, _, same⟩ := Option.map_eq_some_iff.mp read
    cases same
    exact .float _

/-- Nor is a number in another base than ten. -/
theorem gives_basedInteger (base : Nat) : Gives Value.Distinct (basedInteger base) := by
  intro text found rest read
  simp only [basedInteger, Option.pure_def, Option.bind_eq_bind, Option.bind_eq_some_iff] at read
  obtain ⟨⟨digits, more⟩, _, read⟩ := read
  split at read
  · cases read
  · cases read
    exact .integer _

/-- Nor is any whole number. -/
theorem gives_integer : Gives Value.Distinct integer := by
  intro text found rest read
  unfold integer at read
  split at read
  · exact gives_basedInteger _ _ _ _ read
  · exact gives_basedInteger _ _ _ _ read
  · exact gives_basedInteger _ _ _ _ read
  · simp only [Option.pure_def, Option.bind_eq_bind] at read
    obtain ⟨⟨⟨negative, digits⟩, more⟩, _, read⟩ := Option.bind_eq_some_iff.mp read
    dsimp only at read
    generalize (if negative then -(number 10 digits : Int) else number 10 digits) = value at read
    split at read <;> cases read
    exact .integer _

/-- What one of two readers finds, one of them finds. -/
theorem found_of_either {α : Type} {first second : Option α} {found : α}
    (read : (first <|> second) = some found) : first = some found ∨ second = some found := by
  cases first with
  | none => exact .inr read
  | some other => exact .inl read

/-- Nor is any other value that is neither an array nor an inline table. -/
theorem gives_plainValue : Gives Value.Distinct plainValue := by
  intro text found rest read
  unfold plainValue at read
  split at read
  · cases read
  split at read
  · obtain ⟨⟨content, more⟩, _, same⟩ := Option.map_eq_some_iff.mp read
    cases same
    exact .string _
  split at read
  · obtain ⟨more, _, same⟩ := Option.map_eq_some_iff.mp read
    cases same
    exact .boolean _
  split at read
  · obtain ⟨more, _, same⟩ := Option.map_eq_some_iff.mp read
    cases same
    exact .boolean _
  obtain read | read := found_of_either read
  · exact gives_datetime _ _ _ read
  obtain read | read := found_of_either read
  · exact gives_finiteFloat _ _ _ read
  obtain read | read := found_of_either read
  · exact gives_specialFloat _ _ _ read
  · exact gives_integer _ _ _ read

/-- The items of an array are what its items are read by. -/
theorem gives_items {item : Scan Value} (gives : Gives Value.Distinct item) (budget : Nat) :
    Gives (fun found : List Value => ∀ value ∈ found, value.Distinct) (items item budget) := by
  induction budget with
  | zero =>
    intro text found rest read
    cases read
  | succ budget inductionHypothesis =>
    intro text found rest read
    rw [items] at read
    split at read
    · cases read
      exact fun _ absent => absurd absent List.not_mem_nil
    · rw [Option.bind_eq_bind] at read
      obtain ⟨⟨first, more⟩, one, read⟩ := Option.bind_eq_some_iff.mp read
      have firstHolds := gives _ _ _ one
      dsimp only at read
      split at read
      · obtain ⟨⟨others, last⟩, several, same⟩ := Option.map_eq_some_iff.mp read
        cases same
        exact List.forall_mem_cons.mpr ⟨firstHolds, inductionHypothesis _ _ _ several⟩
      · cases read
        exact List.forall_mem_singleton.mpr firstHolds
      · cases read

/-- An assignment gives the value that is read behind its key. -/
theorem gives_assignment {value : Scan Value} (gives : Gives Value.Distinct value) :
    Gives (fun found : List String × String × Value => found.2.2.Distinct) (assignment value) := by
  intro text found rest read
  simp only [assignment, Option.pure_def, Option.bind_eq_bind, Option.bind_eq_some_iff] at read
  obtain ⟨⟨⟨path, name⟩, more⟩, _, after, _, ⟨assigned, last⟩, one, same⟩ := read
  cases same
  exact gives _ _ _ one

/-- So do the assignments of an inline table. Induct over the budget: each assignment takes one of
it. -/
theorem gives_inlineAssignments {value : Scan Value} (gives : Gives Value.Distinct value)
    (budget : Nat) :
    Gives (fun found : List (List String × String × Value) =>
      ∀ assigned ∈ found, assigned.2.2.Distinct) (inlineAssignments value budget) := by
  induction budget with
  | zero =>
    intro text found rest read
    cases read
  | succ budget inductionHypothesis =>
    intro text found rest read
    simp only [inlineAssignments, Option.bind_eq_bind] at read
    obtain ⟨⟨first, more⟩, one, read⟩ := Option.bind_eq_some_iff.mp read
    have firstHolds := gives_assignment gives _ _ _ one
    split at read
    · obtain ⟨⟨others, last⟩, several, same⟩ := Option.map_eq_some_iff.mp read
      cases same
      exact List.forall_mem_cons.mpr ⟨firstHolds, inductionHypothesis _ _ _ several⟩
    · cases read
      exact List.forall_mem_singleton.mpr firstHolds
    · cases read

end Scan

/-- An invariant that each step keeps holds after all of them. -/
theorem foldlM_keeps {α β : Type} {Keeps : β → Prop} {Holds : α → Prop} {step : β → α → Option β}
    (each : ∀ state item after, Keeps state → Holds item → step state item = some after →
      Keeps after) (items : List α) (hold : ∀ item ∈ items, Holds item) {start last : β}
    (begins : Keeps start) (done : items.foldlM step start = some last) : Keeps last := by
  induction items generalizing start with
  | nil =>
    obtain rfl := Option.some.inj done
    exact begins
  | cons item rest inductionHypothesis =>
    rw [List.forall_mem_cons] at hold
    rw [List.foldlM_cons] at done
    obtain ⟨middle, made, done⟩ := Option.bind_eq_some_iff.mp done
    exact inductionHypothesis hold.2 (each _ _ _ begins hold.1 made) done

namespace Scan

/-- An inline table has distinct names. -/
theorem distinct_inlineTable {assignments : List (List String × String × Value)}
    (each : ∀ assigned ∈ assignments, assigned.2.2.Distinct) {table : Value}
    (made : inlineTable assignments = some table) : table.Distinct := by
  obtain ⟨entries, built, rfl⟩ := Option.map_eq_some_iff.mp made
  have apart : Entries.Distinct entries :=
    foldlM_keeps (fun _ _ _ kept holds done => Entries.distinct_assign kept holds done)
      assignments each .empty built
  exact .table apart.toValues.names apart.toValues.each

/-- Names are distinct in every value that is read. Induct over how deep arrays and inline tables
may be nested. -/
theorem gives_value (depth : Nat) : Gives Value.Distinct (value depth) := by
  induction depth with
  | zero => exact gives_plainValue
  | succ depth inductionHypothesis =>
    intro text found rest read
    rw [value.eq_def] at read
    dsimp only at read
    split at read
    · exact gives_plainValue _ _ _ read
    · rename_i deep _ same
      obtain rfl : depth = deep := Nat.succ.inj same
      obtain ⟨⟨values, more⟩, several, same⟩ := Option.map_eq_some_iff.mp read
      cases same
      exact .array (gives_items inductionHypothesis _ _ _ _ several)
    · rename_i deep _ same
      obtain rfl : depth = deep := Nat.succ.inj same
      split at read
      · cases read
        exact .table List.nodup_nil fun _ absent => absurd absent List.not_mem_nil
      · simp only [Option.pure_def, Option.bind_eq_bind, Option.bind_eq_some_iff] at read
        obtain ⟨⟨assignments, more⟩, several, table, made, same⟩ := read
        cases same
        have each := gives_inlineAssignments inductionHypothesis _ _ _ _ several
        exact distinct_inlineTable each made
    · exact gives_plainValue _ _ _ read

end Scan

/-! ## Documents -/

/-- Names are distinct in the value of an assignment, if a statement is one. -/
def Statement.Distinct : Statement → Prop
  | .assignment _ _ value => value.Distinct
  | .header _ _ | .arrayHeader _ _ => True

namespace Scan

/-- A statement assigns a value that is read. -/
theorem gives_statement : Gives Statement.Distinct statement := by
  intro text found rest read
  rw [statement.eq_def] at read
  split at read
  · simp only [Option.pure_def, Option.bind_eq_bind, Option.bind_eq_some_iff] at read
    obtain ⟨⟨⟨path, name⟩, more⟩, _, after, _, last, _, same⟩ := read
    cases same
    trivial
  · simp only [Option.pure_def, Option.bind_eq_bind, Option.bind_eq_some_iff] at read
    obtain ⟨⟨⟨path, name⟩, more⟩, _, after, _, last, _, same⟩ := read
    cases same
    trivial
  · simp only [Option.pure_def, Option.bind_eq_bind, Option.bind_eq_some_iff] at read
    obtain ⟨⟨⟨path, name, assigned⟩, more⟩, one, last, _, same⟩ := read
    cases same
    exact gives_assignment (gives_value _) _ _ _ one

/-- So do all statements of a text. -/
theorem statements_distinct (budget : Nat) (text : List Char) (found : List Statement)
    (read : statements budget text = some found) : ∀ statement ∈ found, statement.Distinct := by
  induction budget generalizing text found with
  | zero => cases read
  | succ budget inductionHypothesis =>
    simp only [statements, Option.bind_eq_bind] at read
    split at read
    · cases read
      exact fun _ absent => absurd absent List.not_mem_nil
    split at read
    · obtain ⟨rest, _, read⟩ := Option.bind_eq_some_iff.mp read
      exact inductionHypothesis rest found read
    · obtain ⟨⟨first, rest⟩, one, read⟩ := Option.bind_eq_some_iff.mp read
      obtain ⟨others, several, rfl⟩ := Option.map_eq_some_iff.mp read
      exact List.forall_mem_cons.mpr
        ⟨gives_statement _ _ _ one, inductionHypothesis rest others several⟩

end Scan

namespace Draft

/-- Names are distinct in both parts of a draft. -/
structure Distinct (draft : Draft) : Prop where
  complete : Entries.Distinct draft.complete
  current : Entries.Distinct draft.current

variable {draft : Draft}

/-- The current table is put in its place under a free name, or behind the tables of an array. -/
theorem Distinct.close (distinct : draft.Distinct) {entries : Entries}
    (closed : draft.close = some entries) : entries.Distinct := by
  unfold Draft.close at closed
  split at closed
  · obtain rfl := Option.some.inj closed
    exact distinct.current
  refine Entries.distinct_update false (fun origin before after kept made => ?_) _ _
    distinct.complete closed
  split at made
  · rename_i free
    obtain rfl := Option.some.inj made
    refine kept.added free ?_
    split
    · refine Node.distinct_tables_iff.mpr fun element member => ?_
      obtain rfl := List.mem_singleton.mp member
      exact distinct.current
    · exact Node.distinct_table_iff.mpr distinct.current
  · rename_i elements known
    split at made
    · obtain rfl := Option.some.inj made
      refine Entries.distinct_replace kept _ (Node.distinct_tables_iff.mpr fun element member => ?_)
      obtain old | new := List.mem_append.mp member
      · exact Node.distinct_tables_iff.mp (kept.found known) element old
      · obtain rfl := List.mem_singleton.mp new
        exact distinct.current
    · cases made
  · cases made

/-- The table of a new header starts with entries of distinct names. -/
theorem distinct_inherited {complete : Entries} (apart : complete.Distinct) (path : List String)
    (name : String) : Entries.Distinct (inherited complete path name) := by
  unfold inherited
  split
  · rename_i known
    exact Node.distinct_table_iff.mp ((Entries.distinct_follow path apart).found known)
  · exact .empty

/-- A new header closes the current table and takes away what it goes on with. -/
theorem Distinct.openTable (distinct : draft.Distinct) {path : List String} {name : String}
    {isElement : Bool} {opened : Draft}
    (done : draft.openTable path name isElement = some opened) : opened.Distinct := by
  simp only [Draft.openTable, Option.pure_def, Option.bind_eq_bind] at done
  obtain ⟨complete, closed, done⟩ := Option.bind_eq_some_iff.mp done
  obtain ⟨remaining, changed, same⟩ := Option.bind_eq_some_iff.mp done
  obtain rfl := Option.some.inj same
  have apart := distinct.close closed
  refine ⟨?_, ?_⟩
  · refine Entries.distinct_update false (fun origin before after kept made => ?_) _ _ apart changed
    split at made
    · obtain rfl := Option.some.inj made
      exact kept
    · split at made <;> cases made
      exact kept
    · split at made <;> cases made
      exact Entries.distinct_erase kept name
    · cases made
  · dsimp only
    split
    · exact .empty
    · exact distinct_inherited apart path name

/-- Every statement leaves names distinct. -/
theorem Distinct.add (distinct : draft.Distinct) {statement : Statement}
    (assigned : statement.Distinct) {after : Draft} (done : draft.add statement = some after) :
    after.Distinct := by
  cases statement with
  | header path name => exact distinct.openTable done
  | arrayHeader path name => exact distinct.openTable done
  | assignment path name value =>
    obtain ⟨current, made, rfl⟩ := Option.map_eq_some_iff.mp done
    exact ⟨distinct.complete, Entries.distinct_assign distinct.current assigned made⟩

end Draft

namespace Document

/-- In a document that is read from a text, and in all tables within it, no name occurs twice. -/
theorem distinct_of_parse {text : String} {document : Document}
    (read : parse? text = some document) : document.Distinct := by
  simp only [parse?, ofStatements?, Option.pure_def, Option.bind_eq_bind] at read
  obtain ⟨found, scanned, made⟩ := Option.bind_eq_some_iff.mp read
  obtain ⟨draft, built, made⟩ := Option.bind_eq_some_iff.mp made
  obtain ⟨entries, closed, same⟩ := Option.bind_eq_some_iff.mp made
  obtain rfl := Option.some.inj same
  have begins : Draft.empty.Distinct := ⟨.empty, .empty⟩
  have distinct : draft.Distinct :=
    foldlM_keeps (fun _ _ _ kept holds done => Draft.Distinct.add kept holds done) found
      (Scan.statements_distinct _ _ found scanned) begins built
  exact (distinct.close closed).toValues

end Document

end KernelLog.Toml
