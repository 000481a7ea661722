import VersionBump.Database.Differences
import VersionBump.Proofs.KeyMapEntries

/-!
# Flattened tables

The flattened view of a table, read off what the modules state about it: the statements are listed in
the order of the modules, and of two statements of the same attribute or part the later one counts.

* `Database.statements` lists what the modules of a registry state.
* `Database.PartKind` and `Database.Attribute` are what a table is made of, with where a module states
  it and where the flattened table keeps it; their `view` is the last statement.
* `Database.PartKind.find?_flat_flatten`, `Database.Attribute.flat_flatten` and
  `Database.location_flatten` say that the flattened tables hold the view.
-/

namespace VersionBump.Database

/-! ## Statements -/

/-- What the modules state about tables, one after the other, each with its file. -/
def statements (r : Registry ModuleSchema) : List (Located Database.Table) :=
  (r.toList.map (·.2)).flatMap fun schema => schema.value.tables.map (⟨·, schema.location⟩)

/-- The file that mentions a table first. -/
def firstMention? (r : Registry ModuleSchema) (table : String) : Option Path :=
  ((statements r).find? (·.value.name = table)).map (·.location)

/-- A kind of part of a table: how a module states such parts, what identifies them within the table,
and where the flattened table keeps them. -/
structure PartKind (α : Type) where
  stated : Database.Table → List α
  key : α → String
  flat : FlatTable → KeyMap String (Located α)
  flat_mention : ∀ location, flat { location } = ∅ := by intros; rfl
  flat_extend : ∀ t location s, flat (FlatTable.extend t location s) =
    (stated s).foldl (fun m x => m.insert (key x) ⟨x, location⟩) (flat t) := by intros; rfl

/-- An attribute of a table: how a module states it, and where the flattened table keeps it. -/
structure Attribute where
  stated : Database.Table → Option String
  flat : FlatTable → Option String
  flat_mention : ∀ location, flat { location } = none := by intros; rfl
  flat_extend : ∀ t location s, flat (FlatTable.extend t location s) =
    (stated s).orElse fun _ => flat t := by intros; rfl

/-- Columns are identified by their names. -/
def columnKind : PartKind Column where
  stated := Table.columns
  key := Column.name
  flat := FlatTable.columns

/-- Indexes are identified by their reference ids. -/
def indexKind : PartKind Index where
  stated := Table.indexes
  key := Index.referenceId
  flat := FlatTable.indexes

/-- Keys are identified by their reference ids. -/
def constraintKind : PartKind Constraint where
  stated := Table.constraints
  key := Constraint.referenceId
  flat := FlatTable.constraints

/-- The resource of a table. -/
def resourceAttribute : Attribute where
  stated := Table.resource
  flat := FlatTable.resource

/-- The engine of a table. -/
def engineAttribute : Attribute where
  stated := Table.engine
  flat := FlatTable.engine

/-- The comment of a table. -/
def commentAttribute : Attribute where
  stated := Table.comment
  flat := FlatTable.comment

/-- The attributes of a table. -/
def attributes : List Attribute := [resourceAttribute, engineAttribute, commentAttribute]

section Views

variable {α : Type}

/-- The parts that are stated, each with its table and its file. -/
def PartKind.listed (p : PartKind α) (ms : List (Located Database.Table)) :
    List (String × Located α) :=
  ms.flatMap fun m => (p.stated m.value).map fun x => (m.value.name, ⟨x, m.location⟩)

/-- The values of an attribute that are stated, each with its table. -/
def Attribute.listed (a : Attribute) (ms : List (Located Database.Table)) : List (String × String) :=
  ms.filterMap fun m => (a.stated m.value).map (m.value.name, ·)

/-- Of the stated parts of a table with one key, the last. -/
def PartKind.last (p : PartKind α) (ms : List (Located Database.Table)) (table key : String) :
    Option (Located α) :=
  (((p.listed ms).filter fun e => e.1 = table ∧ p.key e.2.value = key).getLast?).map (·.2)

/-- Of the stated values of an attribute of a table, the last. -/
def Attribute.last (a : Attribute) (ms : List (Located Database.Table)) (table : String) :
    Option String :=
  (((a.listed ms).filter (·.1 = table)).getLast?).map (·.2)

/-- The part of a table under a key in the flattened view. -/
def PartKind.view (p : PartKind α) (r : Registry ModuleSchema) (table key : String) :
    Option (Located α) :=
  p.last (statements r) table key

/-- The attribute of a table in the flattened view. -/
def Attribute.view (a : Attribute) (r : Registry ModuleSchema) (table : String) : Option String :=
  a.last (statements r) table

end Views

/-! ## One statement -/

section Steps

variable {α : Type} {tables : KeyMap String FlatTable} {m : Located Database.Table} {table : String}

/-- The tables with one more statement. -/
def state (tables : KeyMap String FlatTable) (m : Located Database.Table) : KeyMap String FlatTable :=
  tables.update m.value.name fun known =>
    (known.getD { location := m.location }).extend m.location m.value

/-- Flattening takes the statements one after the other. -/
theorem flatten_eq_foldl_state (r : Registry ModuleSchema) :
    flatten r = (statements r).foldl state ∅ := by
  rw [flatten, statements, List.foldl_flatMap]
  simp only [List.foldl_map]
  rfl

/-- A statement changes the table that it is about and no other. -/
theorem find?_state (tables : KeyMap String FlatTable) (m : Located Database.Table) (table : String) :
    (state tables m).find? table =
      if m.value.name = table then
        some (((tables.find? table).getD { location := m.location }).extend m.location m.value)
      else tables.find? table := by
  rw [state, KeyMap.find?_update]
  by_cases h : m.value.name = table
  · subst h
    rw [if_pos Std.ReflOrd.compare_self, if_pos rfl]
  · rw [if_neg fun heq => h (Std.LawfulEqOrd.eq_of_compare heq).symm, if_neg h]

/-- The parts that a statement has under a key of a table. -/
theorem PartKind.last_singleton (p : PartKind α) (m : Located Database.Table) (table key : String) :
    p.last [m] table key = if m.value.name = table then
      (((p.stated m.value).filter (p.key · = key)).getLast?).map (⟨·, m.location⟩) else none := by
  rw [PartKind.last, PartKind.listed, List.flatMap_singleton, List.filter_map, List.getLast?_map,
    Option.map_map]
  by_cases h : m.value.name = table
  · simp [h, Function.comp_def]
  · simp [h, Function.comp_def]

/-- The part that is found after a statement is the last one that it states, or else the one that was
found before. -/
theorem PartKind.find?_flat_state (p : PartKind α) (tables : KeyMap String FlatTable)
    (m : Located Database.Table) (table key : String) :
    (((state tables m).find? table).bind fun t => (p.flat t).find? key) =
      (p.last [m] table key).or ((tables.find? table).bind fun t => (p.flat t).find? key) := by
  rw [find?_state, p.last_singleton]
  by_cases h : m.value.name = table
  · rw [if_pos h, if_pos h, Option.bind_some, p.flat_extend, KeyMap.find?_foldl_insert]
    cases tables.find? table with
    | none => rw [Option.getD_none, p.flat_mention]; rfl
    | some t => rfl
  · rw [if_neg h, if_neg h, Option.none_or]

/-- The attribute that is found after a statement is the one that it states, or else the one that was
found before. -/
theorem Attribute.flat_state (a : Attribute) (tables : KeyMap String FlatTable)
    (m : Located Database.Table) (table : String) :
    ((state tables m).find? table).bind a.flat =
      (a.last [m] table).or ((tables.find? table).bind a.flat) := by
  rw [find?_state, Attribute.last, Attribute.listed]
  by_cases h : m.value.name = table
  · rw [if_pos h, Option.bind_some, a.flat_extend]
    cases tables.find? table with
    | none => cases hs : a.stated m.value <;> simp [hs, h, a.flat_mention]
    | some t => cases hs : a.stated m.value <;> simp [hs, h]
  · rw [if_neg h]
    cases hs : a.stated m.value <;> simp [hs, h]

end Steps

/-! ## All statements -/

section Runs

variable {α : Type}

/-- Of more statements the last of the later ones counts. -/
theorem PartKind.last_cons (p : PartKind α) (m : Located Database.Table)
    (ms : List (Located Database.Table)) (table key : String) :
    p.last (m :: ms) table key = (p.last ms table key).or (p.last [m] table key) := by
  simp only [PartKind.last, PartKind.listed, List.flatMap_cons, List.flatMap_nil, List.append_nil,
    List.filter_append, List.getLast?_append, Option.map_or]

/-- Of more statements the last of the later ones counts. -/
theorem Attribute.last_cons (a : Attribute) (m : Located Database.Table)
    (ms : List (Located Database.Table)) (table : String) :
    a.last (m :: ms) table = (a.last ms table).or (a.last [m] table) := by
  have hcons : a.listed (m :: ms) = a.listed [m] ++ a.listed ms := by
    simp only [Attribute.listed, ← List.filterMap_append, List.singleton_append]
  rw [Attribute.last, hcons, List.filter_append, List.getLast?_append, Option.map_or]
  rfl

/-- After a list of statements the last part of a key is found. -/
theorem PartKind.find?_flat_foldl_state (p : PartKind α) (ms : List (Located Database.Table))
    (tables : KeyMap String FlatTable) (table key : String) :
    (((ms.foldl state tables).find? table).bind fun t => (p.flat t).find? key) =
      (p.last ms table key).or ((tables.find? table).bind fun t => (p.flat t).find? key) := by
  induction ms generalizing tables with
  | nil => rfl
  | cons m ms ih =>
    rw [List.foldl_cons, ih, p.find?_flat_state, p.last_cons m ms, Option.or_assoc]

/-- After a list of statements the last value of an attribute is found. -/
theorem Attribute.flat_foldl_state (a : Attribute) (ms : List (Located Database.Table))
    (tables : KeyMap String FlatTable) (table : String) :
    ((ms.foldl state tables).find? table).bind a.flat =
      (a.last ms table).or ((tables.find? table).bind a.flat) := by
  induction ms generalizing tables with
  | nil => rfl
  | cons m ms ih =>
    rw [List.foldl_cons, ih, a.flat_state, a.last_cons m ms, Option.or_assoc]

/-- After a list of statements a table has the file that it had, or else the one that mentions it
first. -/
theorem location_foldl_state (ms : List (Located Database.Table)) (tables : KeyMap String FlatTable)
    (table : String) : ((ms.foldl state tables).find? table).map (·.location) =
      ((tables.find? table).map (·.location)).or
        ((ms.find? (·.value.name = table)).map (·.location)) := by
  induction ms generalizing tables with
  | nil => simp
  | cons m ms ih =>
    rw [List.foldl_cons, ih, find?_state, List.find?_cons]
    by_cases h : m.value.name = table
    · cases hfind : tables.find? table <;> simp [h, FlatTable.extend]
    · simp [h]

/-- The flattened tables have the parts of the view. -/
theorem PartKind.find?_flat_flatten (p : PartKind α) (r : Registry ModuleSchema)
    (table key : String) :
    (((flatten r).find? table).bind fun t => (p.flat t).find? key) = p.view r table key := by
  rw [flatten_eq_foldl_state, p.find?_flat_foldl_state]
  exact Option.or_none

/-- The flattened tables have the attributes of the view. -/
theorem Attribute.flat_flatten (a : Attribute) (r : Registry ModuleSchema) (table : String) :
    ((flatten r).find? table).bind a.flat = a.view r table := by
  rw [flatten_eq_foldl_state, a.flat_foldl_state]
  exact Option.or_none

/-- A flattened table has the file that mentions it first, and there are no others. -/
theorem location_flatten (r : Registry ModuleSchema) (table : String) :
    ((flatten r).find? table).map (·.location) = firstMention? r table := by
  rw [flatten_eq_foldl_state, location_foldl_state]
  rfl

end Runs

/-! ## Flattened tables that are found -/

section Found

variable {α : Type} {r : Registry ModuleSchema} {table : String} {x : FlatTable}

/-- A flattened table that is found has the parts of the view. -/
theorem PartKind.find?_flat_of_find? (p : PartKind α) (h : (flatten r).find? table = some x)
    (key : String) : (p.flat x).find? key = p.view r table key := by
  rw [← p.find?_flat_flatten, h, Option.bind_some]

/-- A flattened table that is found has the attributes of the view. -/
theorem Attribute.flat_of_find? (a : Attribute) (h : (flatten r).find? table = some x) :
    a.flat x = a.view r table := by
  rw [← a.flat_flatten, h, Option.bind_some]

/-- A table is mentioned first by the file of the flattened table. -/
theorem firstMention?_eq_some_iff {location : Path} : firstMention? r table = some location ↔
    ∃ x, (flatten r).find? table = some x ∧ x.location = location := by
  rw [← location_flatten, Option.map_eq_some_iff]

/-- The tables that are mentioned are those that there are. -/
theorem isSome_firstMention? (r : Registry ModuleSchema) (table : String) :
    (firstMention? r table).isSome = ((flatten r).find? table).isSome := by
  rw [← location_flatten, Option.isSome_map]

/-- A table that is not mentioned is not there. -/
theorem firstMention?_eq_none_iff :
    firstMention? r table = none ↔ (flatten r).find? table = none := by
  rw [← location_flatten, Option.map_eq_none_iff]

/-- A table that is not mentioned has no parts. -/
theorem PartKind.view_of_find?_eq_none (p : PartKind α) (h : (flatten r).find? table = none)
    (key : String) : p.view r table key = none := by
  rw [← p.find?_flat_flatten, h, Option.bind_none]

/-- A table that is not mentioned has no attributes. -/
theorem Attribute.view_of_find?_eq_none (a : Attribute) (h : (flatten r).find? table = none) :
    a.view r table = none := by
  rw [← a.flat_flatten, h, Option.bind_none]

end Found

end VersionBump.Database
