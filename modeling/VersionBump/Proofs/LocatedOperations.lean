import VersionBump.Proofs.DivisionContents
import VersionBump.Proofs.TwinOperations

/-!
# Located operations

An operation names a file of one of the two sides: what is lost, a file before the change, and
everything else, a file after it. Which files there are is left open here. Two predicates stand for
the files of the sides, and the entries that are compared come from files of theirs.

* `Change.losses` lists the kinds that name a file before the change, and `Operation.Stands` is the
  property of one operation, `Standing` that of a list.
* `KeyMap.LocatedIn` and `Registry.LocatedIn` say where entries come from, and
  `Database.locatedIn_flatten` follows them into the flattened tables.
* `Database.standing_differences` and its neighbours are the statements for the configuration
  families.
-/

namespace VersionBump

/-- The kinds of change that name the file which stated what is lost. A node that is lost from a
file which is still there is none of them. -/
def Change.losses : List Change :=
  [.php .removed, .php .methodRemoved, .php .propertyRemoved, .php .constantRemoved,
   .database .tableDropped, .database .columnRemove, .database .indexRemove,
   .database .primaryKeyRemove, .database .uniqueKeyRemove, .database .foreignKeyRemove,
   .di .virtualTypeRemoved, .xsd .schemaFileRemoved, .settings .fileRemoved, .less .fileRemoved]

/-- An operation names a file of its side. -/
def Operation.Stands (before after : Path → Prop) (op : Operation) : Prop :=
  if op.kind ∈ Change.losses then before op.location else after op.location

/-- All operations of a list name files of their sides. -/
def Standing (before after : Path → Prop) (ops : List Operation) : Prop :=
  ∀ op ∈ ops, op.Stands before after

/-! ## Entries -/

/-- All entries of a map come from files with the property. -/
def KeyMap.LocatedIn {κ α : Type} [Ord κ] (p : Path → Prop) (m : KeyMap κ (Located α)) : Prop :=
  ∀ key e, m.find? key = some e → p e.location

/-- All entries of a registry come from files with the property. -/
def Registry.LocatedIn {α : Type} (p : Path → Prop) (r : Registry α) : Prop :=
  ∀ context key e, r.find? context key = some e → p e.location

section Entries

variable {κ α β : Type} [Ord κ] [Std.TransOrd κ] [Std.LawfulEqOrd κ] {p q : Path → Prop}

omit [Std.TransOrd κ] [Std.LawfulEqOrd κ] in
theorem KeyMap.locatedIn_empty : KeyMap.LocatedIn p (∅ : KeyMap κ (Located α)) :=
  fun _ _ h => nomatch h

/-- An entry of a file with the property may be put in. -/
theorem KeyMap.LocatedIn.insert [DecidableEq κ] {m : KeyMap κ (Located α)} (h : m.LocatedIn p)
    (key : κ) {x : Located α} (hx : p x.location) : (m.insert key x).LocatedIn p := by
  intro k e he
  rw [KeyMap.find?_insert] at he
  split at he
  · exact Option.some.inj he ▸ hx
  · exact h k e he

/-- The entries of one file with the property may be put in. -/
theorem KeyMap.LocatedIn.foldl_insert [DecidableEq κ] {m : KeyMap κ (Located α)}
    (h : m.LocatedIn p) (key : α → κ) {location : Path} (hl : p location) (xs : List α) :
    (xs.foldl (fun m x => m.insert (key x) ⟨x, location⟩) m).LocatedIn p := by
  induction xs generalizing m with
  | nil => exact h
  | cons x xs ih => exact ih (h.insert (key x) hl)

theorem Registry.locatedIn_empty : (∅ : Registry α).LocatedIn p := fun _ _ _ h => nomatch h

/-- The property may be weakened. -/
theorem Registry.LocatedIn.imp {r : Registry α} (h : r.LocatedIn p) (hpq : ∀ l, p l → q l) :
    r.LocatedIn q :=
  fun context key e he => hpq _ (h context key e he)

/-- A value of a file with the property may be registered. -/
theorem Registry.LocatedIn.insert {r : Registry α} (h : r.LocatedIn p) (context : Context)
    (key : String) (x : α) {location : Path} (hl : p location) :
    (r.insert context key x location).LocatedIn p := by
  intro c k e he
  rw [Registry.find?_insert] at he
  split at he
  · exact Option.some.inj he ▸ hl
  · exact h c k e he

/-- The entries of one context come from where the registry has them from. -/
theorem Registry.LocatedIn.inContext {r : Registry α} (h : r.LocatedIn p) (context : Context) :
    (r.inContext context).LocatedIn p := by
  intro key e he
  rw [Registry.find?_inContext] at he
  exact h context key e he

/-- What is made of the entries keeps their files. -/
theorem Registry.LocatedIn.filterMap {r : Registry α} (h : r.LocatedIn p) (f : α → Option β) :
    (r.filterMap f).LocatedIn p := by
  intro context key e he
  rw [Registry.find?_filterMap] at he
  obtain ⟨whole, hwhole, he⟩ := Option.bind_eq_some_iff.mp he
  obtain ⟨part, -, rfl⟩ := Option.map_eq_some_iff.mp he
  exact h context key whole hwhole

end Entries

/-! ## Lists of operations -/

section Lists

variable {before after : Path → Prop}

theorem standing_nil : Standing before after [] := fun _ h => nomatch h

theorem Standing.append {xs ys : List Operation} (hx : Standing before after xs)
    (hy : Standing before after ys) : Standing before after (xs ++ ys) :=
  List.forall_mem_append.mpr ⟨hx, hy⟩

/-- A loss names a file before the change. -/
theorem standing_loss {kind : Change} (h : kind ∈ Change.losses) {location : Path}
    (hl : before location) (t : Severity.Table) (context : Context) (target : String) :
    Standing before after [t.operation context kind target location] := by
  intro op hop
  obtain rfl := List.mem_singleton.mp hop
  exact (if_pos h).mpr hl

/-- What is no loss names a file after the change. -/
theorem standing_operation {kind : Change} (h : kind ∉ Change.losses) {location : Path}
    (hl : after location) (t : Severity.Table) (context : Context) (target : String) :
    Standing before after [t.operation context kind target location] := by
  intro op hop
  obtain rfl := List.mem_singleton.mp hop
  exact (if_neg h).mpr hl

/-- A changed value names a file after the change. -/
theorem standing_valueChange {kind : Change} (h : kind ∉ Change.losses) {location : Path}
    (hl : after location) (t : Severity.Table) (context : Context) (target x y : String) :
    Standing before after [t.valueChange context kind target location x y] := by
  intro op hop
  obtain rfl := List.mem_singleton.mp hop
  exact (if_neg h).mpr hl

/-- What two maps are turned into names files of the sides if each class does. -/
theorem KeyDiff.standing_collect {κ β α : Type} [Ord κ] [Std.LawfulEqOrd κ]
    {old : KeyMap κ β} {new : KeyMap κ α} {added : κ → α → List Operation}
    {removed : κ → β → List Operation} {common : κ → β → α → List Operation}
    (ha : ∀ k a, new.find? k = some a → Standing before after (added k a))
    (hr : ∀ k b, old.find? k = some b → Standing before after (removed k b))
    (hc : ∀ k b a, old.find? k = some b → new.find? k = some a →
      Standing before after (common k b a)) :
    Standing before after ((KeyDiff.between old new).collect added removed common) := by
  intro op hop
  rcases KeyDiff.mem_collect.mp hop with ⟨k, a, hfound, -, hop⟩ | ⟨k, b, hfound, -, hop⟩ |
    ⟨k, b, a, hb, ha, hop⟩
  · exact ha k a hfound op hop
  · exact hr k b hfound op hop
  · exact hc k b a hb ha op hop

end Lists

/-! ## Schemas -/

namespace Database

/-- A flattened table and its parts come from files with the property. -/
structure FlatTable.LocatedIn (p : Path → Prop) (t : FlatTable) : Prop where
  location : p t.location
  columns : t.columns.LocatedIn p
  indexes : t.indexes.LocatedIn p
  constraints : t.constraints.LocatedIn p

section Flattening

variable {p : Path → Prop} {location : Path}

/-- A table that is only mentioned has no parts yet. -/
private theorem FlatTable.locatedIn_mention (h : p location) :
    FlatTable.LocatedIn p { location } :=
  ⟨h, KeyMap.locatedIn_empty, KeyMap.locatedIn_empty, KeyMap.locatedIn_empty⟩

/-- What a module states comes from the file of the module. -/
private theorem FlatTable.LocatedIn.extend {t : FlatTable} (h : t.LocatedIn p) (hl : p location)
    (stated : Table) : (t.extend location stated).LocatedIn p where
  location := h.location
  columns := h.columns.foldl_insert Column.name hl stated.columns
  indexes := h.indexes.foldl_insert Index.referenceId hl stated.indexes
  constraints := h.constraints.foldl_insert Constraint.referenceId hl stated.constraints

/-- All tables come from files with the property. -/
private def TablesLocatedIn (p : Path → Prop) (tables : KeyMap String FlatTable) : Prop :=
  ∀ name t, tables.find? name = some t → t.LocatedIn p

/-- Adding the tables of a module whose file has the property. -/
private theorem TablesLocatedIn.flattenModule {tables : KeyMap String FlatTable}
    (h : TablesLocatedIn p tables) {schema : Located ModuleSchema} (hl : p schema.location) :
    TablesLocatedIn p (flattenModule tables schema) := by
  unfold Database.flattenModule
  induction schema.value.tables generalizing tables with
  | nil => exact h
  | cons stated rest ih =>
    refine ih fun name t ht => ?_
    rw [KeyMap.find?_update] at ht
    split at ht
    · -- The table is the one that the module states, mentioned here or known before.
      obtain rfl := Option.some.inj ht
      refine FlatTable.LocatedIn.extend ?_ hl stated
      cases hknown : tables.find? stated.name with
      | none => exact FlatTable.locatedIn_mention hl
      | some known => exact h stated.name known hknown
    · exact h name t ht

/-- The flattened tables come from the files of the registry. -/
theorem locatedIn_flatten {r : Registry ModuleSchema} (h : r.LocatedIn p) :
    ∀ name t, (flatten r).find? name = some t → t.LocatedIn p := by
  have hmodules : ∀ schema ∈ r.toList.map (·.2), p schema.location := by
    intro schema hschema
    obtain ⟨⟨key, e⟩, he, rfl⟩ := List.mem_map.mp hschema
    exact h key.context key.name e (r.entries.mem_toList_iff.mp he)
  have hfold : ∀ (schemas : List (Located ModuleSchema)) (tables : KeyMap String FlatTable),
      (∀ schema ∈ schemas, p schema.location) → TablesLocatedIn p tables →
        TablesLocatedIn p (schemas.foldl Database.flattenModule tables) := by
    intro schemas
    induction schemas with
    | nil => exact fun tables _ htables => htables
    | cons schema rest ih =>
      intro tables hschemas htables
      obtain ⟨hschema, hrest⟩ := List.forall_mem_cons.mp hschemas
      exact ih _ hrest (htables.flattenModule hschema)
  exact hfold _ ∅ hmodules fun name t ht => nomatch ht

end Flattening

section Differences

variable {before after : Path → Prop} (t : Severity.Table) {target : String} {location : Path}

private theorem standing_compareColumns (hl : after location) (old new : Column) :
    Standing before after (compareColumns t target location old new) := by
  unfold compareColumns
  refine .append (.append (.append ?type ?nullable) ?default) ?definition
  case type =>
    split
    · exact standing_nil
    · exact standing_valueChange (by decide) hl _ _ _ _ _
  case nullable =>
    split
    · exact standing_operation (by decide) hl _ _ _
    · exact standing_operation (by decide) hl _ _ _
    · exact standing_nil
  case default =>
    split
    · exact standing_nil
    · exact standing_valueChange (by decide) hl _ _ _ _ _
  case definition =>
    split
    · exact standing_nil
    · exact standing_operation (by decide) hl _ _ _

private theorem standing_compareIndexes (hl : after location) (old new : Index) :
    Standing before after (compareIndexes t target location old new) := by
  unfold compareIndexes
  split
  · exact standing_nil
  · exact standing_valueChange (by decide) hl _ _ _ _ _

private theorem standing_compareKeys (hl : after location) (old new : Constraint) :
    Standing before after (if old = new then [] else [op t (keyChanged new) target location]) := by
  have hkind : Change.database (keyChanged new) ∉ Change.losses := by
    cases new <;> simp only [keyChanged] <;> decide
  split
  · exact standing_nil
  · exact standing_operation hkind hl _ _ _

private theorem standing_compareAttribute {kind : DatabaseChange}
    (h : Change.database kind ∉ Change.losses) (hl : after location) (old new : Option String) :
    Standing before after (compareAttribute t kind target location old new) := by
  unfold compareAttribute
  split
  · exact standing_nil
  · exact standing_valueChange h hl _ _ _ _ _

/-- Parts name the files that stated them: a lost one the file before the change. -/
private theorem standing_compareParts {α : Type} {added removed : α → DatabaseChange}
    {changed : String → Path → α → α → List Operation}
    (hadded : ∀ part, Change.database (added part) ∉ Change.losses)
    (hremoved : ∀ part, Change.database (removed part) ∈ Change.losses)
    (hchanged : ∀ target location old new, after location →
      Standing before after (changed target location old new))
    (table : String) {old new : KeyMap String (Located α)} (hold : old.LocatedIn before)
    (hnew : new.LocatedIn after) :
    Standing before after (compareParts t table added removed changed old new) := by
  unfold compareParts
  refine KeyDiff.standing_collect (fun key part hpart => ?_) (fun key part hpart => ?_)
    fun key x y _ hy => ?_
  · exact standing_operation (hadded part.value) (hnew key part hpart) _ _ _
  · exact standing_loss (hremoved part.value) (hold key part hpart) _ _ _
  · exact hchanged _ _ _ _ (hnew key y hy)

private theorem standing_compareTables (name : String) {old new : FlatTable}
    (hold : old.LocatedIn before) (hnew : new.LocatedIn after) :
    Standing before after (compareTables t name old new) := by
  unfold compareTables
  refine .append (.append (.append (.append (.append ?resource ?engine) ?comment) ?columns)
    ?indexes) ?keys
  case resource => exact standing_compareAttribute t (by decide) hnew.location _ _
  case engine => exact standing_compareAttribute t (by decide) hnew.location _ _
  case comment => exact standing_compareAttribute t (by decide) hnew.location _ _
  case columns =>
    exact standing_compareParts t (fun _ => by decide) (fun _ => by decide)
      (fun _ _ x y hl => standing_compareColumns t hl x y) name hold.columns hnew.columns
  case indexes =>
    exact standing_compareParts t (fun _ => by decide) (fun _ => by decide)
      (fun _ _ x y hl => standing_compareIndexes t hl x y) name hold.indexes hnew.indexes
  case keys =>
    refine standing_compareParts t (fun key => ?_) (fun key => ?_)
      (fun _ _ x y hl => standing_compareKeys t hl x y) name hold.constraints hnew.constraints
    · cases key <;> simp only [keyAdded] <;> decide
    · cases key <;> simp only [keyRemoved] <;> decide

/-- The differences of schemas name files of their sides. -/
theorem standing_differences {old new : Registry ModuleSchema} (hold : old.LocatedIn before)
    (hnew : new.LocatedIn after) : Standing before after (differences t old new) := by
  refine KeyDiff.standing_collect (fun name table htable => ?_) (fun name table htable => ?_)
    fun name x y hx hy => ?_
  · exact standing_operation (by decide) (locatedIn_flatten hnew name table htable).location _ _ _
  · exact standing_loss (by decide) (locatedIn_flatten hold name table htable).location _ _ _
  · exact standing_compareTables t name (locatedIn_flatten hold name x hx)
      (locatedIn_flatten hnew name y hy)

end Differences

end Database

/-! ## The other configuration families -/

section Configuration

variable {before after : Path → Prop} (t : Severity.Table)

/-- Two registries that are compared entry by entry, where what is there on one side only is a
single difference. -/
private theorem standing_collectIn {α : Type} {context : Context} (added removed : α → Change)
    (changed : String → Path → α → α → List Operation)
    (hadded : ∀ x, added x ∉ Change.losses) (hremoved : ∀ x, removed x ∈ Change.losses)
    (hchanged : ∀ key location x y, after location →
      Standing before after (changed key location x y))
    {old new : Registry α} (hold : old.LocatedIn before) (hnew : new.LocatedIn after) :
    Standing before after ((KeyDiff.between (old.inContext context) (new.inContext context)).collect
      (fun key x => [t.operation context (added x.value) key x.location])
      (fun key x => [t.operation context (removed x.value) key x.location])
      (fun key x y => changed key y.location x.value y.value)) := by
  refine KeyDiff.standing_collect (fun key x hx => ?_) (fun key x hx => ?_) fun key x y _ hy => ?_
  · exact standing_operation (hadded x.value) (hnew.inContext context key x hx) _ _ _
  · exact standing_loss (hremoved x.value) (hold.inContext context key x hx) _ _ _
  · exact hchanged _ _ _ _ (hnew.inContext context key y hy)

/-- The differences of virtual types name files of their sides. -/
theorem Di.standing_differences {old new : Registry Di.VirtualType} (hold : old.LocatedIn before)
    (hnew : new.LocatedIn after) : Standing before after (Di.differences t old new) := by
  refine standing_collectIn t (fun v => .di (Di.addedChange v))
    (fun _ => .di .virtualTypeRemoved) (Di.compareTypes t) (fun v => ?_) (fun _ => by decide)
    (fun key location x y hl => ?_) hold hnew
  · unfold Di.addedChange
    split <;> decide
  · have hscope : Change.di (Di.scopeChange y) ∉ Change.losses := by
      unfold Di.scopeChange
      split <;> decide
    unfold Di.compareTypes
    refine .append (.append ?scope ?type) ?shared <;> split
    case scope.isFalse => exact standing_valueChange hscope hl _ _ _ _ _
    case type.isFalse => exact standing_valueChange (by decide) hl _ _ _ _ _
    case shared.isFalse => exact standing_operation (by decide) hl _ _ _
    all_goals exact standing_nil

/-- The differences of grammars name files of their sides: nodes the file that is still there. -/
theorem Xsd.standing_differences {old new : Registry Xsd.Grammar} (hold : old.LocatedIn before)
    (hnew : new.LocatedIn after) : Standing before after (Xsd.differences t old new) := by
  refine standing_collectIn t (fun _ => .xsd .schemaFileAdded)
    (fun _ => .xsd .schemaFileRemoved) (Xsd.compareGrammars t) (fun _ => by decide)
    (fun _ => by decide) (fun key location x y hl => ?_) hold hnew
  unfold Xsd.compareGrammars
  refine KeyDiff.standing_collect (fun _ n _ => ?_) (fun _ n _ => ?_) fun _ m n _ _ => ?_
  · refine standing_operation ?_ hl _ _ _
    unfold Xsd.addedChange
    split <;> decide
  · refine standing_operation ?_ hl _ _ _
    unfold Xsd.removedChange
    split <;> decide
  · unfold Xsd.compareNodes
    refine .append ?_ ?_ <;> split
    · exact standing_operation (by decide) hl _ _ _
    · exact standing_operation (by decide) hl _ _ _
    · exact standing_nil
    · exact standing_nil
    · exact standing_valueChange (by decide) hl _ _ _ _ _

/-- The differences of settings name files of their sides: nodes the file that is still there. -/
theorem Settings.standing_differences {old new : Registry Settings.Config}
    (hold : old.LocatedIn before) (hnew : new.LocatedIn after) :
    Standing before after (Settings.differences t old new) := by
  refine standing_collectIn t (fun _ => .settings .fileAdded)
    (fun _ => .settings .fileRemoved) (fun _ => Settings.compareConfigs t) (fun _ => by decide)
    (fun _ => by decide) (fun key location x y hl => ?_) hold hnew
  refine KeyDiff.standing_collect (fun _ n _ => ?_) (fun _ n _ => ?_) fun _ m n _ _ => ?_
  · refine standing_operation ?_ hl _ _ _
    unfold Settings.addedChange
    split <;> decide
  · refine standing_operation ?_ hl _ _ _
    unfold Settings.removedChange
    split <;> decide
  · have hscope : ∀ kind, Settings.scopeChange? m.scopes n.scopes = some kind →
        Change.settings kind ∉ Change.losses := by
      intro kind hkind
      unfold Settings.scopeChange? at hkind
      split at hkind
      · exact Option.some.inj hkind ▸ (by decide)
      · split at hkind
        · exact Option.some.inj hkind ▸ (by decide)
        · exact nomatch hkind
    unfold Settings.compareNodes
    split
    · refine .append ?_ ?_
      · split
        · exact standing_nil
        · exact standing_valueChange (by decide) hl _ _ _ _ _
      · cases hkind : Settings.scopeChange? m.scopes n.scopes with
        | none => exact standing_nil
        | some kind => exact standing_operation (hscope kind hkind) hl _ _ _
    · exact standing_nil

/-- The differences of stylesheets name files of their sides: rules the file that is still there. -/
theorem Less.standing_differences {old new : Registry Less.Stylesheet}
    (hold : old.LocatedIn before) (hnew : new.LocatedIn after) :
    Standing before after (Less.differences t old new) := by
  refine standing_collectIn t (fun _ => .less .fileAdded)
    (fun _ => .less .fileRemoved) (Less.compareStylesheets t) (fun _ => by decide)
    (fun _ => by decide) (fun key location x y hl => ?_) hold hnew
  unfold Less.compareStylesheets
  refine KeyDiff.standing_collect (fun _ n _ => ?_) (fun _ n _ => ?_) fun _ m n _ _ => ?_
  · refine standing_operation ?_ hl _ _ _
    unfold Less.addedChange
    split <;> decide
  · refine standing_operation ?_ hl _ _ _
    unfold Less.removedChange
    split <;> decide
  · unfold Less.compareRules
    split
    · exact standing_valueChange (by decide) hl _ _ _ _ _
    · exact standing_nil

end Configuration

end VersionBump
