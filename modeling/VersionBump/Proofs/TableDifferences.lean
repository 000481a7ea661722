import VersionBump.Proofs.DivisionContents
import VersionBump.Proofs.FlattenedTables
import VersionBump.Proofs.SelfComparison

/-!
# Differences of tables

What is reported about schemas depends on their flattened views alone, and so not on the modules that
state them.

* `Database.PartRules` is how the parts of one family are compared, and `Database.columnRules`,
  `Database.indexRules` and `Database.keyRules` are the families.
* `Database.Finds` says which operations are found, by the views, and `Database.mem_differences_iff`
  that the differences are these.
* `Database.about_differences` counts the tables that are added and dropped, and
  `Database.PartRules.told` reads off the kinds which parts are added and removed.
-/

namespace VersionBump.Database

/-! ## Kinds of change -/

/-- The families of parts of a table. -/
inductive Parts where
  | columns
  | indexes
  | keys
  deriving DecidableEq, Repr

/-- What a change in the database is about. -/
inductive Event where
  | tableAdded
  | tableDropped
  | tableChanged
  | added (parts : Parts)
  | removed (parts : Parts)
  | changed (parts : Parts)
  deriving DecidableEq, Repr

/-- What a kind of change is about. -/
def event : DatabaseChange → Event
  | .tableAdded => .tableAdded
  | .tableDropped => .tableDropped
  | .tableResourceChange | .tableEngineChange | .tableCommentChange => .tableChanged
  | .columnAdd => .added .columns
  | .columnRemove => .removed .columns
  | .columnTypeChange | .columnBecameNotNull | .columnBecameNullable | .columnDefaultChange
  | .columnDefinitionChange => .changed .columns
  | .indexAdd => .added .indexes
  | .indexRemove => .removed .indexes
  | .indexChange => .changed .indexes
  | .primaryKeyAdd | .uniqueKeyAdd | .foreignKeyAdd => .added .keys
  | .primaryKeyRemove | .uniqueKeyRemove | .foreignKeyRemove => .removed .keys
  | .primaryKeyChange | .uniqueKeyChange | .foreignKeyChange => .changed .keys

/-- The family of parts that a change is about. -/
def Event.parts? : Event → Option Parts
  | added parts | removed parts | changed parts => some parts
  | tableAdded | tableDropped | tableChanged => none

/-- What an operation for a change in the database is about. -/
def eventOf (o : Operation) : Option Event :=
  match o.kind with
  | .database kind => some (event kind)
  | _ => none

@[simp] theorem eventOf_op (t : Severity.Table) (kind : DatabaseChange) (target : String)
    (location : Path) : eventOf (op t kind target location) = some (event kind) := rfl

@[simp] theorem eventOf_valueOp (t : Severity.Table) (kind : DatabaseChange) (target : String)
    (location : Path) (before after : String) :
    eventOf (valueOp t kind target location before after) = some (event kind) := rfl

theorem eventOf_of_kind {o : Operation} {kind : DatabaseChange} (h : o.kind = .database kind) :
    eventOf o = some (event kind) := by
  rw [eventOf, h]

/-! ## Families of parts -/

/-- How the parts of one kind are compared: the changes that a new and a lost part are, what is found
in two parts with one key, and when two parts are alike. -/
structure PartRules (α : Type) extends PartKind α where
  parts : Parts
  added : α → DatabaseChange
  removed : α → DatabaseChange
  changed : Severity.Table → String → Path → α → α → List Operation
  alike : α → α → Prop
  event_added : ∀ x, event (added x) = .added parts
  event_removed : ∀ x, event (removed x) = .removed parts
  eventOf_changed : ∀ {t target location x y}, ∀ o ∈ changed t target location x y,
    eventOf o = some (.changed parts)
  changed_eq_nil_iff : ∀ {t target location x y}, changed t target location x y = [] ↔ alike x y
  alike_self : ∀ x, alike x x

/-- Columns are compared in everything but their comments, their types up to case. -/
structure Column.Alike (a b : Column) : Prop where
  type : Text.equalsIgnoreAsciiCase a.type b.type = true
  nullable : a.nullable = b.nullable
  default : a.default = b.default
  length : a.length = b.length
  precision : a.precision = b.precision
  scale : a.scale = b.scale
  unsigned : a.unsigned = b.unsigned
  identity : a.identity = b.identity

/-- Indexes are compared in everything, their types up to case. -/
structure Index.Alike (a b : Index) : Prop where
  type : Text.equalsIgnoreAsciiCase a.type b.type = true
  columns : a.columns = b.columns

section Rules

variable {t : Severity.Table} {target : String} {location : Path}

/-- Nothing is found in two columns exactly if they are alike. -/
private theorem compareColumns_eq_nil_iff {a b : Column} :
    compareColumns t target location a b = [] ↔ a.Alike b := by
  simp only [compareColumns, List.append_eq_nil_iff, ite_eq_left_iff, List.cons_ne_nil, imp_false,
    not_not, Column.sameDefinition, Bool.and_eq_true, beq_iff_eq]
  constructor
  · rintro ⟨⟨⟨htype, hnull⟩, hdefault⟩, ⟨⟨⟨hlength, hprecision⟩, hscale⟩, hunsigned⟩, hidentity⟩
    have hnullable : a.nullable = b.nullable := by
      cases ha : a.nullable <;> cases hb : b.nullable <;> simp_all
    exact ⟨htype, hnullable, hdefault, hlength, hprecision, hscale, hunsigned, hidentity⟩
  · rintro ⟨htype, hnullable, hdefault, hlength, hprecision, hscale, hunsigned, hidentity⟩
    refine ⟨⟨⟨htype, ?_⟩, hdefault⟩, ⟨⟨⟨hlength, hprecision⟩, hscale⟩, hunsigned⟩, hidentity⟩
    rw [hnullable]
    cases b.nullable <;> rfl

/-- What is found in two columns is about columns. -/
private theorem eventOf_compareColumns {a b : Column} :
    ∀ o ∈ compareColumns t target location a b, eventOf o = some (.changed .columns) := by
  intro o ho
  simp only [compareColumns, List.mem_append] at ho
  rcases ho with ((ho | ho) | ho) | ho
  all_goals split at ho <;> simp_all [event]

end Rules

/-- The comparison of columns. -/
def columnRules : PartRules Column where
  toPartKind := columnKind
  parts := .columns
  added := fun _ => .columnAdd
  removed := fun _ => .columnRemove
  changed := compareColumns
  alike := Column.Alike
  event_added := fun _ => rfl
  event_removed := fun _ => rfl
  eventOf_changed := eventOf_compareColumns
  changed_eq_nil_iff := compareColumns_eq_nil_iff
  alike_self := fun _ => ⟨Text.equalsIgnoreAsciiCase_self _, rfl, rfl, rfl, rfl, rfl, rfl, rfl⟩

/-- The comparison of indexes. -/
def indexRules : PartRules Index where
  toPartKind := indexKind
  parts := .indexes
  added := fun _ => .indexAdd
  removed := fun _ => .indexRemove
  changed := compareIndexes
  alike := Index.Alike
  event_added := fun _ => rfl
  event_removed := fun _ => rfl
  eventOf_changed := fun o ho => by
    unfold compareIndexes at ho
    split at ho <;> simp_all [event]
  changed_eq_nil_iff := fun {t target location x y} => by
    simp only [compareIndexes, ite_eq_left_iff, List.cons_ne_nil, imp_false, not_not,
      Bool.and_eq_true, decide_eq_true_eq]
    exact ⟨fun h => ⟨h.2, h.1⟩, fun h => ⟨h.columns, h.type⟩⟩
  alike_self := fun _ => ⟨Text.equalsIgnoreAsciiCase_self _, rfl⟩

/-- The comparison of keys. -/
def keyRules : PartRules Constraint where
  toPartKind := constraintKind
  parts := .keys
  added := keyAdded
  removed := keyRemoved
  changed := fun t target location old new =>
    if old = new then [] else [op t (keyChanged new) target location]
  alike := (· = ·)
  event_added := fun x => by cases x <;> rfl
  event_removed := fun x => by cases x <;> rfl
  eventOf_changed := fun {t target location x y} o ho => by
    split at ho
    · exact absurd ho List.not_mem_nil
    · rw [List.mem_singleton.mp ho]
      cases y <;> rfl
  changed_eq_nil_iff := by simp
  alike_self := fun _ => rfl

/-- The attributes of a table with the changes that they are compared under. -/
def attributeChanges : List (DatabaseChange × Attribute) :=
  [(.tableResourceChange, resourceAttribute), (.tableEngineChange, engineAttribute),
   (.tableCommentChange, commentAttribute)]

theorem event_of_mem_attributeChanges : ∀ e ∈ attributeChanges, event e.1 = .tableChanged := by
  simp [attributeChanges, event]

/-! ## What is found -/

/-- What is found in the parts of one kind of a table that both registries have: a part of only one
flattened view is added or removed, and parts of both are compared. -/
inductive PartRules.Finds {α : Type} (p : PartRules α) (t : Severity.Table)
    (before after : Registry ModuleSchema) (name : String) : Operation → Prop
  | added {key : String} {part : Located α} (hold : p.view before name key = none)
      (hnew : p.view after name key = some part) :
      p.Finds t before after name (op t (p.added part.value) (name ++ "/" ++ key) part.location)
  | removed {key : String} {part : Located α} (hold : p.view before name key = some part)
      (hnew : p.view after name key = none) :
      p.Finds t before after name (op t (p.removed part.value) (name ++ "/" ++ key) part.location)
  | changed {key : String} {old new : Located α} {o : Operation}
      (hold : p.view before name key = some old) (hnew : p.view after name key = some new)
      (ho : o ∈ p.changed t (name ++ "/" ++ key) new.location old.value new.value) :
      p.Finds t before after name o

/-- What is found in the parts of a table that both registries have, by the family of the parts. -/
def FindsParts (t : Severity.Table) (before after : Registry ModuleSchema) (name : String) :
    Parts → Operation → Prop
  | .columns => columnRules.Finds t before after name
  | .indexes => indexRules.Finds t before after name
  | .keys => keyRules.Finds t before after name

/-- What is found within a table that both registries have: attributes that differ, and what is found
in the parts. -/
inductive FindsWithin (t : Severity.Table) (before after : Registry ModuleSchema) (name : String)
    (location : Path) : Operation → Prop
  | attributes {e : DatabaseChange × Attribute} (he : e ∈ attributeChanges)
      (hne : e.2.view before name ≠ e.2.view after name) :
      FindsWithin t before after name location (valueOp t e.1 name location
        ((e.2.view before name).getD "") ((e.2.view after name).getD ""))
  | parts (parts : Parts) {o : Operation} (ho : FindsParts t before after name parts o) :
      FindsWithin t before after name location o

/-- What is found in the tables of two registries: a table of only one of them is added or dropped and
nothing else, and tables of both are looked into. -/
inductive Finds (t : Severity.Table) (before after : Registry ModuleSchema) : Operation → Prop
  | tableAdded {name : String} {location : Path} (hold : firstMention? before name = none)
      (hnew : firstMention? after name = some location) :
      Finds t before after (op t .tableAdded name location)
  | tableDropped {name : String} {location : Path} (hold : firstMention? before name = some location)
      (hnew : firstMention? after name = none) :
      Finds t before after (op t .tableDropped name location)
  | within {name : String} {location : Path} {o : Operation}
      (hold : (firstMention? before name).isSome) (hnew : firstMention? after name = some location)
      (ho : FindsWithin t before after name location o) : Finds t before after o

section Found

variable {α : Type} {t : Severity.Table} {before after : Registry ModuleSchema} {name : String}
  {old new : FlatTable} {o : Operation}

/-- The comparison of the parts of a table finds what its views tell. -/
theorem PartRules.mem_compareParts_iff (p : PartRules α)
    (hold : (flatten before).find? name = some old) (hnew : (flatten after).find? name = some new) :
    o ∈ compareParts t name p.added p.removed (p.changed t) (p.flat old) (p.flat new) ↔
      p.Finds t before after name o := by
  simp only [compareParts, KeyDiff.mem_collect, List.mem_singleton, p.find?_flat_of_find? hold,
    p.find?_flat_of_find? hnew]
  constructor
  · rintro (⟨key, part, ha, hb, rfl⟩ | ⟨key, part, hb, ha, rfl⟩ | ⟨key, x, y, hb, ha, ho⟩)
    · exact .added hb ha
    · exact .removed hb ha
    · exact .changed hb ha ho
  · rintro (⟨hb, ha⟩ | ⟨hb, ha⟩ | ⟨hb, ha, ho⟩)
    · exact .inl ⟨_, _, ha, hb, rfl⟩
    · exact .inr (.inl ⟨_, _, hb, ha, rfl⟩)
    · exact .inr (.inr ⟨_, _, _, hb, ha, ho⟩)

/-- The comparison of two tables finds what their views tell. -/
theorem mem_compareTables_iff (hold : (flatten before).find? name = some old)
    (hnew : (flatten after).find? name = some new) :
    o ∈ compareTables t name old new ↔ FindsWithin t before after name new.location o := by
  have hattribute : ∀ e : DatabaseChange × Attribute,
      o ∈ compareAttribute t e.1 name new.location (e.2.flat old) (e.2.flat new) ↔
        e.2.view before name ≠ e.2.view after name ∧ o = valueOp t e.1 name new.location
          ((e.2.view before name).getD "") ((e.2.view after name).getD "") := fun e => by
    rw [compareAttribute, e.2.flat_of_find? hold, e.2.flat_of_find? hnew]
    split <;> simp_all
  have hsplit : o ∈ compareTables t name old new ↔
      (∃ e ∈ attributeChanges,
        o ∈ compareAttribute t e.1 name new.location (e.2.flat old) (e.2.flat new)) ∨
      columnRules.Finds t before after name o ∨ indexRules.Finds t before after name o ∨
      keyRules.Finds t before after name o := by
    rw [← columnRules.mem_compareParts_iff hold hnew, ← indexRules.mem_compareParts_iff hold hnew,
      ← keyRules.mem_compareParts_iff hold hnew]
    simp only [compareTables, List.mem_append, attributeChanges, List.mem_cons, List.not_mem_nil,
      or_false, exists_eq_or_imp, exists_eq_left, or_assoc]
    rfl
  rw [hsplit]
  constructor
  · rintro (⟨e, he, ho⟩ | ho | ho | ho)
    · obtain ⟨hne, rfl⟩ := (hattribute e).mp ho
      exact .attributes he hne
    · exact .parts .columns ho
    · exact .parts .indexes ho
    · exact .parts .keys ho
  · rintro (⟨he, hne⟩ | ⟨parts, ho⟩)
    · exact .inl ⟨_, he, (hattribute _).mpr ⟨hne, rfl⟩⟩
    · cases parts with
      | columns => exact .inr (.inl ho)
      | indexes => exact .inr (.inr (.inl ho))
      | keys => exact .inr (.inr (.inr ho))

/-- The differences are what the flattened views tell. -/
theorem mem_differences_iff : o ∈ differences t before after ↔ Finds t before after o := by
  rw [differences, KeyDiff.mem_collect]
  simp only [List.mem_singleton]
  constructor
  · rintro (⟨name, x, hnew, hold, rfl⟩ | ⟨name, x, hold, hnew, rfl⟩ | ⟨name, x, y, hold, hnew, ho⟩)
    · exact .tableAdded (firstMention?_eq_none_iff.mpr hold)
        (firstMention?_eq_some_iff.mpr ⟨x, hnew, rfl⟩)
    · exact .tableDropped (firstMention?_eq_some_iff.mpr ⟨x, hold, rfl⟩)
        (firstMention?_eq_none_iff.mpr hnew)
    · exact .within (Option.isSome_of_eq_some (firstMention?_eq_some_iff.mpr ⟨x, hold, rfl⟩))
        (firstMention?_eq_some_iff.mpr ⟨y, hnew, rfl⟩) ((mem_compareTables_iff hold hnew).mp ho)
  · rintro (⟨hold, hnew⟩ | ⟨hold, hnew⟩ | ⟨hold, hnew, ho⟩)
    · obtain ⟨x, hx, rfl⟩ := firstMention?_eq_some_iff.mp hnew
      exact .inl ⟨_, x, hx, firstMention?_eq_none_iff.mp hold, rfl⟩
    · obtain ⟨x, hx, rfl⟩ := firstMention?_eq_some_iff.mp hold
      exact .inr (.inl ⟨_, x, hx, firstMention?_eq_none_iff.mp hnew, rfl⟩)
    · obtain ⟨_, hold⟩ := Option.isSome_iff_exists.mp hold
      obtain ⟨x, hx, -⟩ := firstMention?_eq_some_iff.mp hold
      obtain ⟨y, hy, rfl⟩ := firstMention?_eq_some_iff.mp hnew
      exact .inr (.inr ⟨_, x, y, hx, hy, (mem_compareTables_iff hx hy).mpr ho⟩)

/-- What is found in the parts of one kind is about that kind. -/
theorem PartRules.Finds.parts?_eventOf {p : PartRules α} (h : p.Finds t before after name o) :
    (eventOf o).bind Event.parts? = some p.parts := by
  cases h with
  | added => rw [eventOf_op, p.event_added]; rfl
  | removed => rw [eventOf_op, p.event_removed]; rfl
  | changed _ _ ho => rw [p.eventOf_changed _ ho]; rfl

/-- What is found in a family of parts is about the family. -/
theorem FindsParts.parts?_eventOf {parts : Parts} (h : FindsParts t before after name parts o) :
    (eventOf o).bind Event.parts? = some parts := by
  cases parts with
  | columns => exact PartRules.Finds.parts?_eventOf h
  | indexes => exact PartRules.Finds.parts?_eventOf h
  | keys => exact PartRules.Finds.parts?_eventOf h

/-- What is found within a table is not about whole tables. -/
theorem FindsWithin.eventOf_ne {location : Path} (h : FindsWithin t before after name location o) :
    eventOf o ≠ some .tableAdded ∧ eventOf o ≠ some .tableDropped := by
  cases h with
  | @attributes e he =>
    rw [eventOf_valueOp, event_of_mem_attributeChanges e he]
    exact ⟨nofun, nofun⟩
  | parts parts ho =>
    have hparts := ho.parts?_eventOf
    refine ⟨fun heq => ?_, fun heq => ?_⟩ <;> rw [heq] at hparts <;> exact nomatch hparts

/-- What is found within a table about a family of parts comes from the comparison of the family. -/
theorem findsWithin_parts_iff {location : Path} {parts : Parts} :
    FindsWithin t before after name location o ∧ (eventOf o).bind Event.parts? = some parts ↔
      FindsParts t before after name parts o := by
  constructor
  · rintro ⟨h, hparts⟩
    cases h with
    | @attributes e he =>
      rw [eventOf_valueOp, event_of_mem_attributeChanges e he] at hparts
      exact nomatch hparts
    | parts other ho =>
      obtain rfl : other = parts := Option.some.inj (ho.parts?_eventOf.symm.trans hparts)
      exact ho
  · exact fun h => ⟨.parts parts h, h.parts?_eventOf⟩

end Found

/-! ## Tables -/

/-- The operations of one kind for one target. -/
def about (kind : DatabaseChange) (target : String) (ops : List Operation) : List Operation :=
  ops.filter fun o => o.kind = .database kind ∧ o.target = target

/-- The operation for a table that one registry mentions and another does not. -/
def onlyIn (t : Severity.Table) (kind : DatabaseChange) (name : String)
    (r other : Registry ModuleSchema) : List Operation :=
  if (firstMention? other name).isSome then []
  else ((firstMention? r name).map (op t kind name)).toList

section Tables

variable {t : Severity.Table} {before after : Registry ModuleSchema} {name : String}

private theorem about_append (kind : DatabaseChange) (name : String) (ops ops' : List Operation) :
    about kind name (ops ++ ops') = about kind name ops ++ about kind name ops' :=
  List.filter_append ..

/-- Of one kind there are no operations where all are about something else. -/
private theorem about_eq_nil (kind : DatabaseChange) (name : String) {ops : List Operation}
    (h : ∀ o ∈ ops, eventOf o ≠ some (event kind)) : about kind name ops = [] :=
  List.filter_eq_nil_iff.mpr fun o ho => by
    simp only [decide_eq_true_eq, not_and]
    exact fun hkind => absurd (eventOf_of_kind hkind) (h o ho)

/-- The operations for the tables of one side. -/
private theorem about_tables (kind : DatabaseChange) (r other : Registry ModuleSchema) :
    about kind name (((flatten r).toList.filter fun e => !(flatten other).contains e.1).flatMap
      fun e => [op t kind e.1 e.2.location]) = onlyIn t kind name r other := by
  have htarget : ((fun o : Operation => decide (o.kind = .database kind ∧ o.target = name)) ∘
      fun e : String × FlatTable => op t kind e.1 e.2.location) = fun e => decide (e.1 = name) := by
    funext e
    simp [op, Severity.Table.operation]
  rw [about, ← List.map_eq_flatMap, List.filter_map, htarget, List.filter_comm,
    KeyMap.filter_key_toList, onlyIn, ← location_flatten, ← location_flatten, Option.isSome_map,
    Option.map_map]
  cases hother : (flatten other).find? name <;> cases (flatten r).find? name <;>
    simp [KeyMap.contains, hother]

/-- A table of only one registry is reported exactly once, and no other table is reported as added or
dropped. -/
theorem about_differences (t : Severity.Table) (before after : Registry ModuleSchema) (name : String) :
    about .tableAdded name (differences t before after) = onlyIn t .tableAdded name after before ∧
      about .tableDropped name (differences t before after) =
        onlyIn t .tableDropped name before after := by
  let diff := KeyDiff.between (flatten before) (flatten after)
  have hadded : ∀ o ∈ diff.added.flatMap fun e => [op t .tableAdded e.1 e.2.location],
      eventOf o ≠ some .tableDropped := by
    simp +contextual [event]
  have hremoved : ∀ o ∈ diff.removed.flatMap fun e => [op t .tableDropped e.1 e.2.location],
      eventOf o ≠ some .tableAdded := by
    simp +contextual [event]
  have hcommon : ∀ o ∈ diff.common.flatMap fun e => compareTables t e.1 e.2.1 e.2.2,
      eventOf o ≠ some .tableAdded ∧ eventOf o ≠ some .tableDropped := by
    intro o ho
    obtain ⟨⟨name, x, y⟩, he, ho⟩ := List.mem_flatMap.mp ho
    obtain ⟨hx, hy⟩ := KeyDiff.mem_common.mp he
    exact ((mem_compareTables_iff hx hy).mp ho).eventOf_ne
  simp only [differences, KeyDiff.collect, about_append]
  constructor
  · rw [about_eq_nil .tableAdded name hremoved,
      about_eq_nil .tableAdded name fun o ho => (hcommon o ho).1, List.append_nil, List.append_nil]
    exact about_tables .tableAdded after before
  · rw [about_eq_nil .tableDropped name hadded,
      about_eq_nil .tableDropped name fun o ho => (hcommon o ho).2, List.append_nil, List.nil_append]
    exact about_tables .tableDropped before after

end Tables

/-! ## Parts -/

/-- Both registries mention a table. -/
def Shared (before after : Registry ModuleSchema) (name : String) : Prop :=
  (firstMention? before name).isSome ∧ (firstMention? after name).isSome

/-- Operations tell which parts of one kind are added and removed: in the tables of both registries
those of only one flattened view, each under the names of its table and its own. -/
structure PartRules.Told {α : Type} (p : PartRules α) (t : Severity.Table)
    (before after : Registry ModuleSchema) (ops : List Operation) : Prop where
  added : ∀ o, (o ∈ ops ∧ ∃ x, o.kind = .database (p.added x)) ↔ ∃ name key part,
    Shared before after name ∧ p.view before name key = none ∧ p.view after name key = some part ∧
      o = op t (p.added part.value) (name ++ "/" ++ key) part.location
  removed : ∀ o, (o ∈ ops ∧ ∃ x, o.kind = .database (p.removed x)) ↔ ∃ name key part,
    Shared before after name ∧ p.view before name key = some part ∧ p.view after name key = none ∧
      o = op t (p.removed part.value) (name ++ "/" ++ key) part.location

section Parts

variable {α : Type} {t : Severity.Table} {before after : Registry ModuleSchema}

/-- What is found about a family of parts comes from the comparison of the family in a table of both
registries. -/
theorem mem_differences_parts_iff {o : Operation} {parts : Parts} :
    o ∈ differences t before after ∧ (eventOf o).bind Event.parts? = some parts ↔
      ∃ name, Shared before after name ∧ FindsParts t before after name parts o := by
  rw [mem_differences_iff]
  constructor
  · rintro ⟨h, hparts⟩
    cases h with
    | tableAdded => exact nomatch hparts
    | tableDropped => exact nomatch hparts
    | within hold hnew ho =>
      exact ⟨_, ⟨hold, Option.isSome_of_eq_some hnew⟩, findsWithin_parts_iff.mp ⟨ho, hparts⟩⟩
  · rintro ⟨name, ⟨hold, hnew⟩, ho⟩
    obtain ⟨location, hnew⟩ := Option.isSome_iff_exists.mp hnew
    exact ⟨.within hold hnew (.parts parts ho), ho.parts?_eventOf⟩

/-- The differences tell which parts of a kind are added and removed, where these parts are one of the
families. -/
theorem PartRules.told (p : PartRules α)
    (hp : ∀ name o, FindsParts t before after name p.parts o ↔ p.Finds t before after name o) :
    p.Told t before after (differences t before after) where
  added o := by
    constructor
    · rintro ⟨ho, x, hkind⟩
      have hevent : eventOf o = some (.added p.parts) := by
        rw [eventOf_of_kind hkind, p.event_added]
      obtain ⟨name, hshared, hfinds⟩ := mem_differences_parts_iff.mp ⟨ho, by rw [hevent]; rfl⟩
      cases (hp name o).mp hfinds with
      | added hold hnew => exact ⟨name, _, _, hshared, hold, hnew, rfl⟩
      | removed => rw [eventOf_op, p.event_removed] at hevent; exact nomatch hevent
      | changed _ _ ho => rw [p.eventOf_changed o ho] at hevent; exact nomatch hevent
    · rintro ⟨name, key, part, hshared, hold, hnew, rfl⟩
      have hfinds := (hp name _).mpr (.added hold hnew)
      exact ⟨(mem_differences_parts_iff.mpr ⟨name, hshared, hfinds⟩).1, part.value, rfl⟩
  removed o := by
    constructor
    · rintro ⟨ho, x, hkind⟩
      have hevent : eventOf o = some (.removed p.parts) := by
        rw [eventOf_of_kind hkind, p.event_removed]
      obtain ⟨name, hshared, hfinds⟩ := mem_differences_parts_iff.mp ⟨ho, by rw [hevent]; rfl⟩
      cases (hp name o).mp hfinds with
      | added => rw [eventOf_op, p.event_added] at hevent; exact nomatch hevent
      | removed hold hnew => exact ⟨name, _, _, hshared, hold, hnew, rfl⟩
      | changed _ _ ho => rw [p.eventOf_changed o ho] at hevent; exact nomatch hevent
    · rintro ⟨name, key, part, hshared, hold, hnew, rfl⟩
      have hfinds := (hp name _).mpr (.removed hold hnew)
      exact ⟨(mem_differences_parts_iff.mpr ⟨name, hshared, hfinds⟩).1, part.value, rfl⟩

end Parts

end VersionBump.Database
