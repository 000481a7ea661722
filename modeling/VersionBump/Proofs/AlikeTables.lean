import VersionBump.Proofs.TableDifferences

/-!
# Alike tables

When nothing is reported about two registries of schemas, and that it does not matter how the modules
share out what they state.

* `Database.Alike` compares the flattened views of a table, and `Database.differences_eq_nil_iff` says
  that there are no differences exactly if all tables are alike.
* `Database.DeclaredOnce` and `Database.Redistributed` look at what the modules state, and
  `Database.Redistributed.alike` concludes for the flattened views.
* `Database.differences_compare_flattened` is the statement.
-/

namespace VersionBump.Database

/-! ## Tables without differences -/

/-- The parts of one kind of a table are alike in two registries: the flattened views have parts
under the same keys, and those of one key are alike. -/
def PartRules.Alike {α : Type} (p : PartRules α) (before after : Registry ModuleSchema)
    (name : String) : Prop :=
  ∀ key, (p.view before name key).Rel (fun x y => p.alike x.value y.value) (p.view after name key)

/-- A table is alike in two registries: both mention it or neither does, and the attributes are equal
and the parts alike. -/
structure Alike (before after : Registry ModuleSchema) (name : String) : Prop where
  mentioned : (firstMention? before name).isSome = (firstMention? after name).isSome
  attributes : ∀ a ∈ attributes, a.view before name = a.view after name
  columns : columnRules.Alike before after name
  indexes : indexRules.Alike before after name
  keys : keyRules.Alike before after name

section Nothing

variable {α : Type} {t : Severity.Table} {before after : Registry ModuleSchema} {name : String}
  {old new : FlatTable}

/-- Nothing is found in the parts of one kind exactly if they are alike. -/
theorem PartRules.compareParts_eq_nil_iff (p : PartRules α)
    (hold : (flatten before).find? name = some old) (hnew : (flatten after).find? name = some new) :
    compareParts t name p.added p.removed (p.changed t) (p.flat old) (p.flat new) = [] ↔
      p.Alike before after name := by
  rw [compareParts, KeyDiff.collect_eq_nil_iff (fun _ _ => List.cons_ne_nil _ _) fun _ _ =>
    List.cons_ne_nil _ _]
  simp only [p.find?_flat_of_find? hold, p.find?_flat_of_find? hnew, p.changed_eq_nil_iff]
  rfl

/-- Nothing is found in a table of both registries exactly if it is alike. -/
theorem compareTables_eq_nil_iff (hold : (flatten before).find? name = some old)
    (hnew : (flatten after).find? name = some new) :
    compareTables t name old new = [] ↔ Alike before after name := by
  have hattribute : ∀ (kind : DatabaseChange) (a : Attribute),
      compareAttribute t kind name new.location (a.flat old) (a.flat new) = [] ↔
        a.view before name = a.view after name := fun kind a => by
    rw [compareAttribute, a.flat_of_find? hold, a.flat_of_find? hnew]
    split <;> simp_all
  have hmentioned : (firstMention? before name).isSome = (firstMention? after name).isSome := by
    rw [isSome_firstMention?, isSome_firstMention?, hold, hnew]
    rfl
  have hparts : compareTables t name old new = [] ↔
      (∀ a ∈ attributes, a.view before name = a.view after name) ∧
        columnRules.Alike before after name ∧ indexRules.Alike before after name ∧
          keyRules.Alike before after name := by
    rw [← columnRules.compareParts_eq_nil_iff hold hnew,
      ← indexRules.compareParts_eq_nil_iff hold hnew, ← keyRules.compareParts_eq_nil_iff hold hnew]
    simp only [attributes, List.forall_mem_cons, List.not_mem_nil, false_imp_iff, implies_true,
      and_true, ← hattribute .tableResourceChange resourceAttribute,
      ← hattribute .tableEngineChange engineAttribute,
      ← hattribute .tableCommentChange commentAttribute]
    simp only [compareTables, List.append_eq_nil_iff, and_assoc]
    rfl
  rw [hparts]
  constructor
  · rintro ⟨hattributes, hcolumns, hindexes, hkeys⟩
    exact ⟨hmentioned, hattributes, hcolumns, hindexes, hkeys⟩
  · exact fun h => ⟨h.attributes, h.columns, h.indexes, h.keys⟩

/-- A table that is alike is there on both sides or on neither. -/
theorem Alike.isSome_find? (h : Alike before after name) :
    ((flatten before).find? name).isSome = ((flatten after).find? name).isSome := by
  rw [← isSome_firstMention?, ← isSome_firstMention?, h.mentioned]

/-- A table of neither registry is alike. -/
theorem alike_of_find?_eq_none (hold : (flatten before).find? name = none)
    (hnew : (flatten after).find? name = none) : Alike before after name := by
  have hparts : ∀ {α : Type} (p : PartRules α), p.Alike before after name := fun p key => by
    rw [p.view_of_find?_eq_none hold, p.view_of_find?_eq_none hnew]
    exact .none
  refine ⟨?_, fun a _ => ?_, hparts _, hparts _, hparts _⟩
  · rw [isSome_firstMention?, isSome_firstMention?, hold, hnew]
  · rw [a.view_of_find?_eq_none hold, a.view_of_find?_eq_none hnew]

/-- Schemas have no differences exactly if all tables are alike. -/
theorem differences_eq_nil_iff :
    differences t before after = [] ↔ ∀ name, Alike before after name := by
  rw [differences, KeyDiff.collect_eq_nil_iff (fun _ _ => List.cons_ne_nil _ _) fun _ _ =>
    List.cons_ne_nil _ _]
  refine forall_congr' fun name => ?_
  cases hold : (flatten before).find? name with
  | none =>
    cases hnew : (flatten after).find? name with
    | none => exact ⟨fun _ => alike_of_find?_eq_none hold hnew, fun _ => .none⟩
    | some y =>
      refine ⟨fun h => ?_, fun h => ?_⟩
      · cases h
      · have hfound := h.isSome_find?
        rw [hold, hnew] at hfound
        exact absurd hfound Bool.false_ne_true
  | some x =>
    cases hnew : (flatten after).find? name with
    | none =>
      refine ⟨fun h => ?_, fun h => ?_⟩
      · cases h
      · have hfound := h.isSome_find?
        rw [hold, hnew] at hfound
        exact absurd hfound.symm Bool.false_ne_true
    | some y =>
      rw [← compareTables_eq_nil_iff hold hnew]
      refine ⟨fun h => ?_, fun h => .some h⟩
      cases h with
      | some hnothing => exact hnothing

end Nothing

/-! ## Redistribution -/

/-- The tables that the modules mention, as often as they do. -/
def mentions (r : Registry ModuleSchema) : List String := (statements r).map (·.value.name)

/-- The parts of one kind that the modules declare, each with its table. -/
def PartKind.declared {α : Type} (p : PartKind α) (r : Registry ModuleSchema) : List (String × α) :=
  (p.listed (statements r)).map fun e => (e.1, e.2.value)

/-- The values of an attribute that the modules declare, each with its table. -/
def Attribute.declared (a : Attribute) (r : Registry ModuleSchema) : List (String × String) :=
  a.listed (statements r)

/-- No two declarations of parts of one kind are for one key of a table. -/
def PartKind.DeclaredOnce {α : Type} (p : PartKind α) (r : Registry ModuleSchema) : Prop :=
  ((p.declared r).map fun e => (e.1, p.key e.2)).Nodup

instance {α : Type} (p : PartKind α) (r : Registry ModuleSchema) : Decidable (p.DeclaredOnce r) :=
  inferInstanceAs (Decidable (List.Nodup _))

/-- No attribute of a table, no column, no index and no key is declared twice. -/
structure DeclaredOnce (r : Registry ModuleSchema) : Prop where
  attributes : ∀ a ∈ attributes, ((a.declared r).map (·.1)).Nodup
  columns : columnKind.DeclaredOnce r
  indexes : indexKind.DeclaredOnce r
  keys : constraintKind.DeclaredOnce r

/-- The modules of two registries declare the same: the same tables are mentioned, and the same
attributes and parts of them are declared as often, by whatever modules, in whatever order and in
whatever files. -/
structure Redistributed (before after : Registry ModuleSchema) : Prop where
  tables : ∀ name, name ∈ mentions before ↔ name ∈ mentions after
  attributes : ∀ a ∈ attributes, (a.declared before).Perm (a.declared after)
  columns : (columnKind.declared before).Perm (columnKind.declared after)
  indexes : (indexKind.declared before).Perm (indexKind.declared after)
  keys : (constraintKind.declared before).Perm (constraintKind.declared after)

section Redistribution

variable {α κ : Type} {before after : Registry ModuleSchema} {name : String}

/-- The tables that are mentioned are those with a first mention. -/
theorem isSome_firstMention?_iff (r : Registry ModuleSchema) (name : String) :
    (firstMention? r name).isSome = true ↔ name ∈ mentions r := by
  simp [firstMention?, mentions, List.find?_isSome]

/-- In two orders of a list without repeated keys the same element is the last of a key. -/
theorem getLast?_filter_key_of_perm [DecidableEq κ] {key : α → κ} {xs ys : List α}
    (hnodup : (xs.map key).Nodup) (hperm : xs.Perm ys) (k : κ) :
    (xs.filter (key · = k)).getLast? = (ys.filter (key · = k)).getLast? := by
  have hfilter := hperm.filter (key · = k)
  by_cases h : ∃ x ∈ xs, key x = k
  · obtain ⟨x, hx, rfl⟩ := h
    rw [filter_key_eq_singleton hnodup hx] at hfilter ⊢
    rw [List.perm_singleton.mp hfilter.symm]
  · have hnil : xs.filter (key · = k) = [] :=
      List.filter_eq_nil_iff.mpr fun x hx => by simpa using fun hk => h ⟨x, hx, hk⟩
    rw [hnil] at hfilter ⊢
    rw [hfilter.symm.eq_nil]

/-- The part of the view is the last declaration. -/
theorem PartKind.map_value_view (p : PartKind α) (r : Registry ModuleSchema) (name key : String) :
    (p.view r name key).map (·.value) =
      (((p.declared r).filter fun e => (e.1, p.key e.2) = (name, key)).getLast?).map (·.2) := by
  rw [PartKind.view, PartKind.last, PartKind.declared, List.filter_map, List.getLast?_map,
    Option.map_map, Option.map_map]
  simp only [Function.comp_def, Prod.mk.injEq]

/-- Parts that are declared once each are alike wherever they are declared. -/
theorem PartRules.alike_of_perm (p : PartRules α) (honce : p.DeclaredOnce before)
    (hperm : (p.declared before).Perm (p.declared after)) : p.Alike before after name := by
  intro key
  have hvalue : (p.view before name key).map (·.value) = (p.view after name key).map (·.value) := by
    rw [p.map_value_view, p.map_value_view, getLast?_filter_key_of_perm honce hperm]
  cases hold : p.view before name key with
  | none =>
    rw [hold, Option.map_none] at hvalue
    rw [Option.map_eq_none_iff.mp hvalue.symm]
    exact .none
  | some x =>
    rw [hold, Option.map_some] at hvalue
    obtain ⟨y, hnew, hsame⟩ := Option.map_eq_some_iff.mp hvalue.symm
    rw [hnew]
    exact .some (hsame ▸ p.alike_self _)

/-- Tables are alike wherever they are declared, if everything is declared once. -/
theorem Redistributed.alike (h : Redistributed before after) (honce : DeclaredOnce before)
    (name : String) : Alike before after name where
  mentioned := by
    rw [Bool.eq_iff_iff, isSome_firstMention?_iff, isSome_firstMention?_iff, h.tables]
  attributes a ha := by
    rw [Attribute.view, Attribute.view, Attribute.last, Attribute.last]
    exact congrArg _ (getLast?_filter_key_of_perm (honce.attributes a ha) (h.attributes a ha) name)
  columns := columnRules.alike_of_perm honce.columns h.columns
  indexes := indexRules.alike_of_perm honce.indexes h.indexes
  keys := keyRules.alike_of_perm honce.keys h.keys

end Redistribution

/-! ## Flattened tables only -/

/-- The differences of schemas are those of the flattened tables. A table that only one registry
mentions is reported once, and nothing in it; in tables of both, parts of only one flattened view are
reported under the names of the table and the part. There are no differences exactly if all tables are
alike, and so none between registries whose modules share out the same declarations differently. -/
theorem differences_compare_flattened (t : Severity.Table) (before after : Registry ModuleSchema) :
    (∀ o, o ∈ differences t before after ↔ Finds t before after o) ∧
    (∀ name,
      about .tableAdded name (differences t before after) = onlyIn t .tableAdded name after before ∧
      about .tableDropped name (differences t before after) =
        onlyIn t .tableDropped name before after) ∧
    (columnRules.Told t before after (differences t before after) ∧
      indexRules.Told t before after (differences t before after) ∧
      keyRules.Told t before after (differences t before after)) ∧
    (differences t before after = [] ↔ ∀ name, Alike before after name) ∧
    (DeclaredOnce before → Redistributed before after → differences t before after = []) :=
  ⟨fun _ => mem_differences_iff, about_differences t before after,
    ⟨columnRules.told fun _ _ => Iff.rfl, indexRules.told fun _ _ => Iff.rfl,
      keyRules.told fun _ _ => Iff.rfl⟩,
    differences_eq_nil_iff, fun honce h => differences_eq_nil_iff.mpr (h.alike honce)⟩

/-- A table that two modules declare. -/
private def declaredByTwo : Registry ModuleSchema :=
  let schema : ModuleSchema := ⟨"A", [{
    name := "t"
    engine := some "innodb"
    columns := [{ name := "id", type := "int" }]
    constraints := [.primary "PRIMARY" ["id"]] }]⟩
  let extension : ModuleSchema := ⟨"B", [{
    name := "t"
    columns := [{ name := "label", type := "text" }]
    indexes := [{ referenceId := "T_LABEL", columns := ["label"] }] }]⟩
  ((∅ : Registry ModuleSchema).insert .database "A" schema ⟨"a/etc/db_schema.json"⟩).insert .database
    "B" extension ⟨"b/etc/db_schema.json"⟩

/-- The same table, whose columns a module of another name declares in another file. -/
private def declaredElsewhere : Registry ModuleSchema :=
  let schema : ModuleSchema := ⟨"A", [{
    name := "t"
    indexes := [{ referenceId := "T_LABEL", columns := ["label"] }]
    constraints := [.primary "PRIMARY" ["id"]] }]⟩
  let extension : ModuleSchema := ⟨"C", [
    { name := "t", columns := [{ name := "label", type := "text" }] },
    { name := "t", engine := some "innodb", columns := [{ name := "id", type := "int" }] }]⟩
  ((∅ : Registry ModuleSchema).insert .database "A" schema ⟨"moved/etc/db_schema.json"⟩).insert
    .database "C" extension ⟨"c/etc/db_schema.json"⟩

/-- Declarations that move from one module to another are not reported. -/
theorem differences_compare_flattened_moved :
    DeclaredOnce declaredByTwo ∧ Redistributed declaredByTwo declaredElsewhere ∧
      differences {} declaredByTwo declaredElsewhere = [] := by
  have honce : DeclaredOnce declaredByTwo := ⟨by decide, by decide, by decide, by decide⟩
  have htables : ∀ name, name ∈ mentions declaredByTwo ↔ name ∈ mentions declaredElsewhere := by
    have hbefore : mentions declaredByTwo = ["t", "t"] := by decide
    have hafter : mentions declaredElsewhere = ["t", "t", "t"] := by decide
    simp [hbefore, hafter]
  have hsame : Redistributed declaredByTwo declaredElsewhere :=
    ⟨htables, by decide, by decide, by decide, by decide⟩
  exact ⟨honce, hsame,
    (differences_compare_flattened {} declaredByTwo declaredElsewhere).2.2.2.2 honce hsame⟩

end VersionBump.Database
