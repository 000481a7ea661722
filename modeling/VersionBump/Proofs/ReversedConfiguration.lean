import VersionBump.Assessment
import VersionBump.Proofs.Reversals

/-!
# Reversed comparisons of the configuration

Comparing schemas, virtual types, grammars or stylesheets backwards finds a loss for every addition,
a relaxation for every restriction, and changes of values at the same targets.

* `Database.reversals`, `Di.reversals`, `Xsd.reversals` and `Less.reversals` list the kinds that
  change places. A group that changes places with itself is one of values.
* `configuration_reversed` is the statement for the registries of all four families.
-/

namespace VersionBump

/-- Being equal up to case goes both ways. -/
theorem Text.equalsIgnoreAsciiCase_comm (a b : String) :
    Text.equalsIgnoreAsciiCase a b = Text.equalsIgnoreAsciiCase b a :=
  Bool.beq_comm

/-! ## Schemas -/

namespace Database

/-- The kinds of change of schemas that change places. Which kind of key a different key is depends
on the side. -/
def reversals : List Reversal :=
  [.of .database [.tableAdded] [.tableDropped],
   .of .database [.columnAdd] [.columnRemove],
   .of .database [.indexAdd] [.indexRemove],
   .of .database [.primaryKeyAdd] [.primaryKeyRemove],
   .of .database [.uniqueKeyAdd] [.uniqueKeyRemove],
   .of .database [.foreignKeyAdd] [.foreignKeyRemove],
   .of .database [.columnBecameNotNull] [.columnBecameNullable],
   .kept .database [.tableResourceChange],
   .kept .database [.tableEngineChange],
   .kept .database [.tableCommentChange],
   .kept .database [.columnTypeChange],
   .kept .database [.columnDefaultChange],
   .kept .database [.columnDefinitionChange],
   .kept .database [.indexChange],
   .kept .database [.primaryKeyChange, .uniqueKeyChange, .foreignKeyChange]]

variable {t : Severity.Table}

/-- Two columns differ backwards in what they differ in forwards. -/
private theorem reversed_compareColumns (target : String) (location location' : Path)
    (old new : Column) :
    Reversed reversals (compareColumns t target location old new)
      (compareColumns t target location' new old) := by
  unfold compareColumns
  refine .append (.append (.append ?type ?nullable) ?default) ?definition
  case type =>
    rw [Text.equalsIgnoreAsciiCase_comm]
    exact .ite Iff.rfl .nil (.valueChange (by decide) _ _ _ _ _ _ _ _)
  case nullable =>
    cases old.nullable <;> cases new.nullable
    · exact .nil
    · exact .operation (by decide) _ _ _ _
    · exact .operation (by decide) _ _ _ _
    · exact .nil
  case default => exact .ite eq_comm .nil (.valueChange (by decide) _ _ _ _ _ _ _ _)
  case definition =>
    have hcomm : old.sameDefinition new = new.sameDefinition old := by
      simp only [Column.sameDefinition, Bool.beq_comm]
    rw [hcomm]
    exact .ite Iff.rfl .nil (.operation (by decide) _ _ _ _)

/-- Two indexes differ backwards if they differ forwards. -/
private theorem reversed_compareIndexes (target : String) (location location' : Path)
    (old new : Index) :
    Reversed reversals (compareIndexes t target location old new)
      (compareIndexes t target location' new old) := by
  unfold compareIndexes
  refine .ite ?_ .nil (.valueChange (by decide) _ _ _ _ _ _ _ _)
  rw [Text.equalsIgnoreAsciiCase_comm, Bool.and_eq_true, Bool.and_eq_true, decide_eq_true_eq,
    decide_eq_true_eq, eq_comm (a := old.columns)]

/-- Two keys differ backwards if they differ forwards. -/
private theorem reversed_compareKeys (target : String) (location location' : Path)
    (old new : Constraint) :
    Reversed reversals (if old = new then [] else [op t (keyChanged new) target location])
      (if new = old then [] else [op t (keyChanged old) target location']) := by
  refine .ite eq_comm .nil (.operation ?_ _ _ _ _)
  cases old <;> cases new <;> simp only [keyChanged] <;> decide

/-- A family of parts of a table is reversed if its kinds and its common parts are. -/
private theorem reversed_compareParts {α : Type} {added removed : α → DatabaseChange}
    {changed : String → Path → α → α → List Operation}
    (hkinds : ∀ part, (Change.database (added part)).Reverses reversals (.database (removed part)) ∧
      (Change.database (removed part)).Reverses reversals (.database (added part)))
    (hchanged : ∀ target location location' old new, Reversed reversals
      (changed target location old new) (changed target location' new old))
    (table : String) (before after : KeyMap String (Located α)) :
    Reversed reversals (compareParts t table added removed changed before after)
      (compareParts t table added removed changed after before) := by
  unfold compareParts
  refine KeyDiff.reversed_collect (fun key part _ => ?_) (fun key part _ => ?_)
    fun key old new _ _ => ?_
  · exact .operation (hkinds part.value).1 _ _ _ _
  · exact .operation (hkinds part.value).2 _ _ _ _
  · exact hchanged _ _ _ _ _

/-- An attribute of a table differs backwards if it differs forwards. -/
private theorem reversed_compareAttribute {kind : DatabaseChange}
    (h : (Change.database kind).Reverses reversals (.database kind)) (table : String)
    (location location' : Path) (old new : Option String) :
    Reversed reversals (compareAttribute t kind table location old new)
      (compareAttribute t kind table location' new old) :=
  .ite eq_comm .nil (.valueChange h _ _ _ _ _ _ _ _)

/-- A table differs backwards in what it differs in forwards. -/
private theorem reversed_compareTables (name : String) (old new : FlatTable) :
    Reversed reversals (compareTables t name old new) (compareTables t name new old) := by
  unfold compareTables
  refine .append (.append (.append (.append (.append ?resource ?engine) ?comment) ?columns)
    ?indexes) ?keys
  case resource => exact reversed_compareAttribute (by decide) _ _ _ _ _
  case engine => exact reversed_compareAttribute (by decide) _ _ _ _ _
  case comment => exact reversed_compareAttribute (by decide) _ _ _ _ _
  case columns =>
    exact reversed_compareParts (fun _ => by decide) reversed_compareColumns _ _ _
  case indexes =>
    exact reversed_compareParts (fun _ => by decide) reversed_compareIndexes _ _ _
  case keys =>
    refine reversed_compareParts (fun key => ?_) reversed_compareKeys _ _ _
    cases key <;> simp only [keyAdded, keyRemoved] <;> decide

/-- Schemas compared backwards. -/
theorem differences_reversed (t : Severity.Table) (before after : Registry ModuleSchema) :
    Reversed reversals (differences t before after) (differences t after before) := by
  refine KeyDiff.reversed_collect (fun name table _ => ?_) (fun name table _ => ?_)
    fun name old new _ _ => ?_
  · exact .operation (by decide) _ _ _ _
  · exact .operation (by decide) _ _ _ _
  · exact reversed_compareTables _ _ _

end Database

/-! ## Virtual types -/

namespace Di

/-- The kinds of change of virtual types that change places. Which kind of addition or change of
scope it is depends on the later side. -/
def reversals : List Reversal :=
  [.of .di [.virtualTypeAdded, .virtualTypeAddedInScope] [.virtualTypeRemoved],
   .kept .di [.virtualTypeTypeChanged],
   .kept .di [.virtualTypeSharedChanged],
   .kept .di [.virtualTypeScopeChangedToGlobal, .virtualTypeScopeChanged]]

variable {t : Severity.Table}

/-- An addition is reversed by a removal, whatever the scope. -/
private theorem reverses_addedChange (v : VirtualType) :
    (Change.di (addedChange v)).Reverses reversals (.di .virtualTypeRemoved) := by
  unfold addedChange
  split <;> decide

/-- Two virtual types differ backwards in what they differ in forwards. -/
private theorem reversed_compareTypes (name : String) (location location' : Path)
    (old new : VirtualType) :
    Reversed reversals (compareTypes t name location old new)
      (compareTypes t name location' new old) := by
  unfold compareTypes
  refine .append (.append (.ite eq_comm .nil (.valueChange ?scope _ _ _ _ _ _ _ _))
    (.ite eq_comm .nil (.valueChange ?type _ _ _ _ _ _ _ _)))
    (.ite eq_comm .nil (.operation ?shared _ _ _ _))
  case scope =>
    unfold scopeChange
    split <;> split <;> decide
  case type => decide
  case shared => decide

/-- Virtual types compared backwards. -/
theorem differences_reversed (t : Severity.Table) (before after : Registry VirtualType) :
    Reversed reversals (differences t before after) (differences t after before) := by
  refine KeyDiff.reversed_collect (fun name v _ => ?_) (fun name v _ => ?_)
    fun name old new _ _ => ?_
  · exact .operation (reverses_addedChange v.value) _ _ _ _
  · exact Reversed.symm (.operation (reverses_addedChange v.value) _ _ _ _)
  · exact reversed_compareTypes _ _ _ _ _

end Di

/-! ## Grammars -/

namespace Xsd

/-- The kinds of change of grammars that change places. Which kind of addition it is depends on
whether the node is required. -/
def reversals : List Reversal :=
  [.of .xsd [.schemaFileAdded] [.schemaFileRemoved],
   .of .xsd [.requiredNodeAdded, .optionalNodeAdded] [.nodeRemoved],
   .of .xsd [.requiredAttributeAdded, .optionalAttributeAdded] [.attributeRemoved],
   .of .xsd [.becameRequired] [.becameOptional],
   .kept .xsd [.typeChanged]]

variable {t : Severity.Table}

/-- An addition is reversed by the removal of the same sort of node. -/
private theorem reverses_addedChange (n : Node) :
    (Change.xsd (addedChange n)).Reverses reversals (.xsd (removedChange n)) := by
  obtain ⟨path, kind, required, type⟩ := n
  cases kind <;> cases required <;> simp only [addedChange, removedChange] <;> decide

/-- Two nodes differ backwards in what they differ in forwards. -/
private theorem reversed_compareNodes (target : String) (location location' : Path)
    (old new : Node) :
    Reversed reversals (compareNodes t target location old new)
      (compareNodes t target location' new old) := by
  unfold compareNodes
  refine .append ?required (.ite eq_comm .nil (.valueChange ?type _ _ _ _ _ _ _ _))
  case required =>
    cases old.required <;> cases new.required
    · exact .nil
    · exact .operation (by decide) _ _ _ _
    · exact .operation (by decide) _ _ _ _
    · exact .nil
  case type => decide

/-- Two grammars differ backwards in what they differ in forwards. -/
private theorem reversed_compareGrammars (file : String) (location location' : Path)
    (old new : Grammar) :
    Reversed reversals (compareGrammars t file location old new)
      (compareGrammars t file location' new old) := by
  unfold compareGrammars
  refine KeyDiff.reversed_collect (fun path n _ => ?_) (fun path n _ => ?_)
    fun path m n _ _ => ?_
  · exact .operation (reverses_addedChange n) _ _ _ _
  · exact Reversed.symm (.operation (reverses_addedChange n) _ _ _ _)
  · exact reversed_compareNodes _ _ _ _ _

/-- Grammars compared backwards. -/
theorem differences_reversed (t : Severity.Table) (before after : Registry Grammar) :
    Reversed reversals (differences t before after) (differences t after before) := by
  refine KeyDiff.reversed_collect (fun file g _ => ?_) (fun file g _ => ?_)
    fun file old new _ _ => ?_
  · exact .operation (by decide) _ _ _ _
  · exact .operation (by decide) _ _ _ _
  · exact reversed_compareGrammars _ _ _ _ _

end Xsd

/-! ## Stylesheets -/

namespace Less

/-- The kinds of change of stylesheets that change places. -/
def reversals : List Reversal :=
  [.of .less [.fileAdded] [.fileRemoved],
   .of .less [.variableAdded] [.variableRemoved],
   .of .less [.mixinAdded] [.mixinRemoved],
   .of .less [.importAdded] [.importRemoved],
   .kept .less [.variableValueChanged]]

variable {t : Severity.Table}

/-- An addition is reversed by the removal of the same sort of rule. -/
private theorem reverses_addedChange (r : Rule) :
    (Change.less (addedChange r)).Reverses reversals (.less (removedChange r)) := by
  obtain ⟨kind, name, value⟩ := r
  cases kind <;> simp only [addedChange, removedChange] <;> decide

/-- The key of a rule tells its kind and its name. -/
theorem Rule.eq_of_key {r s : Rule} (h : r.key = s.key) : r.kind = s.kind ∧ r.name = s.name := by
  obtain ⟨kind, name, value⟩ := r
  obtain ⟨kind', name', value'⟩ := s
  have hlist : (kind.label ++ ":" ++ name).toList = (kind'.label ++ ":" ++ name').toList :=
    congrArg String.toList h
  -- The labels of two kinds differ in their first letters.
  cases kind <;> cases kind' <;>
    simp_all [RuleKind.label, String.toList_append, String.toList_inj]

/-- A rule stands under its own key. -/
private theorem key_of_find?_byKey {s : Stylesheet} {key : String} {r : Rule}
    (h : s.byKey.find? key = some r) : r.key = key := by
  obtain ⟨r', -, heq⟩ := List.mem_map.mp (KeyMap.mem_of_find?_ofList h)
  cases heq
  rfl

/-- Two rules of one kind differ backwards if they differ forwards. -/
private theorem reversed_compareRules (target : String) (location location' : Path) {old new : Rule}
    (hkind : old.kind = new.kind) :
    Reversed reversals (compareRules t target location old new)
      (compareRules t target location' new old) := by
  unfold compareRules
  refine .ite ?_ (.valueChange (by decide) _ _ _ _ _ _ _ _) .nil
  simp only [hkind, Bool.and_eq_true, decide_eq_true_eq, ne_comm]

/-- Two stylesheets differ backwards in what they differ in forwards. -/
private theorem reversed_compareStylesheets (file : String) (location location' : Path)
    (old new : Stylesheet) :
    Reversed reversals (compareStylesheets t file location old new)
      (compareStylesheets t file location' new old) := by
  unfold compareStylesheets
  refine KeyDiff.reversed_collect (fun key r _ => ?_) (fun key r _ => ?_)
    fun key r s hr hs => ?_
  · exact .operation (reverses_addedChange r) _ _ _ _
  · exact Reversed.symm (.operation (reverses_addedChange r) _ _ _ _)
  · -- Rules under one key have one name, and so one target.
    obtain ⟨hkind, hname⟩ := Rule.eq_of_key
      ((key_of_find?_byKey hr).trans (key_of_find?_byKey hs).symm)
    simp only [hname]
    exact reversed_compareRules _ _ _ hkind

/-- Stylesheets compared backwards. -/
theorem differences_reversed (t : Severity.Table) (before after : Registry Stylesheet) :
    Reversed reversals (differences t before after) (differences t after before) := by
  refine KeyDiff.reversed_collect (fun file s _ => ?_) (fun file s _ => ?_)
    fun file old new _ _ => ?_
  · exact .operation (by decide) _ _ _ _
  · exact .operation (by decide) _ _ _ _
  · exact reversed_compareStylesheets _ _ _ _ _

end Less

/-- Schemas, virtual types, grammars and stylesheets that are compared backwards differ in reverse,
under every table and for all registries. -/
theorem configuration_reversed (t : Severity.Table) :
    (∀ before after : Registry Database.ModuleSchema, Reversed Database.reversals
      (Database.differences t before after) (Database.differences t after before)) ∧
    (∀ before after : Registry Di.VirtualType, Reversed Di.reversals
      (Di.differences t before after) (Di.differences t after before)) ∧
    (∀ before after : Registry Xsd.Grammar, Reversed Xsd.reversals
      (Xsd.differences t before after) (Xsd.differences t after before)) ∧
    ∀ before after : Registry Less.Stylesheet, Reversed Less.reversals
      (Less.differences t before after) (Less.differences t after before) :=
  ⟨Database.differences_reversed t, Di.differences_reversed t, Xsd.differences_reversed t,
    Less.differences_reversed t⟩

end VersionBump
