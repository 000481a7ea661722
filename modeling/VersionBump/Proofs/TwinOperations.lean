import VersionBump.Assessment
import VersionBump.Proofs.IssuedOperations
import VersionBump.Proofs.MatchingRuns
import VersionBump.Proofs.ReportContents

/-!
# Twin operations

Two severity tables issue two operations for one change. These twins agree in all that they say but
the level, and each table decides the level of its own. Since the comparisons look at the table for
nothing else, comparisons under two tables find twins throughout.

* `Change.family` is the family of declarations that a kind of change belongs to.
* `Operation.substance` is what an operation says apart from its level.
* `Severity.Table.Twins` relates two operations, `Severity.Table.Parallel` two lists of them.
* `configurationDifferences` lists what is found in a configuration family, and
  `parallel_configurationDifferences` is the statement for these families.
* A table is parallel to itself, so what it issues is covered: `covers_configurationDifferences`.
-/

namespace VersionBump

/-- The family of declarations that a kind of change belongs to. -/
def Change.family : Change → Family
  | .php _ => .php
  | .docType .. => .php
  | .database _ => .database
  | .di _ => .di
  | .xsd _ => .xsd
  | .settings _ => .settings
  | .less _ => .less

/-- The family that a context belongs to. Contexts that callers bring belong to none. -/
def Context.family? : Context → Option Family
  | .classes => some .php
  | .interfaces => some .php
  | .traits => some .php
  | .database => some .database
  | .di => some .di
  | .xsd => some .xsd
  | .settings => some .settings
  | .less => some .less
  | .custom _ => none

/-- A kind of change arises in the contexts of its family. -/
theorem Severity.Arises.family?_eq {context : Context} {kind : Change} (h : Arises context kind) :
    context.family? = some kind.family := by
  have hphp : context ∈ phpContexts → context.family? = some .php := by
    intro hc
    simp only [phpContexts, List.mem_cons, List.not_mem_nil, or_false] at hc
    rcases hc with rfl | rfl | rfl <;> rfl
  cases kind with
  | php k => exact hphp h
  | docType slot move => exact hphp h
  | database k => rw [show context = .database from h]; rfl
  | di k => rw [show context = .di from h]; rfl
  | xsd k => rw [show context = .xsd from h]; rfl
  | settings k => rw [show context = .settings from h]; rfl
  | less k => rw [show context = .less from h]; rfl

/-- What an operation says apart from its level: context, kind, code, target, location and
reason. -/
def Operation.substance (op : Operation) : Context × Change × String × String × Path × String :=
  (op.context, op.kind, op.code, op.target, op.location, op.reason)

/-- Operations of one substance and one level are equal. -/
theorem Operation.eq_of_substance_eq {a b : Operation} (h : a.substance = b.substance)
    (hlevel : a.level = b.level) : a = b := by
  obtain ⟨kind, code, level, context, target, location, reason⟩ := a
  obtain ⟨kind', code', level', context', target', location', reason'⟩ := b
  simp_all [substance]

/-- Operations of one substance concern one difference. -/
theorem Operation.key_eq_of_substance_eq {a b : Operation} (h : a.substance = b.substance) :
    a.key = b.key := by
  simp only [substance, Prod.mk.injEq] at h
  obtain ⟨-, -, hcode, htarget, hlocation, -⟩ := h
  simp only [key, hcode, htarget, hlocation]

namespace Severity.Table

/-- Two operations that two tables issue for one change of a family. -/
structure Twins (t u : Table) (family : Family) (membership : Bool) (a b : Operation) : Prop where
  issued : t.Issued membership a
  issued_twin : u.Issued membership b
  family_eq : a.kind.family = family
  substance_eq : a.substance = b.substance

/-- Two lists that hold twins in the same order. -/
abbrev Parallel (t u : Table) (family : Family) (membership : Bool) : List Operation →
    List Operation → Prop :=
  List.Forall₂ (t.Twins u family membership)

variable {t u : Table} {family : Family} {m : Bool}

/-- The reason of a rule is the same in all tables. -/
theorem rule_reason (t : Table) (context : Context) (kind : Change) :
    (t.rule context kind).reason = (Severity.rule context kind).reason := by
  unfold rule
  dsimp only
  split <;> rfl

/-- Twins of one table are equal, since it decides both levels. -/
theorem Twins.eq {a b : Operation} (h : t.Twins t family m a b) : a = b := by
  refine Operation.eq_of_substance_eq h.substance_eq ?_
  have hsame := h.substance_eq
  simp only [Operation.substance, Prod.mk.injEq] at hsame
  rw [h.issued.level_eq, h.issued_twin.level_eq, hsame.1, hsame.2.1]

/-- Twins belong to the context and the kind of the change. -/
theorem Twins.context_kind_eq {a b : Operation} (h : t.Twins u family m a b) :
    a.context = b.context ∧ a.kind = b.kind := by
  have hsame := h.substance_eq
  simp only [Operation.substance, Prod.mk.injEq] at hsame
  exact ⟨hsame.1, hsame.2.1⟩

/-- Twins stand in a context of their family. -/
theorem Twins.context_family {a b : Operation} (h : t.Twins u family m a b) :
    a.context.family? = some family := by
  rw [Arises.family?_eq (mem_kinds_iff.mp h.issued.listed), h.family_eq]

/-- Where a table has no higher levels than another, the first twin is not above the second. -/
theorem Twins.level_le {a b : Operation} (h : t.Twins u family m a b)
    (hle : ∀ context kind, (t.rule context kind).level ≤ (u.rule context kind).level) :
    a.level ≤ b.level := by
  obtain ⟨hcontext, hkind⟩ := h.context_kind_eq
  rw [h.issued.level_eq, h.issued_twin.level_eq, ← hcontext, ← hkind]
  exact hle _ _

/-- Two tables issue twins for a change that arises. -/
theorem twins_operation (context : Context) (kind : Change) (h : Arises context kind)
    (hf : kind.family = family) (hm : kind.isMembership = m) (target : String) (location : Path) :
    t.Twins u family m (t.operation context kind target location)
      (u.operation context kind target location) where
  issued := issued_operation h hm target location
  issued_twin := issued_operation h hm target location
  family_eq := hf
  substance_eq := by simp [Operation.substance, operation, rule_code, rule_reason]

/-- Two tables issue twins for a change of a value that arises. -/
theorem twins_valueChange (context : Context) (kind : Change) (h : Arises context kind)
    (hf : kind.family = family) (hm : kind.isMembership = m) (target : String) (location : Path)
    (before after : String) :
    t.Twins u family m (t.valueChange context kind target location before after)
      (u.valueChange context kind target location before after) where
  issued := issued_valueChange h hm target location before after
  issued_twin := issued_valueChange h hm target location before after
  family_eq := hf
  substance_eq := by simp [Operation.substance, valueChange, operation, rule_code, rule_reason]

/-! ## Lists -/

/-- What is made of one list by two tables is parallel if each part is. -/
theorem parallel_flatMap {α : Type} {xs : List α} {f g : α → List Operation}
    (h : ∀ x ∈ xs, t.Parallel u family m (f x) (g x)) :
    t.Parallel u family m (xs.flatMap f) (xs.flatMap g) := by
  induction xs with
  | nil => exact .nil
  | cons x xs ih =>
    rw [List.flatMap_cons, List.flatMap_cons]
    exact List.rel_append (h x List.mem_cons_self) (ih fun y hy => h y (List.mem_cons_of_mem x hy))

/-- What is made of one list by two tables is parallel if each operation has a twin. -/
theorem parallel_map {α : Type} {xs : List α} {f g : α → Operation}
    (h : ∀ x ∈ xs, t.Twins u family m (f x) (g x)) :
    t.Parallel u family m (xs.map f) (xs.map g) := by
  rw [List.map_eq_flatMap, List.map_eq_flatMap]
  exact parallel_flatMap fun x hx => .cons (h x hx) .nil

/-- What an optional value is turned into is parallel if the operation has a twin. -/
theorem parallel_toList_map {α : Type} {x : Option α} {f g : α → Operation}
    (h : ∀ a, x = some a → t.Twins u family m (f a) (g a)) :
    t.Parallel u family m (x.map f).toList (x.map g).toList := by
  cases x with
  | none => exact .nil
  | some a => exact .cons (h a rfl) .nil

/-- What two maps are turned into is parallel if each class is. -/
theorem parallel_collect {κ β α : Type} {d : KeyDiff κ β α} {added added' : κ → α → List Operation}
    {removed removed' : κ → β → List Operation} {common common' : κ → β → α → List Operation}
    (ha : ∀ k v, t.Parallel u family m (added k v) (added' k v))
    (hr : ∀ k v, t.Parallel u family m (removed k v) (removed' k v))
    (hc : ∀ k v w, t.Parallel u family m (common k v w) (common' k v w)) :
    t.Parallel u family m (d.collect added removed common) (d.collect added' removed' common') :=
  List.rel_append (parallel_flatMap fun _ _ => ha _ _) (List.rel_append
    (parallel_flatMap fun _ _ => hr _ _) (parallel_flatMap fun _ _ => hc _ _ _))

/-- Parallel lists of one table are equal. -/
theorem Parallel.eq {ops ops' : List Operation} (h : t.Parallel t family m ops ops') :
    ops = ops' := by
  induction h with
  | nil => rfl
  | cons htwins _ ih => rw [htwins.eq, ih]

/-- Parallel lists of a family stand in its contexts. -/
theorem Parallel.context_family {ops ops' : List Operation} (h : t.Parallel u family m ops ops') :
    ∀ op ∈ ops, op.context.family? = some family := by
  induction h with
  | nil => exact fun _ hop => nomatch hop
  | cons htwins _ ih => exact List.forall_mem_cons.mpr ⟨htwins.context_family, ih⟩

/-- The first of two parallel lists is issued by its table. -/
theorem Parallel.covers {ops ops' : List Operation} (h : t.Parallel u family m ops ops') :
    t.Covers m ops := by
  induction h with
  | nil => exact covers_nil
  | cons htwins _ ih => exact covers_cons.mpr ⟨htwins.issued, ih⟩

end Severity.Table

open Severity.Table

/-! ## The configuration families -/

section Configuration

variable (t u : Severity.Table)

namespace Database

private theorem twins_op (kind : DatabaseChange) (target : String) (location : Path) :
    t.Twins u .database false (op t kind target location) (op u kind target location) :=
  twins_operation .database (.database kind) rfl rfl rfl target location

private theorem twins_valueOp (kind : DatabaseChange) (target : String) (location : Path)
    (before after : String) :
    t.Twins u .database false (valueOp t kind target location before after)
      (valueOp u kind target location before after) :=
  twins_valueChange .database (.database kind) rfl rfl rfl target location before after

/-- The differences of parts are parallel if those of common parts are. -/
private theorem parallel_compareParts {α : Type} (table : String)
    (added removed : α → DatabaseChange) {changed changed' : String → Path → α → α → List Operation}
    (h : ∀ target location a b, t.Parallel u .database false (changed target location a b)
      (changed' target location a b)) (before after : KeyMap String (Located α)) :
    t.Parallel u .database false (compareParts t table added removed changed before after)
      (compareParts u table added removed changed' before after) := by
  unfold compareParts
  exact parallel_collect (fun _ _ => .cons (twins_op t u _ _ _) .nil)
    (fun _ _ => .cons (twins_op t u _ _ _) .nil) fun _ _ _ => h _ _ _ _

/-- The differences of columns are parallel. -/
private theorem parallel_compareColumns (target : String) (location : Path) (a b : Column) :
    t.Parallel u .database false (compareColumns t target location a b)
      (compareColumns u target location a b) := by
  unfold compareColumns
  refine List.rel_append (List.rel_append (List.rel_append ?_ ?_) ?_) ?_ <;> split <;>
    first
      | exact .nil
      | exact .cons (twins_op t u _ _ _) .nil
      | exact .cons (twins_valueOp t u _ _ _ _ _) .nil

/-- The differences of tables are parallel. -/
private theorem parallel_compareTables (name : String) (a b : FlatTable) :
    t.Parallel u .database false (compareTables t name a b) (compareTables u name a b) := by
  have hattribute : ∀ kind location x y, t.Parallel u .database false
      (compareAttribute t kind name location x y) (compareAttribute u kind name location x y) := by
    intro kind location x y
    unfold compareAttribute
    split
    · exact .nil
    · exact .cons (twins_valueOp t u _ _ _ _ _) .nil
  have hindexes : ∀ target location x y, t.Parallel u .database false
      (compareIndexes t target location x y) (compareIndexes u target location x y) := by
    intro target location x y
    unfold compareIndexes
    split
    · exact .nil
    · exact .cons (twins_valueOp t u _ _ _ _ _) .nil
  have hconstraints : ∀ target location (x y : Constraint), t.Parallel u .database false
      (if x = y then [] else [op t (keyChanged y) target location])
      (if x = y then [] else [op u (keyChanged y) target location]) := by
    intro target location x y
    split
    · exact .nil
    · exact .cons (twins_op t u _ _ _) .nil
  refine List.rel_append (List.rel_append (List.rel_append (List.rel_append (List.rel_append
    (hattribute _ _ _ _) (hattribute _ _ _ _)) (hattribute _ _ _ _)) ?_) ?_) ?_
  · exact parallel_compareParts t u _ _ _ (parallel_compareColumns t u) _ _
  · exact parallel_compareParts t u _ _ _ hindexes _ _
  · exact parallel_compareParts t u _ _ _ hconstraints _ _

/-- The differences of schemas are parallel. -/
theorem parallel_differences (before after : Registry ModuleSchema) :
    t.Parallel u .database false (differences t before after) (differences u before after) :=
  parallel_collect (fun _ _ => .cons (twins_op t u _ _ _) .nil)
    (fun _ _ => .cons (twins_op t u _ _ _) .nil) (parallel_compareTables t u)

end Database

/-- The differences of virtual types are parallel. -/
theorem Di.parallel_differences (before after : Registry Di.VirtualType) :
    t.Parallel u .di false (Di.differences t before after) (Di.differences u before after) := by
  have hop : ∀ kind target location, t.Twins u .di false (Di.op t kind target location)
      (Di.op u kind target location) :=
    fun kind => twins_operation .di (.di kind) rfl rfl rfl
  have hvalue : ∀ kind target location x y, t.Twins u .di false
      (Di.valueOp t kind target location x y) (Di.valueOp u kind target location x y) :=
    fun kind => twins_valueChange .di (.di kind) rfl rfl rfl
  refine parallel_collect (fun _ _ => .cons (hop _ _ _) .nil) (fun _ _ => .cons (hop _ _ _) .nil)
    fun _ _ _ => ?_
  simp only [Di.compareTypes]
  refine List.rel_append (List.rel_append ?_ ?_) ?_ <;> split <;>
    first
      | exact .nil
      | exact .cons (hvalue _ _ _ _ _) .nil
      | exact .cons (hop _ _ _) .nil

/-- The differences of grammars are parallel. -/
theorem Xsd.parallel_differences (before after : Registry Xsd.Grammar) :
    t.Parallel u .xsd false (Xsd.differences t before after) (Xsd.differences u before after) := by
  have hop : ∀ kind target location, t.Twins u .xsd false (Xsd.op t kind target location)
      (Xsd.op u kind target location) :=
    fun kind => twins_operation .xsd (.xsd kind) rfl rfl rfl
  have hvalue : ∀ (kind : XsdChange) target location x y, t.Twins u .xsd false
      (t.valueChange .xsd (.xsd kind) target location x y)
      (u.valueChange .xsd (.xsd kind) target location x y) :=
    fun kind => twins_valueChange .xsd (.xsd kind) rfl rfl rfl
  refine parallel_collect (fun _ _ => .cons (hop _ _ _) .nil) (fun _ _ => .cons (hop _ _ _) .nil)
    fun _ _ _ => ?_
  unfold Xsd.compareGrammars
  refine parallel_collect (fun _ _ => .cons (hop _ _ _) .nil) (fun _ _ => .cons (hop _ _ _) .nil)
    fun _ _ _ => ?_
  unfold Xsd.compareNodes
  refine List.rel_append ?_ ?_ <;> split <;>
    first
      | exact .nil
      | exact .cons (hop _ _ _) .nil
      | exact .cons (hvalue _ _ _ _ _) .nil

/-- The differences of settings are parallel. -/
theorem Settings.parallel_differences (before after : Registry Settings.Config) :
    t.Parallel u .settings false (Settings.differences t before after)
      (Settings.differences u before after) := by
  have hop : ∀ kind target location, t.Twins u .settings false (Settings.op t kind target location)
      (Settings.op u kind target location) :=
    fun kind => twins_operation .settings (.settings kind) rfl rfl rfl
  have hvalue : ∀ (kind : SettingsChange) target location x y, t.Twins u .settings false
      (t.valueChange .settings (.settings kind) target location x y)
      (u.valueChange .settings (.settings kind) target location x y) :=
    fun kind => twins_valueChange .settings (.settings kind) rfl rfl rfl
  refine parallel_collect (fun _ _ => .cons (hop _ _ _) .nil) (fun _ _ => .cons (hop _ _ _) .nil)
    fun _ _ _ => ?_
  unfold Settings.compareConfigs
  refine parallel_collect (fun _ _ => .cons (hop _ _ _) .nil) (fun _ _ => .cons (hop _ _ _) .nil)
    fun _ _ _ => ?_
  unfold Settings.compareNodes
  split
  · refine List.rel_append ?_ (parallel_toList_map fun _ _ => hop _ _ _)
    split
    · exact .nil
    · exact .cons (hvalue _ _ _ _ _) .nil
  · exact .nil

/-- The differences of stylesheets are parallel. -/
theorem Less.parallel_differences (before after : Registry Less.Stylesheet) :
    t.Parallel u .less false (Less.differences t before after) (Less.differences u before after) := by
  have hop : ∀ kind target location, t.Twins u .less false (Less.op t kind target location)
      (Less.op u kind target location) :=
    fun kind => twins_operation .less (.less kind) rfl rfl rfl
  have hvalue : ∀ (kind : LessChange) target location x y, t.Twins u .less false
      (t.valueChange .less (.less kind) target location x y)
      (u.valueChange .less (.less kind) target location x y) :=
    fun kind => twins_valueChange .less (.less kind) rfl rfl rfl
  refine parallel_collect (fun _ _ => .cons (hop _ _ _) .nil) (fun _ _ => .cons (hop _ _ _) .nil)
    fun _ _ _ => ?_
  unfold Less.compareStylesheets
  refine parallel_collect (fun _ _ => .cons (hop _ _ _) .nil) (fun _ _ => .cons (hop _ _ _) .nil)
    fun _ _ _ => ?_
  unfold Less.compareRules
  split
  · exact .cons (hvalue _ _ _ _ _) .nil
  · exact .nil

/-- The families of configuration manifests, in the order in which they are compared. -/
def configurationFamilies : List Family := [.database, .di, .xsd, .settings, .less]

/-- The differences of two snapshots in a configuration family. -/
def configurationDifferences (before after : Snapshot) : Family → List Operation
  | .php => []
  | .database => Database.differences t before.database after.database
  | .di => Di.differences t before.di after.di
  | .xsd => Xsd.differences t before.xsd after.xsd
  | .settings => Settings.differences t before.settings after.settings
  | .less => Less.differences t before.less after.less

/-- The reports on the configuration families are those on their differences. -/
theorem configurationReports_eq (before after : Snapshot) :
    configurationReports t before after = configurationFamilies.map fun family =>
      Report.ofList (configurationDifferences t before after family) :=
  rfl

/-- The reports on the configuration families hold the differences in them. -/
theorem mem_configurationReports {before after : Snapshot} {op : Operation} :
    (∃ s ∈ configurationReports t before after, op ∈ s.toList) ↔
      ∃ family, op ∈ configurationDifferences t before after family := by
  simp only [configurationReports_eq, List.mem_map, exists_exists_and_eq_and,
    Report.mem_toList_ofList]
  constructor
  · rintro ⟨family, -, hop⟩
    exact ⟨family, hop⟩
  · rintro ⟨family, hop⟩
    refine ⟨family, ?_, hop⟩
    cases family with
    | php => exact nomatch hop
    | _ => decide

/-- The differences in a configuration family are parallel. -/
theorem parallel_configurationDifferences (before after : Snapshot) (family : Family) :
    t.Parallel u family false (configurationDifferences t before after family)
      (configurationDifferences u before after family) := by
  cases family with
  | php => exact .nil
  | database => exact Database.parallel_differences t u _ _
  | di => exact Di.parallel_differences t u _ _
  | xsd => exact Xsd.parallel_differences t u _ _
  | settings => exact Settings.parallel_differences t u _ _
  | less => exact Less.parallel_differences t u _ _

/-- The differences in a configuration family are issued. -/
theorem covers_configurationDifferences (before after : Snapshot) (family : Family) :
    t.Covers false (configurationDifferences t before after family) :=
  (parallel_configurationDifferences t t before after family).covers

/-- The differences in a configuration family stand in its context. -/
theorem context_family_configurationDifferences (before after : Snapshot) (family : Family) :
    ∀ op ∈ configurationDifferences t before after family, op.context.family? = some family :=
  (parallel_configurationDifferences t t before after family).context_family

end Configuration

end VersionBump
