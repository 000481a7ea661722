import VersionBump.Proofs.RecordedOperations

/-!
# Catalogued operations

Whatever an assessment reports can be looked up in the catalogue of codes: there is a row for its
kind and context, and the row gives its code and its reason. Its level is the one that the severity
table has for the row. Only what was found among all declarations, published or not, may have been
capped.

* `Operation.HasRow` says that an operation is described by a row of the catalogue, and
  `Operation.LevelledBy` where its level comes from.
* `Severity.Table.Issued.catalogued` and `Severity.Table.Issued.catalogued_capped` read both off the
  way in which an operation was issued.
* `assess_catalogued` is the statement for whole assessments.
-/

namespace VersionBump

open Severity.Table

/-- An operation as a row of the catalogue describes it: the row is listed for its context and kind,
the code is that of the row, and so is the reason, on its own or with the values before and after.
-/
structure Operation.HasRow (op : Operation) (row : Severity.Rule) : Prop where
  listed : (op.context, op.kind, row) ∈ Severity.catalogue
  code_eq : op.code = row.code
  reason_eq : op.reason = row.reason ∨
    ∃ before after, op.reason = valueReason row.reason before after

/-- The level of an operation is that of the table for its row, or it is at most a patch because the
operation was found among all declarations and capped. -/
def Operation.LevelledBy (op : Operation) (t : Severity.Table) (all : Report) : Prop :=
  op.level = (t.rule op.context op.kind).level ∨
    (∃ original ∈ all.toList, op = original.capped) ∧
      op.level = (t.rule op.context op.kind).level.capped

/-- An operation has a row and a level that fits it. -/
def Operation.Catalogued (op : Operation) (t : Severity.Table) (all : Report) : Prop :=
  (∃ row, op.HasRow row) ∧ op.LevelledBy t all

namespace Severity.Table

variable {t : Table} {membership : Bool} {op : Operation}

/-- An issued operation is described by the row of its kind. -/
theorem Issued.hasRow (h : t.Issued membership op) :
    op.HasRow (Severity.rule op.context op.kind) where
  listed := List.mem_map.mpr ⟨(op.context, op.kind), h.listed, rfl⟩
  code_eq := h.code_eq.trans (rule_code t op.context op.kind)
  reason_eq := rule_reason t op.context op.kind ▸ h.reason_eq

/-- An issued operation has the level of its row. -/
theorem Issued.catalogued (h : t.Issued membership op) (all : Report) : op.Catalogued t all :=
  ⟨⟨_, h.hasRow⟩, .inl h.level_eq⟩

/-- An operation that was issued for any declaration and then capped still has its row, and the
level of its row, capped. -/
theorem Issued.catalogued_capped (h : t.Issued membership op) {all : Report}
    (hop : op ∈ all.toList) : op.capped.Catalogued t all := by
  -- Capping touches nothing but the level.
  have hrow : op.capped.HasRow (Severity.rule op.context op.kind) :=
    ⟨h.hasRow.listed, h.hasRow.code_eq, h.hasRow.reason_eq⟩
  have hlevel : op.capped.level = (t.rule op.context op.kind).level.capped :=
    congrArg Level.capped h.level_eq
  exact ⟨⟨_, hrow⟩, .inr ⟨⟨op, hop, rfl⟩, hlevel⟩⟩

end Severity.Table

section Assessments

variable {t : Severity.Table} {before after : Snapshot} {r : Assessment} {published : Findings}
  {all : Report}

/-- The changes are catalogued. -/
theorem Assessment.Stages.catalogued_changes (h : r.Stages t before after published all) :
    ∀ op ∈ r.changes.toList, op.Catalogued t all := by
  intro op hop
  rcases h.mem_changes.mp hop with hop | hop | ⟨family, hop⟩
  · exact (h.issuedBy_published.changes op hop).catalogued all
  · obtain ⟨original, horiginal, rfl⟩ := h.filed_unpublished.mem_toList_dampen.mp hop
    exact (h.covers_unpublished original horiginal).catalogued_capped horiginal
  · exact (covers_configurationDifferences t before after family op hop).catalogued all

/-- The changes of the published surface are catalogued. -/
theorem Assessment.Stages.catalogued_membership (h : r.Stages t before after published all) :
    ∀ op ∈ r.membership.toList, op.Catalogued t all := fun op hop =>
  (h.issuedBy_published.membership op (h.mem_membership.mp hop)).catalogued all

/-- Every operation of an assessment, in any of its three reports, is described by a row of the
catalogue and has the level that the severity table gives to the row, capped only if it was found
among all declarations, published or not. -/
theorem assess_catalogued (hr : assess t before after = .ok r) :
    ∃ all, fullReport t before after = .ok all ∧
      ∀ op ∈ r.changes.toList ++ r.membership.toList ++ r.report.toList, op.Catalogued t all := by
  obtain ⟨published, all, h⟩ := assess_eq_ok_iff.mp hr
  refine ⟨all, h.unpublished_eq, fun op hop => ?_⟩
  simp only [List.mem_append] at hop
  rcases hop with (hop | hop) | hop
  · exact h.catalogued_changes op hop
  · exact h.catalogued_membership op hop
  · -- The report chooses among the operations of the other two.
    rw [h.report_eq] at hop
    rcases Report.mem_toList_merge.mp (Report.mem_of_mem_deduplicate hop) with hop | hop
    · exact h.catalogued_changes op hop
    · exact h.catalogued_membership op hop

/-- A snapshot with an internal class with the methods and a table with a column of the type. -/
private def mixedSnapshot (methods : List Php.Method) (type : String) : Snapshot where
  php := Registry.empty.insert .classes "a" { name := "A", kind := .classKind, methods } ⟨"a.php.json"⟩
  database := Registry.empty.insert .database "M"
    { module := "M", tables := [{ name := "t", columns := [{ name := "c", type }] }] }
    ⟨"db_schema.json"⟩

/-- A lost method of an internal class is reported as a patch and a changed column as major, the
latter with its types. -/
theorem assess_catalogued_mixed : ∃ r all,
    assess {} (mixedSnapshot [{ name := "run" }] "int") (mixedSnapshot [] "text") = .ok r ∧
    fullReport {} (mixedSnapshot [{ name := "run" }] "int") (mixedSnapshot [] "text") = .ok all ∧
    r.report.toList.map (fun op => (op.code, op.level, op.reason)) =
      [("C021", .patch, "Method was removed"),
       ("DB108", .major, "Column type was changed: `int` -> `text`")] ∧
    ∀ op ∈ r.changes.toList ++ r.membership.toList ++ r.report.toList, op.Catalogued {} all := by
  have hreport : (assess {} (mixedSnapshot [{ name := "run" }] "int")
      (mixedSnapshot [] "text")).map (fun r =>
        r.report.toList.map fun op => (op.code, op.level, op.reason)) =
      .ok [("C021", .patch, "Method was removed"),
        ("DB108", .major, "Column type was changed: `int` -> `text`")] := by
    decide +kernel
  obtain ⟨r, hr, hreport⟩ := exists_of_map_eq_ok hreport
  obtain ⟨all, hall, hcatalogued⟩ := assess_catalogued hr
  exact ⟨r, all, hr, hall, hreport, hcatalogued⟩

end Assessments

end VersionBump
