import VersionBump.Proofs.AssessmentStages
import VersionBump.Proofs.DistinctDifferences
import VersionBump.Proofs.TwinPhpOperations

/-!
# Recorded operations

What becomes of the findings of an assessment in its report. The report holds one operation for each
difference, and that is one of the most severe; since a code tells the kind of change, it is of the
same kind.

* `Report.Records` says that a report holds an operation for a change.
* `Assessment.Stages.records` follows a finding on the published surfaces into the report.
* `Assessment.Stages.level_eq_major` follows it into the level.
-/

namespace VersionBump

open Severity.Table

/-- A report holds an operation of the level for a change at a target. -/
def Report.Records (r : Report) (context : Context) (level : Level) (kind : Change)
    (target : String) (location : Path) : Prop :=
  ∃ op ∈ r.operations context level, op.kind = kind ∧ op.target = target ∧ op.location.same location

/-- The code of an operation is that of its kind, which arises in its context. -/
def Operation.Coded (op : Operation) : Prop :=
  (op.context, op.kind) ∈ Severity.kinds ∧ op.code = (Severity.rule op.context op.kind).code

/-- Issued operations have the code of their kind. -/
theorem Severity.Table.Issued.coded {t : Severity.Table} {m : Bool} {op : Operation}
    (h : t.Issued m op) : op.Coded :=
  ⟨h.listed, h.code_eq.trans (rule_code t _ _)⟩

/-- Operations with one code are of one kind and in one context. -/
theorem Operation.Coded.eq_of_code {a b : Operation} (ha : a.Coded) (hb : b.Coded)
    (h : a.code = b.code) : a.context = b.context ∧ a.kind = b.kind := by
  rw [ha.2, hb.2] at h
  exact Severity.code_injective ha.1 hb.1 h

/-- Capping the level leaves the code and the kind alone. -/
theorem Operation.Coded.capped {op : Operation} (h : op.Coded) : op.capped.Coded := h

namespace Assessment.Stages

variable {t : Severity.Table} {before after : Snapshot} {r : Assessment} {published : Findings}
  {unpublished : Report}

/-- The findings on the published surfaces are issued. -/
theorem issuedBy_published (h : r.Stages t before after published unpublished) :
    published.IssuedBy t :=
  Php.issuedBy_publishedDifferences h.publishedDifferences_eq

/-- The differences of all declarations are issued. -/
theorem covers_unpublished (h : r.Stages t before after published unpublished) :
    t.Covers false unpublished.toList := by
  obtain ⟨ops, hops, rfl⟩ := h.exists_allDifferences
  intro op hop
  exact Php.covers_allDifferences hops op (Report.mem_toList_ofList.mp hop)

/-- The findings on the published surfaces stand in the contexts of class-likes. -/
theorem context_family_published (h : r.Stages t before after published unpublished) :
    ∀ op ∈ published.changes ++ published.membership, op.context.family? = some .php :=
  Php.context_family_publishedDifferences h.publishedDifferences_eq

/-- The differences of all declarations stand in the contexts of class-likes. -/
theorem context_family_unpublished (h : r.Stages t before after published unpublished) :
    ∀ op ∈ unpublished.toList, op.context.family? = some .php := by
  obtain ⟨ops, hops, rfl⟩ := h.exists_allDifferences
  intro op hop
  exact Php.context_family_allDifferences hops op (Report.mem_toList_ofList.mp hop)

/-- The report on all declarations has every operation in the cell of its context and level. -/
theorem filed_unpublished (h : r.Stages t before after published unpublished) :
    unpublished.Filed := by
  obtain ⟨ops, -, rfl⟩ := h.exists_allDifferences
  exact Report.filed_ofList ops

/-- What the changes hold: what was found on the published surfaces, what was found anywhere, and
what was found in the configuration. -/
theorem mem_changes (h : r.Stages t before after published unpublished) {op : Operation} :
    op ∈ r.changes.toList ↔ op ∈ published.changes ∨ op ∈ unpublished.dampen.toList ∨
      ∃ family, op ∈ configurationDifferences t before after family := by
  rw [h.changes_eq, Report.mem_toList_foldl_merge, Report.mem_toList_merge, Report.mem_toList_ofList,
    mem_configurationReports, or_assoc]

/-- What the membership report holds. -/
theorem mem_membership (h : r.Stages t before after published unpublished) {op : Operation} :
    op ∈ r.membership.toList ↔ op ∈ published.membership := by
  rw [h.membership_eq, Report.mem_toList_ofList]

/-- Everything that goes into the report has the code of its kind. -/
theorem coded (h : r.Stages t before after published unpublished) :
    ∀ op ∈ (r.changes.merge r.membership).toList, op.Coded := by
  intro op hop
  rw [Report.mem_toList_merge, h.mem_changes, h.mem_membership] at hop
  have hpublished := h.issuedBy_published
  rcases hop with (hop | hop | ⟨family, hop⟩) | hop
  · exact (hpublished.changes op hop).coded
  · obtain ⟨original, horiginal, rfl⟩ := h.filed_unpublished.mem_toList_dampen.mp hop
    exact (h.covers_unpublished original horiginal).coded.capped
  · exact (covers_configurationDifferences t before after family op hop).coded
  · exact (hpublished.membership op hop).coded

/-- Operations that go into the report for one difference agree in context and kind. -/
theorem eq_of_key (h : r.Stages t before after published unpublished) {a b : Operation}
    (ha : a ∈ (r.changes.merge r.membership).toList)
    (hb : b ∈ (r.changes.merge r.membership).toList) (hkey : a.key = b.key) :
    a.context = b.context ∧ a.kind = b.kind :=
  (h.coded a ha).eq_of_code (h.coded b hb) (Operation.Key.mk.inj hkey).2.2

/-- The changes have every operation in the cell of its context and level. -/
theorem filed_changes (h : r.Stages t before after published unpublished) : r.changes.Filed := by
  rw [h.changes_eq, configurationReports_eq]
  refine Report.Filed.foldl_merge (fun s hs => ?_) ?_
  · obtain ⟨family, -, rfl⟩ := List.mem_map.mp hs
    exact Report.filed_ofList _
  · exact (Report.filed_ofList _).merge h.filed_unpublished.dampen

/-- The membership report has every operation in the cell of its context and level. -/
theorem filed_membership (h : r.Stages t before after published unpublished) :
    r.membership.Filed := by
  rw [h.membership_eq]
  exact Report.filed_ofList _

/-- Everything that goes into the report is in the cell of its context and level. -/
theorem filed_found (h : r.Stages t before after published unpublished) :
    (r.changes.merge r.membership).Filed :=
  h.filed_changes.merge h.filed_membership

/-- The report has every operation in the cell of its context and level. -/
theorem filed_report (h : r.Stages t before after published unpublished) : r.report.Filed := by
  rw [h.report_eq]
  exact Report.filed_ofList _

/-- A major finding on the published surfaces is in the report, as major. -/
theorem records (h : r.Stages t before after published unpublished) {op : Operation}
    (hop : op ∈ published.changes ∨ op ∈ published.membership) (hlevel : op.level = .major) :
    r.report.Records op.context .major op.kind op.target op.location := by
  have hmem : op ∈ (r.changes.merge r.membership).toList := by
    rw [Report.mem_toList_merge, h.mem_changes, h.mem_membership]
    exact hop.imp_left .inl
  obtain ⟨kept, hkept, hkey, hle⟩ := Report.exists_mem_deduplicate hmem
  obtain ⟨hlocation, htarget, -⟩ := Operation.Key.mk.inj hkey
  -- The kept operation may be another one, but its code makes it one of the same kind.
  obtain ⟨hcontext, hkind⟩ := h.eq_of_key (Report.mem_of_mem_deduplicate hkept) hmem hkey
  have hmajor : kept.level = .major := Level.eq_major_of_le (hlevel ▸ hle)
  rw [← h.report_eq] at hkept
  refine ⟨kept, h.filed_report.mem_operations_iff.mpr ⟨hkept, hcontext, hmajor⟩, hkind, htarget, ?_⟩
  rw [Path.same, hlocation, beq_self_eq_true]

/-- A report with a major operation calls for a major bump. -/
theorem level_eq_major (h : r.Stages t before after published unpublished) {context : Context}
    {kind : Change} {target : String} {location : Path}
    (hr : r.report.Records context .major kind target location) : r.level = .major := by
  obtain ⟨op, hop, -⟩ := hr
  obtain ⟨hmem, -, hlevel⟩ := h.filed_report.mem_operations_iff.mp hop
  have hreport : r.report.level = .major :=
    Level.eq_major_of_le (hlevel ▸ h.filed_report.level_le_of_mem hmem)
  rw [h.level_eq, suggestLevel]
  simp only [List.map_cons, List.map_nil, hreport]
  rfl

end Assessment.Stages

end VersionBump
