import VersionBump.Proofs.RecordedOperations
import VersionBump.Proofs.ReportRestriction
import VersionBump.Proofs.SelectedFamilies

/-!
# Reports on selected families

A comparison that is restricted to some families finds in their contexts what the whole comparison
finds there, and nothing else: no registry depends on that of another family, and since codes tell
the context, no operation is left out in favour of one of another family.

* `Context.isNamedBy` are the contexts that a list of names keeps.
* `Assessment.restrict` drops the other contexts from an assessment.
* `Assessment.Stages.restrict` follows a comparison of snapshots with some families stage by stage.
* `assess_select` is the statement for loaded snapshots.
-/

namespace VersionBump

/-- Whether a list of names keeps a context: it names the family of the context, or it names no
family at all. -/
def Context.isNamedBy (names : List String) (context : Context) : Bool :=
  names.all (fun name => (Family.ofName? name).isNone) ||
    context.family?.all fun family => names.any fun name => Family.ofName? name == some family

/-- A list of names keeps the contexts of the families that it selects. -/
theorem Context.isNamedBy_iff {names : List String} {context : Context} {family : Family}
    (h : context.family? = some family) :
    context.isNamedBy names = true ↔ family ∈ Family.select names := by
  simp only [isNamedBy, h, Option.all_some, Bool.or_eq_true, List.all_eq_true, List.any_eq_true,
    Option.isNone_iff_eq_none, beq_iff_eq]
  rw [Family.mem_select_iff, Family.forall_not_namedBy_iff, Family.namedBy_iff, or_comm]

/-- The assessment without the contexts that are not kept. -/
def Assessment.restrict (keep : Context → Bool) (r : Assessment) : Assessment where
  changes := r.changes.restrict keep
  membership := r.membership.restrict keep
  report := r.report.restrict keep
  changedFiles := r.changedFiles
  level := suggestLevel [r.report.restrict keep] r.changedFiles

section Restricted

variable {families : List Family} {keep : Context → Bool}
  (hkeep : ∀ context family, context.family? = some family →
    (keep context = true ↔ family ∈ families))

include hkeep in
/-- The report on operations of one family is kept or dropped as a whole. -/
private theorem restrict_ofList_family {ops : List Operation} {family : Family}
    (hops : ∀ op ∈ ops, op.context.family? = some family) :
    (Report.ofList ops).restrict keep = Report.ofList (if family ∈ families then ops else []) := by
  rw [Report.restrict_ofList]
  split
  case isTrue hmem =>
    refine congrArg Report.ofList (List.filter_eq_self.mpr fun op hop => ?_)
    exact (hkeep _ _ (hops op hop)).mpr hmem
  case isFalse hmem =>
    refine congrArg Report.ofList (List.filter_eq_nil_iff.mpr fun op hop hkept => ?_)
    exact hmem ((hkeep _ _ (hops op hop)).mp hkept)

/-! ## Stages of a comparison -/

variable {t : Severity.Table} {before after before' after' : Snapshot}
  (hb : before.Restricts families before') (ha : after.Restricts families after')

include hb ha

/-- Where the family is selected, PHP declarations are compared in the same setting. -/
private theorem phpSetting_restrict (hmem : .php ∈ families) :
    phpSetting t before' after' = phpSetting t before after := by
  simp only [phpSetting, hb.php, ha.php, ha.hierarchy hmem, if_pos hmem]

/-- Without PHP declarations there is nothing to find on the published surfaces. -/
private theorem publishedFindings_restrict : publishedFindings t before' after' =
    if .php ∈ families then publishedFindings t before after else .ok {} := by
  split
  case isTrue hmem =>
    rw [publishedFindings, publishedFindings, phpSetting_restrict hb ha hmem, hb.php, ha.php,
      if_pos hmem, if_pos hmem]
  case isFalse hmem =>
    refine publishedFindings_of_php_eq t ?_
    rw [hb.php, ha.php, if_neg hmem, if_neg hmem]

/-- Without PHP declarations there is nothing to find among all declarations. -/
private theorem fullReport_restrict : fullReport t before' after' =
    if .php ∈ families then fullReport t before after else .ok ∅ := by
  split
  case isTrue hmem =>
    rw [fullReport, fullReport, phpSetting_restrict hb ha hmem]
  case isFalse hmem =>
    refine fullReport_of_php_eq t ?_
    rw [hb.php, ha.php, if_neg hmem, if_neg hmem]

/-- The differences in a configuration family depend on the registries of that family. -/
private theorem configurationDifferences_restrict (family : Family) :
    configurationDifferences t before' after' family =
      if family ∈ families then configurationDifferences t before after family else [] := by
  cases family with
  | php => simp [configurationDifferences]
  | database =>
    simp only [configurationDifferences, hb.database, ha.database]
    split
    · rfl
    · exact Database.differences_self t _
  | di =>
    simp only [configurationDifferences, hb.di, ha.di]
    split
    · rfl
    · exact Di.differences_self t _
  | xsd =>
    simp only [configurationDifferences, hb.xsd, ha.xsd]
    split
    · rfl
    · exact Xsd.differences_self t _
  | settings =>
    simp only [configurationDifferences, hb.settings, ha.settings]
    split
    · rfl
    · exact Settings.differences_self t _
  | less =>
    simp only [configurationDifferences, hb.less, ha.less]
    split
    · rfl
    · exact Less.differences_self t _

include hkeep

/-- The reports on the configuration families are kept or dropped family by family. -/
private theorem configurationReports_restrict : configurationReports t before' after' =
    (configurationReports t before after).map (Report.restrict keep) := by
  rw [configurationReports_eq, configurationReports_eq, List.map_map]
  refine List.map_congr_left fun family _ => ?_
  rw [configurationDifferences_restrict hb ha, Function.comp_apply,
    restrict_ofList_family hkeep (context_family_configurationDifferences t before after family)]

/-- A comparison of snapshots with some families gives, stage by stage, what the whole comparison
gives in the contexts that are kept. -/
theorem Assessment.Stages.restrict {r : Assessment} {published : Findings} {all : Report}
    (h : r.Stages t before after published all) :
    (r.restrict keep).Stages t before' after' (if .php ∈ families then published else {})
      (if .php ∈ families then all else ∅) := by
  have hchanges : (Report.ofList published.changes).restrict keep =
      Report.ofList (if .php ∈ families then published else {}).changes := by
    rw [restrict_ofList_family hkeep fun op hop =>
      h.context_family_published op (List.mem_append_left _ hop)]
    split <;> rfl
  have hmembership : (Report.ofList published.membership).restrict keep =
      Report.ofList (if .php ∈ families then published else {}).membership := by
    rw [restrict_ofList_family hkeep fun op hop =>
      h.context_family_published op (List.mem_append_right _ hop)]
    split <;> rfl
  have hall : all.restrict keep = if .php ∈ families then all else ∅ := by
    obtain ⟨ops, hops, rfl⟩ := h.exists_allDifferences
    rw [restrict_ofList_family hkeep (Php.context_family_allDifferences hops)]
    split <;> rfl
  -- Each equation of a stage is that of the whole comparison, restricted on both sides.
  constructor
  case published_eq =>
    rw [publishedFindings_restrict hb ha]
    split
    · exact h.published_eq
    · rfl
  case unpublished_eq =>
    rw [fullReport_restrict hb ha]
    split
    · exact h.unpublished_eq
    · rfl
  case changes_eq =>
    rw [configurationReports_restrict hkeep hb ha, ← hchanges, ← hall, ← Report.restrict_dampen,
      ← Report.restrict_merge, ← Report.restrict_foldl_merge, ← h.changes_eq]
    rfl
  case membership_eq =>
    rw [← hmembership, ← h.membership_eq]
    rfl
  case report_eq =>
    have hkeys : ∀ a ∈ (r.changes.merge r.membership).toList,
        ∀ b ∈ (r.changes.merge r.membership).toList, a.key = b.key → a.context = b.context :=
      fun a ha b hb hkey => (h.eq_of_key ha hb hkey).1
    show r.report.restrict keep =
      ((r.changes.restrict keep).merge (r.membership.restrict keep)).deduplicate
    rw [← Report.restrict_merge, ← h.filed_found.restrict_deduplicate hkeys, ← h.report_eq]
  case files_eq =>
    rw [hb.files, ha.files]
    exact h.files_eq
  case level_eq => rfl

end Restricted

/-! ## Loaded snapshots -/

/-- Files that load with all families load with those that a list of names selects, and where the
whole comparison has a result, the restricted one has that result in the contexts that the list
keeps, and the same changed files. A list without a known name leaves everything as it is. -/
theorem assess_select (t : Severity.Table) (names : List String) {rootBefore rootAfter : Path}
    {filesBefore filesAfter : List SourceFile} {policy : Php.CyclePolicy} {before after : Snapshot}
    (hb : Snapshot.load rootBefore filesBefore Family.all policy = .ok before)
    (ha : Snapshot.load rootAfter filesAfter Family.all policy = .ok after) :
    ∃ before' after',
      Snapshot.load rootBefore filesBefore (Family.select names) policy = .ok before' ∧
      Snapshot.load rootAfter filesAfter (Family.select names) policy = .ok after' ∧
      ∀ r, assess t before after = .ok r →
        assess t before' after' = .ok (r.restrict (Context.isNamedBy names)) ∧
        ((∀ name ∈ names, Family.ofName? name = none) →
          r.restrict (Context.isNamedBy names) = r) := by
  obtain ⟨before', hb', hbr⟩ := Snapshot.exists_load_restricts hb (Family.select names)
  obtain ⟨after', ha', har⟩ := Snapshot.exists_load_restricts ha (Family.select names)
  refine ⟨before', after', hb', ha', fun r hr => ?_⟩
  obtain ⟨published, all, hstages⟩ := assess_eq_ok_iff.mp hr
  have hrestricted : assess t before' after' = .ok (r.restrict (Context.isNamedBy names)) :=
    assess_eq_ok_iff.mpr ⟨_, _, hstages.restrict (fun _ _ => Context.isNamedBy_iff) hbr har⟩
  refine ⟨hrestricted, fun hunknown => ?_⟩
  -- Without a known name all families are selected, so the same snapshots are compared.
  have hselect : Family.select names = Family.all := by
    rw [Family.select, List.filterMap_eq_nil_iff.mpr hunknown]
  rw [hselect] at hb' ha'
  obtain rfl := Except.ok.inj (hb.symm.trans hb')
  obtain rfl := Except.ok.inj (ha.symm.trans ha')
  exact Except.ok.inj (hrestricted.symm.trans hr)

/-- The manifest of a class that is API. -/
private def apiClass : ByteArray :=
  "\x7b\"kind\":\"class\",\"name\":\"A\",\"is_api\":true\x7d".toUTF8

/-- The removal of a class calls for a major bump, but only for a patch if it is the stylesheets that
are compared. -/
theorem assess_select_less : ∃ before after before' after' r,
    Snapshot.load ⟨"r"⟩ [⟨⟨"r/a.php.json"⟩, .ok apiClass⟩] Family.all .ignore = .ok before ∧
    Snapshot.load ⟨"s"⟩ [] Family.all .ignore = .ok after ∧
    Snapshot.load ⟨"r"⟩ [⟨⟨"r/a.php.json"⟩, .ok apiClass⟩] (Family.select ["less"]) .ignore =
      .ok before' ∧
    Snapshot.load ⟨"s"⟩ [] (Family.select ["less"]) .ignore = .ok after' ∧
    assess {} before after = .ok r ∧ r.level = .major ∧
    assess {} before' after' = .ok (r.restrict (Context.isNamedBy ["less"])) ∧
    (r.restrict (Context.isNamedBy ["less"])).level = .patch := by
  have hlevels : ((Snapshot.load ⟨"r"⟩ [⟨⟨"r/a.php.json"⟩, .ok apiClass⟩] Family.all
      .ignore).toOption.bind fun before => (Snapshot.load ⟨"s"⟩ [] Family.all
      .ignore).toOption.bind fun after => (assess {} before after).toOption.map fun r =>
        (r.level, (r.restrict (Context.isNamedBy ["less"])).level)) = some (.major, .patch) := by
    decide +kernel
  obtain ⟨before, hb, hlevels⟩ := Option.bind_eq_some_iff.mp hlevels
  obtain ⟨after, ha, hlevels⟩ := Option.bind_eq_some_iff.mp hlevels
  obtain ⟨r, hr, hlevels⟩ := Option.map_eq_some_iff.mp hlevels
  obtain ⟨hlevel, hlevel'⟩ := Prod.mk.inj hlevels
  replace hb := eq_ok_of_toOption hb
  replace ha := eq_ok_of_toOption ha
  replace hr := eq_ok_of_toOption hr
  obtain ⟨before', after', hb', ha', hassess⟩ := assess_select {} ["less"] hb ha
  exact ⟨before, after, before', after', r, hb, ha, hb', ha', hr, hlevel, (hassess r hr).1, hlevel'⟩

end VersionBump
