import VersionBump.Proofs.RecordedOperations

/-!
# Severity overrides

Replacing levels in a severity table changes levels and nothing else: the same differences are
found, and where all levels of one table are at most those of another, so are the levels of all that
they give, through dampening, deduplication and the floor that changed files put under the result.

* `Operation.Below` relates two operations that differ in their levels only, and `Report.Below` two
  reports that hold such operations in pairs. All operations on reports keep it.
* `Report.Below.deduplicate` is what is left of the relation when one operation is kept for each
  difference: the differences and the order of their levels.
* `assess_mono` is the statement.
-/

namespace VersionBump

open Severity.Table

/-! ## Reports that differ in levels -/

/-- Operations that differ in their levels only, the first of which is not the more severe. -/
structure Operation.Below (a b : Operation) : Prop where
  substance_eq : a.substance = b.substance
  level_le : a.level ≤ b.level

/-- Capping both levels keeps the order. -/
theorem Operation.Below.capped {a b : Operation} (h : a.Below b) : a.capped.Below b.capped where
  substance_eq := h.substance_eq
  level_le := Level.capped_mono h.level_le

/-- Reports that hold the same operations in pairs, apart from levels, and those of the first are
not the more severe. -/
def Report.Below (r s : Report) : Prop :=
  ∃ ops ops', r.toList.Perm ops ∧ s.toList.Perm ops' ∧ List.Forall₂ Operation.Below ops ops'

namespace Report

variable {r r' s s' : Report}

/-- The reports of lists that differ in levels. -/
theorem below_ofList {ops ops' : List Operation} (h : List.Forall₂ Operation.Below ops ops') :
    (ofList ops).Below (ofList ops') :=
  ⟨ops, ops', toList_ofList_perm ops, toList_ofList_perm ops', h⟩

/-- Merging keeps pairs. -/
theorem Below.merge (h : r.Below r') (h' : s.Below s') : (r.merge s).Below (r'.merge s') := by
  obtain ⟨a, a', ha, ha', hpairs⟩ := h
  obtain ⟨b, b', hb, hb', hpairs'⟩ := h'
  exact ⟨a ++ b, a' ++ b', (toList_merge_perm r s).trans (ha.append hb),
    (toList_merge_perm r' s').trans (ha'.append hb'), List.rel_append hpairs hpairs'⟩

/-- Merging many reports keeps pairs. -/
theorem Below.foldl_merge {rs rs' : List Report} (hs : List.Forall₂ Below rs rs')
    (h : r.Below r') : (rs.foldl Report.merge r).Below (rs'.foldl Report.merge r') := by
  induction hs generalizing r r' with
  | nil => exact h
  | cons hhead _ ih => exact ih (h.merge hhead)

/-- Dampening keeps pairs, for it caps both levels alike. -/
theorem Below.dampen (hr : r.Filed) (hs : s.Filed) (h : r.Below s) : r.dampen.Below s.dampen := by
  obtain ⟨a, a', ha, ha', hpairs⟩ := h
  refine ⟨a.map Operation.capped, a'.map Operation.capped,
    hr.toList_dampen_perm.trans (ha.map _), hs.toList_dampen_perm.trans (ha'.map _), ?_⟩
  rw [List.forall₂_map_left_iff, List.forall₂_map_right_iff]
  exact hpairs.imp fun _ _ hop => hop.capped

/-- Apart from levels, both reports hold the same operations equally often. -/
theorem Below.perm_substance (h : r.Below s) :
    (r.toList.map Operation.substance).Perm (s.toList.map Operation.substance) := by
  obtain ⟨a, a', ha, ha', hpairs⟩ := h
  have hsame : a.map Operation.substance = a'.map Operation.substance := by
    clear ha ha'
    induction hpairs with
    | nil => rfl
    | cons hop _ ih => rw [List.map_cons, List.map_cons, hop.substance_eq, ih]
  exact (ha.map _).trans (hsame ▸ (ha'.map _).symm)

/-- Members of two lists in pairs come in pairs. -/
private theorem exists_of_forall₂ {α β : Type} {rel : α → β → Prop} {xs : List α} {ys : List β}
    (h : List.Forall₂ rel xs ys) : (∀ x ∈ xs, ∃ y ∈ ys, rel x y) ∧ ∀ y ∈ ys, ∃ x ∈ xs, rel x y := by
  induction h with
  | nil => exact ⟨nofun, nofun⟩
  | cons hxy _ ih => simp_all

/-- Every operation of the first report has a partner in the second. -/
theorem Below.exists_above (h : r.Below s) {op : Operation} (hop : op ∈ r.toList) :
    ∃ partner ∈ s.toList, op.Below partner := by
  obtain ⟨a, a', ha, ha', hpairs⟩ := h
  obtain ⟨partner, hpartner, hbelow⟩ := (exists_of_forall₂ hpairs).1 op (ha.mem_iff.mp hop)
  exact ⟨partner, ha'.mem_iff.mpr hpartner, hbelow⟩

/-- Every operation of the second report has a partner in the first. -/
theorem Below.exists_below (h : r.Below s) {op : Operation} (hop : op ∈ s.toList) :
    ∃ partner ∈ r.toList, partner.Below op := by
  obtain ⟨a, a', ha, ha', hpairs⟩ := h
  obtain ⟨partner, hpartner, hbelow⟩ := (exists_of_forall₂ hpairs).2 op (ha'.mem_iff.mp hop)
  exact ⟨partner, ha.mem_iff.mpr hpartner, hbelow⟩

/-- Reports of the same differences, in which those of the first are not the more severe. -/
structure Milder (r s : Report) : Prop where
  keys_iff : ∀ key, (∃ op ∈ r.toList, op.key = key) ↔ ∃ op ∈ s.toList, op.key = key
  level_le : ∀ op ∈ r.toList, ∀ op' ∈ s.toList, op.key = op'.key → op.level ≤ op'.level

/-- Which operation is kept for a difference may depend on the levels, but not that one is kept, and
the highest of lower levels is not the higher. -/
theorem Below.deduplicate (h : r.Below s) : r.deduplicate.Milder s.deduplicate where
  keys_iff key := by
    rw [exists_key_deduplicate_iff, exists_key_deduplicate_iff]
    constructor
    · rintro ⟨op, hop, hkey⟩
      obtain ⟨partner, hpartner, hbelow⟩ := h.exists_above hop
      exact ⟨partner, hpartner, (Operation.key_eq_of_substance_eq hbelow.substance_eq) ▸ hkey⟩
    · rintro ⟨op, hop, hkey⟩
      obtain ⟨partner, hpartner, hbelow⟩ := h.exists_below hop
      exact ⟨partner, hpartner, (Operation.key_eq_of_substance_eq hbelow.substance_eq).trans hkey⟩
  level_le op hop op' hop' hkey := by
    obtain ⟨partner, hpartner, hbelow⟩ := h.exists_above (mem_of_mem_deduplicate hop)
    have hsame := Operation.key_eq_of_substance_eq hbelow.substance_eq
    -- The partner is one of the operations among which the second report chooses.
    have hchosen := level_le_of_mem_deduplicate hop' hpartner (hsame.symm.trans hkey)
    exact Level.le_trans hbelow.level_le hchosen

/-- A report is not more severe as a whole if none of its differences is. -/
theorem Milder.report_level_le (hr : r.Filed) (hs : s.Filed) (h : r.Milder s) :
    r.level ≤ s.level := by
  by_cases hnone : r.level = .none
  · rw [hnone]
    exact Nat.zero_le _
  · -- The difference that gives the first report its level is in the second one too.
    obtain ⟨op, hop, hlevel⟩ := hr.exists_level_eq hnone
    obtain ⟨op', hop', hkey⟩ := (h.keys_iff op.key).mp ⟨op, hop, rfl⟩
    have hle := h.level_le op hop op' hop' hkey.symm
    exact hlevel ▸ Level.le_trans hle (hs.level_le_of_mem hop')

end Report

/-- The floor that changed files put under the suggested level keeps the order. -/
theorem suggestLevel_mono {r s : Report} (h : r.level ≤ s.level) (changed : ChangedFiles) :
    suggestLevel [r] changed ≤ suggestLevel [s] changed := by
  simp only [suggestLevel, List.map_cons, List.map_nil]
  generalize r.level = a at h ⊢
  generalize s.level = b at h ⊢
  cases changed.isEmpty <;> cases a <;> cases b <;> first | decide | exact absurd h (by decide)

/-! ## Comparisons under two tables -/

/-- Assessments of the same differences, in which no difference of the first is the more severe and
which therefore call for a bump that is not the higher. -/
structure Assessment.Milder (r s : Assessment) : Prop where
  changes : (r.changes.toList.map Operation.substance).Perm (s.changes.toList.map Operation.substance)
  membership :
    (r.membership.toList.map Operation.substance).Perm (s.membership.toList.map Operation.substance)
  report : r.report.Milder s.report
  level_le : r.level ≤ s.level

section Tables

variable {t u : Severity.Table}

/-- Twins are ordered as the levels of their tables are. -/
theorem Severity.Table.Twins.below {family : Family} {m : Bool} {a b : Operation}
    (h : t.Twins u family m a b)
    (hle : ∀ context kind, (t.rule context kind).level ≤ (u.rule context kind).level) : a.Below b :=
  ⟨h.substance_eq, h.level_le hle⟩

variable (hle : ∀ context kind, (t.rule context kind).level ≤ (u.rule context kind).level)
  (before after : Snapshot)

/-- The settings under two tables are parallel, and no answer is refused. -/
private theorem parallel_tables : (phpSetting t before after).Parallel (fun _ => False)
    (phpSetting u before after) :=
  ⟨rfl, rfl, fun _ _ => .refl _⟩

private theorem matches_publishedFindings_tables :
    Matches (fun _ => False) (Findings.Related (t.Twins u .php))
      (publishedFindings t before after) (publishedFindings u before after) :=
  (Php.matches_publishedDifferences (parallel_tables before after) _ _).mapError
    (fun _ _ h => h) fun _ hfalse => hfalse

include hle

private theorem matches_fullReport_tables :
    Matches (fun _ => False) (fun r s => r.Filed ∧ s.Filed ∧ r.Below s) (fullReport t before after)
      (fullReport u before after) := by
  refine ((Php.matches_allDifferences (parallel_tables before after)).map fun ops ops' h => ?_).mapError
    (fun _ _ h => h) fun _ hfalse => hfalse
  exact ⟨Report.filed_ofList ops, Report.filed_ofList ops',
    Report.below_ofList (h.imp fun _ _ htwins => htwins.below hle)⟩

private theorem below_configurationReports :
    List.Forall₂ Report.Below (configurationReports t before after)
      (configurationReports u before after) := by
  rw [configurationReports_eq, configurationReports_eq, List.forall₂_map_left_iff,
    List.forall₂_map_right_iff, List.forall₂_same]
  intro family _
  have htwins := parallel_configurationDifferences t u before after family
  exact Report.below_ofList (htwins.imp fun _ _ h => h.below hle)

/-- Two assessments under the two tables differ in levels only. -/
private theorem Assessment.Stages.milder {r s : Assessment} {published published' : Findings}
    {all all' : Report} (hr : r.Stages t before after published all)
    (hs : s.Stages u before after published' all') : r.Milder s := by
  have hfound := (matches_publishedFindings_tables before after).of_ok hr.published_eq hs.published_eq
  obtain ⟨hfiled, hfiled', hall⟩ :=
    (matches_fullReport_tables hle before after).of_ok hr.unpublished_eq hs.unpublished_eq
  have hpublished : (Report.ofList published.changes).Below (.ofList published'.changes) :=
    Report.below_ofList (hfound.changes.imp fun _ _ h => h.below hle)
  have hmembership : r.membership.Below s.membership := by
    rw [hr.membership_eq, hs.membership_eq]
    exact Report.below_ofList (hfound.membership.imp fun _ _ h => h.below hle)
  have hchanges : r.changes.Below s.changes := by
    rw [hr.changes_eq, hs.changes_eq]
    exact Report.Below.foldl_merge (below_configurationReports hle before after)
      (hpublished.merge (hall.dampen hfiled hfiled'))
  have hreport : r.report.Milder s.report := by
    rw [hr.report_eq, hs.report_eq]
    exact (hchanges.merge hmembership).deduplicate
  refine ⟨hchanges.perm_substance, hmembership.perm_substance, hreport, ?_⟩
  rw [hr.level_eq, hs.level_eq, hr.files_eq, hs.files_eq]
  exact suggestLevel_mono (hreport.report_level_le hr.filed_report hs.filed_report) _

/-- A table whose levels are at most those of another gives a result exactly if the other does. It
finds the same differences, none of them at a higher level, and does not call for a higher bump. -/
theorem assess_mono :
    ((assess t before after).isOk = true ↔ (assess u before after).isOk = true) ∧
      ∀ r s, assess t before after = .ok r → assess u before after = .ok s → r.Milder s := by
  constructor
  · -- Complaints do not depend on levels, so both runs stop at the same place or at none.
    have hmatches : Matches (fun _ => False) (fun _ _ => True) (assess t before after)
        (assess u before after) :=
      (matches_publishedFindings_tables before after).bind fun _ _ _ =>
        (matches_fullReport_tables hle before after).bind fun _ _ _ => .ok trivial
    exact hmatches.isOk_iff fun _ h => h
  · intro r s hr hs
    obtain ⟨_, _, hr⟩ := assess_eq_ok_iff.mp hr
    obtain ⟨_, _, hs⟩ := assess_eq_ok_iff.mp hs
    exact hr.milder hle before after hs

end Tables

/-- A snapshot with one class that is API. -/
private def oneClass : Snapshot where
  php := Registry.empty.insert .classes "a" { name := "A", kind := .classKind, isApi := true }
    ⟨"a.php.json"⟩

/-- The table that gives the lowest level to the removal of classes. -/
private def silencing : Severity.Table where
  overrides := KeyMap.empty.insert (Severity.rule .classes (.php .removed)).code .none

/-- Giving the lowest level to a code raises no level. -/
private theorem silencing_level_le (context : Context) (kind : Change) :
    (silencing.rule context kind).level ≤ (({} : Severity.Table).rule context kind).level := by
  simp only [rule, silencing, KeyMap.find?_insert]
  split
  case h_1 level h =>
    split at h
    · cases h
      exact Nat.zero_le _
    · cases h
  case h_2 => exact Nat.le_refl _

/-- The removal of a class is found under both tables, but calls for a bump under one only. -/
theorem assess_mono_silenced : ∃ r s, assess silencing oneClass {} = .ok r ∧
    assess {} oneClass {} = .ok s ∧ r.Milder s ∧ r.level = .none ∧ s.level = .major := by
  have hlevels : (assess silencing oneClass {}).map (·.level) = .ok .none ∧
      (assess {} oneClass {}).map (·.level) = .ok .major := by
    decide +kernel
  obtain ⟨r, hr, hrlevel⟩ := exists_of_map_eq_ok hlevels.1
  obtain ⟨s, hs, hslevel⟩ := exists_of_map_eq_ok hlevels.2
  exact ⟨r, s, hr, hs, (assess_mono silencing_level_le oneClass {}).2 r s hr hs, hrlevel, hslevel⟩

end VersionBump
