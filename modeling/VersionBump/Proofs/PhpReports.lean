import VersionBump.Proofs.PublishedChanges
import VersionBump.Proofs.RecordedOperations

/-!
# Reports about PHP declarations

The two comparisons of PHP declarations agree: what changed on the published surfaces is found a
second time among all declarations, as the same operation, and the report keeps it once. Dampening
touches the second copy only, so the level tells whether a difference belongs to what is published.

* `Report.phpOperations` are the operations of a report in the contexts of class-likes.
* `Report.SettlesPhp` says which they are and at which levels.
* `assess_php` is the statement.
-/

namespace VersionBump

/-- The contexts of class-likes are those of the family. -/
theorem Context.family?_eq_php_iff {context : Context} :
    context.family? = some .php ↔ context ∈ Php.contexts := by
  cases context <;> simp [family?, Php.contexts, Php.ClassKind.all, Php.ClassKind.context]

/-- The operations of a report about PHP declarations. -/
def Report.phpOperations (r : Report) : List Operation :=
  r.toList.filter fun op => op.context ∈ Php.contexts

/-- The operations of a report about PHP declarations follow from what was found on the published
surfaces and among all declarations: each difference once, at the level of the table if it was found
on the published surfaces, and as a patch at most if it was not. -/
structure Report.SettlesPhp (report : Report) (t : Severity.Table) (published : Findings)
    (all : Report) : Prop where
  nodup : (report.phpOperations.map Operation.key).Nodup
  keys_iff : ∀ key, (∃ op ∈ report.phpOperations, op.key = key) ↔
    ∃ op ∈ all.toList ++ published.membership, op.key = key
  code_eq : ∀ op ∈ report.phpOperations,
    (op.context, op.kind) ∈ Severity.kinds ∧ op.code = (t.rule op.context op.kind).code
  level_of_published : ∀ op ∈ report.phpOperations,
    (∃ found ∈ published.changes ++ published.membership, found.key = op.key) →
      op.level = (t.rule op.context op.kind).level
  level_of_unpublished : ∀ op ∈ report.phpOperations,
    (¬ ∃ found ∈ published.changes ++ published.membership, found.key = op.key) →
      op.level = (t.rule op.context op.kind).level.capped

namespace Assessment.Stages

variable {t : Severity.Table} {before after : Snapshot} {r : Assessment} {published : Findings}
  {all : Report} {op : Operation}

/-- Where an operation about PHP declarations comes from. -/
private theorem mem_php_iff (h : r.Stages t before after published all) :
    (op ∈ (r.changes.merge r.membership).toList ∧ op.context.family? = some .php) ↔
      op ∈ published.changes ++ published.membership ∨
        ∃ original ∈ all.toList, original.capped = op := by
  rw [Report.mem_toList_merge, h.mem_changes, h.mem_membership,
    h.filed_unpublished.mem_toList_dampen, List.mem_append]
  constructor
  · rintro ⟨(hop | hop | ⟨family, hop⟩) | hop, hphp⟩
    · exact .inl (.inl hop)
    · exact .inr hop
    · -- Differences in the configuration stand in the context of their own family.
      have hfamily := context_family_configurationDifferences t before after family op hop
      cases hfamily.symm.trans hphp
      exact nomatch hop
    · exact .inl (.inr hop)
  · rintro ((hop | hop) | ⟨original, horiginal, rfl⟩)
    · exact ⟨.inl (.inl hop), h.context_family_published op (List.mem_append_left _ hop)⟩
    · exact ⟨.inr hop, h.context_family_published op (List.mem_append_right _ hop)⟩
    · exact ⟨.inl (.inr (.inl ⟨original, horiginal, rfl⟩)),
        h.context_family_unpublished original horiginal⟩

/-- The operations of the report about PHP declarations are kept from those that were found. -/
private theorem mem_phpOperations_iff (h : r.Stages t before after published all) :
    op ∈ r.report.phpOperations ↔
      op ∈ (r.changes.merge r.membership).deduplicate.toList ∧ op.context.family? = some .php := by
  rw [Report.phpOperations, List.mem_filter, decide_eq_true_eq, ← Context.family?_eq_php_iff,
    h.report_eq]

/-- What was found on the published surfaces is at the level of the table. -/
private theorem level_published (h : r.Stages t before after published all)
    (hop : op ∈ published.changes ++ published.membership) :
    op.level = (t.rule op.context op.kind).level := by
  have hissued := h.issuedBy_published
  exact (List.mem_append.mp hop).elim (fun hop => (hissued.changes op hop).level_eq)
    fun hop => (hissued.membership op hop).level_eq

/-- What was found among all declarations is at the level of the table, capped. -/
private theorem level_capped (h : r.Stages t before after published all)
    (hop : ∃ original ∈ all.toList, original.capped = op) :
    op.level = (t.rule op.context op.kind).level.capped := by
  obtain ⟨original, horiginal, rfl⟩ := hop
  have hlevel := (h.covers_unpublished original horiginal).level_eq
  exact congrArg Level.capped hlevel

/-- Nothing about PHP declarations is above the level of the table. -/
private theorem level_le (h : r.Stages t before after published all)
    (hop : op ∈ (r.changes.merge r.membership).toList) (hphp : op.context.family? = some .php) :
    op.level ≤ (t.rule op.context op.kind).level := by
  rcases h.mem_php_iff.mp ⟨hop, hphp⟩ with hop | hop
  · rw [h.level_published hop]
    exact Nat.le_refl _
  · rw [h.level_capped hop]
    exact Level.capped_le _

/-- The report keeps one operation for each difference that was found. -/
theorem settlesPhp (h : r.Stages t before after published all)
    (hsub : published.changes ⊆ all.toList) : r.report.SettlesPhp t published all where
  nodup := by
    rw [Report.phpOperations, h.report_eq]
    exact (Report.nodup_keys_deduplicate _).sublist (List.filter_sublist.map _)
  keys_iff key := by
    simp only [h.mem_phpOperations_iff]
    constructor
    · rintro ⟨op, ⟨hop, hphp⟩, hkey⟩
      rcases h.mem_php_iff.mp ⟨Report.mem_of_mem_deduplicate hop, hphp⟩ with hop | hop
      · refine ⟨op, ?_, hkey⟩
        exact (List.mem_append.mp hop).elim (fun hop => List.mem_append_left _ (hsub hop))
          (List.mem_append_right _)
      · obtain ⟨original, horiginal, rfl⟩ := hop
        exact ⟨original, List.mem_append_left _ horiginal, hkey⟩
    · rintro ⟨op, hop, rfl⟩
      -- What was found goes into the report, as it is or capped, and then an equal one is kept.
      have hfound : ∃ entered, (entered ∈ (r.changes.merge r.membership).toList ∧
          entered.context.family? = some .php) ∧ entered.key = op.key := by
        rcases List.mem_append.mp hop with hop | hop
        · exact ⟨op.capped, h.mem_php_iff.mpr (.inr ⟨op, hop, rfl⟩), rfl⟩
        · exact ⟨op, h.mem_php_iff.mpr (.inl (List.mem_append_right _ hop)), rfl⟩
      obtain ⟨entered, ⟨hentered, hphp⟩, hkey⟩ := hfound
      obtain ⟨chosen, hchosen, hsame, -⟩ := Report.exists_mem_deduplicate hentered
      have hcontext := (h.eq_of_key (Report.mem_of_mem_deduplicate hchosen) hentered hsame).1
      exact ⟨chosen, ⟨hchosen, hcontext ▸ hphp⟩, hsame.trans hkey⟩
  code_eq op hop := by
    have hcoded := h.coded op (Report.mem_of_mem_deduplicate (h.mem_phpOperations_iff.mp hop).1)
    exact ⟨hcoded.1, hcoded.2.trans (Severity.Table.rule_code t _ _).symm⟩
  level_of_published op hop hfound := by
    obtain ⟨hop, hphp⟩ := h.mem_phpOperations_iff.mp hop
    obtain ⟨found, hfound, hkey⟩ := hfound
    have hmem := Report.mem_of_mem_deduplicate hop
    have hentered := (h.mem_php_iff.mpr (.inl hfound)).1
    obtain ⟨hcontext, hkind⟩ := h.eq_of_key hentered hmem hkey
    -- The copy from the published surfaces is not above the one that is kept.
    have hle := Report.level_le_of_mem_deduplicate hop hentered hkey
    rw [h.level_published hfound, hcontext, hkind] at hle
    exact Level.le_antisymm (h.level_le hmem hphp) hle
  level_of_unpublished op hop hnot := by
    obtain ⟨hop, hphp⟩ := h.mem_phpOperations_iff.mp hop
    rcases h.mem_php_iff.mp ⟨Report.mem_of_mem_deduplicate hop, hphp⟩ with hop | hop
    · exact absurd ⟨op, hop, rfl⟩ hnot
    · -- Only the capped copies have no counterpart on the published surfaces.
      exact h.level_capped hop

/-- What changed on the published surfaces is in the report on all declarations. -/
theorem published_subset (h : r.Stages t before after published all)
    (hb : before.php.UniqueMemberKeys) (ha : after.php.UniqueMemberKeys) :
    published.changes ⊆ all.toList := by
  obtain ⟨ops, hops, rfl⟩ := h.exists_allDifferences
  intro op hop
  exact Report.mem_toList_ofList.mpr
    (Php.published_mem_allDifferences hb ha h.publishedDifferences_eq hops hop)

end Assessment.Stages

section Assessments

variable {t : Severity.Table} {before after : Snapshot} {r : Assessment}

/-- What changed on the published surfaces is found among all declarations too, and the report has
each difference of PHP declarations once, at the level of the table if it was found on the published
surfaces and as a patch at most if it was not. So it has patches at most if nothing is published. -/
theorem assess_php (hb : before.php.UniqueMemberKeys) (ha : after.php.UniqueMemberKeys)
    (hr : assess t before after = .ok r) :
    ∃ published all, publishedFindings t before after = .ok published ∧
      fullReport t before after = .ok all ∧ r.membership = Report.ofList published.membership ∧
      published.changes ⊆ all.toList ∧ r.report.SettlesPhp t published all ∧
      (before.php.PublishesNothing → after.php.PublishesNothing →
        ∀ op ∈ r.report.phpOperations, op.level ≤ .patch) := by
  obtain ⟨published, all, h⟩ := assess_eq_ok_iff.mp hr
  have hsub := h.published_subset hb ha
  refine ⟨published, all, h.published_eq, h.unpublished_eq, h.membership_eq, hsub, h.settlesPhp hsub,
    fun hnoneb hnonea op hop => ?_⟩
  have hnothing : published = {} := Except.ok.inj (h.publishedDifferences_eq.symm.trans
    (Php.publishedDifferences_of_publishesNothing (s := phpSetting t before after) hnoneb hnonea))
  rw [(h.settlesPhp hsub).level_of_unpublished op hop (by simp [hnothing])]
  exact Level.capped_le_patch _

/-- A class that is not API, with methods that are not either. -/
private def internalClass (methods : List Php.Method) : Php.ClassLike :=
  { name := "A", kind := .classKind, methods }

/-- A snapshot with that class. -/
private def internal (methods : List Php.Method) : Snapshot where
  php := Registry.empty.insert .classes "a" (internalClass methods) ⟨"a.php.json"⟩

/-- The loss of a method is in the report, but as a patch, if the class is not published. -/
theorem assess_php_internal : ∃ r published all,
    assess {} (internal [{ name := "run" }]) (internal []) = .ok r ∧
    published.changes ⊆ all.toList ∧ r.report.SettlesPhp {} published all ∧
    r.report.phpOperations.length = 1 ∧ ∀ op ∈ r.report.phpOperations, op.level ≤ .patch := by
  have hlength : (assess {} (internal [{ name := "run" }]) (internal [])).map
      (·.report.phpOperations.length) = .ok 1 := by
    decide +kernel
  have hnothing : ∀ methods ∈ [[({ name := "run" } : Php.Method)], []],
      (internal methods).php.PublishesNothing := by
    have hmethods : ∀ methods ∈ [[({ name := "run" } : Php.Method)], []], ∀ m ∈ methods,
        ¬ Php.methodFamily.Publishes (internalClass methods) m := by decide
    intro methods hmem c hc
    obtain rfl : c = internalClass methods := List.mem_singleton.mp hc
    exact ⟨rfl, hmethods methods hmem, List.forall_mem_nil _, List.forall_mem_nil _⟩
  obtain ⟨r, hr, hlength⟩ := exists_of_map_eq_ok hlength
  obtain ⟨published, all, -, -, -, hsub, hsettles, hpatch⟩ :=
    assess_php (by decide +kernel) (by decide +kernel) hr
  exact ⟨r, published, all, hr, hsub, hsettles, hlength,
    hpatch (hnothing _ (by simp)) (hnothing _ (by simp))⟩

end Assessments

end VersionBump
