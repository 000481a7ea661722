import VersionBump.Assessment
import VersionBump.Proofs.CosmeticRewrites

/-!
# Comparing a snapshot with itself

No comparison finds a difference between two equal sides. Every driver runs over the common keys
only, every rule for a common key compares a declaration with itself, and no rule that compares a
method with itself asks the hierarchy anything, so cycles are never met.

* `KeyDiff.collect_between_self_eq_nil` and `Views.apply_divide_self` are the two drivers.
* `Php.findings_self` and its neighbours are the families.
* `assess_self` is the whole comparison.
-/

namespace VersionBump

/-! ## The drivers -/

section Drivers

variable {κ ν γ : Type} [Ord κ] [Std.LawfulEqOrd κ]

/-- Equal maps whose entries do not differ from themselves do not differ. -/
theorem KeyDiff.collect_between_self_eq_nil (m : KeyMap κ ν) (added removed : κ → ν → List γ)
    {common : κ → ν → ν → List γ} (h : ∀ k v, common k v v = []) :
    (KeyDiff.between m m).collect added removed common = [] := by
  refine List.eq_nil_iff_forall_not_mem.mpr fun x hx => ?_
  rcases KeyDiff.mem_collect.mp hx with ⟨k, a, hin, hout, -⟩ | ⟨k, b, hin, hout, -⟩ |
    ⟨k, b, a, hb, ha, hx⟩
  · exact nomatch hin.symm.trans hout
  · exact nomatch hin.symm.trans hout
  · obtain rfl := Option.some.inj (hb.symm.trans ha)
    rw [h] at hx
    exact absurd hx List.not_mem_nil

end Drivers

/-- Equal published views are verified entry by entry, whatever else there is. -/
theorem Views.apply_divide_self {α ε : Type} (v x y : View α) {rules : DivisionRules α ε}
    (h : ∀ e ∈ v.toList, rules.changed e.1 e.2 e.2 = .ok {}) :
    (Views.mk v v x y).divide.apply rules = .ok {} := by
  refine Division.apply_divide_eq_empty (fun _ => Iff.rfl) fun key b a hb ha => ?_
  obtain rfl : b = a := Option.some.inj (hb.symm.trans ha)
  exact h (key, b) (v.mem_toList_iff.mpr hb)

/-! ## The configuration families -/

/-- A text equals itself up to case. -/
theorem Text.equalsIgnoreAsciiCase_self (s : String) : Text.equalsIgnoreAsciiCase s s = true := by
  simp [Text.equalsIgnoreAsciiCase]

namespace Database

/-- A column does not differ from itself. -/
private theorem compareColumns_self (t : Severity.Table) (target : String) (location : Path)
    (c : Column) : compareColumns t target location c c = [] := by
  have hdefinition : c.sameDefinition c = true := by simp [Column.sameDefinition]
  cases hn : c.nullable <;>
    simp [compareColumns, Text.equalsIgnoreAsciiCase_self, hdefinition, hn]

/-- Parts that do not differ from themselves give no differences. -/
private theorem compareParts_self {α : Type} (t : Severity.Table) (table : String)
    (added removed : α → DatabaseChange) {changed : String → Path → α → α → List Operation}
    (parts : KeyMap String (Located α)) (h : ∀ target location v, changed target location v v = []) :
    compareParts t table added removed changed parts parts = [] := by
  unfold compareParts
  exact KeyDiff.collect_between_self_eq_nil _ _ _ fun _ _ => h _ _ _

/-- A table does not differ from itself. -/
private theorem compareTables_self (t : Severity.Table) (name : String) (table : FlatTable) :
    compareTables t name table table = [] := by
  have hindex : ∀ target location i, compareIndexes t target location i i = [] := fun _ _ _ => by
    simp [compareIndexes, Text.equalsIgnoreAsciiCase_self]
  simp [compareTables, compareAttribute, compareParts_self, compareColumns_self, hindex]

/-- Schemas do not differ from themselves. -/
theorem differences_self (t : Severity.Table) (r : Registry ModuleSchema) :
    differences t r r = [] :=
  KeyDiff.collect_between_self_eq_nil _ _ _ (compareTables_self t)

end Database

/-- Virtual types do not differ from themselves. -/
theorem Di.differences_self (t : Severity.Table) (r : Registry Di.VirtualType) :
    Di.differences t r r = [] :=
  KeyDiff.collect_between_self_eq_nil _ _ _ fun _ _ => by simp [Di.compareTypes]

namespace Xsd

/-- A grammar node does not differ from itself. -/
private theorem compareNodes_self (t : Severity.Table) (target : String) (location : Path)
    (n : Node) : compareNodes t target location n n = [] := by
  cases hr : n.required <;> simp [compareNodes, hr]

/-- A grammar does not differ from itself. -/
private theorem compareGrammars_self (t : Severity.Table) (file : String) (location : Path)
    (g : Grammar) : compareGrammars t file location g g = [] := by
  unfold compareGrammars
  exact KeyDiff.collect_between_self_eq_nil _ _ _ fun _ _ => compareNodes_self t _ _ _

/-- Grammars do not differ from themselves. -/
theorem differences_self (t : Severity.Table) (r : Registry Grammar) : differences t r r = [] :=
  KeyDiff.collect_between_self_eq_nil _ _ _ fun _ _ => compareGrammars_self t _ _ _

end Xsd

namespace Settings

/-- No scope of a list is missing in the list itself. -/
private theorem losesScope_self (scopes : List Bool) : losesScope scopes scopes = false := by
  refine List.any_eq_false.mpr fun s hs => ?_
  obtain ⟨_, rfl⟩ : ∃ b, s = (b, b) := by
    obtain ⟨i, hi, rfl⟩ := List.mem_iff_getElem.mp hs
    exact ⟨_, by rw [List.getElem_zip]⟩
  simp

/-- A settings node does not differ from itself. -/
private theorem compareNodes_self (t : Severity.Table) (path : String) (location : Path)
    (n : Node) : compareNodes t path location n n = [] := by
  simp [compareNodes, scopeChange?, losesScope_self]

/-- The settings of a module do not differ from themselves. -/
private theorem compareConfigs_self (t : Severity.Table) (location : Path) (c : Config) :
    compareConfigs t location c c = [] := by
  unfold compareConfigs
  exact KeyDiff.collect_between_self_eq_nil _ _ _ fun _ _ => compareNodes_self t _ _ _

/-- Settings do not differ from themselves. -/
theorem differences_self (t : Severity.Table) (r : Registry Config) : differences t r r = [] :=
  KeyDiff.collect_between_self_eq_nil _ _ _ fun _ _ => compareConfigs_self t _ _

end Settings

namespace Less

/-- A stylesheet does not differ from itself. -/
private theorem compareStylesheets_self (t : Severity.Table) (file : String) (location : Path)
    (s : Stylesheet) : compareStylesheets t file location s s = [] := by
  unfold compareStylesheets
  exact KeyDiff.collect_between_self_eq_nil _ _ _ fun _ _ => by simp [compareRules]

/-- Stylesheets do not differ from themselves. -/
theorem differences_self (t : Severity.Table) (r : Registry Stylesheet) : differences t r r = [] :=
  KeyDiff.collect_between_self_eq_nil _ _ _ fun _ _ => compareStylesheets_self t _ _ _

end Less

namespace Php

/-- The members of a class-like do not differ from themselves, whatever part of it is published. -/
private theorem memberFindings_self (s : Setting) (context : Context) (whole : Located ClassLike)
    (part : ClassLike) :
    memberFindings ⟨s, context, whole, whole⟩ ⟨some part, some part⟩ = .ok {} := by
  simp only [memberFindings, memberViews, Option.map_some, Option.getD_some]
  rw [Views.apply_divide_self _ _ _ fun e _ => ?methods,
    Views.apply_divide_self _ _ _ fun e _ => ?properties,
    Views.apply_divide_self _ _ _ fun e _ => ?constants]
  case methods => exact tolerates_methodFamily.changed (.refl e.2.value)
  case properties => exact tolerates_propertyFamily.changed (.refl e.2.value)
  case constants => exact tolerates_constantFamily.changed (.refl e.2.value)
  rfl

/-- The head of a class-like does not differ from itself. -/
private theorem compareHeads_self (s : Setting) (context : Context) (whole : Located ClassLike)
    (location : Path) : compareHeads ⟨s, context, whole, whole⟩ location = [] := by
  simp only [compareHeads, compareReferences_eq_nil rfl, compareFlag_self, List.append_nil]

/-- A class-like that is found in a registry does not differ from itself. -/
private theorem changed_self (scope : Scope) (s : Setting) (context : Context)
    (hsame : s.before = s.after) {key : String} {part : Located ClassLike} :
    (classRules scope s context).changed key part part = .ok {} := by
  simp only [classRules, hsame, compareHeads_self, compareMarks_eq_empty, memberFindings_self, bind,
    Except.bind]
  split <;> rfl

/-- The divisions of two equal sides find nothing. -/
theorem findings_self (scope : Scope) (s : Setting) (hsame : s.before = s.after)
    (views : Context → Views ClassLike)
    (hviews : ∀ context, (views context).publishedBefore = (views context).publishedAfter) :
    findings scope s views = .ok {} := by
  refine Findings.collect_eq_empty fun context _ => ?_
  cases hv : views context with
  | mk v w x y =>
    obtain rfl : v = w := by simpa [hv] using hviews context
    exact Views.apply_divide_self v x y fun _ _ => changed_self scope s context hsame

end Php

/-! ## Snapshots -/

/-- No file has changed exactly if the two maps from paths to contents are equal. -/
theorem ChangedFiles.between_eq_empty_iff {α : Type} [DecidableEq α]
    {before after : KeyMap String α} : ChangedFiles.between before after = {} ↔ before = after := by
  simp only [ChangedFiles.between, ChangedFiles.mk.injEq, List.map_eq_nil_iff,
    List.filter_eq_nil_iff, KeyMap.mem_keys_iff, Bool.not_eq_true', Bool.not_eq_false]
  constructor
  · rintro ⟨hadded, hremoved, hmodified⟩
    refine KeyMap.ext_find? fun k => ?_
    cases ha : after.find? k with
    | none =>
      cases hb : before.find? k with
      | none => rfl
      | some x => simpa [KeyMap.contains, ha] using hremoved k (by simp [KeyMap.contains, hb])
    | some y =>
      have hmem : (k, y) ∈ after.toList := after.mem_toList_iff.mpr ha
      have hsame := hmodified (k, y) hmem
      cases hb : before.find? k with
      | none => simpa [KeyMap.contains, hb] using hadded k (by simp [KeyMap.contains, ha])
      | some x => simpa [hb] using hsame
  · rintro rfl
    refine ⟨fun _ => id, fun _ => id, fun e he => ?_⟩
    simp [KeyMap.find?_of_mem he]

/-- On the published surfaces of equal declarations nothing is found. -/
theorem publishedFindings_of_php_eq (t : Severity.Table) {before after : Snapshot}
    (h : before.php = after.php) : publishedFindings t before after = .ok {} := by
  simp only [publishedFindings, Php.publishedDifferences]
  rw [Php.findings_self _ _ h _ fun _ => by rw [h]]
  rfl

/-- Among equal declarations nothing is found. -/
theorem fullReport_of_php_eq (t : Severity.Table) {before after : Snapshot}
    (h : before.php = after.php) : fullReport t before after = .ok ∅ := by
  simp only [fullReport, Php.allDifferences, Views.unpublished]
  rw [Php.findings_self _ _ h _ fun _ => by simp only [phpSetting, h]]
  rfl

end VersionBump
