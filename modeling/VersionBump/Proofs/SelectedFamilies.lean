import VersionBump.Proofs.FileFamilies
import VersionBump.Proofs.RecordedOperations
import VersionBump.Proofs.ReportRestriction
import VersionBump.Proofs.UnchangedFiles

/-!
# Selected families

A snapshot that is loaded with some families only has their registries, and the others are empty.
The name of a file tells its family, so a file is read alike whatever is selected or not read at all,
and what is read goes into the registry of its family.

* `Manifest.Declared.family_of_read` says that a manifest has declarations of its family only.
* `Snapshot.Restricts` relates a snapshot to the one that is loaded with some families only, and
  `Snapshot.exists_load_restricts` says that there is one.
-/

namespace VersionBump

/-! ## The family of a manifest -/

/-- The family of a manifest with this content. -/
def Manifest.Declared.family : Declared → Family
  | .php _ => .php
  | .database _ => .database
  | .di _ => .di
  | .xsd _ => .xsd
  | .settings _ => .settings
  | .less _ => .less

/-- What is read from a manifest belongs to its family. -/
theorem Manifest.Declared.family_of_read {family : Family} {source : String} {d : Declared}
    (h : read family source = .ok d) : d.family = family := by
  cases family <;>
    · obtain ⟨a, -, rfl⟩ := exists_of_map_eq_ok h
      rfl

/-! ## Loading some families -/

namespace Snapshot

variable {root : Path} {families : List Family} {policy : Php.CyclePolicy}

/-- A file without its declarations if its family is not selected. -/
def Scanned.restrict (families : List Family) (x : Scanned) : Scanned :=
  { x with declared := x.declared.filter (·.family ∈ families) }

/-- A file that can be read can be read as one of some families. -/
theorem scan_restrict {file : SourceFile} {x : Scanned} (families : List Family)
    (h : scan root Family.all file = .ok x) :
    scan root families file = .ok (x.restrict families) := by
  unfold scan at h ⊢
  cases hc : file.content with
  | error reason => simp [hc] at h
  | ok content =>
    simp only [hc, Family.find?_eq_filter families] at h ⊢
    cases hf : Family.find? Family.all file.path with
    | none =>
      simp only [hf, Except.ok.injEq] at h
      subst h
      rfl
    | some family =>
      simp only [hf] at h
      cases hr : Manifest.Declared.read family (Text.Utf8.decode content) with
      | error cause => simp [hr] at h
      | ok declared =>
        simp only [hr, Except.ok.injEq] at h
        subst h
        have hfamily := Manifest.Declared.family_of_read hr
        by_cases hmem : family ∈ families
        · simp [Scanned.restrict, Option.filter_some, hmem, hfamily, hr]
        · simp [Scanned.restrict, Option.filter_some, hmem, hfamily]

/-- Files that can all be read can be read as files of some families. -/
theorem mapM_scan_restrict {files : List SourceFile} {xs : List Scanned} (families : List Family)
    (h : files.mapM (scan root Family.all) = .ok xs) :
    files.mapM (scan root families) = .ok (xs.map (Scanned.restrict families)) := by
  rw [mapM_eq_ok_iff] at h ⊢
  exact List.forall₂_map_right_iff.mpr (h.imp fun _ _ => scan_restrict families)

/-- A snapshot that was loaded with some families: their registries are the same, the others are
empty, and all files are known. -/
structure Restricts (families : List Family) (s s' : Snapshot) : Prop where
  php : s'.php = if .php ∈ families then s.php else ∅
  database : s'.database = if .database ∈ families then s.database else ∅
  di : s'.di = if .di ∈ families then s.di else ∅
  xsd : s'.xsd = if .xsd ∈ families then s.xsd else ∅
  settings : s'.settings = if .settings ∈ families then s.settings else ∅
  less : s'.less = if .less ∈ families then s.less else ∅
  hierarchy : .php ∈ families → s'.hierarchy = s.hierarchy
  files : s'.files = s.files

variable {s s' : Snapshot}

/-- Declarations of a selected family are entered on both sides. -/
private theorem Restricts.register (h : s.Restricts families s') (location : String)
    {d : Manifest.Declared} (hmem : d.family ∈ families) :
    (s.register location d).Restricts families (s'.register location d) := by
  cases d with
  | php cs => exact { h with php := by simp_all [Snapshot.register, h.php, Manifest.Declared.family] }
  | database d =>
    exact { h with database := by simp_all [Snapshot.register, h.database, Manifest.Declared.family] }
  | di c => exact { h with di := by simp_all [Snapshot.register, h.di, Manifest.Declared.family] }
  | xsd g => exact { h with xsd := by simp_all [Snapshot.register, h.xsd, Manifest.Declared.family] }
  | settings c =>
    exact { h with settings := by simp_all [Snapshot.register, h.settings, Manifest.Declared.family] }
  | less l => exact { h with less := by simp_all [Snapshot.register, h.less, Manifest.Declared.family] }

/-- Declarations of another family make no difference. -/
private theorem Restricts.register_left (h : s.Restricts families s') (location : String)
    {d : Manifest.Declared} (hmem : d.family ∉ families) :
    (s.register location d).Restricts families s' := by
  cases d with
  | php cs => exact { h with php := by simp_all [h.php, Manifest.Declared.family] }
  | database d => exact { h with database := by simp_all [h.database, Manifest.Declared.family] }
  | di c => exact { h with di := by simp_all [h.di, Manifest.Declared.family] }
  | xsd g => exact { h with xsd := by simp_all [h.xsd, Manifest.Declared.family] }
  | settings c => exact { h with settings := by simp_all [h.settings, Manifest.Declared.family] }
  | less l => exact { h with less := by simp_all [h.less, Manifest.Declared.family] }

/-- Entering a file keeps the relation, for its declarations go into the registry of their
family. -/
private theorem Restricts.enter (h : s.Restricts families s') (x : Scanned) :
    (s.enter x).Restricts families (s'.enter (x.restrict families)) := by
  obtain ⟨location, content, declared⟩ := x
  have hfiles : ∀ {t t' : Snapshot}, t.Restricts families t' →
      ({ t with files := t.files.insert location content.data } : Snapshot).Restricts families
        { t' with files := t'.files.insert location content.data } :=
    fun ht => { ht with files := by rw [ht.files] }
  cases declared with
  | none => exact hfiles h
  | some d =>
    by_cases hmem : d.family ∈ families
    · have hrestrict : Scanned.restrict families ⟨location, content, some d⟩ =
          ⟨location, content, some d⟩ := by
        simp [Scanned.restrict, Option.filter_some, hmem]
      rw [hrestrict]
      exact hfiles (h.register location hmem)
    · have hrestrict : Scanned.restrict families ⟨location, content, some d⟩ =
          ⟨location, content, none⟩ := by
        simp [Scanned.restrict, Option.filter_some, hmem]
      rw [hrestrict]
      exact hfiles (h.register_left location hmem)

/-- Entering many files keeps the relation. -/
private theorem Restricts.foldl_enter (h : s.Restricts families s') (xs : List Scanned) :
    (xs.foldl Snapshot.enter s).Restricts families
      ((xs.map (Scanned.restrict families)).foldl Snapshot.enter s') := by
  induction xs generalizing s s' with
  | nil => exact h
  | cons x xs ih => exact ih (h.enter x)

/-- Files that load with all families load with some of them. -/
theorem exists_load_restricts {files : List SourceFile}
    (h : load root files Family.all policy = .ok s) (families : List Family) :
    ∃ s', load root files families policy = .ok s' ∧ s.Restricts families s' := by
  obtain ⟨xs, hm, rfl⟩ := load_eq_ok_iff.mp h
  have hempty : ({} : Snapshot).Restricts families {} := by
    constructor <;> simp
  have hentered := hempty.foldl_enter xs
  refine ⟨_, load_eq_ok_iff.mpr ⟨_, mapM_scan_restrict families hm, rfl⟩, { hentered with
    hierarchy := fun hphp => ?_ }⟩
  -- The hierarchy is built from the registry, which is the same if the family is selected.
  dsimp only
  rw [hentered.php, if_pos hphp]

end Snapshot

end VersionBump
