import VersionBump.Proofs.LocatedPhpOperations
import VersionBump.Proofs.RecordedOperations
import VersionBump.Proofs.UnchangedFiles

/-!
# Reported files

Whatever an assessment of two loaded snapshots reports, it names a file that is there: one of the
earlier snapshot for what is lost, and one of the later snapshot for everything else.

* `Snapshot.LocatedIn` says where the declarations of a snapshot come from. Entering a file keeps
  it, and loading starts from nothing, so `Snapshot.locatedIn_holds_of_load` holds of every loaded
  snapshot.
* `Snapshot.Backed` says that a look-up which finds a value finds the file of the value too.
* `standing_configurationDifferences` and `Assessment.Stages.standing_changes` follow the files
  through the comparison.
* `assess_stands` is the statement for whole assessments.
-/

namespace VersionBump

/-- A snapshot holds a file, under the text of its path. -/
def Snapshot.Holds (s : Snapshot) (location : Path) : Prop := s.files.contains location.text = true

/-- The declarations of all families come from files with the property. -/
structure Snapshot.LocatedIn (p : Path → Prop) (s : Snapshot) : Prop where
  php : s.php.LocatedIn p
  database : s.database.LocatedIn p
  di : s.di.LocatedIn p
  xsd : s.xsd.LocatedIn p
  settings : s.settings.LocatedIn p
  less : s.less.LocatedIn p

/-- What a registry has a value for, it has a file for, and the file has the property. -/
def Registry.Backed {α : Type} (p : Path → Prop) (r : Registry α) : Prop :=
  ∀ context key value, r.get? context key = some value →
    ∃ location, r.location? context key = some location ∧ p location

/-- Every declaration of a snapshot, and every published part of one, has a file of the snapshot. -/
structure Snapshot.Backed (s : Snapshot) : Prop where
  php : s.php.Backed s.Holds
  surface : (Php.publishedSurface s.php).Backed s.Holds
  database : s.database.Backed s.Holds
  di : s.di.Backed s.Holds
  xsd : s.xsd.Backed s.Holds
  settings : s.settings.Backed s.Holds
  less : s.less.Backed s.Holds

/-- Entries that come from files with the property have such files. -/
theorem Registry.LocatedIn.backed {α : Type} {p : Path → Prop} {r : Registry α}
    (h : r.LocatedIn p) : r.Backed p := by
  intro context key value hvalue
  obtain ⟨e, he, -⟩ := Option.map_eq_some_iff.mp hvalue
  exact ⟨e.location, by rw [Registry.location?, he, Option.map_some], h context key e he⟩

/-! ## Loading -/

namespace Snapshot

variable {p q : Path → Prop} {s : Snapshot}

theorem locatedIn_empty : LocatedIn p {} :=
  ⟨Registry.locatedIn_empty, Registry.locatedIn_empty, Registry.locatedIn_empty,
    Registry.locatedIn_empty, Registry.locatedIn_empty, Registry.locatedIn_empty⟩

/-- The property may be weakened. -/
theorem LocatedIn.imp (h : s.LocatedIn p) (hpq : ∀ l, p l → q l) : s.LocatedIn q :=
  ⟨h.php.imp hpq, h.database.imp hpq, h.di.imp hpq, h.xsd.imp hpq, h.settings.imp hpq,
    h.less.imp hpq⟩

/-- The class-likes of a file with the property may be registered. -/
private theorem locatedIn_foldl_registerClass {r : Registry Php.ClassLike} (h : r.LocatedIn p)
    {location : Path} (hl : p location) (cs : List Php.ClassLike) :
    (cs.foldl (registerClass location) r).LocatedIn p := by
  induction cs generalizing r with
  | nil => exact h
  | cons c cs ih => exact ih (h.insert _ _ _ hl)

/-- The virtual types of a file with the property may be registered. -/
private theorem locatedIn_foldl_registerType {r : Registry Di.VirtualType} (h : r.LocatedIn p)
    {location : Path} (hl : p location) (vs : List Di.VirtualType) :
    (vs.foldl (registerType location) r).LocatedIn p := by
  induction vs generalizing r with
  | nil => exact h
  | cons v vs ih =>
    refine ih ?_
    unfold registerType
    split
    · exact h
    · exact h.insert _ _ _ hl

/-- The content of a manifest may be registered if its file has the property. -/
theorem LocatedIn.register (h : s.LocatedIn p) {location : String} (hl : p ⟨location⟩)
    (declared : Manifest.Declared) : (s.register location declared).LocatedIn p := by
  cases declared with
  | php cs => exact { h with php := locatedIn_foldl_registerClass h.php hl cs }
  | database d => exact { h with database := h.database.insert _ _ _ hl }
  | di c => exact { h with di := locatedIn_foldl_registerType h.di hl c.types }
  | xsd g => exact { h with xsd := h.xsd.insert _ _ _ hl }
  | settings c => exact { h with settings := h.settings.insert _ _ _ hl }
  | less l => exact { h with less := h.less.insert _ _ _ hl }

/-- Entering a file keeps the declarations at files of the snapshot: the file itself is one then. -/
theorem locatedIn_holds_enter (h : s.LocatedIn s.Holds) (x : Scanned) :
    (s.enter x).LocatedIn (s.enter x).Holds := by
  have hholds : ∀ l, (s.enter x).Holds l ↔ l.text = x.location ∨ s.Holds l := by
    intro l
    rw [Holds, files_enter, KeyMap.contains_insert_iff, Holds]
  have hold : s.LocatedIn (s.enter x).Holds := h.imp fun l hl => (hholds l).mpr (.inr hl)
  have hnew : (s.enter x).Holds ⟨x.location⟩ := (hholds ⟨x.location⟩).mpr (.inl rfl)
  have hregister :
      ((x.declared.map (s.register x.location)).getD s).LocatedIn (s.enter x).Holds := by
    cases x.declared with
    | none => exact hold
    | some declared => exact hold.register hnew declared
  exact ⟨hregister.php, hregister.database, hregister.di, hregister.xsd, hregister.settings,
    hregister.less⟩

/-- Entering one file after the other keeps the declarations at files of the snapshot. -/
private theorem locatedIn_holds_foldl (xs : List Scanned) (h : s.LocatedIn s.Holds) :
    (xs.foldl enter s).LocatedIn (xs.foldl enter s).Holds := by
  induction xs generalizing s with
  | nil => exact h
  | cons x xs ih => exact ih (locatedIn_holds_enter h x)

/-- The declarations of a loaded snapshot come from its files. -/
theorem locatedIn_holds_of_load {root : Path} {files : List SourceFile} {families : List Family}
    {policy : Php.CyclePolicy} (h : load root files families policy = .ok s) :
    s.LocatedIn s.Holds := by
  obtain ⟨scanned, -, rfl⟩ := load_eq_ok_iff.mp h
  have hentered := locatedIn_holds_foldl scanned locatedIn_empty
  exact ⟨hentered.php, hentered.database, hentered.di, hentered.xsd, hentered.settings,
    hentered.less⟩

/-- What comes from the files of a snapshot has a file there, and so have the published parts. -/
theorem LocatedIn.backed (h : s.LocatedIn s.Holds) : s.Backed where
  php := h.php.backed
  surface := (h.php.filterMap _).backed
  database := h.database.backed
  di := h.di.backed
  xsd := h.xsd.backed
  settings := h.settings.backed
  less := h.less.backed

end Snapshot

/-! ## Assessments -/

section Assessments

variable {t : Severity.Table} {p q : Path → Prop} {before after : Snapshot} {r : Assessment}
  {published : Findings} {unpublished : Report}

/-- The differences in the configuration families name files of their sides. -/
theorem standing_configurationDifferences (t : Severity.Table) (hb : before.LocatedIn p)
    (ha : after.LocatedIn q) (family : Family) :
    Standing p q (configurationDifferences t before after family) := by
  cases family with
  | php => exact standing_nil
  | database => exact Database.standing_differences t hb.database ha.database
  | di => exact Di.standing_differences t hb.di ha.di
  | xsd => exact Xsd.standing_differences t hb.xsd ha.xsd
  | settings => exact Settings.standing_differences t hb.settings ha.settings
  | less => exact Less.standing_differences t hb.less ha.less

/-- The findings on the published surfaces name files of their sides. -/
theorem Assessment.Stages.stand_published (h : r.Stages t before after published unpublished)
    (hb : before.LocatedIn p) (ha : after.LocatedIn q) : published.Stand p q :=
  Php.stand_publishedDifferences ⟨hb.php, ha.php⟩ (hb.php.filterMap _) (ha.php.filterMap _)
    h.publishedDifferences_eq

/-- The changes name files of their sides. -/
theorem Assessment.Stages.standing_changes (h : r.Stages t before after published unpublished)
    (hb : before.LocatedIn p) (ha : after.LocatedIn q) : Standing p q r.changes.toList := by
  intro op hop
  rcases h.mem_changes.mp hop with hop | hop | ⟨family, hop⟩
  · exact (h.stand_published hb ha).changes op hop
  · -- Capping touches neither the kind nor the file.
    obtain ⟨original, horiginal, rfl⟩ := h.filed_unpublished.mem_toList_dampen.mp hop
    obtain ⟨ops, hops, rfl⟩ := h.exists_allDifferences
    exact Php.standing_allDifferences ⟨hb.php, ha.php⟩ hops original
      (Report.mem_toList_ofList.mp horiginal)
  · exact standing_configurationDifferences t hb ha family op hop

/-- Every operation of an assessment of loaded snapshots, in any of its three reports, names a file:
one of the earlier snapshot if its kind is one of the losses, and one of the later snapshot
otherwise. No declaration of either side is without a file, so no operation stands for want of one
at an empty path. -/
theorem assess_stands {rootBefore rootAfter : Path} {filesBefore filesAfter : List SourceFile}
    {familiesBefore familiesAfter : List Family} {policyBefore policyAfter : Php.CyclePolicy}
    (hb : Snapshot.load rootBefore filesBefore familiesBefore policyBefore = .ok before)
    (ha : Snapshot.load rootAfter filesAfter familiesAfter policyAfter = .ok after)
    (hr : assess t before after = .ok r) :
    (∀ op ∈ r.changes.toList ++ r.membership.toList ++ r.report.toList,
      op.Stands before.Holds after.Holds) ∧ before.Backed ∧ after.Backed := by
  have hbefore := Snapshot.locatedIn_holds_of_load hb
  have hafter := Snapshot.locatedIn_holds_of_load ha
  obtain ⟨published, unpublished, h⟩ := assess_eq_ok_iff.mp hr
  have hchanges := h.standing_changes hbefore hafter
  have hmembership : Standing before.Holds after.Holds r.membership.toList := fun op hop =>
    (h.stand_published hbefore hafter).membership op (h.mem_membership.mp hop)
  refine ⟨fun op hop => ?_, hbefore.backed, hafter.backed⟩
  simp only [List.mem_append] at hop
  rcases hop with (hop | hop) | hop
  · exact hchanges op hop
  · exact hmembership op hop
  · -- The report chooses among the operations of the other two.
    rw [h.report_eq] at hop
    rcases Report.mem_toList_merge.mp (Report.mem_of_mem_deduplicate hop) with hop | hop
    · exact hchanges op hop
    · exact hmembership op hop

/-- The manifest of a class. -/
private def classManifest (name : String) : ByteArray :=
  ("\x7b\"kind\":\"class\",\"is_api\":true,\"name\":\"" ++ name ++ "\"\x7d").toUTF8

/-- A class that is gone is reported at its old file and a new one at its new file. -/
theorem assess_stands_replaced : ∃ before after r,
    Snapshot.load ⟨"r"⟩ [⟨⟨"r/a.php.json"⟩, .ok (classManifest "A")⟩] Family.all .error =
      .ok before ∧
    Snapshot.load ⟨"s"⟩ [⟨⟨"s/b.php.json"⟩, .ok (classManifest "B")⟩] [.php] .ignore =
      .ok after ∧
    assess {} before after = .ok r ∧
    r.report.toList.map (fun op => (op.kind, op.location.text)) =
      [(.php .removed, "a.php.json"), (.php .added, "b.php.json")] ∧
    (∀ op ∈ r.changes.toList ++ r.membership.toList ++ r.report.toList,
      op.Stands before.Holds after.Holds) ∧ before.Backed ∧ after.Backed := by
  have hrun : ((Snapshot.load ⟨"r"⟩ [⟨⟨"r/a.php.json"⟩, .ok (classManifest "A")⟩] Family.all
        .error).toOption.bind fun before =>
      (Snapshot.load ⟨"s"⟩ [⟨⟨"s/b.php.json"⟩, .ok (classManifest "B")⟩] [.php]
        .ignore).toOption.bind fun after =>
      (assess {} before after).toOption.map fun r =>
        r.report.toList.map fun op => (op.kind, op.location.text)) =
      some [(.php .removed, "a.php.json"), (.php .added, "b.php.json")] := by
    decide +kernel
  obtain ⟨before, hb, hrun⟩ := Option.bind_eq_some_iff.mp hrun
  obtain ⟨after, ha, hrun⟩ := Option.bind_eq_some_iff.mp hrun
  obtain ⟨r, hr, hreport⟩ := Option.map_eq_some_iff.mp hrun
  have hb := eq_ok_of_toOption hb
  have ha := eq_ok_of_toOption ha
  have hr := eq_ok_of_toOption hr
  exact ⟨before, after, r, hb, ha, hr, hreport, assess_stands hb ha hr⟩

end Assessments

end VersionBump
