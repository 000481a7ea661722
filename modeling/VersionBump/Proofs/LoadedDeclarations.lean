import Mathlib.Data.List.Pairwise
import Mathlib.Data.List.Perm.Basic
import VersionBump.Proofs.HierarchyOrigins
import VersionBump.Proofs.UnchangedFiles

/-!
# Loaded declarations

A snapshot is entered file by file, in the order of the list, so of the declarations of one key the
last one stays, with its file. Beyond that the order does not count: files that declare nothing
under one key may be entered in any order.

* `SourceFile.declared?` is what a file declares, and `declaredEntries` lists what some files
  declare for one registry. `Manifest.Declared.classEntries` and its neighbours are the entries of
  one manifest, `Manifest.Declared.keys` their keys.
* `Snapshot.HoldsLast` is the property of a snapshot that every key has its last declaration.
* `Snapshot.enter_comm` says that separate files may change places.
* `Snapshot.load_holdsLast` is the statement.
-/

namespace VersionBump

/-! ## What files declare -/

namespace Manifest.Declared

/-- The class-likes of a manifest, with its location. -/
def classEntries (location : String) :
    Declared → List (Registry.Key × Located VersionBump.Php.ClassLike)
  | .php cs => cs.map fun c => (⟨c.kind.context, c.key⟩, ⟨c, ⟨location⟩⟩)
  | _ => []

/-- The schema of a manifest, with its location. -/
def schemaEntries (location : String) :
    Declared → List (Registry.Key × Located VersionBump.Database.ModuleSchema)
  | .database d => [(⟨.database, d.module⟩, ⟨d, ⟨location⟩⟩)]
  | _ => []

/-- The settings of a manifest, with its location. -/
def settingsEntries (location : String) :
    Declared → List (Registry.Key × Located VersionBump.Settings.Config)
  | .settings c => [(⟨.settings, c.module⟩, ⟨c, ⟨location⟩⟩)]
  | _ => []

/-- The grammar of a manifest, with its location. It is known by the name of the file that it
describes. -/
def grammarEntries (location : String) :
    Declared → List (Registry.Key × Located VersionBump.Xsd.Grammar)
  | .xsd g => [(⟨.xsd, Snapshot.describedFile location⟩, ⟨g, ⟨location⟩⟩)]
  | _ => []

/-- The stylesheet of a manifest, with its location. It is known by the name of the file that it
describes. -/
def sheetEntries (location : String) :
    Declared → List (Registry.Key × Located VersionBump.Less.Stylesheet)
  | .less l => [(⟨.less, Snapshot.describedFile location⟩, ⟨l, ⟨location⟩⟩)]
  | _ => []

/-- The keys under which a manifest declares something. -/
def keys (location : String) : Declared → List Registry.Key
  | .php cs => cs.map fun c => ⟨c.kind.context, c.key⟩
  | .database d => [⟨.database, d.module⟩]
  | .di c => c.types.map fun v => ⟨.di, v.name⟩
  | .xsd _ => [⟨.xsd, Snapshot.describedFile location⟩]
  | .settings c => [⟨.settings, c.module⟩]
  | .less _ => [⟨.less, Snapshot.describedFile location⟩]

end Manifest.Declared

namespace SourceFile

/-- What a file declares, if it belongs to one of the families and can be read. -/
def declared? (families : List Family) (f : SourceFile) : Option Manifest.Declared := do
  let family ← Family.find? families f.path
  let content ← f.content.toOption
  (Manifest.Declared.read family (Text.Utf8.decode content)).toOption

/-- A file can be read, and so can its manifest if it belongs to one of the families. -/
def Readable (families : List Family) (f : SourceFile) : Prop :=
  ∃ content, f.content = .ok content ∧ ∀ family, Family.find? families f.path = some family →
    ∃ declared, Manifest.Declared.read family (Text.Utf8.decode content) = .ok declared

/-- The keys under which a file declares something. -/
def keys (root : Path) (families : List Family) (f : SourceFile) : List Registry.Key :=
  (f.declared? families).elim [] (·.keys (root.relativeText f.path))

/-- Two files have different relative paths and declare nothing under one key. -/
def Separate (root : Path) (families : List Family) (f g : SourceFile) : Prop :=
  root.relativeText f.path ≠ root.relativeText g.path ∧
    ∀ key ∈ f.keys root families, key ∉ g.keys root families

instance (root : Path) (families : List Family) (f g : SourceFile) :
    Decidable (Separate root families f g) :=
  inferInstanceAs (Decidable (_ ∧ ∀ key ∈ _, key ∉ _))

end SourceFile

/-- What some files declare for one registry, in the order of the files. -/
def declaredEntries {α : Type} (root : Path) (families : List Family)
    (entries : String → Manifest.Declared → List α) (files : List SourceFile) : List α :=
  files.flatMap fun f => (f.declared? families).elim [] (entries (root.relativeText f.path))

/-- The bytes of some files, in the order of the files. -/
def contentEntries (root : Path) (files : List SourceFile) : List (String × Array UInt8) :=
  files.filterMap fun f => f.content.toOption.map fun content =>
    (root.relativeText f.path, content.data)

/-- A registry holds the last of some entries under every key. -/
def Registry.HoldsLast {α : Type} (r : Registry α) (es : List (Registry.Key × Located α)) : Prop :=
  ∀ context key e, r.find? context key = some e ↔ KeyMap.IsLast es (⟨context, key⟩, e)

/-- A snapshot of some files holds the last declaration of every key with its file, and the last
content of every relative path. Its hierarchy is that of the class-likes which are left, in the
order of their keys, and everything in it goes back to one of them. -/
structure Snapshot.HoldsLast (root : Path) (families : List Family) (policy : Php.CyclePolicy)
    (files : List SourceFile) (s : Snapshot) : Prop where
  php : s.php.HoldsLast (declaredEntries root families Manifest.Declared.classEntries files)
  database : s.database.HoldsLast (declaredEntries root families Manifest.Declared.schemaEntries files)
  settings : s.settings.HoldsLast (declaredEntries root families Manifest.Declared.settingsEntries files)
  xsd : s.xsd.HoldsLast (declaredEntries root families Manifest.Declared.grammarEntries files)
  less : s.less.HoldsLast (declaredEntries root families Manifest.Declared.sheetEntries files)
  contents : ∀ location bytes, s.files.find? location = some bytes ↔
    KeyMap.IsLast (contentEntries root files) (location, bytes)
  hierarchy : ∃ survivors : List (Registry.Key × Located Php.ClassLike), SortedEntries survivors ∧
    (∀ e, e ∈ survivors ↔
      KeyMap.IsLast (declaredEntries root families Manifest.Declared.classEntries files) e) ∧
    s.hierarchy = Php.Hierarchy.build (survivors.map (·.2.value)) policy ∧
    s.hierarchy.StatedBy (survivors.map (·.2.value))

namespace Snapshot

variable {root : Path} {families : List Family} {policy : Php.CyclePolicy}

/-! ## Readings -/

/-- What is read from a file that can be read. -/
private def reading (root : Path) (families : List Family) (f : SourceFile) : Scanned where
  location := root.relativeText f.path
  content := f.content.toOption.getD .empty
  declared := f.declared? families

/-- A file that can be read is read. -/
private theorem scan_eq_reading {f : SourceFile} (h : f.Readable families) :
    scan root families f = .ok (reading root families f) := by
  obtain ⟨content, hcontent, hread⟩ := h
  unfold scan reading SourceFile.declared?
  rw [hcontent]
  cases hfamily : Family.find? families f.path with
  | none => rfl
  | some family =>
    obtain ⟨declared, hdeclared⟩ := hread family hfamily
    simp only [hdeclared]
    simp [Except.toOption, hdeclared]

/-- What is read can be read. -/
private theorem readable_of_scan {f : SourceFile} {x : Scanned}
    (h : scan root families f = .ok x) : f.Readable families := by
  unfold scan at h
  cases hcontent : f.content with
  | error reason => simp [hcontent] at h
  | ok content =>
    refine ⟨content, hcontent, fun family hfamily => ?_⟩
    simp only [hcontent, hfamily] at h
    cases hread : Manifest.Declared.read family (Text.Utf8.decode content) with
    | error cause => simp [hread] at h
    | ok declared => exact ⟨declared, rfl⟩

/-- Files that load can all be read. -/
theorem readable_of_load {files : List SourceFile} {s : Snapshot}
    (h : load root files families policy = .ok s) : ∀ f ∈ files, f.Readable families := by
  obtain ⟨xs, hxs, -⟩ := load_eq_ok_iff.mp h
  have hscans := mapM_eq_ok_iff.mp hxs
  clear h hxs
  induction hscans with
  | nil => exact fun f hf => nomatch hf
  | cons hscan _ ih => exact List.forall_mem_cons.mpr ⟨readable_of_scan hscan, ih⟩

/-- A snapshot of files that can be read is entered from their readings. -/
private theorem load_eq_ok {files : List SourceFile} (h : ∀ f ∈ files, f.Readable families) :
    load root files families policy =
      .ok { (files.map (reading root families)).foldl enter {} with
        hierarchy := Php.Hierarchy.build
          ((files.map (reading root families)).foldl enter {}).php.values policy } := by
  refine load_eq_ok_iff.mpr ⟨_, mapM_eq_ok_iff.mpr ?_, rfl⟩
  rw [List.forall₂_map_right_iff, List.forall₂_same]
  exact fun f hf => scan_eq_reading (h f hf)

/-! ## The last declaration -/

/-- What the registry of a family holds after some files have been entered, if a manifest enters its
entries one after the other. -/
private theorem entries_foldl_enter {α : Type} (part : Snapshot → Registry α)
    {entries : String → Manifest.Declared → List (Registry.Key × Located α)} (hempty : part {} = ∅)
    (hfiles : ∀ s files, part { s with files } = part s)
    (hregister : ∀ s location declared, (part (s.register location declared)).entries =
      (entries location declared).foldl (fun m e => m.insert e.1 e.2) (part s).entries)
    (files : List SourceFile) :
    (part ((files.map (reading root families)).foldl enter {})).entries =
      KeyMap.ofList (declaredEntries root families entries files) := by
  have henter : ∀ (s : Snapshot) (x : Scanned), (part (s.enter x)).entries =
      (x.declared.elim [] (entries x.location)).foldl (fun m e => m.insert e.1 e.2)
        (part s).entries := by
    intro s x
    cases hx : x.declared with
    | none =>
      simp only [enter, hx, hfiles]
      rfl
    | some declared =>
      simp only [enter, hx, hfiles]
      exact hregister s x.location declared
  have hfold : ∀ s : Snapshot, (part ((files.map (reading root families)).foldl enter s)).entries =
      (declaredEntries root families entries files).foldl (fun m e => m.insert e.1 e.2)
        (part s).entries := by
    induction files with
    | nil => exact fun _ => rfl
    | cons f files ih =>
      intro s
      rw [List.map_cons, List.foldl_cons, ih, henter, declaredEntries, declaredEntries,
        List.flatMap_cons, List.foldl_append]
      rfl
  rw [hfold, hempty]
  rfl

/-- A registry with the entries of a map holds the last of those that the map is made from. -/
private theorem Registry.holdsLast_of_entries {α : Type} {r : Registry α}
    {es : List (Registry.Key × Located α)} (h : r.entries = KeyMap.ofList es) : r.HoldsLast es := by
  intro context key e
  rw [Registry.find?, h, KeyMap.find?_ofList_iff_isLast]

/-- A manifest enters its class-likes one after the other. -/
private theorem php_register (s : Snapshot) (location : String) (declared : Manifest.Declared) :
    (s.register location declared).php.entries =
      (declared.classEntries location).foldl (fun m e => m.insert e.1 e.2) s.php.entries := by
  cases declared with
  | php cs =>
    show (cs.foldl (registerClass ⟨location⟩) s.php).entries = _
    rw [Manifest.Declared.classEntries, List.foldl_map]
    induction cs generalizing s with
    | nil => rfl
    | cons c cs ih => exact ih { s with php := registerClass ⟨location⟩ s.php c }
  | _ => rfl

/-- The files of a snapshot after some files that can be read have been entered. -/
private theorem files_entered {files : List SourceFile} (h : ∀ f ∈ files, f.Readable families) :
    ((files.map (reading root families)).foldl enter {}).files =
      KeyMap.ofList (contentEntries root files) := by
  have hcontent : contentEntries root files =
      files.map fun f => (root.relativeText f.path, (reading root families f).content.data) := by
    rw [← List.filterMap_eq_map, contentEntries]
    refine List.filterMap_congr fun f hf => ?_
    obtain ⟨content, hcontent, -⟩ := h f hf
    simp [reading, hcontent, Except.toOption]
  rw [files_foldl_enter, hcontent, List.map_map]
  rfl

/-- The snapshot of files that can be read holds the last of everything. -/
theorem holdsLast_of_load {files : List SourceFile} (h : ∀ f ∈ files, f.Readable families)
    {s : Snapshot} (hs : load root files families policy = .ok s) :
    s.HoldsLast root families policy files := by
  obtain rfl := Except.ok.inj ((load_eq_ok h).symm.trans hs)
  have hphp : ((files.map (reading root families)).foldl enter {}).php.entries =
      KeyMap.ofList (declaredEntries root families Manifest.Declared.classEntries files) :=
    entries_foldl_enter Snapshot.php rfl (fun _ _ => rfl) php_register files
  refine ⟨?php, ?database, ?settings, ?xsd, ?less, ?contents, ?hierarchy⟩
  case php => exact Registry.holdsLast_of_entries hphp
  case database =>
    refine Registry.holdsLast_of_entries
      (entries_foldl_enter Snapshot.database rfl (fun _ _ => rfl) ?_ files)
    exact fun s location declared => by cases declared <;> rfl
  case settings =>
    refine Registry.holdsLast_of_entries
      (entries_foldl_enter Snapshot.settings rfl (fun _ _ => rfl) ?_ files)
    exact fun s location declared => by cases declared <;> rfl
  case xsd =>
    refine Registry.holdsLast_of_entries
      (entries_foldl_enter Snapshot.xsd rfl (fun _ _ => rfl) ?_ files)
    exact fun s location declared => by cases declared <;> rfl
  case less =>
    refine Registry.holdsLast_of_entries
      (entries_foldl_enter Snapshot.less rfl (fun _ _ => rfl) ?_ files)
    exact fun s location declared => by cases declared <;> rfl
  case contents =>
    intro location bytes
    show KeyMap.find? ((files.map (reading root families)).foldl enter {}).files location = _ ↔ _
    rw [files_entered h, KeyMap.find?_ofList_iff_isLast]
  case hierarchy =>
    -- The registry lists what is left in the order of the keys; the hierarchy is built from that.
    have hvalues : ((files.map (reading root families)).foldl enter {}).php.values =
        ((files.map (reading root families)).foldl enter {}).php.toList.map (·.2.value) :=
      List.map_map
    refine ⟨((files.map (reading root families)).foldl enter {}).php.toList, KeyMap.sorted _,
      fun e => ?_, congrArg (Php.Hierarchy.build · policy) hvalues, ?_⟩
    · rw [← KeyMap.find?_ofList_iff_isLast, ← hphp]
      exact KeyMap.mem_toList_iff _
    · rw [← hvalues]
      exact Php.Hierarchy.statedBy_build _ policy

/-! ## The order of files -/

/-- Steps that may change places with each other may do so as a whole. -/
private theorem foldl_comm {σ α β : Type} {f : σ → α → σ} {g : σ → β → σ} {as : List α}
    {bs : List β} (h : ∀ a ∈ as, ∀ b ∈ bs, ∀ s, g (f s a) b = f (g s b) a) (s : σ) :
    bs.foldl g (as.foldl f s) = as.foldl f (bs.foldl g s) := by
  have hone : ∀ a ∈ as, ∀ s, bs.foldl g (f s a) = f (bs.foldl g s) a := by
    intro a ha
    have ha := h a ha
    clear h
    induction bs with
    | nil => exact fun _ => rfl
    | cons b bs ih =>
      obtain ⟨hb, hbs⟩ := List.forall_mem_cons.mp ha
      intro s
      rw [List.foldl_cons, List.foldl_cons, hb, ih hbs]
  clear h
  induction as generalizing s with
  | nil => rfl
  | cons a as ih =>
    obtain ⟨ha, has⟩ := List.forall_mem_cons.mp hone
    rw [List.foldl_cons, List.foldl_cons, ih _ has, ha]

/-- Values under two keys may be registered in either order. -/
private theorem Registry.insert_comm {α : Type} (r : Registry α) {c c' : Context} {k k' : String}
    (h : (⟨c, k⟩ : Registry.Key) ≠ ⟨c', k'⟩) (x x' : α) (l l' : Path) :
    (r.insert c k x l).insert c' k' x' l' = (r.insert c' k' x' l').insert c k x l :=
  congrArg Registry.mk (KeyMap.insert_comm r.entries h _ _)

/-- Registering a virtual type does not show under another name. -/
private theorem get?_registerType (location : Path) (r : Registry Di.VirtualType)
    {v : Di.VirtualType} {name : String} (h : name ≠ v.name) :
    (registerType location r v).get? .di name = r.get? .di name := by
  unfold registerType
  split
  · rfl
  · rw [Registry.get?, Registry.find?_insert, if_neg fun heq => h heq.2, Registry.get?]

/-- Virtual types of two names may be registered in either order: whether one gives way depends on
what is there under its own name. -/
private theorem registerType_comm (r : Registry Di.VirtualType) {v w : Di.VirtualType}
    (h : v.name ≠ w.name) (l l' : Path) :
    registerType l' (registerType l r v) w = registerType l (registerType l' r w) v := by
  have hw := get?_registerType l r h.symm
  have hv := get?_registerType l' r h
  have hkeys : (⟨.di, v.name⟩ : Registry.Key) ≠ ⟨.di, w.name⟩ := fun heq =>
    h (Registry.Key.mk.inj heq).2
  have hsecond : ∀ r' : Registry Di.VirtualType, r'.get? .di w.name = r.get? .di w.name →
      registerType l' r' w = if ((r.get? .di w.name).any (·.isGlobal)) && !w.isGlobal then r'
        else r'.insert .di w.name w l' := by
    intro r' hr'
    rw [registerType, hr']
  have hfirst : ∀ r' : Registry Di.VirtualType, r'.get? .di v.name = r.get? .di v.name →
      registerType l r' v = if ((r.get? .di v.name).any (·.isGlobal)) && !v.isGlobal then r'
        else r'.insert .di v.name v l := by
    intro r' hr'
    rw [registerType, hr']
  rw [hsecond _ hw, hfirst _ hv, hsecond r rfl, hfirst r rfl]
  split
  · rfl
  · split
    · rfl
    · exact Registry.insert_comm r hkeys v w l l'

/-- Manifests that declare nothing under one key may be registered in either order. -/
private theorem register_comm (s : Snapshot) {l l' : String} {d d' : Manifest.Declared}
    (h : ∀ key ∈ d.keys l, key ∉ d'.keys l') :
    (s.register l d).register l' d' = (s.register l' d').register l d := by
  have hsingle : ∀ {k k' : Registry.Key}, (∀ key ∈ [k], key ∉ [k']) → k ≠ k' :=
    fun hne heq => hne _ List.mem_cons_self (heq ▸ List.mem_cons_self)
  -- Manifests of two families go into two registries; those of one family are compared by key.
  cases d <;> cases d' <;> try rfl
  case php.php cs cs' =>
    refine congrArg (fun php => ({ s with php } : Snapshot)) ?_
    refine foldl_comm (fun c hc c' hc' r => Registry.insert_comm r ?_ _ _ _ _) s.php
    exact fun heq => h _ (List.mem_map_of_mem hc) (heq ▸ List.mem_map_of_mem hc')
  case database.database =>
    exact congrArg (fun database => ({ s with database } : Snapshot))
      (Registry.insert_comm s.database (hsingle h) _ _ _ _)
  case di.di c c' =>
    refine congrArg (fun di => ({ s with di } : Snapshot)) ?_
    show c'.types.foldl (registerType ⟨l'⟩) (c.types.foldl (registerType ⟨l⟩) s.di) =
      c.types.foldl (registerType ⟨l⟩) (c'.types.foldl (registerType ⟨l'⟩) s.di)
    refine foldl_comm (fun v hv w hw r => ?_) s.di
    have hname : v.name ≠ w.name := fun heq =>
      h ⟨.di, v.name⟩ (List.mem_map_of_mem hv) (heq ▸ List.mem_map_of_mem hw)
    exact registerType_comm r hname ⟨l⟩ ⟨l'⟩
  case xsd.xsd =>
    exact congrArg (fun xsd => ({ s with xsd } : Snapshot))
      (Registry.insert_comm s.xsd (hsingle h) _ _ _ _)
  case settings.settings =>
    exact congrArg (fun settings => ({ s with settings } : Snapshot))
      (Registry.insert_comm s.settings (hsingle h) _ _ _ _)
  case less.less =>
    exact congrArg (fun less => ({ s with less } : Snapshot))
      (Registry.insert_comm s.less (hsingle h) _ _ _ _)

/-- Registering a manifest does not look at the files. -/
private theorem register_withFiles (s : Snapshot) (files : KeyMap String (Array UInt8))
    (location : String) (declared : Manifest.Declared) :
    ({ s with files } : Snapshot).register location declared =
      { s.register location declared with files } := by
  cases declared <;> rfl

/-- Files of different locations that declare nothing under one key may be entered in either
order. -/
theorem enter_comm (s : Snapshot) {x y : Scanned} (hlocation : x.location ≠ y.location)
    (hkeys : ∀ key ∈ x.declared.elim [] (·.keys x.location),
      key ∉ y.declared.elim [] (·.keys y.location)) :
    (s.enter x).enter y = (s.enter y).enter x := by
  obtain ⟨l, content, d⟩ := x
  obtain ⟨l', content', d'⟩ := y
  have hfiles := KeyMap.insert_comm s.files hlocation content.data content'.data
  have hregister : ∀ (s : Snapshot) (location : String) (declared : Manifest.Declared),
      (s.register location declared).files = s.files := by
    intro s location declared
    cases declared <;> rfl
  cases d <;> cases d' <;>
    simp only [enter, Option.map_none, Option.map_some, Option.getD_none, Option.getD_some,
      register_withFiles, hregister]
  case none.none => rw [hfiles]
  case none.some => rw [hfiles]
  case some.none => rw [hfiles]
  case some.some d d' => rw [hfiles, register_comm s hkeys]

/-- Files that can be read and are separate from each other load alike in any order. -/
theorem load_perm {files files' : List SourceFile} (h : ∀ f ∈ files, f.Readable families)
    (hseparate : files.Pairwise (SourceFile.Separate root families)) (hperm : files'.Perm files) :
    load root files' families policy = load root files families policy := by
  have hsymm : Std.Symm (SourceFile.Separate root families) :=
    ⟨fun f g hfg => ⟨hfg.1.symm, fun key hg hf => hfg.2 key hf hg⟩⟩
  have hfold : (files'.map (reading root families)).foldl enter {} =
      (files.map (reading root families)).foldl enter {} := by
    rw [List.foldl_map, List.foldl_map]
    refine hperm.foldl_eq' (fun f hf g hg s => ?_) _
    by_cases heq : f = g
    · rw [heq]
    · obtain ⟨hlocation, hkeys⟩ := hseparate.forall (hperm.mem_iff.mp hf) (hperm.mem_iff.mp hg) heq
      exact enter_comm s hlocation hkeys
  rw [load_eq_ok h, load_eq_ok fun f hf => h f (hperm.mem_iff.mp hf), hfold]

/-- Files that can be read, and of which the manifests can be read, load as a snapshot that holds
the last declaration of every key, and the last content of every path, in the order of the files. If
no two of them declare something under one key or have one relative path, they load as the same
snapshot in any order. -/
theorem load_holdsLast (root : Path) {files : List SourceFile}
    (h : ∀ f ∈ files, f.Readable families) (policy : Php.CyclePolicy) :
    ∃ s, load root files families policy = .ok s ∧ s.HoldsLast root families policy files ∧
      (files.Pairwise (SourceFile.Separate root families) →
        ∀ files', files'.Perm files → load root files' families policy = .ok s) := by
  have hload : load root files families policy = .ok _ := load_eq_ok h
  refine ⟨_, hload, holdsLast_of_load h hload, fun hseparate files' hperm => ?_⟩
  rw [load_perm h hseparate hperm, hload]

/-- A manifest that declares a class twice, another one, and a file that is no manifest. -/
private def sources : List SourceFile :=
  [⟨⟨"r/a.php.json"⟩, .ok ("[\x7b\"kind\":\"class\",\"name\":\"A\",\"extends\":[\"B\"]\x7d," ++
      "\x7b\"kind\":\"class\",\"name\":\"A\"\x7d]").toUTF8⟩,
   ⟨⟨"r/c.php.json"⟩, .ok "\x7b\"kind\":\"class\",\"name\":\"C\"\x7d".toUTF8⟩,
   ⟨⟨"r/notes.txt"⟩, .ok "text".toUTF8⟩]

/-- Of a class that is declared twice the second declaration stays, and the relation of the first
leaves nothing behind, whichever way round the files are listed. -/
theorem load_holdsLast_twice : ∃ s,
    load ⟨"r"⟩ sources Family.all .error = .ok s ∧
    load ⟨"r"⟩ sources.reverse Family.all .error = .ok s ∧
    s.HoldsLast ⟨"r"⟩ Family.all .error sources ∧
    s.hierarchy.edges = [] ∧ s.hierarchy.entities.keys = ["a", "c"] ∧
    s.files.keys = ["a.php.json", "c.php.json", "notes.txt"] := by
  have hseparate : sources.Pairwise (SourceFile.Separate ⟨"r"⟩ Family.all) := by decide +kernel
  have hparts : (load ⟨"r"⟩ sources Family.all .error).map (fun s =>
      (s.hierarchy.edges, s.hierarchy.entities.keys, s.files.keys)) =
      .ok ([], ["a", "c"], ["a.php.json", "c.php.json", "notes.txt"]) := by
    decide +kernel
  obtain ⟨s', hs', hparts⟩ := exists_of_map_eq_ok hparts
  obtain ⟨s, hs, hlast, horder⟩ := load_holdsLast ⟨"r"⟩ (readable_of_load hs') .error
  obtain rfl := Except.ok.inj (hs.symm.trans hs')
  simp only [Prod.mk.injEq] at hparts
  obtain ⟨hedges, hentities, hfiles⟩ := hparts
  exact ⟨s, hs, horder hseparate _ (List.reverse_perm _), hlast, hedges, hentities, hfiles⟩

end Snapshot

end VersionBump
