import VersionBump.Proofs.DivisionContents
import VersionBump.Proofs.RelativePaths
import VersionBump.Settings.Differences

/-!
# Lost settings

A section, group or field that is gone is reported under its path, which joins the ids above it with
slashes. The nodes of a module are compared by path alone, so a node is reported as lost only if no
other node has its path: an id with a slash in it can make a group look like a section.

* `Settings.Address` names a node by its ids, and `Settings.Config.Declares` says whether some
  settings have it.
* `Settings.Address.Shows` is the exact condition under which a loss is reported, and
  `Settings.Address.shows_of_plain` says that it holds where no id has a slash.
* `Settings.lost_node_reported_iff` is the statement, and `Settings.group_lost_in_silence` a group
  that is lost without a report.
-/

namespace VersionBump.Settings

/-! ## Addresses -/

/-- A node of the settings by the ids that lead to it. -/
inductive Address where
  | ofSection (s : String)
  | ofGroup (s g : String)
  | ofField (s g f : String)
  deriving DecidableEq, Repr

namespace Address

/-- The ids from the section down. -/
def ids : Address → List String
  | ofSection s => [s]
  | ofGroup s g => [s, g]
  | ofField s g f => [s, g, f]

/-- The path of the node. -/
def path (a : Address) : String := Text.joinWith "/" a.ids

/-- What kind of node it is. -/
def kind : Address → NodeKind
  | ofSection _ => .sectionNode
  | ofGroup _ _ => .groupNode
  | ofField _ _ _ => .fieldNode

/-- The change that the loss of the node is. -/
def removal : Address → SettingsChange
  | ofSection _ => .sectionRemoved
  | ofGroup _ _ => .groupRemoved
  | ofField _ _ _ => .fieldRemoved

/-- Addresses are known by their ids. -/
theorem ids_injective {a b : Address} (h : a.ids = b.ids) : a = b := by
  cases a <;> cases b <;> simp_all [ids]

/-- Addresses whose ids have no slashes are known by their paths. -/
theorem eq_of_path_eq {a b : Address} (ha : ∀ id ∈ a.ids, '/' ∉ id.toList)
    (hb : ∀ id ∈ b.ids, '/' ∉ id.toList) (h : a.path = b.path) : a = b := by
  have hne : ∀ a : Address, a.ids ≠ [] := fun a => by cases a <;> simp [ids]
  exact ids_injective (Text.joinWith_injective (hne a) (hne b) ha hb h)

end Address

namespace Config

/-- The settings have a node: a section of the id, a group of the id in such a section, or a field of
the id in such a group. -/
def Declares (c : Config) : Address → Prop
  | .ofSection s => ∃ x ∈ c.sections, x.id = s
  | .ofGroup s g => ∃ x ∈ c.sections, x.id = s ∧ ∃ y ∈ x.groups, y.id = g
  | .ofField s g f => ∃ x ∈ c.sections, x.id = s ∧ ∃ y ∈ x.groups, y.id = g ∧ ∃ z ∈ y.fields, z.id = f

instance (c : Config) : (a : Address) → Decidable (c.Declares a)
  | .ofSection s => inferInstanceAs (Decidable (∃ x ∈ c.sections, x.id = s))
  | .ofGroup s g =>
    inferInstanceAs (Decidable (∃ x ∈ c.sections, x.id = s ∧ ∃ y ∈ x.groups, y.id = g))
  | .ofField s g f =>
    inferInstanceAs (Decidable (∃ x ∈ c.sections, x.id = s ∧ ∃ y ∈ x.groups, y.id = g ∧
      ∃ z ∈ y.fields, z.id = f))

/-- The addresses of the nodes, in the order of the nodes. -/
def addresses (c : Config) : List Address :=
  c.sections.flatMap fun s => .ofSection s.id :: s.groups.flatMap fun g =>
    g.fields.map (fun f => .ofField s.id g.id f.id) ++ [.ofGroup s.id g.id]

/-- The settings have exactly the nodes of the list of addresses. -/
theorem mem_addresses {c : Config} {a : Address} : a ∈ c.addresses ↔ c.Declares a := by
  cases a <;> simp [addresses, Declares] <;> grind

/-- No id of the settings has a slash. -/
def Plain (c : Config) : Prop := ∀ a ∈ c.addresses, ∀ id ∈ a.ids, '/' ∉ id.toList

instance (c : Config) : Decidable c.Plain :=
  inferInstanceAs (Decidable (∀ a ∈ c.addresses, ∀ id ∈ a.ids, '/' ∉ id.toList))

/-- The nodes are listed with the paths and kinds of their addresses. -/
theorem map_nodes (c : Config) :
    c.nodes.map (fun n => (n.path, n.kind)) = c.addresses.map fun a => (a.path, a.kind) := by
  have hsection : ∀ s, (Address.ofSection s).path = s := fun s => by
    simp [Address.path, Address.ids, Text.joinWith]
  have hgroup : ∀ s g, (Address.ofGroup s g).path = s ++ "/" ++ g := fun s g => by
    simp [Address.path, Address.ids, Text.joinWith, String.append_assoc]
  have hfield : ∀ s g f, (Address.ofField s g f).path = s ++ "/" ++ g ++ "/" ++ f := fun s g f => by
    simp [Address.path, Address.ids, Text.joinWith, String.append_assoc]
  simp [nodes, addresses, Section.nodes, Group.nodes, Field.node, Function.comp_def,
    List.map_flatMap, Address.kind, hsection, hgroup, hfield]

/-- Under a path the last node that has it is found. -/
theorem map_kind_find?_byPath (c : Config) (path : String) : (c.byPath.find? path).map (·.kind) =
    ((c.addresses.filter (·.path = path)).getLast?).map (·.kind) := by
  have hfind : c.byPath.find? path = (c.nodes.filter (·.path = path)).getLast? := by
    rw [byPath, KeyMap.find?_ofList, List.filter_map, List.getLast?_map, Option.map_map]
    exact congrFun Option.map_id _
  -- The last of the paths with their kinds is the same in both lists.
  have hpairs := congrArg (fun es => ((es.filter (·.1 = path)).getLast?).map (·.2)) c.map_nodes
  simp only [List.filter_map, List.getLast?_map, Option.map_map] at hpairs
  rw [hfind]
  exact hpairs

/-- Under a path nothing is found exactly if no node has it. -/
theorem find?_byPath_eq_none_iff {c : Config} {path : String} :
    c.byPath.find? path = none ↔ ∀ a ∈ c.addresses, a.path ≠ path := by
  rw [← Option.map_eq_none_iff, map_kind_find?_byPath, Option.map_eq_none_iff,
    List.getLast?_eq_none_iff, List.filter_eq_nil_iff]
  simp only [decide_eq_true_eq, ne_eq]

end Config

/-! ## Losses -/

/-- The loss of a node can be told by paths: none of the later nodes has its path, and the last of
the earlier nodes with its path is of its kind. -/
structure Address.Shows (a : Address) (old new : Config) : Prop where
  absent : ∀ b ∈ new.addresses, b.path ≠ a.path
  last : ((old.addresses.filter (·.path = a.path)).getLast?).map (·.kind) = some a.kind

/-- Where no id has a slash, the loss of every node can be told by paths. -/
theorem Address.shows_of_plain {a : Address} {old new : Config} (hold : old.Plain) (hnew : new.Plain)
    (ha : old.Declares a) (hgone : ¬ new.Declares a) : a.Shows old new := by
  have ha := Config.mem_addresses.mpr ha
  refine ⟨fun b hb heq => ?_, ?_⟩
  · rw [Address.eq_of_path_eq (hnew b hb) (hold a ha) heq] at hb
    exact hgone (Config.mem_addresses.mp hb)
  · have hne : old.addresses.filter (·.path = a.path) ≠ [] :=
      List.ne_nil_of_mem (List.mem_filter.mpr ⟨ha, by simp⟩)
    obtain ⟨hin, hpath⟩ := List.mem_filter.mp (List.getLast_mem hne)
    -- The last node with the path has the same ids.
    have hsame := Address.eq_of_path_eq (hold _ hin) (hold a ha)
      (by simpa using hpath)
    rw [List.getLast?_eq_some_getLast hne, hsame]
    rfl

variable {t : Severity.Table} {location : Path} {old new : Config} {a : Address}

/-- The kinds of change for the loss of a node and for the loss of an address agree if the kinds of
node do. -/
theorem removedChange_eq_removal_iff (n : Node) : removedChange n = a.removal ↔ n.kind = a.kind := by
  obtain ⟨path, kind, type, scopes⟩ := n
  cases kind <;> cases a <;> simp [removedChange, Address.removal, Address.kind]

/-- Operations for changes of settings tell the kinds and the targets. -/
private theorem op_eq_op_iff {kind kind' : SettingsChange} {target target' : String} :
    op t kind target location = op t kind' target' location ↔ kind = kind' ∧ target = target' := by
  refine ⟨fun h => ⟨?_, congrArg Operation.target h⟩, fun ⟨hkind, htarget⟩ => by rw [hkind, htarget]⟩
  exact Change.settings.inj (congrArg Operation.kind h)

/-- Comparing two nodes of one path finds no loss. -/
private theorem kind_ne_removal {target : String} {before after : Node} {o : Operation}
    (h : o ∈ compareNodes t target location before after) : o.kind ≠ .settings a.removal := by
  have hscope : ∀ kind ∈ scopeChange? before.scopes after.scopes, kind ≠ a.removal := by
    intro kind hkind
    unfold scopeChange? at hkind
    cases a <;> grind [Address.removal]
  have htype : SettingsChange.fieldTypeChanged ≠ a.removal := by cases a <;> exact nofun
  unfold compareNodes at h
  split at h
  · rcases List.mem_append.mp h with h | h
    · split at h
      · exact absurd h List.not_mem_nil
      · rw [List.mem_singleton.mp h]
        exact fun heq => htype (Change.settings.inj heq)
    · obtain ⟨kind, hkind, rfl⟩ := Option.map_eq_some_iff.mp (Option.mem_toList.mp h)
      exact fun heq => hscope kind hkind (Change.settings.inj heq)
  · exact absurd h List.not_mem_nil

/-- A loss is reported where two settings are compared exactly if it can be told by paths. -/
theorem removal_mem_compareConfigs_iff :
    op t a.removal a.path location ∈ compareConfigs t location old new ↔ a.Shows old new := by
  have hadded : ∀ n, a.removal ≠ addedChange n := by
    rintro ⟨path, kind, type, scopes⟩
    cases kind <;> cases a <;> simp [addedChange, Address.removal]
  have hshows : a.Shows old new ↔
      (∃ n, old.byPath.find? a.path = some n ∧ n.kind = a.kind) ∧ new.byPath.find? a.path = none := by
    rw [Config.find?_byPath_eq_none_iff, ← Option.map_eq_some_iff, Config.map_kind_find?_byPath]
    exact ⟨fun h => ⟨h.last, h.absent⟩, fun h => ⟨h.2, h.1⟩⟩
  rw [hshows, compareConfigs, KeyDiff.mem_collect]
  simp only [List.mem_singleton, op_eq_op_iff]
  constructor
  · rintro (⟨path, n, -, -, hkind, -⟩ | ⟨path, n, hn, hnone, hkind, rfl⟩ | ⟨path, m, n, -, -, hop⟩)
    · exact absurd hkind (hadded n)
    · exact ⟨⟨n, hn, (removedChange_eq_removal_iff n).mp hkind.symm⟩, hnone⟩
    · exact absurd rfl (kind_ne_removal (a := a) hop)
  · rintro ⟨⟨n, hn, hkind⟩, hnone⟩
    exact .inr (.inl ⟨_, n, hn, hnone, ((removedChange_eq_removal_iff n).mpr hkind).symm, rfl⟩)

/-- The settings of a module that is there on both sides are compared. -/
theorem mem_differences_of_mem_compareConfigs {before after : Registry Config} {module : String}
    {old new : Located Config} (hold : before.find? .settings module = some old)
    (hnew : after.find? .settings module = some new) {o : Operation}
    (h : o ∈ compareConfigs t new.location old.value new.value) : o ∈ differences t before after := by
  refine KeyDiff.mem_collect.mpr (.inr (.inr ⟨module, old, new, ?_, ?_, h⟩))
  · rw [Registry.find?_inContext, hold]
  · rw [Registry.find?_inContext, hnew]

/-- A section, group or field of a module that the later settings of the module do not have is
reported by the comparison of the module under its path, with its kind of loss, exactly if the loss
can be told by paths, and the differences of the settings have whatever that comparison reports. So
every loss is reported where no id has a slash. -/
theorem lost_node_reported_iff (t : Severity.Table) {before after : Registry Config} {module : String}
    {old new : Located Config} (hold : before.find? .settings module = some old)
    (hnew : after.find? .settings module = some new) (a : Address) (ha : old.value.Declares a)
    (hgone : ¬ new.value.Declares a) :
    (op t a.removal a.path new.location ∈ compareConfigs t new.location old.value new.value ↔
      a.Shows old.value new.value) ∧
    (a.Shows old.value new.value →
      op t a.removal a.path new.location ∈ differences t before after) ∧
    (old.value.Plain → new.value.Plain →
      op t a.removal a.path new.location ∈ differences t before after) := by
  have hreport : a.Shows old.value new.value →
      op t a.removal a.path new.location ∈ differences t before after := fun h =>
    mem_differences_of_mem_compareConfigs hold hnew (removal_mem_compareConfigs_iff.mpr h)
  exact ⟨removal_mem_compareConfigs_iff, hreport, fun hplain hplain' =>
    hreport (Address.shows_of_plain hplain hplain' ha hgone)⟩

/-- The settings of a module as the only ones. -/
private def only (c : Config) : Registry Config :=
  (∅ : Registry Config).insert .settings c.module c ⟨"etc/system.json"⟩

/-- A section with a group of some fields, and a section whose id is the path of that group. -/
private def shadowed (fields : List Field) : Config := ⟨"M", [⟨"a", [⟨"b", fields⟩]⟩, ⟨"a/b", []⟩]⟩

/-- The same sections without the group. -/
private def ungrouped : Config := ⟨"M", [⟨"a", []⟩, ⟨"a/b", []⟩]⟩

/-- A section with a group. -/
private def plain : Config := ⟨"M", [⟨"a", [⟨"b", []⟩]⟩]⟩

/-- The loss of a group is reported where no id has a slash, and so is the loss of a field although
there are ids with slashes. -/
theorem lost_node_reported_iff_group :
    op {} .groupRemoved "a/b" ⟨"etc/system.json"⟩ ∈ differences {} (only plain) (only ⟨"M", []⟩) ∧
    op {} .fieldRemoved "a/b/c" ⟨"etc/system.json"⟩ ∈
      differences {} (only (shadowed [{ id := "c" }])) (only ungrouped) := by
  have hgrouped : (only plain).find? .settings "M" = some ⟨plain, ⟨"etc/system.json"⟩⟩ := by decide
  have hempty : (only ⟨"M", []⟩).find? .settings "M" = some ⟨⟨"M", []⟩, ⟨"etc/system.json"⟩⟩ := by
    decide
  have hplain := lost_node_reported_iff {} hgrouped hempty (.ofGroup "a" "b") (by decide) (by decide)
  have hfield : (only (shadowed [{ id := "c" }])).find? .settings "M" =
      some ⟨shadowed [{ id := "c" }], ⟨"etc/system.json"⟩⟩ := by decide
  have hungrouped : (only ungrouped).find? .settings "M" = some ⟨ungrouped, ⟨"etc/system.json"⟩⟩ := by
    decide
  have hslash := lost_node_reported_iff {} hfield hungrouped (.ofField "a" "b" "c") (by decide)
    (by decide)
  exact ⟨hplain.2.2 (by decide) (by decide), hslash.2.1 ⟨by decide, by decide⟩⟩

/-- A group whose path is the id of a section is lost, and nothing is reported. -/
theorem group_lost_in_silence :
    (shadowed []).Declares (.ofGroup "a" "b") ∧ ¬ ungrouped.Declares (.ofGroup "a" "b") ∧
      differences {} (only (shadowed [])) (only ungrouped) = [] := by
  decide

end VersionBump.Settings
