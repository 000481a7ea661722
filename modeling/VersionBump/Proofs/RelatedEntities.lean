import VersionBump.Proofs.ReachableEntities

/-!
# Related entities

A hierarchy stores each relation once and lists it from both sides. What is listed as related to an
entity is read off the same relations whichever side is asked, so the two lists agree, and as no two
entities have the same name, each list is strictly in the order of names.

* `Hierarchy.nodup_neighbours`: an entity lies next to another once for each relation.
* `Hierarchy.mem_related_towardsSources_iff` and `Hierarchy.mem_related_towardsUsers_iff` say what is
  listed on either side, and `Hierarchy.Closed.pairwise_related` in which order.
* `Hierarchy.idOf?_of_steps`: a name keeps what it denotes.
* `Hierarchy.Arises.represents` puts these together for every hierarchy that arises.
-/

open Relation (ReflTransGen)

namespace VersionBump.Php

namespace Hierarchy

variable {h h' : Hierarchy} {relation : Relation} {user source : String} {e : Entity}

/-! ## What is listed -/

/-- Of one relation an entity has each other entity next to it at most once. -/
theorem nodup_neighbours (hedges : h.edges.Nodup) (relation : Relation) (direction : Direction)
    (key : String) : (h.neighbours [relation] direction key).Nodup := by
  rw [neighbours, List.Nodup, List.pairwise_filterMap]
  refine (hedges.filter _).imp_of_mem fun {a b} ha hb hne next ha' next' hb' heq => hne ?_
  subst heq
  -- One end is the key, the other one is given, and the relation is the one that is asked for.
  have hrelation : a.relation = b.relation := by
    have ha := of_decide_eq_true (List.mem_filter.mp ha).2
    have hb := of_decide_eq_true (List.mem_filter.mp hb).2
    rw [List.mem_singleton.mp ha, List.mem_singleton.mp hb]
  obtain ⟨user, relation, source⟩ := a
  obtain ⟨user', relation', source'⟩ := b
  cases direction <;> simp_all [Edge.next?]

/-- What is listed lies next to the entity and is an entity itself. -/
theorem mem_related_iff {direction : Direction} {key : String} :
    e ∈ h.related relation direction key ↔
      ∃ next ∈ h.neighbours [relation] direction key, h.entities.find? next = some e := by
  rw [related, List.mem_mergeSort, List.mem_filterMap]

/-- An entity is listed under one key of a closed hierarchy only. -/
theorem Closed.key_unique (hc : h.Closed) {key key' : String}
    (he : h.entities.find? key = some e) (he' : h.entities.find? key' = some e) : key = key' :=
  (hc.key_name key e he).symm.trans (hc.key_name key' e he')

/-- The entities that one has a relation to are listed as its sources. -/
theorem mem_related_towardsSources_iff (hc : h.Closed)
    (hsource : h.entities.find? source = some e) :
    e ∈ h.related relation .towardsSources user ↔ ⟨user, relation, source⟩ ∈ h.edges := by
  rw [mem_related_iff]
  simp only [mem_neighbours_towardsSources, List.mem_singleton, exists_eq_left]
  constructor
  · rintro ⟨next, hedge, hnext⟩
    rwa [hc.key_unique hsource hnext]
  · exact fun hedge => ⟨source, hedge, hsource⟩

/-- The entities that have a relation to one are listed as its users. -/
theorem mem_related_towardsUsers_iff (hc : h.Closed) (huser : h.entities.find? user = some e) :
    e ∈ h.related relation .towardsUsers source ↔ ⟨user, relation, source⟩ ∈ h.edges := by
  rw [mem_related_iff]
  simp only [mem_neighbours_towardsUsers, List.mem_singleton, exists_eq_left]
  constructor
  · rintro ⟨next, hedge, hnext⟩
    rwa [hc.key_unique huser hnext]
  · exact fun hedge => ⟨user, hedge, huser⟩

/-- Names in order that differ are strictly in order. -/
private theorem lt_of_isLE_of_ne {a b : String} (hle : (compare a b).isLE = true) (hne : a ≠ b) :
    a < b := by
  have heq : compare a b ≠ .eq := fun heq => hne (Std.LawfulEqOrd.eq_of_compare heq)
  have hlt : compare a b = .lt := by
    cases hcmp : compare a b <;> simp_all
  exact compareOfLessAndEq_eq_lt.mp hlt

/-- What is listed is strictly in the order of names, so each entity is listed once. -/
theorem Closed.pairwise_related (hc : h.Closed) (relation : Relation) (direction : Direction)
    (key : String) :
    (h.related relation direction key).Pairwise fun a b => a.name < b.name := by
  -- Entities under different keys have different names.
  have hdistinct : ((h.neighbours [relation] direction key).filterMap h.entities.find?).Pairwise
      fun a b => a.name ≠ b.name := by
    rw [List.pairwise_filterMap]
    refine (nodup_neighbours hc.nodup_edges relation direction key).imp
      fun {k k'} hne a ha b hb hname => hne ?_
    rw [← hc.key_name k a ha, ← hc.key_name k' b hb, hname]
  have hnames : (h.related relation direction key).Pairwise fun a b => a.name ≠ b.name :=
    (List.mergeSort_perm _ _).symm.pairwise hdistinct fun hne => hne.symm
  have hsorted : (h.related relation direction key).Pairwise fun a b =>
      (compare a.name b.name).isLE = true := Name.pairwise_mergeSort_compare Entity.name _
  exact (hsorted.and hnames).imp fun hboth => lt_of_isLE_of_ne hboth.1 hboth.2

/-! ## What is kept -/

/-- A name goes on denoting what it denotes. -/
theorem idOf?_of_steps (hs : ReflTransGen Step h h') {name id : String}
    (hid : h.idOf? name = some id) : h'.idOf? name = some id := by
  obtain ⟨hkey, hknown⟩ := idOf?_eq_some_iff.mp hid
  exact idOf?_eq_some_iff.mpr ⟨hkey, contains_of_steps hs hknown⟩

/-- After an edge has been stated, it and the earlier ones are there. -/
theorem mem_edges_relate_iff (h : Hierarchy) (edge other : Edge) :
    other ∈ (h.relate edge).edges ↔ other = edge ∨ other ∈ h.edges := by
  unfold relate
  split
  case isTrue hmem =>
    refine (or_iff_right_of_imp ?_).symm
    rintro rfl
    exact hmem
  case isFalse => exact List.mem_cons

/-! ## The statement -/

/-- In a hierarchy that arises no two entities have the same key, every entity is what its own name
denotes, and a name keeps what it denotes whatever steps follow. A relation between two entities is
listed on one side exactly if it is listed on the other, and what is listed is strictly in the order
of names. Stating a relation again changes nothing, stating a new one adds it, and an entity that is
put in, whether new or in the place of another one, leaves the relations as they are. -/
theorem Arises.represents {policy : CyclePolicy} (ha : h.Arises policy) :
    (h.entities.values.map fun e => Name.key e.name).Nodup ∧
    (∀ id e, h.entities.find? id = some e → h.idOf? e.name = some id ∧ h.entity? e.name = some e) ∧
    (∀ name id, h.idOf? name = some id → ∀ h', ReflTransGen Step h h' → h'.idOf? name = some id) ∧
    (∀ relation user source u s, h.entities.find? user = some u →
      h.entities.find? source = some s →
      (s ∈ h.related relation .towardsSources user ↔ u ∈ h.related relation .towardsUsers source) ∧
      (s ∈ h.related relation .towardsSources user ↔ ⟨user, relation, source⟩ ∈ h.edges)) ∧
    (∀ relation direction id,
      (h.related relation direction id).Pairwise fun a b => a.name < b.name) ∧
    (∀ edge ∈ h.edges, h.relate edge = h) ∧
    (∀ edge other, other ∈ (h.relate edge).edges ↔ other = edge ∨ other ∈ h.edges) ∧
    (∀ e, (h.addEntity e).edges = h.edges) := by
  have hc := ha.closed
  refine ⟨?_, fun id e he => ⟨hc.idOf?_name he, ?_⟩, fun name id hid h' hs => idOf?_of_steps hs hid,
    fun relation user source u s hu hs => ?_, hc.pairwise_related, fun edge hedge => ?_,
    h.mem_edges_relate_iff, fun e => rfl⟩
  · rw [hc.map_key_values]
    exact KeyMap.nodup_keys _
  · rw [entity?, hc.key_name id e he, he]
  · have hsources : s ∈ h.related relation .towardsSources user ↔
        ⟨user, relation, source⟩ ∈ h.edges := mem_related_towardsSources_iff hc hs
    exact ⟨hsources.trans (mem_related_towardsUsers_iff hc hu).symm, hsources⟩
  · rw [relate, if_pos hedge]

/-- Two classes that extend each other, one of which has been replaced in another spelling. -/
private def replaced : Hierarchy :=
  (build [{ name := "A", kind := .classKind, parents := ["B", "C"] },
    { name := "B", kind := .classKind, parents := ["A"] }] .ignore).addEntity
    { name := "\\b", kind := .interfaceKind, isApi := true }

theorem Arises.represents_replaced :
    replaced.Arises .ignore ∧ (replaced.entities.values.map fun e => Name.key e.name).Nodup ∧
      { name := "\\b", kind := .interfaceKind, isApi := true } ∈
        replaced.related .inherits .towardsSources "a" ∧
      { name := "A", kind := .classKind } ∈ replaced.related .inherits .towardsUsers "b" ∧
      (replaced.related .inherits .towardsSources "a").Pairwise (fun a b => a.name < b.name) ∧
      ((replaced.findOrCreate "D" .traitKind).2.setApi "b" false).idOf? "B" = some "b" := by
  have ha : replaced.Arises .ignore := (arises_build _ .ignore).tail (.addEntity _ _)
  obtain ⟨hkeys, -, hkept, hlisted, hsorted, -, -, -⟩ := Arises.represents ha
  have huser : replaced.entities.find? "a" = some { name := "A", kind := .classKind } := by
    decide +kernel
  have hsource : replaced.entities.find? "b" =
      some { name := "\\b", kind := .interfaceKind, isApi := true } := by decide +kernel
  have hedge : (⟨"a", .inherits, "b"⟩ : Edge) ∈ replaced.edges := by decide +kernel
  obtain ⟨hsides, hstated⟩ := hlisted .inherits "a" "b" _ _ huser hsource
  have hsteps : ReflTransGen Step replaced
      ((replaced.findOrCreate "D" .traitKind).2.setApi "b" false) :=
    .tail (.single (.findOrCreate _ _ _)) (.setApi _ _ _)
  have hid : replaced.idOf? "B" = some "b" := by decide +kernel
  exact ⟨ha, hkeys, hstated.mpr hedge, hsides.mp (hstated.mpr hedge), hsorted _ _ _,
    hkept "B" "b" hid _ hsteps⟩

end Hierarchy

end VersionBump.Php
