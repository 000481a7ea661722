import VersionBump.Proofs.InheritedMembers
import VersionBump.Proofs.MemberDetails
import VersionBump.Proofs.SurfaceRuns

/-!
# What runs report

Every operation of a comparison of published surfaces is about the place of the run that reports it.
At a class-like it is about the declaration, by its kind and by its target. At a member it is of the
kinds of the family, and its target is that of a member of the same key.

* `ClassLike.Concerns` and `MemberFamily.Concerns` say what an operation is about, by its context,
  its kind and its target.
* `Place.Holds` says it for a place, and `holds_of_mem_surfaceRuns` is the statement.
* `MemberFamily.NamedApart`: no other member that is compared has a target of a member. Where names
  are plain that is so, by `namedApart_of_plain`, and then no operation of another place is about
  the member, by `not_concerns_of_holds`.
-/

namespace VersionBump.Php

/-- What findings report, on both sides. -/
def Reports (found : Findings) (about : Operation → Prop) : Prop :=
  ∀ op ∈ found.changes ++ found.membership, about op

section Reports

variable {about : Operation → Prop}

private theorem reports_ofChanges {ops : List Operation} (h : ∀ op ∈ ops, about op) :
    Reports (.ofChanges ops) about :=
  fun op hop => h op (by simpa using hop)

private theorem reports_ofMembership {op : Operation} (h : about op) :
    Reports (.ofMembership op) about :=
  fun other hother => by
    obtain rfl : other = op := by simpa using hother
    exact h

private theorem reports_empty : Reports {} about := fun _ hop => nomatch hop

private theorem Reports.append {a b : Findings} (ha : Reports a about) (hb : Reports b about) :
    Reports (a ++ b) about := by
  intro op hop
  simp only [Findings.changes_append, Findings.membership_append, List.mem_append] at hop
  rcases hop with (hop | hop) | (hop | hop)
  · exact ha op (List.mem_append_left _ hop)
  · exact hb op (List.mem_append_left _ hop)
  · exact ha op (List.mem_append_right _ hop)
  · exact hb op (List.mem_append_right _ hop)

/-- What a collection reports is what its elements report. -/
private theorem reports_collect {α : Type} {f : α → Except Cycle Findings} {xs : List α}
    {found : Findings} (h : Findings.collect f xs = .ok found)
    (hxs : ∀ x ∈ xs, ∀ part, f x = .ok part → Reports part about) : Reports found about := by
  induction xs generalizing found with
  | nil =>
    cases h
    exact reports_empty
  | cons x xs ih =>
    obtain ⟨first, hfirst, h⟩ := exists_of_bind_eq_ok h
    obtain ⟨others, hothers, h⟩ := exists_of_bind_eq_ok h
    cases h
    exact (hxs x List.mem_cons_self first hfirst).append
      (ih hothers fun y hy => hxs y (List.mem_cons_of_mem x hy))

end Reports

/-! ## Class-likes -/

/-- An operation about a class-like as such, or about one of its references. -/
structure ClassLike.Concerns (context : Context) (c : ClassLike) (op : Operation) : Prop where
  context : op.context = context
  part : op.kind.part? = some .declaration
  target : op.target = c.fqn ∨ ∃ word ∈ ["extends", "implements", "uses"], ∃ name,
    op.target = c.fqn ++ "::" ++ (word ++ " " ++ name)

section Heads

variable {s : Setting} {context : Context} {b a : Located ClassLike}

private theorem concerns_compareReferences {word : String}
    (hword : word ∈ ["extends", "implements", "uses"]) {gained lost : PhpChange}
    (hgained : gained.part = .declaration) (hlost : lost.part = .declaration) (location : Path)
    (old new : List String) :
    ∀ op ∈ compareReferences ⟨s, context, b, a⟩ word gained lost location old new,
      a.value.Concerns context op := by
  intro op hop
  rcases List.mem_append.mp hop with hop | hop
  · obtain ⟨e, -, rfl⟩ := List.mem_map.mp hop
    exact ⟨rfl, congrArg some hgained, .inr ⟨word, hword, e.2, rfl⟩⟩
  · obtain ⟨e, -, rfl⟩ := List.mem_map.mp hop
    exact ⟨rfl, congrArg some hlost, .inr ⟨word, hword, e.2, rfl⟩⟩

private theorem concerns_compareHeads (location : Path) :
    ∀ op ∈ compareHeads ⟨s, context, b, a⟩ location, a.value.Concerns context op := by
  have hflag : ∀ {ops}, DetailsAt ⟨s, context, b, a⟩ .declaration (· = a.value.fqn) location ops →
      ∀ op ∈ ops, a.value.Concerns context op :=
    fun h op hop => ⟨(h op hop).context, (h op hop).part, .inl (h op hop).target⟩
  simp only [compareHeads, List.forall_mem_append]
  refine ⟨⟨⟨⟨?_, ?_⟩, ?_⟩, ?_⟩, ?_⟩
  · exact concerns_compareReferences (by simp) rfl rfl _ _ _
  · exact concerns_compareReferences (by simp) rfl rfl _ _ _
  · exact concerns_compareReferences (by simp) rfl rfl _ _ _
  · exact hflag (detailsAt_headFlag (by decide) (by decide) _ _)
  · exact hflag (detailsAt_headFlag (by decide) (by decide) _ _)

/-- What is found on the heads of two versions is about the class-like. -/
private theorem reports_headFindings :
    Reports (headFindings s context b a) (a.value.Concerns context) := by
  unfold headFindings
  split
  · exact reports_ofChanges (concerns_compareHeads _)
  · have hmark : ∀ (change : PhpChange) (raised : Bool), change.part = .declaration →
        Reports (if raised then .ofMembership
          (s.table.operation context (.php change) a.value.fqn a.location) else {})
          (a.value.Concerns context) := by
      intro change raised hpart
      split
      · exact reports_ofMembership ⟨rfl, congrArg some hpart, .inl rfl⟩
      · exact reports_empty
    exact (hmark _ _ rfl).append (hmark _ _ rfl)

end Heads

/-! ## Members -/

namespace MemberFamily

variable {α : Type} (f : MemberFamily α)

/-- A member that a class-like of one side declares. -/
def Declares (s : Setting) (m : α) : Prop :=
  ∃ c, (c ∈ s.before.values ∨ c ∈ s.after.values) ∧ m ∈ f.members c

/-- An operation about a member of two versions of a class-like. -/
structure Concerns (p : Pair) (m : α) (op : Operation) : Prop where
  context : op.context = p.context
  part : op.kind.part? = some f.part
  target : p.Targets (f.label m) op.target

/-- An operation about a declared member of the key. -/
def ConcernsKey (p : Pair) (memberKey : String) (op : Operation) : Prop :=
  ∃ m, f.Declares p.setting m ∧ f.key m = memberKey ∧ f.Concerns p m op

end MemberFamily

/-- An operation about a declared member of a part of a class-like, by its key. -/
def Pair.ConcernsMember (p : Pair) (part : Member) (memberKey : String) (op : Operation) : Prop :=
  match part with
  | .declaration => False
  | .method => methodFamily.ConcernsKey p memberKey op
  | .property => propertyFamily.ConcernsKey p memberKey op
  | .constant => constantFamily.ConcernsKey p memberKey op

namespace MemberFamily

/-- The rules of the family report what they are asked about, or an inherited member in its
place. -/
structure Attributes {α : Type} (f : MemberFamily α) : Prop where
  inherits : f.InheritsByKey
  concernsMember_iff : ∀ p memberKey op,
    p.ConcernsMember f.part memberKey op ↔ f.ConcernsKey p memberKey op
  added : ∀ p key a found, (f.rules p).added key a = .ok found →
    Reports found (f.Concerns p a.value)
  removed : ∀ p key b found, (f.rules p).removed key b = .ok found → Reports found fun op =>
    ∃ m, (m = b.value ∨ f.inherited? p.setting.after p.after.value b.value = some m) ∧
      f.Concerns p m op
  changed : ∀ p key b a found, (f.rules p).changed key b a = .ok found →
    Reports found (f.Concerns p a.value)

end MemberFamily

section Families

variable {p : Pair} {location : Path}

/-- Details of a member are about it. -/
private theorem DetailsAt.concerns {α : Type} {f : MemberFamily α} {m : α} {ops : List Operation}
    (h : DetailsAt p f.part (p.Targets (f.label m)) location ops) : ∀ op ∈ ops, f.Concerns p m op :=
  fun op hop => ⟨(h op hop).context, (h op hop).part, (h op hop).target⟩

/-- What appears, disappears or moves is reported as the member itself. -/
private theorem concerns_op {α : Type} {f : MemberFamily α} {m : α} {change : PhpChange}
    (hpart : change.part = f.part) : f.Concerns p m (p.op change (p.target (f.label m)) location) :=
  ⟨rfl, congrArg some hpart, .inl rfl⟩

theorem attributes_methodFamily : methodFamily.Attributes where
  inherits := inheritsByKey_methodFamily
  concernsMember_iff _ _ _ := Iff.rfl
  added p key a found h := by
    simp only [methodFamily, methodRules] at h
    split at h
    · cases h
      exact reports_ofChanges (List.forall_mem_singleton.mpr (concerns_op rfl))
    · obtain ⟨differences, hdifferences, h⟩ := exists_of_bind_eq_ok h
      cases h
      refine reports_ofChanges (List.forall_mem_cons.mpr ⟨concerns_op (f := methodFamily) ?_,
        (detailsAt_compareMethods hdifferences).concerns (f := methodFamily)⟩)
      split <;> rfl
  removed p key b found h := by
    simp only [methodFamily, methodRules] at h
    split at h
    · cases h
      exact reports_ofChanges
        (List.forall_mem_singleton.mpr ⟨b.value, .inl rfl, concerns_op rfl⟩)
    · rename_i inherited hinherited
      obtain ⟨differences, hdifferences, h⟩ := exists_of_bind_eq_ok h
      cases h
      refine reports_ofChanges (List.forall_mem_cons.mpr
        ⟨⟨b.value, .inl rfl, concerns_op rfl⟩, fun op hop => ⟨inherited, .inr hinherited, ?_⟩⟩)
      exact (detailsAt_compareMethods hdifferences).concerns (f := methodFamily) op hop
  changed p key b a found h := by
    obtain ⟨differences, hdifferences, h⟩ := exists_of_bind_eq_ok h
    cases h
    exact reports_ofChanges ((detailsAt_compareMethods hdifferences).concerns (f := methodFamily))

theorem attributes_propertyFamily : propertyFamily.Attributes where
  inherits := inheritsByKey_propertyFamily
  concernsMember_iff _ _ _ := Iff.rfl
  added p key a found h := by
    simp only [propertyFamily, propertyRules] at h
    split at h <;> cases h
    · exact reports_ofChanges (List.forall_mem_singleton.mpr (concerns_op rfl))
    · exact reports_ofChanges (List.forall_mem_cons.mpr ⟨concerns_op (f := propertyFamily) rfl,
        (detailsAt_compareProperties p _ _ _).concerns (f := propertyFamily)⟩)
  removed p key b found h := by
    simp only [propertyFamily, propertyRules] at h
    split at h <;> cases h
    · exact reports_ofChanges
        (List.forall_mem_singleton.mpr ⟨b.value, .inl rfl, concerns_op rfl⟩)
    · rename_i inherited hinherited
      refine reports_ofChanges (List.forall_mem_cons.mpr
        ⟨⟨b.value, .inl rfl, concerns_op rfl⟩, fun op hop => ⟨inherited, .inr hinherited, ?_⟩⟩)
      exact (detailsAt_compareProperties p _ _ _).concerns (f := propertyFamily) op hop
  changed p key b a found h := by
    cases h
    exact reports_ofChanges ((detailsAt_compareProperties p _ _ _).concerns (f := propertyFamily))

theorem attributes_constantFamily : constantFamily.Attributes where
  inherits := inheritsByKey_constantFamily
  concernsMember_iff _ _ _ := Iff.rfl
  added p key a found h := by
    simp only [constantFamily, constantRules] at h
    split at h <;> cases h
    · exact reports_ofChanges (List.forall_mem_singleton.mpr (concerns_op rfl))
    · exact reports_ofChanges (List.forall_mem_cons.mpr ⟨concerns_op (f := constantFamily) rfl,
        (detailsAt_compareConstants p _ _ _).concerns (f := constantFamily)⟩)
  removed p key b found h := by
    simp only [constantFamily, constantRules] at h
    split at h <;> cases h
    · exact reports_ofChanges
        (List.forall_mem_singleton.mpr ⟨b.value, .inl rfl, concerns_op rfl⟩)
    · rename_i inherited hinherited
      refine reports_ofChanges (List.forall_mem_cons.mpr
        ⟨⟨b.value, .inl rfl, concerns_op rfl⟩, fun op hop => ⟨inherited, .inr hinherited, ?_⟩⟩)
      exact (detailsAt_compareConstants p _ _ _).concerns (f := constantFamily) op hop
  changed p key b a found h := by
    cases h
    exact reports_ofChanges ((detailsAt_compareConstants p _ _ _).concerns (f := constantFamily))

end Families

/-! ## Runs -/

section Runs

variable {α : Type} {s : Setting} {context : Context} {key : String} {found : Findings}

/-- What the run for a member reports is about members of its key. -/
private theorem MemberFamily.Attributes.reports_run {f : MemberFamily α} (h : f.Attributes)
    {p : Pair} (hb : p.setting.before.find? p.context key = some p.before)
    (ha : p.setting.after.find? p.context key = some p.after) {run : Run Cycle}
    (hrun : run ∈ (f.views p).divide.runs (f.rules p)) (hfound : run.2 = .ok found) :
    Reports found (f.ConcernsKey p run.1) := by
  have hbefore : ∀ {k e}, (f.publishedView p.before).find? k = some e →
      f.Declares p.setting e.value ∧ f.key e.value = k := by
    intro k e he
    obtain ⟨-, hmem, -, hkey⟩ := f.of_find?_publishedView he
    exact ⟨⟨_, .inl (Registry.value_mem_of_find? hb), hmem⟩, hkey⟩
  have hafter : ∀ {k e}, (f.publishedView p.after).find? k = some e →
      f.Declares p.setting e.value ∧ f.key e.value = k := by
    intro k e he
    obtain ⟨-, hmem, -, hkey⟩ := f.of_find?_publishedView he
    exact ⟨⟨_, .inr (Registry.value_mem_of_find? ha), hmem⟩, hkey⟩
  simp only [Division.runs, List.mem_append, List.mem_map] at hrun
  rcases hrun with (((⟨e, he, rfl⟩ | ⟨e, he, rfl⟩) | ⟨⟨k, b, a⟩, he, rfl⟩) |
    ⟨⟨k, b, a⟩, he, rfl⟩) | ⟨⟨k, b, a⟩, he, rfl⟩
  · obtain ⟨hdeclared, hkey⟩ := hafter ((f.views p).mem_fullyAdded.mp he).1
    exact fun op hop => ⟨_, hdeclared, hkey, h.added p _ _ _ hfound op hop⟩
  · obtain ⟨hdeclared, hkey⟩ := hbefore ((f.views p).mem_fullyRemoved.mp he).1
    intro op hop
    obtain ⟨m, rfl | hm, hconcerns⟩ := h.removed p _ _ _ hfound op hop
    · exact ⟨_, hdeclared, hkey, hconcerns⟩
    · -- The details of a member that has moved are those of the inherited one.
      obtain ⟨hsame, d, hd, hmem⟩ := h.inherits _ _ _ _ hm
      exact ⟨m, ⟨d, .inr hd, hmem⟩, hsame.trans hkey, hconcerns⟩
  · obtain ⟨hdeclared, hkey⟩ := hafter ((f.views p).mem_membershipAdded.mp he).1
    cases (f.membershipAdded_eq p k b a).symm.trans hfound
    exact reports_ofMembership ⟨_, hdeclared, hkey, concerns_op rfl⟩
  · obtain ⟨hdeclared, hkey⟩ := hbefore ((f.views p).mem_membershipRemoved.mp he).1
    cases (f.membershipRemoved_eq p k b a).symm.trans hfound
    exact reports_ofMembership ⟨_, hdeclared, hkey, concerns_op rfl⟩
  · obtain ⟨hdeclared, hkey⟩ := hafter ((f.views p).mem_toVerify.mp he).2
    exact fun op hop => ⟨_, hdeclared, hkey, h.changed p _ _ _ _ hfound op hop⟩

/-- An operation about a place. -/
def Place.Holds (s : Setting) : Place → Operation → Prop
  | .classLike context key, op =>
    ∃ e, (s.before.find? context key = some e ∨ s.after.find? context key = some e) ∧
      e.value.Concerns context op
  | .member context key part memberKey, op =>
    ∃ b a, s.before.find? context key = some b ∧ s.after.find? context key = some a ∧
      Pair.ConcernsMember ⟨s, context, b, a⟩ part memberKey op

/-- What the runs for two versions of a class-like report is about their places. -/
private theorem holds_of_mem_pairRuns {b a : Located ClassLike}
    (hb : s.before.find? context key = some b) (ha : s.after.find? context key = some a)
    {placed : PlacedRun} (hplaced : placed ∈ pairRuns ⟨s, context, b, a⟩ key)
    (hfound : placed.2 = .ok found) : Reports found (placed.1.Holds s) := by
  have hfamily : ∀ {β : Type} {f : MemberFamily β}, f.Attributes →
      placed ∈ f.placedRuns ⟨s, context, b, a⟩ key → Reports found (placed.1.Holds s) := by
    intro β f h hmem
    obtain ⟨run, hrun, rfl⟩ := List.mem_map.mp hmem
    exact fun op hop => ⟨b, a, hb, ha,
      (h.concernsMember_iff _ _ _).mpr (h.reports_run hb ha hrun hfound op hop)⟩
  simp only [pairRuns, memberRuns, List.mem_cons, List.mem_append] at hplaced
  rcases hplaced with rfl | (hm | hp) | hc
  · cases hfound
    exact fun op hop => ⟨a, .inr ha, reports_headFindings op hop⟩
  · exact hfamily attributes_methodFamily hm
  · exact hfamily attributes_propertyFamily hp
  · exact hfamily attributes_constantFamily hc

/-- What the runs that one for a class-like consists of report is about their places. -/
private theorem holds_of_mem_classRuns {run : Run Cycle} (hrun : run ∈ contextRuns s context)
    {placed : PlacedRun} (hplaced : placed ∈ classRuns s context run)
    (hfound : placed.2 = .ok found) : Reports found (placed.1.Holds s) := by
  unfold classRuns at hplaced
  split at hplaced
  case h_1 b a hb ha => exact holds_of_mem_pairRuns hb ha hplaced hfound
  case h_2 hmissing =>
    obtain rfl := List.mem_singleton.mp hplaced
    -- What is not there on both sides is new or gone as a whole.
    simp only [contextRuns, Division.runs, List.mem_append, List.mem_map] at hrun
    rcases hrun with (((⟨e, he, rfl⟩ | ⟨e, he, rfl⟩) | ⟨⟨k, b, a⟩, he, rfl⟩) |
      ⟨⟨k, b, a⟩, he, rfl⟩) | ⟨⟨k, b, a⟩, he, rfl⟩
    · obtain ⟨whole, part, hwhole, hpart, heq⟩ :=
        find?_surface_eq_some_iff.mp ((surfaceViews s context).mem_fullyAdded.mp he).1
      cases hfound
      refine reports_ofChanges (List.forall_mem_singleton.mpr
        ⟨whole, .inr hwhole, rfl, rfl, .inl ?_⟩)
      rw [heq, ClassLike.eq_publishedPart_of_surface? hpart]
      rfl
    · obtain ⟨whole, part, hwhole, hpart, heq⟩ :=
        find?_surface_eq_some_iff.mp ((surfaceViews s context).mem_fullyRemoved.mp he).1
      cases hfound
      refine reports_ofChanges (List.forall_mem_singleton.mpr
        ⟨whole, .inl hwhole, rfl, rfl, .inl ?_⟩)
      rw [heq, ClassLike.eq_publishedPart_of_surface? hpart]
      rfl
    · obtain ⟨hb, -, a, part, ha, -, -⟩ := mem_entered_iff.mp he
      exact absurd ha (hmissing b a hb)
    · obtain ⟨ha, -, b, part, hb, -, -⟩ := mem_left_iff.mp he
      exact absurd ha (hmissing b a hb)
    · obtain ⟨⟨b, -, hb, -, -⟩, a, -, ha, -, -⟩ := mem_verified_iff.mp he
      exact absurd ha (hmissing b a hb)

/-- What a run of a comparison of published surfaces reports is about its place. -/
theorem holds_of_mem_surfaceRuns {placed : PlacedRun} (hplaced : placed ∈ surfaceRuns s)
    (hfound : placed.2 = .ok found) : Reports found (placed.1.Holds s) := by
  obtain ⟨context, -, hplaced⟩ := List.mem_flatMap.mp hplaced
  obtain ⟨run, hrun, hplaced⟩ := List.mem_flatMap.mp hplaced
  exact holds_of_mem_classRuns hrun hplaced hfound

/-- A run that finds one change: all else that the comparison finds is about other places. -/
theorem exists_others {place : Place} {op : Operation}
    (hrun : (place, .ok (.ofChanges [op])) ∈ surfaceRuns s)
    (h : publishedDifferences s (publishedSurface s.before) (publishedSurface s.after) =
      .ok found) :
    ∃ front back, found.changes = front ++ op :: back ∧
      ∀ other ∈ front ++ back ++ found.membership,
        ∃ place', place' ≠ place ∧ place'.Holds s other := by
  rw [publishedDifferences_eq_collect] at h
  obtain ⟨xs, ys, hruns⟩ := List.append_of_mem hrun
  -- No other run is at the place, so those in front and those behind are at other places.
  have hnodup := nodup_surfaceRuns s
  rw [hruns, List.map_append, List.map_cons] at hnodup
  obtain ⟨hx, hy⟩ := not_or.mp (List.mem_append.not.mp (List.nodup_middle.mp hnodup).notMem)
  have hreports : ∀ {zs : List PlacedRun} {part : Findings}, zs ⊆ surfaceRuns s →
      place ∉ zs.map (·.1) → Findings.collect (·.2) zs = .ok part →
      Reports part fun other => ∃ place', place' ≠ place ∧ place'.Holds s other := by
    intro zs part hsub hmissing hpart
    refine reports_collect hpart fun placed hplaced part' hpart' op hop => ?_
    exact ⟨placed.1, fun heq => hmissing (heq ▸ List.mem_map_of_mem hplaced),
      holds_of_mem_surfaceRuns (hsub hplaced) hpart' op hop⟩
  rw [hruns, Findings.collect_append, Findings.collect] at h
  obtain ⟨front, hfront, h⟩ := exists_of_bind_eq_ok h
  obtain ⟨rest, hrest, h⟩ := exists_of_bind_eq_ok h
  obtain ⟨-, ⟨⟩, hrest⟩ := exists_of_bind_eq_ok hrest
  obtain ⟨back, hback, hrest⟩ := exists_of_bind_eq_ok hrest
  cases hrest
  cases h
  have hfrontReports := hreports (hruns ▸ List.subset_append_left _ _) hx hfront
  have hbackReports := hreports
    (hruns ▸ List.Subset.trans (List.subset_cons_self _ _) (List.subset_append_right _ _)) hy hback
  refine ⟨front.changes, back.changes, rfl, fun other hother => ?_⟩
  simp only [Findings.membership_append, Findings.membership_ofChanges, List.nil_append,
    List.mem_append] at hother
  rcases hother with (hother | hother) | (hother | hother)
  · exact hfrontReports other (List.mem_append_left _ hother)
  · exact hbackReports other (List.mem_append_left _ hother)
  · exact hfrontReports other (List.mem_append_right _ hother)
  · exact hbackReports other (List.mem_append_right _ hother)

end Runs

/-! ## Targets -/

section Targets

variable {α : Type} {f : MemberFamily α} {p : Pair} {key : String} {m : α}

/-- The targets at a member are not those at any other member that is compared in the context. -/
def MemberFamily.NamedApart (f : MemberFamily α) (p : Pair) (key : String) (m : α) : Prop :=
  ∀ key' b a n target, p.setting.before.find? p.context key' = some b →
    p.setting.after.find? p.context key' = some a → f.Declares p.setting n →
    p.Targets (f.label m) target → Pair.Targets ⟨p.setting, p.context, b, a⟩ (f.label n) target →
    key' = key ∧ f.key n = f.key m

/-- What is about a member is in the context of its class-like and of a kind of its part. -/
private theorem context_part_of_concernsMember {part : Member} {memberKey : String} {op : Operation}
    (h : p.ConcernsMember part memberKey op) :
    op.context = p.context ∧ op.kind.part? = some part := by
  cases part with
  | declaration => exact h.elim
  | method | property | constant =>
    obtain ⟨n, -, -, hconcerns⟩ := h
    exact ⟨hconcerns.context, hconcerns.part⟩

/-- What is about another place is not about a member, if the member is named apart. -/
theorem not_concerns_of_holds (h : f.Attributes) (hpart : f.part ≠ .declaration) {place : Place}
    {op : Operation} (hne : place ≠ .member p.context key f.part (f.key m))
    (hholds : place.Holds p.setting op) (hapart : f.NamedApart p key m) : ¬ f.Concerns p m op := by
  intro hconcerns
  cases place with
  | classLike context key' =>
    obtain ⟨e, -, hhead⟩ := hholds
    exact hpart (Option.some.inj (hconcerns.part.symm.trans hhead.part))
  | member context key' part memberKey =>
    obtain ⟨b, a, hb, ha, hmember⟩ := hholds
    obtain ⟨hcontext, hkind⟩ := context_part_of_concernsMember hmember
    obtain rfl : context = p.context := hcontext.symm.trans hconcerns.context
    obtain rfl : part = f.part := Option.some.inj (hkind.symm.trans hconcerns.part)
    obtain ⟨n, hdeclared, rfl, hother⟩ := (h.concernsMember_iff _ _ _).mp hmember
    obtain ⟨rfl, hkey⟩ := hapart key' b a n op.target hb ha hdeclared hconcerns.target hother.target
    exact hne (by rw [hkey])

/-- What stands in front of the first character of another class can be read off. -/
private theorem eq_of_append_eq (plain : Char → Bool) {as bs rest rest' : List Char}
    (ha : ∀ c ∈ as, plain c = true) (hb : ∀ c ∈ bs, plain c = true)
    (hrest : ∀ c ∈ rest.head?, plain c = false) (hrest' : ∀ c ∈ rest'.head?, plain c = false)
    (h : as ++ rest = bs ++ rest') : as = bs := by
  have hread : ∀ {xs ys : List Char}, (∀ c ∈ xs, plain c = true) →
      (∀ c ∈ ys.head?, plain c = false) → (xs ++ ys).takeWhile plain = xs := by
    intro xs ys hxs hys
    rw [List.takeWhile_append_of_pos hxs]
    cases ys with
    | nil => simp
    | cons y ys => simp [hys y rfl]
  rw [← hread ha hrest, h, hread hb hrest']

/-- A target begins with the class-like and the member. What follows begins with a bracket or a
blank. -/
private theorem exists_rest_of_targets {label target : String} (h : p.Targets label target) :
    ∃ rest : List Char, (∀ c ∈ rest.head?, c = '(' ∨ c = ' ') ∧
      target.toList = p.after.value.fqn.toList ++ ':' :: ':' :: (label.toList ++ rest) := by
  rcases h with rfl | ⟨param, rfl⟩ | ⟨thrown, rfl⟩
  · exact ⟨[], by simp, by simp [Pair.target]⟩
  · exact ⟨'(' :: '$' :: (param.name.toList ++ [')']), by simp, by simp [paramTarget, Pair.target]⟩
  · exact ⟨" throws ".toList ++ thrown.toList, by simp, by simp [Pair.target]⟩

/-- Members are named apart if class-likes stand under their own keys and names have none of the
characters that targets put behind them. -/
theorem namedApart_of_plain (hlabel : ∀ m n, f.label m = f.label n → f.key m = f.key n)
    (hkeyed : ∀ e ∈ p.setting.after.toList, e.1.name = e.2.value.key ∧ ':' ∉ e.2.value.fqn.toList)
    (hplain : ∀ c ∈ p.setting.before.values ++ p.setting.after.values, ∀ n ∈ f.members c,
      '(' ∉ (f.label n).toList ∧ ' ' ∉ (f.label n).toList)
    (ha : p.setting.after.find? p.context key = some p.after) (hm : f.Declares p.setting m) :
    f.NamedApart p key m := by
  intro key' b a n target _ ha' hn htarget htarget'
  have hnames : ∀ {n : α}, f.Declares p.setting n →
      ∀ c ∈ (f.label n).toList, (c != '(' && c != ' ') = true := by
    rintro n ⟨d, hd, hmem⟩ c hc
    obtain ⟨hbracket, hblank⟩ := hplain d (List.mem_append.mpr hd) n hmem
    simp only [Bool.and_eq_true, bne_iff_ne, ne_eq]
    exact ⟨fun h => hbracket (h ▸ hc), fun h => hblank (h ▸ hc)⟩
  have hend : ∀ {rest : List Char}, (∀ c ∈ rest.head?, c = '(' ∨ c = ' ') →
      ∀ c ∈ rest.head?, (c != '(' && c != ' ') = false := by
    intro rest h c hc
    rcases h c hc with rfl | rfl <;> decide
  have hfqn : ∀ {k e}, p.setting.after.find? p.context k = some e →
      k = e.value.key ∧ ∀ c ∈ e.value.fqn.toList, (c != ':') = true := by
    intro k e he
    obtain ⟨hkey, hcolon⟩ := hkeyed _ (p.setting.after.entries.mem_toList_iff.mpr he)
    exact ⟨hkey, fun c hc => bne_iff_ne.mpr fun h => hcolon (h ▸ hc)⟩
  obtain ⟨rest, hrest, htext⟩ := exists_rest_of_targets htarget
  obtain ⟨rest', hrest', htext'⟩ := exists_rest_of_targets htarget'
  have hsame := htext.symm.trans htext'
  -- The class-like is read up to the first colon, the member up to the first bracket or blank.
  have howner : p.after.value.fqn = a.value.fqn := by
    refine String.toList_inj.mp
      (eq_of_append_eq (· != ':') (hfqn ha).2 (hfqn ha').2 ?_ ?_ hsame) <;> simp
  have hmember : f.label m = f.label n := by
    rw [howner] at hsame
    have hbehind := List.append_cancel_left hsame
    simp only [List.cons.injEq, true_and] at hbehind
    exact String.toList_inj.mp
      (eq_of_append_eq _ (hnames hm) (hnames hn) (hend hrest) (hend hrest') hbehind)
  refine ⟨?_, (hlabel m n hmember).symm⟩
  rw [(hfqn ha').1, (hfqn ha).1]
  exact congrArg Text.toLower howner.symm

end Targets

end VersionBump.Php
