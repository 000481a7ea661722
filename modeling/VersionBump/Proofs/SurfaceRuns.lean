import VersionBump.Proofs.DivisionRuns
import VersionBump.Proofs.PublishedPairs

/-!
# Runs on published surfaces

A comparison of published surfaces runs rules for class-likes and, in class-likes that are there on
both sides, for members. Each run has a place: the class-like or the member that it is about. What
is found at a place is what its run leads to.

* `surfaceRuns` lists the runs with their places, and `publishedDifferences_eq_collect` says that
  they are all there is.
* `nodup_surfaceRuns`: no place has two of them.
* `mem_surfaceRuns` finds the runs for the members of a class-like.
-/

namespace VersionBump.Php

/-- What a run is about: a class-like, or a member of one. -/
inductive Place where
  | classLike (context : Context) (key : String)
  | member (context : Context) (key : String) (part : Member) (memberKey : String)
  deriving DecidableEq

/-- A run of a rule at a place. -/
abbrev PlacedRun := Place × Except Cycle Findings

/-- The runs for the members of one family of two versions of a class-like. -/
def MemberFamily.placedRuns {α : Type} (f : MemberFamily α) (p : Pair) (key : String) :
    List PlacedRun :=
  ((f.views p).divide.runs (f.rules p)).map fun run =>
    (.member p.context key f.part run.1, run.2)

/-- The runs for the members of two versions of a class-like. -/
def memberRuns (p : Pair) (key : String) : List PlacedRun :=
  methodFamily.placedRuns p key ++ propertyFamily.placedRuns p key ++
    constantFamily.placedRuns p key

/-- The runs for two versions of a class-like, the heads first. -/
def pairRuns (p : Pair) (key : String) : List PlacedRun :=
  (.classLike p.context key, .ok (headFindings p.setting p.context p.before p.after)) ::
    memberRuns p key

/-- The runs that one for a class-like consists of. -/
def classRuns (s : Setting) (context : Context) (run : Run Cycle) : List PlacedRun :=
  match s.before.find? context run.1, s.after.find? context run.1 with
  | some b, some a => pairRuns ⟨s, context, b, a⟩ run.1
  | _, _ => [(.classLike context run.1, run.2)]

/-- The runs for the class-likes of one context. -/
def contextRuns (s : Setting) (context : Context) : List (Run Cycle) :=
  (surfaceViews s context).divide.runs (classRules .published s context)

/-- All runs of a comparison of published surfaces. -/
def surfaceRuns (s : Setting) : List PlacedRun :=
  contexts.flatMap fun context => (contextRuns s context).flatMap (classRuns s context)

/-! ## The whole comparison -/

section Comparison

variable {α : Type} {s : Setting} {context : Context} {key : String} {b a : Located ClassLike}

/-- The findings of a family are those of its runs. -/
private theorem collect_placedRuns (f : MemberFamily α) (p : Pair) (key : String) :
    Findings.collect (·.2) (f.placedRuns p key) = (f.views p).divide.apply (f.rules p) := by
  rw [MemberFamily.placedRuns, Findings.collect_map, Division.apply_eq_collect]

/-- The findings among the members of two versions of a class-like are those of their runs. -/
private theorem collect_memberRuns (p : Pair) (key : String) :
    Findings.collect (·.2) (memberRuns p key) =
      memberFindings p ⟨p.before.value.surface?, p.after.value.surface?⟩ := by
  rw [memberRuns, Findings.collect_append, Findings.collect_append, collect_placedRuns,
    collect_placedRuns, collect_placedRuns]
  simp only [bind_assoc, pure_bind]
  rfl

/-- The findings on two versions of a class-like are those of their runs. -/
theorem collect_pairRuns (s : Setting) (context : Context) (key : String)
    (b a : Located ClassLike) :
    Findings.collect (·.2) (pairRuns ⟨s, context, b, a⟩ key) = pairFindings s context b a := by
  rw [pairRuns, Findings.collect, collect_memberRuns]
  rfl

/-- A class-like that is there on both sides is looked at as a pair. -/
private theorem eq_pairFindings_of_mem {run : Run Cycle} (hrun : run ∈ contextRuns s context)
    (hb : s.before.find? context run.1 = some b) (ha : s.after.find? context run.1 = some a) :
    run.2 = pairFindings s context b a := by
  simp only [contextRuns, Division.runs, List.mem_append, List.mem_map] at hrun
  rcases hrun with (((⟨e, he, rfl⟩ | ⟨e, he, rfl⟩) | ⟨⟨key, b', a'⟩, he, rfl⟩) |
    ⟨⟨key, b', a'⟩, he, rfl⟩) | ⟨⟨key, b', a'⟩, he, rfl⟩
  · -- What is new altogether is not there on both sides, and neither is what is gone.
    obtain ⟨-, -, hall⟩ := (surfaceViews s context).mem_fullyAdded.mp he
    have hnone : s.before.find? context e.1 = none :=
      (Registry.find?_inContext _ _ _).symm.trans hall
    exact absurd (hnone.symm.trans hb) (Option.some_ne_none b).symm
  · obtain ⟨-, -, hall⟩ := (surfaceViews s context).mem_fullyRemoved.mp he
    have hnone : s.after.find? context e.1 = none :=
      (Registry.find?_inContext _ _ _).symm.trans hall
    exact absurd (hnone.symm.trans ha) (Option.some_ne_none a).symm
  · obtain ⟨hb', hnone, a'', part, ha', hpart, rfl⟩ := mem_entered_iff.mp he
    cases hb'.symm.trans hb
    cases ha'.symm.trans ha
    exact entered_eq_pairFindings hnone ha hpart
  · obtain ⟨ha', hnone, b'', part, hb', hpart, rfl⟩ := mem_left_iff.mp he
    cases hb'.symm.trans hb
    cases ha'.symm.trans ha
    exact left_eq_pairFindings hb hpart hnone
  · obtain ⟨⟨b'', part, hb', hpart, rfl⟩, a'', part', ha', hpart', rfl⟩ := mem_verified_iff.mp he
    cases hb'.symm.trans hb
    cases ha'.symm.trans ha
    exact changed_eq_pairFindings hb ha hpart hpart'

/-- A run for a class-like consists of the ones that are listed. -/
private theorem collect_classRuns {run : Run Cycle} (hrun : run ∈ contextRuns s context) :
    Findings.collect (·.2) (classRuns s context run) = run.2 := by
  unfold classRuns
  split
  case h_1 b a hb ha => rw [collect_pairRuns, eq_pairFindings_of_mem hrun hb ha]
  case h_2 => exact Findings.collect_singleton _ _

/-- The findings of a comparison are those of its runs. -/
theorem publishedDifferences_eq_collect (s : Setting) :
    publishedDifferences s (publishedSurface s.before) (publishedSurface s.after) =
      Findings.collect (·.2) (surfaceRuns s) := by
  rw [surfaceRuns, Findings.collect_flatMap]
  refine Findings.collect_congr fun context _ => ?_
  rw [Findings.collect_flatMap, Findings.collect_congr fun run => collect_classRuns,
    contextRuns, ← Division.apply_eq_collect]
  rfl

/-! ## Places -/

/-- The places of the runs of a family are its members. -/
private theorem exists_of_mem_placedRuns {f : MemberFamily α} {p : Pair} {place : Place}
    (h : place ∈ (f.placedRuns p key).map (·.1)) :
    ∃ memberKey, place = .member p.context key f.part memberKey := by
  obtain ⟨_, hplaced, rfl⟩ := List.mem_map.mp h
  obtain ⟨run, -, rfl⟩ := List.mem_map.mp hplaced
  exact ⟨run.1, rfl⟩

/-- No member of a family has two runs. -/
private theorem nodup_placedRuns (f : MemberFamily α) (p : Pair) (key : String) :
    ((f.placedRuns p key).map (·.1)).Nodup := by
  have hmembers := (Views.nodup_runs (f.views p) (f.rules p)).map
    (f := fun memberKey => Place.member p.context key f.part memberKey)
    fun _ _ h => (Place.member.inj h).2.2.2
  simpa only [MemberFamily.placedRuns, List.map_map, Function.comp_def] using hmembers

/-- Runs of two families are not about one member. -/
private theorem disjoint_placedRuns {β : Type} {f : MemberFamily α} {g : MemberFamily β} {p : Pair}
    (hpart : f.part ≠ g.part) :
    List.Disjoint ((f.placedRuns p key).map (·.1)) ((g.placedRuns p key).map (·.1)) := by
  intro place hf hg
  obtain ⟨memberKey, rfl⟩ := exists_of_mem_placedRuns hf
  obtain ⟨_, hsame⟩ := exists_of_mem_placedRuns hg
  exact hpart (Place.member.inj hsame).2.2.1

/-- No place has two runs among those for two versions of a class-like. -/
private theorem nodup_pairRuns (p : Pair) (key : String) : ((pairRuns p key).map (·.1)).Nodup := by
  have hmembers : ((memberRuns p key).map (·.1)).Nodup := by
    simp only [memberRuns, List.map_append]
    refine List.nodup_append'.mpr ⟨List.nodup_append'.mpr ⟨nodup_placedRuns _ p key,
      nodup_placedRuns _ p key, disjoint_placedRuns (by decide)⟩, nodup_placedRuns _ p key, ?_⟩
    exact List.disjoint_append_left.mpr
      ⟨disjoint_placedRuns (by decide), disjoint_placedRuns (by decide)⟩
  refine List.nodup_cons.mpr ⟨fun hhead => ?_, hmembers⟩
  -- The head is no member.
  simp only [memberRuns, List.map_append, List.mem_append] at hhead
  rcases hhead with (hm | hp) | hc
  · exact nomatch exists_of_mem_placedRuns hm
  · exact nomatch exists_of_mem_placedRuns hp
  · exact nomatch exists_of_mem_placedRuns hc

/-- The class-like that a place is at. -/
def Place.owner : Place → Context × String
  | .classLike context key => (context, key)
  | .member context key _ _ => (context, key)

/-- All runs that one for a class-like consists of are at the class-like. -/
private theorem owner_of_mem_classRuns {run : Run Cycle} {place : Place}
    (h : place ∈ (classRuns s context run).map (·.1)) : place.owner = (context, run.1) := by
  unfold classRuns at h
  split at h
  case h_1 b a _ _ =>
    simp only [pairRuns, memberRuns, List.map_cons, List.map_append, List.mem_cons,
      List.mem_append] at h
    rcases h with rfl | (hm | hp) | hc
    · rfl
    · obtain ⟨_, rfl⟩ := exists_of_mem_placedRuns hm
      rfl
    · obtain ⟨_, rfl⟩ := exists_of_mem_placedRuns hp
      rfl
    · obtain ⟨_, rfl⟩ := exists_of_mem_placedRuns hc
      rfl
  case h_2 => exact List.mem_singleton.mp h ▸ rfl

private theorem nodup_classRuns (s : Setting) (context : Context) (run : Run Cycle) :
    ((classRuns s context run).map (·.1)).Nodup := by
  unfold classRuns
  split
  case h_1 => exact nodup_pairRuns _ _
  case h_2 => exact List.nodup_singleton _

/-- No place of a context has two runs. -/
private theorem nodup_contextRuns (s : Setting) (context : Context) :
    (((contextRuns s context).flatMap (classRuns s context)).map (·.1)).Nodup := by
  rw [List.map_flatMap, List.nodup_flatMap]
  -- Two class-likes of a context have two keys, and places tell whose they are.
  refine ⟨fun run _ => nodup_classRuns s context run, ?_⟩
  refine (List.pairwise_map.mp (Views.nodup_runs (surfaceViews s context) _)).imp fun hne => ?_
  intro place hfirst hsecond
  have hsame := (owner_of_mem_classRuns hfirst).symm.trans (owner_of_mem_classRuns hsecond)
  exact hne (congrArg (·.2) hsame)

/-- No place has two runs. -/
theorem nodup_surfaceRuns (s : Setting) : ((surfaceRuns s).map (·.1)).Nodup := by
  rw [surfaceRuns, List.map_flatMap, List.nodup_flatMap]
  refine ⟨fun context _ => nodup_contextRuns s context, ?_⟩
  -- Places of two contexts differ in the context.
  have hcontexts : contexts.Nodup := by decide
  refine hcontexts.imp fun hne => ?_
  intro place hfirst hsecond
  have howner : ∀ {context : Context},
      place ∈ ((contextRuns s context).flatMap (classRuns s context)).map (·.1) →
        place.owner.1 = context := fun h => by
    rw [List.map_flatMap] at h
    obtain ⟨run, -, hplace⟩ := List.mem_flatMap.mp h
    rw [owner_of_mem_classRuns hplace]
  exact hne ((howner hfirst).symm.trans (howner hsecond))

/-! ## Members -/

/-- A class-like that is published and there on both sides has a run. -/
private theorem exists_run (hb : s.before.find? context key = some b)
    (ha : s.after.find? context key = some a)
    (hpart : b.value.surface? ≠ none ∨ a.value.surface? ≠ none) :
    ∃ run ∈ contextRuns s context, run.1 = key := by
  simp only [contextRuns, Division.runs, List.mem_append, List.mem_map]
  -- It stands in one of the last three classes, by where it has a published part.
  cases hpb : b.value.surface? with
  | none =>
    cases hpa : a.value.surface? with
    | none => simp [hpb, hpa] at hpart
    | some pa =>
      exact ⟨_, .inl (.inl (.inr ⟨_, mem_entered_iff.mpr ⟨hb, hpb, a, pa, ha, hpa, rfl⟩, rfl⟩)),
        rfl⟩
  | some pb =>
    cases hpa : a.value.surface? with
    | none =>
      exact ⟨_, .inl (.inr ⟨_, mem_left_iff.mpr ⟨ha, hpa, b, pb, hb, hpb, rfl⟩, rfl⟩), rfl⟩
    | some pa =>
      exact ⟨_, .inr ⟨_, mem_verified_iff.mpr ⟨⟨b, pb, hb, hpb, rfl⟩, a, pa, ha, hpa, rfl⟩, rfl⟩,
        rfl⟩

/-- The runs for two versions of a class-like, one of which is published, are among all runs. -/
theorem mem_surfaceRuns (hc : context ∈ contexts) (hb : s.before.find? context key = some b)
    (ha : s.after.find? context key = some a)
    (hpart : b.value.surface? ≠ none ∨ a.value.surface? ≠ none) {placed : PlacedRun}
    (hplaced : placed ∈ pairRuns ⟨s, context, b, a⟩ key) : placed ∈ surfaceRuns s := by
  obtain ⟨run, hrun, rfl⟩ := exists_run hb ha hpart
  refine List.mem_flatMap.mpr ⟨context, hc, List.mem_flatMap.mpr ⟨run, hrun, ?_⟩⟩
  simpa only [classRuns, hb, ha] using hplaced

end Comparison

end VersionBump.Php
