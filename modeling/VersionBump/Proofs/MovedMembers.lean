import VersionBump.Proofs.CosmeticRewrites
import VersionBump.Proofs.IgnoredCycles
import VersionBump.Proofs.RunContents

/-!
# Members that move along the hierarchy

A member that disappears from a published class-like, while the class-like inherits one of the same
signature afterwards, has moved to a parent or a trait, and one that appears where such a member was
inherited before has moved from there or overwrites it. Whatever way the search for inherited
members takes, all that is reported about such a member is one patch.

* `Method.SameSignature` and `Property.SameSignature` compare members of different class-likes.
* `MemberFamily.Stands` is the member that a class-like has under a key.
* `MemberFamily.Moves` holds the kinds of change of a family, with the laws of its rules;
  `methodMoves`, `propertyMoves` and `constantMoves` are the three.
* `MemberFamily.ReportsPatch`: of all that a comparison finds, one patch is about a member, and
  everything else is about other places.
* `MemberFamily.Moves.Reported` says so of the members that have moved, and
  `moved_members_are_patches` is the statement.
-/

namespace VersionBump.Php

/-! ## Signatures -/

/-- Methods of one signature. They may be spelled differently, and one may be published where the
other is not. -/
def Method.SameSignature (old new : Method) : Prop :=
  Method.Cosmetic { old with isApi := new.isApi } new

/-- Properties of one signature. One may be published where the other is not. -/
def Property.SameSignature (old new : Property) : Prop :=
  Property.Cosmetic { old with isApi := new.isApi } new

/-- Methods of one signature do not differ. -/
theorem compareMethods_of_sameSignature {p : Pair} {location : Path} {old new : Method}
    (h : old.SameSignature new) : compareMethods p location old new = .ok [] := by
  -- Whether a method is published is not compared.
  show compareMethods p location { old with isApi := new.isApi } new = .ok []
  exact compareMethods_eq_nil h

/-- Properties of one signature do not differ. -/
theorem compareProperties_of_sameSignature {p : Pair} {location : Path} {old new : Property}
    (h : old.SameSignature new) : compareProperties p location old new = [] := by
  show compareProperties p location { old with isApi := new.isApi } new = []
  exact compareProperties_eq_nil h

/-! ## Families -/

namespace MemberFamily

variable {α : Type}

/-- The member that a class-like has under its key: it is shared, and no shared member of its key
stands behind it. -/
def Stands (f : MemberFamily α) (c : ClassLike) (m : α) : Prop :=
  f.Shared m ∧ ∃ front back, f.members c = front ++ m :: back ∧
    ∀ n ∈ back, f.Shared n → f.key n ≠ f.key m

/-- What is reported about members that move, and the laws of the rules that report it. -/
structure Moves (f : MemberFamily α) where
  sameSignature : α → α → Prop
  toParent : PhpChange
  /-- The kind of a member that appears. It depends on whether the member is still inherited. -/
  fromParent : Pair → α → PhpChange
  toParent_patch : ∀ column, (Severity.phpRow column toParent).level = .patch
  fromParent_patch : ∀ p m column, (Severity.phpRow column (fromParent p m)).level = .patch
  toParent_part : toParent.part = f.part
  fromParent_part : ∀ p m, (fromParent p m).part = f.part
  removed_eq : ∀ p key b n, f.inherited? p.setting.after p.after.value b.value = some n →
    sameSignature b.value n → (f.rules p).removed key b =
      .ok (.ofChanges [p.op toParent (p.target (f.label b.value)) p.after.location])
  added_eq : ∀ p key a n, f.inherited? p.setting.before p.before.value a.value = some n →
    sameSignature n a.value → (f.rules p).added key a =
      .ok (.ofChanges [p.op (fromParent p a.value) (p.target (f.label a.value)) a.location])
  attributes : f.Attributes
  part_ne : f.part ≠ .declaration

end MemberFamily

/-- How methods move. One that appears but is still inherited overwrites the inherited one. -/
def methodMoves : methodFamily.Moves where
  sameSignature := Method.SameSignature
  toParent := .methodMovedToParent
  fromParent p m :=
    if (inheritedMethod? p.setting.after p.after.value m.name).isSome then .methodOverwriteAdded
    else .methodMovedFromParent
  toParent_patch _ := rfl
  fromParent_patch p m _ := by
    split <;> rfl
  toParent_part := rfl
  fromParent_part p m := by
    split <;> rfl
  removed_eq p key b n hn hsame := by
    have hinherited : inheritedMethod? p.setting.after p.after.value b.value.name = some n := hn
    simp only [methodFamily, methodRules, hinherited, compareMethods_of_sameSignature hsame]
    rfl
  added_eq p key a n hn hsame := by
    have hinherited : inheritedMethod? p.setting.before p.before.value a.value.name = some n := hn
    simp only [methodFamily, methodRules, hinherited, compareMethods_of_sameSignature hsame]
    rfl
  attributes := attributes_methodFamily
  part_ne := by decide

/-- How properties move. -/
def propertyMoves : propertyFamily.Moves where
  sameSignature := Property.SameSignature
  toParent := .propertyMovedToParent
  fromParent _ _ := .propertyMovedFromParent
  toParent_patch _ := rfl
  fromParent_patch _ _ _ := rfl
  toParent_part := rfl
  fromParent_part _ _ := rfl
  removed_eq p key b n hn hsame := by
    have hinherited : inheritedProperty? p.setting.after p.after.value b.value.key = some n := hn
    simp only [propertyFamily, propertyRules, hinherited, compareProperties_of_sameSignature hsame]
    rfl
  added_eq p key a n hn hsame := by
    have hinherited : inheritedProperty? p.setting.before p.before.value a.value.key = some n := hn
    simp only [propertyFamily, propertyRules, hinherited, compareProperties_of_sameSignature hsame]
    rfl
  attributes := attributes_propertyFamily
  part_ne := by decide

/-- How constants move. -/
def constantMoves : constantFamily.Moves where
  sameSignature old new := old.visibility = new.visibility
  toParent := .constantMovedToParent
  fromParent _ _ := .constantMovedFromParent
  toParent_patch _ := rfl
  fromParent_patch _ _ _ := rfl
  toParent_part := rfl
  fromParent_part _ _ := rfl
  removed_eq p key b n hn hsame := by
    have hinherited : inheritedConstant? p.setting.after p.after.value b.value.name = some n := hn
    simp only [constantFamily, constantRules, hinherited, compareConstants, hsame,
      compareVisibility_self]
  added_eq p key a n hn hsame := by
    have hinherited : inheritedConstant? p.setting.before p.before.value a.value.name = some n := hn
    simp only [constantFamily, constantRules, hinherited, compareConstants, hsame,
      compareVisibility_self]
  attributes := attributes_constantFamily
  part_ne := by decide

/-! ## Views -/

namespace MemberFamily

variable {α : Type} {f : MemberFamily α} {c : Located ClassLike} {m : α}

/-- A class-like that is API publishes all the members that it shares. -/
private theorem publishedView_of_isApi (h : c.value.isApi = true) :
    f.publishedView c = f.allView c := by
  have hshared : ∀ m : α, ((f.visibility m).isShared &&
      c.value.publishes (f.isApi m) (f.visibility m)) = (f.visibility m).isShared := fun m => by
    rw [ClassLike.publishes, h, Bool.or_true, Bool.and_true, Bool.and_self]
  rw [publishedView, ClassLike.surface?_of_isApi h, Option.map_some, Option.getD_some, allView,
    memberView, memberView, f.members_publishedPart, List.filter_filter]
  simp only [hshared]

/-- The member that a class-like has under its key is found there. -/
private theorem Stands.find?_allView (h : f.Stands c.value m) :
    (f.allView c).find? (f.key m) = some ⟨m, c.location⟩ := by
  obtain ⟨hshared, front, back, hmembers, hlast⟩ := h
  have hvisible : (f.visibility m).isShared = true := hshared
  -- Dropping the private members keeps it the last one of its key.
  refine KeyMap.find?_ofList_iff_isLast.mpr
    ⟨(front.filter fun m => (f.visibility m).isShared).map fun m => (f.key m, ⟨m, c.location⟩),
      (back.filter fun m => (f.visibility m).isShared).map fun m => (f.key m, ⟨m, c.location⟩),
      ?_, ?_⟩
  · simp only [hmembers, List.filter_append, List.filter_cons, hvisible, if_true, List.map_append,
      List.map_cons]
  · rw [List.map_map, List.mem_map]
    rintro ⟨n, hn, hkey⟩
    obtain ⟨hback, hvisible'⟩ := List.mem_filter.mp hn
    exact hlast n hback hvisible' hkey

variable {p : Pair}

/-- Where both versions are API, a member that disappears is looked at as one that is gone. -/
private theorem mem_placedRuns_of_gone (hb : p.before.value.isApi = true)
    (ha : p.after.value.isApi = true) (hm : f.Stands p.before.value m)
    (hgone : f.key m ∉ f.sharedKeys p.after.value) (key : String) :
    (.member p.context key f.part (f.key m),
      (f.rules p).removed (f.key m) ⟨m, p.before.location⟩) ∈ f.placedRuns p key := by
  -- It is published and shared before, and neither is there afterwards.
  have hnone : (f.allView p.after).find? (f.key m) = none := find?_allView_eq_none_iff.mpr hgone
  have hin : (f.key m, ⟨m, p.before.location⟩) ∈ (f.views p).divide.fullyRemoved := by
    simp only [Views.mem_fullyRemoved, views, publishedView_of_isApi hb, publishedView_of_isApi ha]
    exact ⟨hm.find?_allView, hnone, hnone⟩
  refine List.mem_map.mpr ⟨(f.key m, _), ?_, rfl⟩
  simp only [Division.runs, List.mem_append]
  exact .inl (.inl (.inl (.inr (List.mem_map.mpr ⟨_, hin, rfl⟩))))

/-- Where both versions are API, a member that appears is looked at as a new one. -/
private theorem mem_placedRuns_of_new (hb : p.before.value.isApi = true)
    (ha : p.after.value.isApi = true) (hm : f.Stands p.after.value m)
    (hnew : f.key m ∉ f.sharedKeys p.before.value) (key : String) :
    (.member p.context key f.part (f.key m),
      (f.rules p).added (f.key m) ⟨m, p.after.location⟩) ∈ f.placedRuns p key := by
  have hnone : (f.allView p.before).find? (f.key m) = none := find?_allView_eq_none_iff.mpr hnew
  have hin : (f.key m, ⟨m, p.after.location⟩) ∈ (f.views p).divide.fullyAdded := by
    simp only [Views.mem_fullyAdded, views, publishedView_of_isApi hb, publishedView_of_isApi ha]
    exact ⟨hm.find?_allView, hnone, hnone⟩
  refine List.mem_map.mpr ⟨(f.key m, _), ?_, rfl⟩
  simp only [Division.runs, List.mem_append]
  exact .inl (.inl (.inl (.inl (List.mem_map.mpr ⟨_, hin, rfl⟩))))

/-! ## Reports -/

/-- The operation for a member that moves. -/
def moveOp (f : MemberFamily α) (p : Pair) (m : α) (kind : PhpChange) : Operation :=
  p.op kind (p.target (f.label m)) p.after.location

/-- The place of a member of a class-like. -/
def place (f : MemberFamily α) (p : Pair) (key : String) (m : α) : Place :=
  .member p.context key f.part (f.key m)

/-- All that is reported about a member is one patch of the kind. -/
structure ReportsPatch (f : MemberFamily α) (p : Pair) (key : String) (m : α) (kind : PhpChange) :
    Prop where
  patch : (f.moveOp p m kind).level = .patch
  concerns : f.Concerns p m (f.moveOp p m kind)
  /-- The run at the place of the member finds the patch. -/
  run : (f.place p key m, .ok (.ofChanges [f.moveOp p m kind])) ∈ surfaceRuns p.setting
  /-- Everything else that the whole comparison finds is about other places, by kind and target. So
  it is not about the member, if the member has a name of its own. -/
  only : ∀ found, publishedDifferences p.setting (publishedSurface p.setting.before)
      (publishedSurface p.setting.after) = .ok found →
    ∃ front back, found.changes = front ++ f.moveOp p m kind :: back ∧
      ∀ other ∈ front ++ back ++ found.membership,
        (∃ place, place ≠ f.place p key m ∧ place.Holds p.setting other) ∧
          (f.NamedApart p key m → ¬ f.Concerns p m other)

/-- What is reported about the members of a class-like that move. -/
structure Moves.Reported (mv : f.Moves) (p : Pair) (key : String) : Prop where
  /-- A member disappears, and afterwards one of the same signature is inherited. -/
  disappeared : ∀ m n, f.Stands p.before.value m → f.key m ∉ f.sharedKeys p.after.value →
    f.inherited? p.setting.after p.after.value m = some n → mv.sameSignature m n →
    f.ReportsPatch p key m mv.toParent
  /-- A member appears, and before one of the same signature was inherited. -/
  appeared : ∀ m n, f.Stands p.after.value m → f.key m ∉ f.sharedKeys p.before.value →
    f.inherited? p.setting.before p.before.value m = some n → mv.sameSignature n m →
    f.ReportsPatch p key m (mv.fromParent p m)

/-- By the built-in rules a run that finds nothing but a move reports a patch. -/
private theorem Moves.reportsPatch (mv : f.Moves) {key : String} {kind : PhpChange}
    (ht : p.setting.table = {})
    (hrow : ∀ column, (Severity.phpRow column kind).level = .patch) (hpart : kind.part = f.part)
    (hrun : (f.place p key m, .ok (.ofChanges [f.moveOp p m kind])) ∈ surfaceRuns p.setting) :
    f.ReportsPatch p key m kind where
  patch := by
    simp only [moveOp, Pair.op, ht]
    exact hrow _
  concerns := ⟨rfl, congrArg some hpart, .inl rfl⟩
  run := hrun
  only found hfound := by
    obtain ⟨front, back, hchanges, hothers⟩ := exists_others hrun hfound
    refine ⟨front, back, hchanges, fun other hother => ?_⟩
    obtain ⟨place, hne, hholds⟩ := hothers other hother
    exact ⟨⟨place, hne, hholds⟩, not_concerns_of_holds mv.attributes mv.part_ne hne hholds⟩

/-- Members that move are reported if the runs of their family are among all runs. -/
private theorem Moves.reported (mv : f.Moves) {key : String} (ht : p.setting.table = {})
    (hb : p.before.value.isApi = true) (ha : p.after.value.isApi = true)
    (hruns : ∀ placed ∈ f.placedRuns p key, placed ∈ surfaceRuns p.setting) :
    mv.Reported p key where
  disappeared m n hm hgone hn hsame := by
    have hrun := hruns _ (mem_placedRuns_of_gone hb ha hm hgone key)
    rw [mv.removed_eq p _ ⟨m, _⟩ n hn hsame] at hrun
    exact mv.reportsPatch ht mv.toParent_patch mv.toParent_part hrun
  appeared m n hm hnew hn hsame := by
    have hrun := hruns _ (mem_placedRuns_of_new hb ha hm hnew key)
    rw [mv.added_eq p _ ⟨m, _⟩ n hn hsame] at hrun
    exact mv.reportsPatch ht (mv.fromParent_patch p m) (mv.fromParent_part p m) hrun

end MemberFamily

/-- In a class-like that is API on both sides, members that move along the hierarchy are patches.
The findings on the published surfaces are those of the runs, no place has two runs, and what a run
finds is about its place. Of a member that moves the findings report one patch and nothing else: that
a method, a property or a constant has moved to a parent, that it has moved from one, or that a method
which is still inherited is overwritten. If cycles are ignored, there are findings. -/
theorem moved_members_are_patches {p : Pair} {key : String} (ht : p.setting.table = {})
    (hc : p.context ∈ contexts) (hb : p.setting.before.find? p.context key = some p.before)
    (ha : p.setting.after.find? p.context key = some p.after)
    (hbapi : p.before.value.isApi = true) (haapi : p.after.value.isApi = true) :
    publishedDifferences p.setting (publishedSurface p.setting.before)
        (publishedSurface p.setting.after) = Findings.collect (·.2) (surfaceRuns p.setting) ∧
      ((surfaceRuns p.setting).map (·.1)).Nodup ∧
      (∀ placed ∈ surfaceRuns p.setting, ∀ found, placed.2 = .ok found →
        Reports found (placed.1.Holds p.setting)) ∧
      methodMoves.Reported p key ∧ propertyMoves.Reported p key ∧ constantMoves.Reported p key ∧
      (p.setting.hierarchy.policy = .ignore →
        (publishedDifferences p.setting (publishedSurface p.setting.before)
          (publishedSurface p.setting.after)).isOk) := by
  have hruns : ∀ placed ∈ memberRuns p key, placed ∈ surfaceRuns p.setting := fun placed hplaced =>
    mem_surfaceRuns hc hb ha (.inl (ClassLike.surface?_ne_none hbapi))
      (List.mem_cons_of_mem _ hplaced)
  refine ⟨publishedDifferences_eq_collect _, nodup_surfaceRuns _,
    fun placed hplaced found hfound => holds_of_mem_surfaceRuns hplaced hfound, ?_, ?_, ?_,
    fun hp => isOk_findings hp _ _⟩
  · exact methodMoves.reported ht hbapi haapi fun placed hplaced =>
      hruns placed (List.mem_append_left _ (List.mem_append_left _ hplaced))
  · exact propertyMoves.reported ht hbapi haapi fun placed hplaced =>
      hruns placed (List.mem_append_left _ (List.mem_append_right _ hplaced))
  · exact constantMoves.reported ht hbapi haapi fun placed hplaced =>
      hruns placed (List.mem_append_right _ hplaced)

/-- A published class that extends another one through a third, which hides the method behind a
private one. The last one extends the first again. -/
private def chainOfThree (own inherited : List Method) : Registry ClassLike :=
  ((Registry.empty.insert .classes "child"
      { name := "Child", kind := .classKind, isApi := true, parents := ["Middle"], methods := own }
      ⟨"child.php.json"⟩).insert .classes "middle"
      { name := "Middle", kind := .classKind, parents := ["Base"]
        methods := [{ name := "run", visibility := .privateAccess }] } ⟨"middle.php.json"⟩).insert
    .classes "base"
      { name := "Base", kind := .classKind, parents := ["Child"], methods := inherited }
    ⟨"base.php.json"⟩

/-- The versions of the first class in two such chains. -/
private def childPair (before after : Registry ClassLike) : Pair where
  setting := { table := {}, hierarchy := {}, before, after }
  context := .classes
  before := (before.find? .classes "child").getD default
  after := (after.find? .classes "child").getD default

/-- A method is moved to the end of the chain and respelled. -/
private def pulledUp : Pair :=
  childPair (chainOfThree [{ name := "run" }] []) (chainOfThree [] [{ name := "Run" }])

/-- A method at the end of the chain is overwritten. -/
private def overwritten : Pair :=
  childPair (chainOfThree [] [{ name := "run" }])
    (chainOfThree [{ name := "run" }] [{ name := "run" }])

/-- The method is named apart, so that the patch is all that is found about it. -/
theorem moved_members_are_patches_chain :
    methodFamily.ReportsPatch pulledUp "child" { name := "run" } .methodMovedToParent ∧
      methodFamily.NamedApart pulledUp "child" { name := "run" } ∧
      methodFamily.ReportsPatch overwritten "child" { name := "run" } .methodOverwriteAdded := by
  have hb : pulledUp.setting.before.find? .classes "child" = some pulledUp.before := rfl
  have ha : pulledUp.setting.after.find? .classes "child" = some pulledUp.after := rfl
  have hb' : overwritten.setting.before.find? .classes "child" = some overwritten.before := rfl
  have ha' : overwritten.setting.after.find? .classes "child" = some overwritten.after := rfl
  obtain ⟨-, -, -, hpulled, -⟩ := moved_members_are_patches rfl (by decide) hb ha rfl rfl
  obtain ⟨-, -, -, hover, -⟩ := moved_members_are_patches rfl (by decide) hb' ha' rfl rfl
  have hsame : ∀ name, Method.SameSignature { name := "run" } { name } := fun _ =>
    ⟨rfl, rfl, rfl, rfl, rfl, .nil, trivial, rfl⟩
  refine ⟨?_, ?_, ?_⟩
  · exact hpulled.disappeared { name := "run" } { name := "Run" } ⟨rfl, [], [], rfl, nofun⟩
      (by decide +kernel) (by decide +kernel) (hsame _)
  · refine namedApart_of_plain (fun m n h => congrArg Text.toLower h) (by decide +kernel)
      (by decide) ha ⟨_, .inl (Registry.value_mem_of_find? hb), List.mem_cons_self⟩
  · -- The method is still inherited, so it is an overwrite.
    have hkind : methodMoves.fromParent overwritten { name := "run" } = .methodOverwriteAdded := by
      decide +kernel
    rw [← hkind]
    exact hover.appeared { name := "run" } { name := "run" } ⟨rfl, [], [], rfl, nofun⟩
      (by decide +kernel) (by decide +kernel) (hsame _)

end VersionBump.Php
