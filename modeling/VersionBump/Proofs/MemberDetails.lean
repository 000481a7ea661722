import VersionBump.Php.Comparison
import VersionBump.Proofs.Outcomes

/-!
# Details of members

What differs between two versions of one member is reported at the file that the comparison is
handed, about the member, and under kinds of its own: no such kind says that a member appears,
disappears or moves.

* `Change.details` lists the kinds, and `Change.part?` is the part of a class-like that a kind is
  about. `Pair.Targets` are the targets at a member.
* `DetailsAt` is the property of a list of operations.
* `detailsAt_compareMethods`, `detailsAt_compareProperties` and `detailsAt_compareConstants` are the
  statements for the families, and `detailsAt_headFlag` is the one for class-likes.
-/

namespace VersionBump

/-- The kinds of change of a detail, of a class-like or one of its members. -/
def Change.details : List Change :=
  Change.docTypes ++ [PhpChange.becameFinal, .becameNonFinal, .becameAbstract, .becameNonAbstract,
    .methodVisibilityDecreased, .methodVisibilityIncreased, .methodBecameStatic,
    .methodBecameNonStatic, .methodBecameFinal, .methodBecameAbstract, .requiredParameterAdded,
    .optionalParameterAdded, .optionalParameterAddedToExtendable, .parameterRemoved,
    .parameterBecameRequired, .parameterBecameOptional, .parameterTypeChanged,
    .parameterDefaultChanged, .returnTypeAdded, .returnTypeRemoved, .returnTypeChanged,
    .exceptionSubclassed, .exceptionSuperclassed, .exceptionAdded, .exceptionRemoved,
    .propertyVisibilityDecreased, .propertyVisibilityIncreased, .propertyTypeChanged,
    .propertyBecameStatic, .propertyBecameNonStatic, .constantVisibilityDecreased,
    .constantVisibilityIncreased].map .php

/-- The part of a class-like that a kind of change is about. -/
def PhpChange.part : PhpChange → Member
  | .membershipAdded member | .membershipRemoved member => member
  | .added | .removed | .parentAdded | .parentRemoved | .interfaceAdded | .interfaceRemoved
  | .traitAdded | .traitRemoved | .becameFinal | .becameNonFinal | .becameAbstract
  | .becameNonAbstract => .declaration
  | .methodAdded | .methodRemoved | .methodMovedToParent | .methodMovedFromParent
  | .methodOverwriteAdded | .methodVisibilityDecreased | .methodVisibilityIncreased
  | .methodBecameStatic | .methodBecameNonStatic | .methodBecameFinal | .methodBecameAbstract
  | .requiredParameterAdded | .optionalParameterAdded | .optionalParameterAddedToExtendable
  | .parameterRemoved | .parameterBecameRequired | .parameterBecameOptional
  | .parameterTypeChanged | .parameterDefaultChanged | .returnTypeAdded | .returnTypeRemoved
  | .returnTypeChanged | .exceptionSubclassed | .exceptionSuperclassed | .exceptionAdded
  | .exceptionRemoved => .method
  | .propertyAdded | .propertyRemoved | .propertyMovedToParent | .propertyMovedFromParent
  | .propertyVisibilityDecreased | .propertyVisibilityIncreased | .propertyTypeChanged
  | .propertyBecameStatic | .propertyBecameNonStatic => .property
  | .constantAdded | .constantRemoved | .constantMovedToParent | .constantMovedFromParent
  | .constantVisibilityDecreased | .constantVisibilityIncreased => .constant

/-- The part of a class-like that has a type annotation. -/
def TypeSlot.part : TypeSlot → Member
  | .parameter | .returnValue => .method
  | .property => .property

/-- The part of a class-like that a kind of change is about, if it is about class-likes. -/
def Change.part? : Change → Option Member
  | .php kind => some kind.part
  | .docType slot _ => some slot.part
  | _ => none

namespace Php

/-- The targets at a member of a class-like: the member, its parameters and the types it throws. -/
def Pair.Targets (p : Pair) (label target : String) : Prop :=
  target = p.target label ∨ (∃ param, target = paramTarget p label param) ∨
    ∃ thrown, target = p.target label ++ " throws " ++ thrown

/-- An operation about a detail of a part of a class-like, under one of some targets. -/
structure Detail (p : Pair) (part : Member) (named : String → Prop) (location : Path)
    (op : Operation) : Prop where
  kind : op.kind ∈ Change.details
  part : op.kind.part? = some part
  context : op.context = p.context
  target : named op.target
  location : op.location = location

/-- Operations about details of one part of a class-like, at one file. -/
def DetailsAt (p : Pair) (part : Member) (named : String → Prop) (location : Path)
    (ops : List Operation) : Prop :=
  ∀ op ∈ ops, Detail p part named location op

/-- A kind of change of a detail of a part. -/
private abbrev OfDetail (part : Member) (kind : PhpChange) : Prop :=
  Change.php kind ∈ Change.details ∧ kind.part = part

section Details

variable {p : Pair} {part : Member} {named : String → Prop} {target : String} {location : Path}

theorem detailsAt_nil : DetailsAt p part named location [] := fun _ h => nomatch h

theorem DetailsAt.append {a b : List Operation} (ha : DetailsAt p part named location a)
    (hb : DetailsAt p part named location b) : DetailsAt p part named location (a ++ b) :=
  List.forall_mem_append.mpr ⟨ha, hb⟩

section Values

variable (ht : named target)

include ht

private theorem detailsAt_op {kind : PhpChange} (h : OfDetail part kind) :
    DetailsAt p part named location [p.op kind target location] :=
  fun _ hop => List.mem_singleton.mp hop ▸ ⟨h.1, congrArg some h.2, rfl, ht, rfl⟩

private theorem detailsAt_valueOp {kind : PhpChange} (h : OfDetail part kind) (x y : String) :
    DetailsAt p part named location [p.valueOp kind target location x y] :=
  fun _ hop => List.mem_singleton.mp hop ▸ ⟨h.1, congrArg some h.2, rfl, ht, rfl⟩

private theorem detailsAt_compareTypes {slot : TypeSlot} (hslot : slot.part = part)
    {kind : PhpChange} (h : OfDetail part kind) (old new : Option TypeDecl) :
    DetailsAt p part named location (compareTypes p slot kind target location old new) := by
  have hmove : ∀ move, Change.docType slot move ∈ Change.details := by
    intro move
    cases slot <;> cases move <;> decide
  unfold compareTypes
  split
  · exact detailsAt_nil
  · split
    · intro op hop
      obtain ⟨move, -, rfl⟩ := Option.map_eq_some_iff.mp (Option.mem_toList.mp hop)
      exact ⟨hmove move, congrArg some hslot, rfl, ht, rfl⟩
    · exact detailsAt_valueOp ht h _ _
  · exact detailsAt_valueOp ht h _ _
  · exact detailsAt_valueOp ht h _ _

private theorem detailsAt_compareVisibility {decreased increased : PhpChange}
    (hdecreased : OfDetail part decreased) (hincreased : OfDetail part increased)
    (old new : Visibility) :
    DetailsAt p part named location
      (compareVisibility p decreased increased target location old new) := by
  unfold compareVisibility
  split
  · exact detailsAt_valueOp ht hdecreased _ _
  · split
    · exact detailsAt_valueOp ht hincreased _ _
    · exact detailsAt_nil

/-- The changes of a flag are details if their kinds are. One of them may go unreported. -/
private theorem detailsAt_compareFlag {raised dropped : Option PhpChange}
    (hraised : ∀ kind ∈ raised, OfDetail part kind)
    (hdropped : ∀ kind ∈ dropped, OfDetail part kind) (old new : Bool) :
    DetailsAt p part named location (compareFlag p raised dropped target location old new) := by
  have hreported : ∀ change : Option PhpChange, (∀ kind ∈ change, OfDetail part kind) →
      DetailsAt p part named location (change.map (p.op · target location)).toList := by
    intro change h
    cases change with
    | none => exact detailsAt_nil
    | some kind => exact detailsAt_op ht (h kind rfl)
  unfold compareFlag
  split
  · exact hreported raised hraised
  · exact hreported dropped hdropped
  · exact detailsAt_nil

end Values

/-- The changes of a flag of a class-like are details of its declaration. -/
theorem detailsAt_headFlag {raised dropped : Option PhpChange}
    (hraised : ∀ kind ∈ raised, Change.php kind ∈ Change.details ∧ kind.part = .declaration)
    (hdropped : ∀ kind ∈ dropped, Change.php kind ∈ Change.details ∧ kind.part = .declaration)
    (old new : Bool) :
    DetailsAt p .declaration (· = target) location
      (compareFlag p raised dropped target location old new) :=
  @detailsAt_compareFlag p .declaration (· = target) target location rfl raised dropped hraised
    hdropped old new

/-! ## Parameters, return types and exceptions -/

private theorem detailsAt_compareParam {method : String}
    (ht : ∀ param, named (paramTarget p method param)) (old new : Param) :
    DetailsAt p .method named location (compareParam p method location old new) := by
  unfold compareParam
  refine .append (.append ?type ?optional) ?default
  case type => exact detailsAt_compareTypes (ht new) rfl (by decide) _ _
  case optional => exact detailsAt_compareFlag (ht new) (by decide) (by decide) _ _
  case default =>
    split
    · split
      · exact detailsAt_nil
      · exact detailsAt_valueOp (ht new) (by decide) _ _
    · exact detailsAt_nil

private theorem ofDetail_addedParamChange (new : Param) :
    OfDetail .method (addedParamChange p new) := by
  unfold addedParamChange
  split
  · decide
  · split <;> decide

private theorem detailsAt_compareParams {method : String}
    (ht : ∀ param, named (paramTarget p method param)) (olds news : List Param) :
    DetailsAt p .method named location (compareParams p method location olds news) := by
  -- Parameters are walked in step until one list ends; what is left over is new or gone.
  induction olds generalizing news with
  | nil =>
    induction news with
    | nil => simpa only [compareParams] using detailsAt_nil
    | cons new news ih =>
      rw [compareParams]
      exact (detailsAt_op (ht new) (ofDetail_addedParamChange new)).append ih
  | cons old olds ih =>
    cases news with
    | nil =>
      rw [compareParams]
      exact (detailsAt_op (ht old) (by decide)).append (ih [])
    | cons new news =>
      rw [compareParams]
      exact (detailsAt_compareParam ht old new).append (ih news)

private theorem detailsAt_compareReturn (ht : named target) (old new : Option TypeDecl) :
    DetailsAt p .method named location (compareReturn p target location old new) := by
  unfold compareReturn
  split
  · exact detailsAt_op ht (by decide)
  · exact detailsAt_op ht (by decide)
  · exact detailsAt_compareTypes ht rfl (by decide) _ _

/-- Whether a newly thrown type replaces one that was thrown before, and how, is a detail. -/
private theorem ofDetail_relateThrown {h : Hierarchy} {thrown : String}
    {previous : List (String × String)} {r : PhpChange × Option String}
    (hr : relateThrown h thrown previous = .ok r) : OfDetail .method r.1 := by
  induction previous with
  | nil =>
    cases hr
    decide
  | cons e rest ih =>
    obtain ⟨narrower, -, hr⟩ := exists_of_bind_eq_ok hr
    cases narrower with
    | true =>
      cases hr
      exact show OfDetail .method .exceptionSubclassed by decide
    | false =>
      obtain ⟨wider, -, hr⟩ := exists_of_bind_eq_ok hr
      cases wider with
      | true =>
        cases hr
        exact show OfDetail .method .exceptionSuperclassed by decide
      | false => exact ih hr

private theorem ofDetail_relateAllThrown {h : Hierarchy} {previous fresh : List (String × String)}
    {related : List (String × PhpChange × Option String)}
    (hr : relateAllThrown h previous fresh = .ok related) :
    ∀ r ∈ related, OfDetail .method r.2.1 := by
  induction fresh generalizing related with
  | nil =>
    cases hr
    exact fun _ hmem => nomatch hmem
  | cons e rest ih =>
    obtain ⟨first, hfirst, hr⟩ := exists_of_bind_eq_ok hr
    obtain ⟨others, hothers, hr⟩ := exists_of_bind_eq_ok hr
    cases hr
    exact List.forall_mem_cons.mpr ⟨ofDetail_relateThrown hfirst, ih hothers⟩

private theorem detailsAt_compareThrows (ht : ∀ thrown, named (target ++ " throws " ++ thrown))
    {old new : List String} {ops : List Operation}
    (h : compareThrows p target location old new = .ok ops) :
    DetailsAt p .method named location ops := by
  obtain ⟨related, hrelated, h⟩ := exists_of_bind_eq_ok h
  cases h
  refine .append (fun op hop => ?_) fun op hop => ?_
  · obtain ⟨r, hr, rfl⟩ := List.mem_map.mp hop
    exact detailsAt_op (ht r.1) (ofDetail_relateAllThrown hrelated r hr) _ (List.mem_singleton_self _)
  · obtain ⟨e, -, rfl⟩ := List.mem_map.mp hop
    have hlost : OfDetail .method .exceptionRemoved := by decide
    exact detailsAt_op (ht e.2) hlost _ (List.mem_singleton_self _)

/-! ## Members -/

/-- Two versions of a method differ in details of the method. -/
theorem detailsAt_compareMethods {old new : Method} {ops : List Operation}
    (h : compareMethods p location old new = .ok ops) :
    DetailsAt p .method (p.Targets new.name) location ops := by
  have ht : p.Targets new.name (p.target new.name) := .inl rfl
  obtain ⟨thrown, hthrown, h⟩ := exists_of_bind_eq_ok h
  cases h
  refine .append (.append (.append (.append (.append (.append ?visibility ?static) ?final)
    ?abstract) ?params) ?returned)
    (detailsAt_compareThrows (fun thrown => .inr (.inr ⟨thrown, rfl⟩)) hthrown)
  case visibility => exact detailsAt_compareVisibility ht (by decide) (by decide) _ _
  case static => exact detailsAt_compareFlag ht (by decide) (by decide) _ _
  case final => exact detailsAt_compareFlag ht (by decide) (by decide) _ _
  case abstract => exact detailsAt_compareFlag ht (by decide) (by decide) _ _
  case params => exact detailsAt_compareParams (fun param => .inr (.inl ⟨param, rfl⟩)) _ _
  case returned => exact detailsAt_compareReturn ht _ _

/-- Two versions of a property differ in details of the property. -/
theorem detailsAt_compareProperties (p : Pair) (location : Path) (old new : Property) :
    DetailsAt p .property (p.Targets ("$" ++ new.key)) location
      (compareProperties p location old new) := by
  have ht : p.Targets ("$" ++ new.key) (propertyTarget p new) := .inl rfl
  refine .append (.append ?visibility ?static) ?type
  case visibility => exact detailsAt_compareVisibility ht (by decide) (by decide) _ _
  case static => exact detailsAt_compareFlag ht (by decide) (by decide) _ _
  case type => exact detailsAt_compareTypes ht rfl (by decide) _ _

/-- Two versions of a constant differ in details of the constant. -/
theorem detailsAt_compareConstants (p : Pair) (location : Path) (old new : Constant) :
    DetailsAt p .constant (p.Targets new.name) location (compareConstants p location old new) :=
  detailsAt_compareVisibility (.inl rfl) (by decide) (by decide) _ _

end Details

end Php

end VersionBump
