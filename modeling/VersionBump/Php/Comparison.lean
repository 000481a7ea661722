import VersionBump.Division
import VersionBump.Php.Hierarchy
import VersionBump.Php.Inheritance
import VersionBump.Severity.Table

/-!
# Comparing members

The differences between two versions of a member, and the rules for members that appear, disappear
or change. A member that disappears from a class-like but is still inherited afterwards has moved
to a parent, and one that was inherited before has moved from a parent or overwrites the inherited
one.

* `compareMethods`, `compareProperties` and `compareConstants` list the differences of two versions.
* `methodRules`, `propertyRules` and `constantRules` are the division rules of the member families.
-/

namespace VersionBump.Php

open VersionBump.Severity (Table)

/-- The setting of a comparison of class-likes: the rules in force, the hierarchy after the change,
and the registries that inherited members are looked up in. -/
structure Setting where
  table : Table
  hierarchy : Hierarchy
  before : Registry ClassLike
  after : Registry ClassLike

/-- Two versions of one class-like in their setting. -/
structure Pair where
  setting : Setting
  context : Context
  before : Located ClassLike
  after : Located ClassLike

namespace Pair

/-- The target for a member of the class-like. -/
def target (p : Pair) (member : String) : String := p.after.value.fqn ++ "::" ++ member

/-- The operation for a change at the class-like or one of its members. -/
def op (p : Pair) (kind : PhpChange) (target : String) (location : Path) : Operation :=
  p.setting.table.operation p.context (.php kind) target location

/-- The operation for a change of a value at one of the members. -/
def valueOp (p : Pair) (kind : PhpChange) (target : String) (location : Path)
    (before after : String) : Operation :=
  p.setting.table.valueChange p.context (.php kind) target location before after

/-- The operation for a moved type annotation. -/
def moveOp (p : Pair) (slot : TypeSlot) (move : TypeMove) (target : String) (location : Path) :
    Operation :=
  p.setting.table.operation p.context (.docType slot move) target location

end Pair

/-- The move of an annotation between two places. -/
def typeMove? : TypeSource → TypeSource → Option TypeMove
  | .docBlock, .inline => some .docToInline
  | .inline, .docBlock => some .inlineToDoc
  | _, _ => none

/-- The type of what has no annotation. -/
def anyType : String := "mixed"

/-- The differences of two type annotations. Annotations of the same type may still have moved. -/
def compareTypes (p : Pair) (slot : TypeSlot) (kind : PhpChange) (target : String)
    (location : Path) : Option TypeDecl → Option TypeDecl → List Operation
  | none, none => []
  | some old, some new =>
    -- Annotations of one type differ at most in where they stand.
    if old.same new then
      ((typeMove? old.source new.source).map (p.moveOp slot · target location)).toList
    else [p.valueOp kind target location old.name new.name]
  | some old, none => [p.valueOp kind target location old.name anyType]
  | none, some new => [p.valueOp kind target location anyType new.name]

/-- The difference of two visibilities. -/
def compareVisibility (p : Pair) (decreased increased : PhpChange) (target : String)
    (location : Path) (before after : Visibility) : List Operation :=
  if after.rank < before.rank then
    [p.valueOp decreased target location before.name after.name]
  else if before.rank < after.rank then
    [p.valueOp increased target location before.name after.name]
  else []

/-- The difference of two flags. -/
def compareFlag (p : Pair) (raised : Option PhpChange) (dropped : Option PhpChange)
    (target : String) (location : Path) (before after : Bool) : List Operation :=
  match before, after with
  | false, true => (raised.map (p.op · target location)).toList
  | true, false => (dropped.map (p.op · target location)).toList
  | _, _ => []

/-! ## Parameters, return types and exceptions -/

/-- The target for a parameter of a method. -/
def paramTarget (p : Pair) (method : String) (param : Param) : String :=
  p.target (method ++ "($" ++ param.name ++ ")")

/-- The differences of two parameters at one place. -/
def compareParam (p : Pair) (method : String) (location : Path) (old new : Param) :
    List Operation :=
  let target := paramTarget p method new
  compareTypes p .parameter .parameterTypeChanged target location old.type new.type ++
    compareFlag p (some .parameterBecameOptional) (some .parameterBecameRequired) target location
      old.isOptional new.isOptional ++
    match old.default, new.default with
    | some before, some after =>
      if before = after then []
      else [p.valueOp .parameterDefaultChanged target location before after]
    -- A default that appears or disappears shows in whether the parameter is optional.
    | _, _ => []

/-- The change that a new parameter is. -/
def addedParamChange (p : Pair) (new : Param) : PhpChange :=
  if !new.isOptional then .requiredParameterAdded
  else if p.after.value.isApi && p.after.value.isExtendable then
    .optionalParameterAddedToExtendable
  else .optionalParameterAdded

/-- The differences of two parameter lists, place by place. -/
def compareParams (p : Pair) (method : String) (location : Path) :
    List Param → List Param → List Operation
  | [], [] => []
  | old :: olds, new :: news =>
    compareParam p method location old new ++ compareParams p method location olds news
  | [], new :: news =>
    p.op (addedParamChange p new) (paramTarget p method new) location ::
      compareParams p method location [] news
  | old :: olds, [] =>
    p.op .parameterRemoved (paramTarget p method old) location ::
      compareParams p method location olds []

/-- The differences of two return types. -/
def compareReturn (p : Pair) (target : String) (location : Path) (before after : Option TypeDecl) :
    List Operation :=
  match before, after with
  | none, some _ => [p.op .returnTypeAdded target location]
  | some _, none => [p.op .returnTypeRemoved target location]
  | _, _ => compareTypes p .returnValue .returnTypeChanged target location before after

/-- How a newly thrown type relates to the types thrown before. A type that replaces one of them is
returned with the key of the replaced type; the first related type decides. -/
def relateThrown (h : Hierarchy) (thrown : String) :
    List (String × String) → Except Cycle (PhpChange × Option String)
  | [] => .ok (.exceptionAdded, none)
  | (key, previous) :: rest => do
    -- Whoever catches the replaced type catches the new one too.
    if ← h.inheritsFrom thrown previous then return (.exceptionSubclassed, some key)
    -- The new type is wider than the replaced one.
    if ← h.inheritsFrom previous thrown then return (.exceptionSuperclassed, some key)
    relateThrown h thrown rest

/-- Relates each newly thrown type to the types thrown before. -/
def relateAllThrown (h : Hierarchy) (before : List (String × String)) :
    List (String × String) → Except Cycle (List (String × PhpChange × Option String))
  | [] => .ok []
  | (_, thrown) :: rest => do
    let (kind, replaced) ← relateThrown h thrown before
    let others ← relateAllThrown h before rest
    return (thrown, kind, replaced) :: others

/-- The differences of two lists of thrown types. A type that is no longer thrown is not reported if
a new one replaces it. -/
def compareThrows (p : Pair) (target : String) (location : Path) (before after : List String) :
    Except Cycle (List Operation) := do
  let old := Name.set before
  let new := Name.set after
  -- Types are compared by key, so a new spelling is no new type.
  let fresh := new.toList.filter fun e => !old.contains e.1
  let related ← relateAllThrown p.setting.hierarchy old.toList fresh
  let replaced := related.filterMap (·.2.2)
  let gone := old.toList.filter fun e => !new.contains e.1 && e.1 ∉ replaced
  let throwsOp (kind : PhpChange) (thrown : String) : Operation :=
    p.op kind (target ++ " throws " ++ thrown) location
  return related.map (fun r => throwsOp r.2.1 r.1) ++
    gone.map (fun e => throwsOp .exceptionRemoved e.2)

/-! ## Members -/

/-- The differences of two versions of a method. -/
def compareMethods (p : Pair) (location : Path) (before after : Method) :
    Except Cycle (List Operation) := do
  let target := p.target after.name
  -- Only thrown types look at the hierarchy, and so only they can meet a cycle.
  let thrown ← compareThrows p target location before.throws after.throws
  return compareVisibility p .methodVisibilityDecreased .methodVisibilityIncreased target location
      before.visibility after.visibility ++
    compareFlag p (some .methodBecameStatic) (some .methodBecameNonStatic) target location
      before.isStatic after.isStatic ++
    compareFlag p (some .methodBecameFinal) none target location before.isFinal after.isFinal ++
    compareFlag p (some .methodBecameAbstract) none target location
      before.isAbstract after.isAbstract ++
    compareParams p after.name location before.params after.params ++
    compareReturn p target location before.returnType after.returnType ++ thrown

/-- The target for a property. -/
def propertyTarget (p : Pair) (property : Property) : String := p.target ("$" ++ property.key)

/-- The differences of two versions of a property. -/
def compareProperties (p : Pair) (location : Path) (before after : Property) : List Operation :=
  let target := propertyTarget p after
  compareVisibility p .propertyVisibilityDecreased .propertyVisibilityIncreased target location
      before.visibility after.visibility ++
    compareFlag p (some .propertyBecameStatic) (some .propertyBecameNonStatic) target location
      before.isStatic after.isStatic ++
    compareTypes p .property .propertyTypeChanged target location before.type after.type

/-- The differences of two versions of a constant. Its value is not part of the contract. -/
def compareConstants (p : Pair) (location : Path) (before after : Constant) : List Operation :=
  compareVisibility p .constantVisibilityDecreased .constantVisibilityIncreased
    (p.target after.name) location before.visibility after.visibility

/-- The rules for methods. -/
def methodRules (p : Pair) : DivisionRules Method Cycle where
  added _ after := do
    let target := p.target after.value.name
    match inheritedMethod? p.setting.before p.before.value after.value.name with
    | none => return .ofChanges [p.op .methodAdded target after.location]
    | some inherited =>
      -- Inherited both before and after, the new method overwrites what was there.
      let kind : PhpChange :=
        if (inheritedMethod? p.setting.after p.after.value after.value.name).isSome then
          .methodOverwriteAdded
        else .methodMovedFromParent
      let differences ← compareMethods p after.location inherited after.value
      return .ofChanges (p.op kind target after.location :: differences)
  removed _ before := do
    let target := p.target before.value.name
    match inheritedMethod? p.setting.after p.after.value before.value.name with
    | none => return .ofChanges [p.op .methodRemoved target before.location]
    | some inherited =>
      let location := p.after.location
      let differences ← compareMethods p location before.value inherited
      return .ofChanges (p.op .methodMovedToParent target location :: differences)
  membershipAdded _ _ after :=
    .ok (.ofMembership
      (p.op (.membershipAdded .method) (p.target after.value.name) after.location))
  membershipRemoved _ before after :=
    .ok (.ofMembership
      (p.op (.membershipRemoved .method) (p.target before.value.name) after.location))
  changed _ before after := do
    return .ofChanges (← compareMethods p after.location before.value after.value)

/-- The rules for properties. -/
def propertyRules (p : Pair) : DivisionRules Property Cycle where
  added _ after :=
    let target := propertyTarget p after.value
    match inheritedProperty? p.setting.before p.before.value after.value.key with
    | none => .ok (.ofChanges [p.op .propertyAdded target after.location])
    | some inherited =>
      .ok (.ofChanges (p.op .propertyMovedFromParent target after.location ::
        compareProperties p after.location inherited after.value))
  removed _ before :=
    let target := propertyTarget p before.value
    match inheritedProperty? p.setting.after p.after.value before.value.key with
    | none => .ok (.ofChanges [p.op .propertyRemoved target before.location])
    | some inherited =>
      let location := p.after.location
      .ok (.ofChanges (p.op .propertyMovedToParent target location ::
        compareProperties p location before.value inherited))
  membershipAdded _ _ after :=
    .ok (.ofMembership
      (p.op (.membershipAdded .property) (propertyTarget p after.value) after.location))
  membershipRemoved _ before after :=
    .ok (.ofMembership
      (p.op (.membershipRemoved .property) (propertyTarget p before.value) after.location))
  changed _ before after :=
    .ok (.ofChanges (compareProperties p after.location before.value after.value))

/-- The rules for constants. -/
def constantRules (p : Pair) : DivisionRules Constant Cycle where
  added _ after :=
    let target := p.target after.value.name
    match inheritedConstant? p.setting.before p.before.value after.value.name with
    | none => .ok (.ofChanges [p.op .constantAdded target after.location])
    | some inherited =>
      .ok (.ofChanges (p.op .constantMovedFromParent target after.location ::
        compareConstants p after.location inherited after.value))
  removed _ before :=
    let target := p.target before.value.name
    match inheritedConstant? p.setting.after p.after.value before.value.name with
    | none => .ok (.ofChanges [p.op .constantRemoved target before.location])
    | some inherited =>
      let location := p.after.location
      .ok (.ofChanges (p.op .constantMovedToParent target location ::
        compareConstants p location before.value inherited))
  membershipAdded _ _ after :=
    .ok (.ofMembership
      (p.op (.membershipAdded .constant) (p.target after.value.name) after.location))
  membershipRemoved _ before after :=
    .ok (.ofMembership
      (p.op (.membershipRemoved .constant) (p.target before.value.name) after.location))
  changed _ before after :=
    .ok (.ofChanges (compareConstants p after.location before.value after.value))

end VersionBump.Php
