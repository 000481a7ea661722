import VersionBump.Php.Comparison

/-!
# Differences of PHP declarations

Class-likes are divided by publication, and within each class-like so are its methods, properties
and constants. Declarations of one kind are compared with each other only.

* `publishedDifferences` compares the published surfaces of two registries.
* `allDifferences` compares everything that is not private, whatever is published.
-/

namespace VersionBump.Php

open VersionBump.Severity (Table)

/-- The shared members of a class-like by key, each with the file of the class-like. Of two members
with one key the later stays. -/
def memberView {α : Type} (key : α → String) (visibility : α → Visibility) (members : List α)
    (location : Path) : View α :=
  KeyMap.ofList ((members.filter fun m => (visibility m).isShared).map fun m =>
    (key m, ⟨m, location⟩))

/-- The published parts of a class-like before and after the change, as far as there are any. -/
structure PublishedParts where
  before : Option ClassLike
  after : Option ClassLike

/-- The four views of one family of members. -/
def memberViews {α : Type} (p : Pair) (parts : PublishedParts) (members : ClassLike → List α)
    (key : α → String) (visibility : α → Visibility) : Views α :=
  let view (c : ClassLike) (location : Path) := memberView key visibility (members c) location
  { publishedBefore := (parts.before.map (view · p.before.location)).getD ∅
    publishedAfter := (parts.after.map (view · p.after.location)).getD ∅
    allBefore := view p.before.value p.before.location
    allAfter := view p.after.value p.after.location }

/-- The findings among the members of a class-like. -/
def memberFindings (p : Pair) (parts : PublishedParts) : Except Cycle Findings := do
  let methods ← (memberViews p parts ClassLike.methods Method.key Method.visibility).divide.apply
    (methodRules p)
  let properties ←
    (memberViews p parts ClassLike.properties Property.key Property.visibility).divide.apply
      (propertyRules p)
  let constants ←
    (memberViews p parts ClassLike.constants Constant.key Constant.visibility).divide.apply
      (constantRules p)
  return methods ++ properties ++ constants

/-- The changes of one kind of reference from a class-like to others. -/
def compareReferences (p : Pair) (word : String) (gained lost : PhpChange) (location : Path)
    (before after : List String) : List Operation :=
  let old := Name.set before
  let new := Name.set after
  let target (name : String) := p.target (word ++ " " ++ name)
  (new.toList.filter fun e => !old.contains e.1).map (fun e => p.op gained (target e.2) location) ++
    (old.toList.filter fun e => !new.contains e.1).map fun e => p.op lost (target e.2) location

/-- The differences in the head of a class-like: its references and its modifiers. -/
def compareHeads (p : Pair) (location : Path) : List Operation :=
  let before := p.before.value
  let after := p.after.value
  compareReferences p "extends" .parentAdded .parentRemoved location before.parents after.parents ++
    compareReferences p "implements" .interfaceAdded .interfaceRemoved location
      before.interfaces after.interfaces ++
    compareReferences p "uses" .traitAdded .traitRemoved location before.traits after.traits ++
    compareFlag p (some .becameFinal) (some .becameNonFinal) after.fqn location
      before.isFinal after.isFinal ++
    compareFlag p (some .becameAbstract) (some .becameNonAbstract) after.fqn location
      before.isAbstract after.isAbstract

/-- The mark as API that a class-like has afterwards and did not have before. -/
def gainedMark (s : Setting) (context : Context) (before after : Located ClassLike) : Findings :=
  if !before.value.isApi && after.value.isApi then
    .ofMembership (s.table.operation context (.php (.membershipAdded .declaration))
      after.value.fqn after.location)
  else {}

/-- The mark as API that a class-like had before and does not have afterwards. -/
def lostMark (s : Setting) (context : Context) (before after : Located ClassLike) : Findings :=
  if before.value.isApi && !after.value.isApi then
    .ofMembership (s.table.operation context (.php (.membershipRemoved .declaration))
      after.value.fqn after.location)
  else {}

/-- The change of the mark of a class-like as API, in either direction. -/
def compareMarks (s : Setting) (context : Context) (before after : Located ClassLike) : Findings :=
  gainedMark s context before after ++ lostMark s context before after

/-- Which heads of class-likes are compared. -/
inductive Scope where
  | published
  | everything
  deriving DecidableEq, Repr, Inhabited

/-- The rules for class-likes of one context. -/
def classRules (scope : Scope) (s : Setting) (context : Context) :
    DivisionRules ClassLike Cycle where
  added _ after :=
    .ok (.ofChanges [s.table.operation context (.php .added) after.value.fqn after.location])
  removed _ before :=
    .ok (.ofChanges [s.table.operation context (.php .removed) before.value.fqn before.location])
  membershipAdded key before after :=
    -- The published part knows published members only; the whole declaration has the others.
    match s.after.find? context key with
    | none => .ok {}
    | some whole => do
      let members ← memberFindings ⟨s, context, before, whole⟩ ⟨none, some after.value⟩
      return gainedMark s context before after ++ members
  membershipRemoved key before after :=
    match s.before.find? context key with
    | none => .ok {}
    | some whole => do
      let members ← memberFindings ⟨s, context, whole, after⟩ ⟨some before.value, none⟩
      return lostMark s context before after ++ members
  changed key before after := do
    let pair : Pair :=
      ⟨s, context, (s.before.find? context key).getD before, (s.after.find? context key).getD after⟩
    let head : Findings :=
      -- A head is part of the contract while the class-like is API on both sides.
      if scope = .everything || (before.value.isApi && after.value.isApi) then
        .ofChanges (compareHeads pair after.location)
      else compareMarks s context before after
    let members ← memberFindings pair ⟨some before.value, some after.value⟩
    return head ++ members

/-- The contexts of PHP declarations. -/
def contexts : List Context := ClassKind.all.map (·.context)

/-- The findings of a division of each context, one context after the other. -/
def findings (scope : Scope) (s : Setting) (views : Context → Views ClassLike) :
    Except Cycle Findings :=
  Findings.collect
    (fun context => (views context).divide.apply (classRules scope s context)) contexts

/-- The differences of two registries whose published surfaces are given. -/
def publishedDifferences (s : Setting) (surfaceBefore surfaceAfter : Registry ClassLike) :
    Except Cycle Findings :=
  findings .published s fun context =>
    ⟨surfaceBefore.inContext context, surfaceAfter.inContext context,
      s.before.inContext context, s.after.inContext context⟩

/-- The differences of everything that is not private in two registries. -/
def allDifferences (s : Setting) : Except Cycle (List Operation) :=
  (findings .everything s fun context =>
    .unpublished (s.before.inContext context) (s.after.inContext context)).map (·.changes)

end VersionBump.Php
