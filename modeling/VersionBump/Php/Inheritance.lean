import VersionBump.Php.Surface

/-!
# Inherited members

A class-like inherits the members of its parents and traits, of their parents and traits, and so on.
The search goes depth first in the order of declaration, looks at every name once and stops at the
first hit, so cycles do no harm.

* `findClass?` finds a class-like of any kind by its name.
* `inherited?` finds what the sources of a class-like offer.
-/

namespace VersionBump.Php

/-- The class-like of a name, whatever its kind. -/
def findClass? (r : Registry ClassLike) (name : String) : Option ClassLike :=
  ClassKind.all.findSome? fun kind => r.get? kind.context (Name.key name)

/-- Searches the pending names in order. A declared class-like without an offer puts its sources in
front of the names that are still pending; `met` holds the keys of the names looked at. -/
def searchPending {α : Type} (r : Registry ClassLike) (offer : ClassLike → Option α) :
    Nat → List String → List String → Option α
  | 0, _, _ => none
  | _ + 1, [], _ => none
  | steps + 1, name :: pending, met =>
    let key := Name.key name
    if key ∈ met then searchPending r offer steps pending met
    else
      match findClass? r name with
      -- A name that is referred to but never declared has nothing to offer.
      | none => searchPending r offer steps pending (key :: met)
      | some source =>
        match offer source with
        | some found => some found
        -- Depth first: the sources of this one come before its siblings.
        | none => searchPending r offer steps (source.sources ++ pending) (key :: met)

/-- The number of names that all declarations of a registry refer to as sources. -/
def sourceCount (r : Registry ClassLike) : Nat := (r.values.flatMap (·.sources)).length

/-- What the first of the sources of a class-like that has an offer offers. Every declaration puts
its sources in front at most once, which bounds the number of steps. -/
def inherited? {α : Type} (r : Registry ClassLike) (c : ClassLike)
    (offer : ClassLike → Option α) : Option α :=
  searchPending r offer (c.sources.length + sourceCount r + 1) c.sources []

/-- The shared method of a name that a class-like inherits. -/
def inheritedMethod? (r : Registry ClassLike) (c : ClassLike) (name : String) : Option Method :=
  inherited? r c fun source => (source.method? name).filter (·.visibility.isShared)

/-- The shared property of a name that a class-like inherits. -/
def inheritedProperty? (r : Registry ClassLike) (c : ClassLike) (name : String) : Option Property :=
  inherited? r c fun source => (source.property? name).filter (·.visibility.isShared)

/-- The shared constant of a name that a class-like inherits. -/
def inheritedConstant? (r : Registry ClassLike) (c : ClassLike) (name : String) : Option Constant :=
  inherited? r c fun source => (source.constant? name).filter (·.visibility.isShared)

end VersionBump.Php
