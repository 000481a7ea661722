import VersionBump.Context
import VersionBump.Name

/-!
# PHP declarations

Classes, interfaces and traits with their members, as a manifest declares them. Class names and
method names are case-insensitive; properties may be written with a dollar sign in front.

* `ClassLike.key` and the keys of members identify a declaration across two snapshots.
* `ClassLike.method?`, `property?` and `constant?` look members up by name.
* `ClassLike.sources` lists what members are inherited from.
-/

namespace VersionBump.Php

/-- The kind of a class-like. -/
inductive ClassKind where
  | classKind
  | interfaceKind
  | traitKind
  deriving DecidableEq, Repr, Inhabited

namespace ClassKind

/-- The kinds in the order in which a name is looked up. -/
def all : List ClassKind := [classKind, interfaceKind, traitKind]

/-- The keyword of a kind. -/
def name : ClassKind → String
  | classKind => "class"
  | interfaceKind => "interface"
  | traitKind => "trait"

/-- The context of the declarations of a kind. -/
def context : ClassKind → Context
  | classKind => .classes
  | interfaceKind => .interfaces
  | traitKind => .traits

end ClassKind

/-- Who may use a member. -/
inductive Visibility where
  | privateAccess
  | protectedAccess
  | publicAccess
  deriving DecidableEq, Repr, Inhabited

namespace Visibility

/-- The place of a visibility in the order from the narrowest to the widest. -/
def rank : Visibility → Nat
  | .privateAccess => 0
  | .protectedAccess => 1
  | .publicAccess => 2

/-- The keyword of a visibility. -/
def name : Visibility → String
  | .privateAccess => "private"
  | .protectedAccess => "protected"
  | .publicAccess => "public"

/-- The visibilities from the narrowest to the widest. -/
def all : List Visibility := [.privateAccess, .protectedAccess, .publicAccess]

end Visibility

/-- Where a type annotation is written. -/
inductive TypeSource where
  | inline
  | docBlock
  deriving DecidableEq, Repr, Inhabited

/-- The keyword of a place. -/
def TypeSource.name : TypeSource → String
  | .inline => "inline"
  | .docBlock => "docblock"

/-- A type annotation. -/
structure TypeDecl where
  name : String
  source : TypeSource := .inline
  deriving DecidableEq, Repr, Inhabited

/-- Whether two annotations name the same union of types. -/
def TypeDecl.same (a b : TypeDecl) : Bool := Name.typeKey a.name == Name.typeKey b.name

/-- A parameter of a method. -/
structure Param where
  name : String
  type : Option TypeDecl := none
  default : Option String := none
  variadic : Bool := false
  deriving DecidableEq, Repr, Inhabited

/-- A parameter that callers may leave out. -/
def Param.isOptional (p : Param) : Bool := p.default.isSome || p.variadic

/-- A method of a class-like. -/
structure Method where
  name : String
  visibility : Visibility := .publicAccess
  isStatic : Bool := false
  isFinal : Bool := false
  isAbstract : Bool := false
  isApi : Bool := false
  params : List Param := []
  returnType : Option TypeDecl := none
  throws : List String := []
  deriving DecidableEq, Repr, Inhabited

/-- Method names are compared without case. -/
def Method.key (m : Method) : String := Text.toLower m.name

/-- A property of a class-like. -/
structure Property where
  name : String
  visibility : Visibility := .publicAccess
  isStatic : Bool := false
  isApi : Bool := false
  type : Option TypeDecl := none
  default : Option String := none
  deriving DecidableEq, Repr, Inhabited

/-- Property names are compared without the dollar sign. -/
def Property.key (p : Property) : String := Text.dropLeading '$' p.name

/-- A constant of a class-like. -/
structure Constant where
  name : String
  visibility : Visibility := .publicAccess
  isApi : Bool := false
  value : Option String := none
  deriving DecidableEq, Repr, Inhabited

/-- Constant names are compared as they are. -/
def Constant.key (c : Constant) : String := c.name

/-- A class, interface or trait. -/
structure ClassLike where
  name : String
  kind : ClassKind
  isApi : Bool := false
  isFinal : Bool := false
  isAbstract : Bool := false
  parents : List String := []
  interfaces : List String := []
  traits : List String := []
  methods : List Method := []
  properties : List Property := []
  constants : List Constant := []
  deriving DecidableEq, Repr, Inhabited

namespace ClassLike

/-- The key of a class-like. -/
def key (c : ClassLike) : String := Name.key c.name

/-- The name of a class-like as it is reported. -/
def fqn (c : ClassLike) : String := Name.normalize c.name

/-- Whether others can derive from the declaration as a class. -/
def isExtendable (c : ClassLike) : Bool := c.kind == .classKind && !c.isFinal

/-- The first method of the name, up to the case of ASCII letters. -/
def method? (c : ClassLike) (name : String) : Option Method :=
  c.methods.find? fun m => Text.equalsIgnoreAsciiCase m.name name

/-- The first property of the name, with or without a dollar sign. -/
def property? (c : ClassLike) (name : String) : Option Property :=
  c.properties.find? fun p => p.key == Text.dropLeading '$' name

/-- The first constant of the name. -/
def constant? (c : ClassLike) (name : String) : Option Constant :=
  c.constants.find? fun k => k.name == name

/-- The names that members are inherited from, parents before traits. -/
def sources (c : ClassLike) : List String := c.parents ++ c.traits

end ClassLike

end VersionBump.Php
