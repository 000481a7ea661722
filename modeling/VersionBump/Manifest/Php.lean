import VersionBump.Json.Value
import VersionBump.Manifest.Record
import VersionBump.Php.Declaration

/-!
# Manifests of PHP files

A PHP manifest holds one class-like or a list of them. Whether it is one or the other is decided by
what can be decoded, so a manifest of the wrong shape has a single complaint; but the form of the
whole text is checked first.

* `Php.decodeFile` decodes a manifest.
* `Php.encodeFile` writes one with every field.
-/

namespace VersionBump.Manifest.Php

open Json VersionBump.Php

/-- The keywords of kinds of class-likes. -/
def kinds : List (String × ClassKind) := ClassKind.all.map fun k => (k.name, k)

/-- The keywords of visibilities. -/
def visibilities : List (String × Visibility) := Visibility.all.map fun v => (v.name, v)

/-- The keywords of places of type annotations. -/
def typeSources : List (String × TypeSource) :=
  [("inline", .inline), ("docblock", .docBlock), ("doc", .docBlock)]

/-- The fields of a type annotation. -/
def typeFields : Record TypeDecl :=
  TypeDecl.mk <$> required "name" text <*> defaulted "source" (keyword typeSources) .inline

/-- A type annotation. -/
def typeDecl : Decoder TypeDecl := typeFields.decode "struct TypeDecl"

/-- The fields of a parameter. -/
def paramFields : Record Param :=
  Param.mk <$> required "name" text <*> maybe "type" typeDecl <*> maybe "default" text <*>
    defaulted "variadic" flag false

/-- The fields of a method. -/
def methodFields : Record Method :=
  Method.mk <$> required "name" text <*>
    defaulted "visibility" (keyword visibilities) .publicAccess <*>
    defaulted "is_static" flag false <*> defaulted "is_final" flag false <*>
    defaulted "is_abstract" flag false <*> defaulted "is_api" flag false <*>
    defaulted "params" (list (paramFields.decode "struct Param")) [] <*>
    maybe "return_type" typeDecl <*> defaulted "throws" (list text) []

/-- The fields of a property. -/
def propertyFields : Record Property :=
  Property.mk <$> required "name" text <*>
    defaulted "visibility" (keyword visibilities) .publicAccess <*>
    defaulted "is_static" flag false <*> defaulted "is_api" flag false <*>
    maybe "type" typeDecl <*> maybe "default" text

/-- The fields of a constant. -/
def constantFields : Record Constant :=
  Constant.mk <$> required "name" text <*>
    defaulted "visibility" (keyword visibilities) .publicAccess <*>
    defaulted "is_api" flag false <*> maybe "value" text

/-- The fields of a class-like. -/
def classFields : Record ClassLike :=
  ClassLike.mk <$> required "name" text <*> required "kind" (keyword kinds) <*>
    defaulted "is_api" flag false <*> defaulted "is_final" flag false <*>
    defaulted "is_abstract" flag false <*> defaulted "extends" (list text) [] <*>
    defaulted "implements" (list text) [] <*> defaulted "uses" (list text) [] <*>
    defaulted "methods" (list (methodFields.decode "struct Method")) [] <*>
    defaulted "properties" (list (propertyFields.decode "struct Property")) [] <*>
    defaulted "constants" (list (constantFields.decode "struct Constant")) []

/-- A class-like. -/
def classLike : Decoder ClassLike := classFields.decode "struct ClassLike"

/-- One class-like or a list of them. A single one is tried first. -/
def decodeFile : Decoder (List ClassLike) := fun node =>
  match node.readFault? nestingLimit with
  | some e => .error (.form e)
  | none =>
    match classLike node, list classLike node with
    | .ok c, _ => .ok [c]
    | .error _, .ok cs => .ok cs
    | .error _, .error _ => .error (.data (.noVariant "PhpManifest"))

/-- An optional type annotation as JSON. -/
def encodeType : Option TypeDecl → Value
  | none => .null
  | some t => .object [("name", .string t.name), ("source", .string t.source.name)]

/-- A parameter as JSON. -/
def encodeParam (p : Param) : Value :=
  .object [("name", .string p.name), ("type", encodeType p.type), ("default", .optional p.default),
    ("variadic", .bool p.variadic)]

/-- A method as JSON. -/
def encodeMethod (m : Method) : Value :=
  .object [("name", .string m.name), ("visibility", .string m.visibility.name),
    ("is_static", .bool m.isStatic), ("is_final", .bool m.isFinal),
    ("is_abstract", .bool m.isAbstract), ("is_api", .bool m.isApi),
    ("params", .array (m.params.map encodeParam)), ("return_type", encodeType m.returnType),
    ("throws", .strings m.throws)]

/-- A property as JSON. -/
def encodeProperty (p : Property) : Value :=
  .object [("name", .string p.name), ("visibility", .string p.visibility.name),
    ("is_static", .bool p.isStatic), ("is_api", .bool p.isApi), ("type", encodeType p.type),
    ("default", .optional p.default)]

/-- A constant as JSON. -/
def encodeConstant (c : Constant) : Value :=
  .object [("name", .string c.name), ("visibility", .string c.visibility.name),
    ("is_api", .bool c.isApi), ("value", .optional c.value)]

/-- A class-like as JSON. -/
def encodeClass (c : ClassLike) : Value :=
  .object [("name", .string c.name), ("kind", .string c.kind.name), ("is_api", .bool c.isApi),
    ("is_final", .bool c.isFinal), ("is_abstract", .bool c.isAbstract),
    ("extends", .strings c.parents), ("implements", .strings c.interfaces),
    ("uses", .strings c.traits), ("methods", .array (c.methods.map encodeMethod)),
    ("properties", .array (c.properties.map encodeProperty)),
    ("constants", .array (c.constants.map encodeConstant))]

/-- A list of class-likes as JSON. -/
def encodeFile (cs : List ClassLike) : Value := .array (cs.map encodeClass)

end VersionBump.Manifest.Php
