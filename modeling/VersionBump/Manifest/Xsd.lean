import VersionBump.Json.Value
import VersionBump.Manifest.Record
import VersionBump.Xsd.Grammar

/-!
# Manifests of XML grammars

* `Xsd.decodeFile` decodes a manifest.
* `Xsd.encodeFile` writes one with every field.
-/

namespace VersionBump.Manifest.Xsd

open Json VersionBump.Xsd

/-- The keywords of kinds of nodes. -/
def nodeKinds : List (String × NodeKind) := [("element", .element), ("attribute", .attribute)]

/-- The fields of a node. -/
def nodeFields : Record VersionBump.Xsd.Node :=
  VersionBump.Xsd.Node.mk <$> required "path" text <*> required "kind" (keyword nodeKinds) <*>
    defaulted "required" flag false <*> maybe "type" text

/-- The fields of a grammar. -/
def grammarFields : Record Grammar :=
  Grammar.mk <$> defaulted "nodes" (list (nodeFields.decode "struct XsdNode")) []

/-- A grammar. -/
def decodeFile : Decoder Grammar := grammarFields.decode "struct XsdSchema"

/-- A node as JSON. -/
def encodeNode (n : VersionBump.Xsd.Node) : Value :=
  .object [("path", .string n.path), ("kind", .string n.kind.name), ("required", .bool n.required),
    ("type", .optional n.type)]

/-- A grammar as JSON. -/
def encodeFile (g : Grammar) : Value := .object [("nodes", .array (g.nodes.map encodeNode))]

end VersionBump.Manifest.Xsd
