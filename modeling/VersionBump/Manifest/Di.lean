import VersionBump.Di.VirtualType
import VersionBump.Json.Value
import VersionBump.Manifest.Record

/-!
# Manifests of dependency-injection files

* `Di.decodeFile` decodes a manifest.
* `Di.encodeFile` writes one with every field.
-/

namespace VersionBump.Manifest.Di

open Json VersionBump.Di

/-- The fields of a virtual type. -/
def declarationFields : Record Declaration :=
  Declaration.mk <$> required "name" text <*> required "type" text <*> defaulted "shared" flag true

/-- The fields of a file. -/
def configFields : Record Config :=
  Config.mk <$> required "module" text <*> defaulted "scope" text globalScope <*>
    defaulted "virtual_types" (list (declarationFields.decode "struct VirtualTypeDecl")) []

/-- A dependency-injection file. -/
def decodeFile : Decoder Config := configFields.decode "struct DiConfig"

/-- The declaration of a virtual type as JSON. -/
def encodeDeclaration (d : Declaration) : Value :=
  .object [("name", .string d.name), ("type", .string d.type), ("shared", .bool d.shared)]

/-- A dependency-injection file as JSON. -/
def encodeFile (c : Config) : Value :=
  .object [("module", .string c.module), ("scope", .string c.scope),
    ("virtual_types", .array (c.virtualTypes.map encodeDeclaration))]

/-- A registered virtual type as JSON. -/
def encodeType (v : VirtualType) : Value :=
  .object [("name", .string v.name), ("type_name", .string v.type), ("shared", .bool v.shared),
    ("scope", .string v.scope), ("module", .string v.module)]

end VersionBump.Manifest.Di
