import VersionBump.Json.Value
import VersionBump.Manifest.Record
import VersionBump.Settings.Config

/-!
# Manifests of admin settings

* `Settings.decodeFile` decodes a manifest.
* `Settings.encodeFile` writes one with every field.
-/

namespace VersionBump.Manifest.Settings

open Json VersionBump.Settings

/-- The fields of a settings field. -/
def fieldFields : Record Field :=
  VersionBump.Settings.Field.mk <$> required "id" text <*> maybe "type" text <*>
    defaulted "show_in_default" flag false <*> defaulted "show_in_website" flag false <*>
    defaulted "show_in_store" flag false

/-- The fields of a group. -/
def groupFields : Record Group :=
  VersionBump.Settings.Group.mk <$> required "id" text <*>
    defaulted "fields" (list (fieldFields.decode "struct SystemField")) []

/-- The fields of a section. -/
def sectionFields : Record VersionBump.Settings.Section :=
  VersionBump.Settings.Section.mk <$> required "id" text <*>
    defaulted "groups" (list (groupFields.decode "struct SystemGroup")) []

/-- The fields of the settings of a module. -/
def configFields : Record Config :=
  Config.mk <$> required "module" text <*>
    defaulted "sections" (list (sectionFields.decode "struct SystemSection")) []

/-- The settings of a module. -/
def decodeFile : Decoder Config := configFields.decode "struct SystemConfig"

/-- A field as JSON. -/
def encodeField (f : Field) : Value :=
  .object [("id", .string f.id), ("type", .optional f.type),
    ("show_in_default", .bool f.showInDefault), ("show_in_website", .bool f.showInWebsite),
    ("show_in_store", .bool f.showInStore)]

/-- A group as JSON. -/
def encodeGroup (g : Group) : Value :=
  .object [("id", .string g.id), ("fields", .array (g.fields.map encodeField))]

/-- A section as JSON. -/
def encodeSection (s : VersionBump.Settings.Section) : Value :=
  .object [("id", .string s.id), ("groups", .array (s.groups.map encodeGroup))]

/-- The settings of a module as JSON. -/
def encodeFile (c : Config) : Value :=
  .object [("module", .string c.module), ("sections", .array (c.sections.map encodeSection))]

end VersionBump.Manifest.Settings
