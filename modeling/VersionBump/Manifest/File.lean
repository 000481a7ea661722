import VersionBump.Family
import VersionBump.Manifest.Database
import VersionBump.Manifest.Di
import VersionBump.Manifest.Less
import VersionBump.Manifest.Php
import VersionBump.Manifest.Settings
import VersionBump.Manifest.Xsd

/-!
# Manifest files

What a manifest of any family declares, and how its text is read and written.

* `Declared.read` reads the text of a manifest of a given family.
* `Declared.encode` writes it again.
-/

namespace VersionBump.Manifest

/-- The content of a manifest. -/
inductive Declared where
  | php (declarations : List VersionBump.Php.ClassLike)
  | database (schema : VersionBump.Database.ModuleSchema)
  | di (config : VersionBump.Di.Config)
  | xsd (grammar : VersionBump.Xsd.Grammar)
  | settings (config : VersionBump.Settings.Config)
  | less (sheet : VersionBump.Less.Stylesheet)
  deriving DecidableEq, Repr, Inhabited

/-- Reads a text whose value a decoder accepts. Nothing but blanks may follow the value. -/
def readText {α : Type} (d : Decoder α) (source : String) : Except DecodeError α := do
  let doc := Json.Document.read source
  let a ← d doc.root
  if doc.followed then .error (.form .trailingCharacters) else .ok a

namespace Declared

/-- Reads the text of a manifest of a family. -/
def read (family : Family) (source : String) : Except DecodeError Declared :=
  match family with
  | .php => (readText Php.decodeFile source).map php
  | .database => (readText Database.decodeFile source).map database
  | .di => (readText Di.decodeFile source).map di
  | .xsd => (readText Xsd.decodeFile source).map xsd
  | .settings => (readText Settings.decodeFile source).map settings
  | .less => (readText Less.decodeFile source).map less

/-- The content of a manifest as JSON. -/
def encode : Declared → Json.Value
  | php cs => Php.encodeFile cs
  | database s => Database.encodeFile s
  | di c => Di.encodeFile c
  | xsd g => Xsd.encodeFile g
  | settings c => Settings.encodeFile c
  | less s => Less.encodeFile s

end Declared

end VersionBump.Manifest
