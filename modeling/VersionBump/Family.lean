import VersionBump.Path

/-!
# Families of manifests

A manifest belongs to the family that its file name tells. A comparison may be restricted to some
families; names that are not known do not count, and a restriction to nothing is none.

* `Family.accepts` decides whether a file belongs to a family.
* `Family.select` finds the families of a list of names.
* `Family.find?` finds the family of a file among the selected ones.
-/

namespace VersionBump

/-- A family of manifests. -/
inductive Family where
  | php
  | database
  | di
  | xsd
  | settings
  | less
  deriving DecidableEq, Repr, Inhabited

namespace Family

/-- All families, in the order in which a file is tried. -/
def all : List Family := [php, database, di, xsd, settings, less]

/-- The name of a family. -/
def name : Family → String
  | php => "php"
  | database => "database"
  | di => "di"
  | xsd => "xsd"
  | settings => "system"
  | less => "less"

/-- Whether a file belongs to the family. Some families have a file name of their own, others an
ending. -/
def accepts (f : Family) (path : Path) : Bool :=
  let file := path.fileName?.getD ""
  match f with
  | php => Text.endsWith file ".php.json"
  | database => file == "db_schema.json"
  | di => file == "di.json"
  | xsd => Text.endsWith file ".xsd.json"
  | settings => file == "system.json"
  | less => Text.endsWith file ".less.json"

/-- The family of a name, in any case. -/
def ofName? (s : String) : Option Family :=
  match Text.toLower s with
  | "php" => some php
  | "database" => some database
  | "db" => some database
  | "db_schema" => some database
  | "di" => some di
  | "xsd" => some xsd
  | "system" => some settings
  | "less" => some less
  | _ => none

/-- The families of a list of names, or all of them if no name is known. -/
def select (names : List String) : List Family :=
  match names.filterMap ofName? with
  | [] => all
  | families => families

/-- The first of the selected families that a file belongs to. -/
def find? (selected : List Family) (path : Path) : Option Family := selected.find? (·.accepts path)

end Family

end VersionBump
