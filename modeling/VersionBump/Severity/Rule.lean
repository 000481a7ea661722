import VersionBump.Change
import VersionBump.Context
import VersionBump.Level

/-!
# Severity rules

Every kind of change has a rule: a level, a stable code and a reason. The rules of PHP changes
depend on the kind of the class-like, because implementors of an interface must follow every change
of a signature, and their codes start with the letter of that kind.

* `Severity.rule` is the rule of a kind of change in a context.
* `Severity.catalogue` lists every kind of change with its context and its rule.
-/

namespace VersionBump.Severity

/-- The classification of a change. -/
structure Rule where
  level : Level
  code : String
  reason : String
  deriving DecidableEq, Repr, Inhabited

/-- A row of a family's table: the number within the family, the level and the reason. -/
structure Row where
  number : Nat
  level : Level
  reason : String
  deriving DecidableEq, Repr, Inhabited

/-- The kind of class-like that a context stands for in the PHP rules. Contexts that are none of the
three count as classes. -/
inductive Column where
  | classes
  | interfaces
  | traits
  deriving DecidableEq, Repr, Inhabited

namespace Column

/-- The column of a context. -/
def ofContext : Context → Column
  | .interfaces => interfaces
  | .traits => traits
  | _ => classes

/-- The letter in front of the codes of a column. -/
def letter : Column → String
  | classes => "C"
  | interfaces => "I"
  | traits => "T"

/-- The place of a column in the docblock codes. -/
def index : Column → Nat
  | classes => 0
  | interfaces => 1
  | traits => 2

/-- The level `other`, or major for interfaces. -/
def stricter (column : Column) (other : Level) : Level :=
  if column = interfaces then .major else other

end Column

/-- The rows of the PHP changes. -/
def phpRow (column : Column) : PhpChange → Row
  | .added => ⟨1, .minor, "Declaration was added"⟩
  | .removed => ⟨2, .major, "Declaration was removed"⟩
  | .membershipAdded .declaration => ⟨900, .minor, "Declaration was added to the public API"⟩
  | .membershipAdded .method => ⟨902, .minor, "Method was added to the public API"⟩
  | .membershipAdded .property => ⟨904, .minor, "Property was added to the public API"⟩
  | .membershipAdded .constant => ⟨906, .minor, "Constant was added to the public API"⟩
  | .membershipRemoved .declaration => ⟨901, .major, "Declaration was removed from the public API"⟩
  | .membershipRemoved .method => ⟨903, .major, "Method was removed from the public API"⟩
  | .membershipRemoved .property => ⟨905, .major, "Property was removed from the public API"⟩
  | .membershipRemoved .constant => ⟨907, .major, "Constant was removed from the public API"⟩
  | .parentAdded => ⟨3, column.stricter .minor, "Parent was added"⟩
  | .parentRemoved => ⟨4, .major, "Parent was removed"⟩
  | .interfaceAdded => ⟨5, .minor, "Interface was added"⟩
  | .interfaceRemoved => ⟨6, .major, "Interface was removed"⟩
  | .traitAdded => ⟨7, .minor, "Trait was added"⟩
  | .traitRemoved => ⟨8, .major, "Trait was removed"⟩
  | .becameFinal => ⟨9, .major, "Declaration became final"⟩
  | .becameNonFinal => ⟨10, .minor, "Declaration is no longer final"⟩
  | .becameAbstract => ⟨11, .major, "Declaration became abstract"⟩
  | .becameNonAbstract => ⟨12, .minor, "Declaration is no longer abstract"⟩
  | .methodAdded => ⟨20, column.stricter .minor, "Method was added"⟩
  | .methodRemoved => ⟨21, .major, "Method was removed"⟩
  | .methodMovedToParent => ⟨22, .patch, "Method was moved to a parent"⟩
  | .methodMovedFromParent => ⟨23, .patch, "Method was moved from a parent"⟩
  | .methodOverwriteAdded => ⟨24, .patch, "Method overwrite was added"⟩
  | .methodVisibilityDecreased => ⟨25, .major, "Method visibility was decreased"⟩
  | .methodVisibilityIncreased => ⟨26, .minor, "Method visibility was increased"⟩
  | .methodBecameStatic => ⟨27, .major, "Method became static"⟩
  | .methodBecameNonStatic => ⟨28, .major, "Method is no longer static"⟩
  | .methodBecameFinal => ⟨29, .major, "Method became final"⟩
  | .methodBecameAbstract => ⟨30, .major, "Method became abstract"⟩
  | .requiredParameterAdded => ⟨40, .major, "Required parameter was added"⟩
  | .optionalParameterAdded => ⟨41, column.stricter .patch, "Optional parameter was added"⟩
  | .optionalParameterAddedToExtendable =>
    ⟨42, column.stricter .minor, "Optional parameter was added to a method of an extendable class"⟩
  | .parameterRemoved => ⟨43, .major, "Parameter was removed"⟩
  | .parameterBecameRequired => ⟨44, .major, "Parameter became required"⟩
  | .parameterBecameOptional => ⟨45, column.stricter .patch, "Parameter became optional"⟩
  | .parameterTypeChanged => ⟨46, .major, "Parameter type was changed"⟩
  | .parameterDefaultChanged => ⟨47, .minor, "Parameter default value was changed"⟩
  | .returnTypeAdded => ⟨50, .major, "Return type was added"⟩
  | .returnTypeRemoved => ⟨51, .major, "Return type was removed"⟩
  | .returnTypeChanged => ⟨52, .major, "Return type was changed"⟩
  | .exceptionSubclassed => ⟨60, .minor, "Thrown exception was replaced by a subclass"⟩
  | .exceptionSuperclassed => ⟨61, .major, "Thrown exception was replaced by a superclass"⟩
  | .exceptionAdded => ⟨62, .major, "New exception is thrown"⟩
  | .exceptionRemoved => ⟨63, .patch, "Exception is no longer thrown"⟩
  | .propertyAdded => ⟨70, .minor, "Property was added"⟩
  | .propertyRemoved => ⟨71, .major, "Property was removed"⟩
  | .propertyMovedToParent => ⟨72, .patch, "Property was moved to a parent"⟩
  | .propertyMovedFromParent => ⟨73, .patch, "Property was moved from a parent"⟩
  | .propertyVisibilityDecreased => ⟨74, .major, "Property visibility was decreased"⟩
  | .propertyVisibilityIncreased => ⟨75, .minor, "Property visibility was increased"⟩
  | .propertyTypeChanged => ⟨76, .major, "Property type was changed"⟩
  | .propertyBecameStatic => ⟨77, .major, "Property became static"⟩
  | .propertyBecameNonStatic => ⟨78, .major, "Property is no longer static"⟩
  | .constantAdded => ⟨80, .minor, "Constant was added"⟩
  | .constantRemoved => ⟨81, .major, "Constant was removed"⟩
  | .constantMovedToParent => ⟨82, .patch, "Constant was moved to a parent"⟩
  | .constantMovedFromParent => ⟨83, .patch, "Constant was moved from a parent"⟩
  | .constantVisibilityDecreased => ⟨84, .major, "Constant visibility was decreased"⟩
  | .constantVisibilityIncreased => ⟨85, .minor, "Constant visibility was increased"⟩

/-- The rows of the database changes. -/
def databaseRow : DatabaseChange → Row
  | .tableAdded => ⟨101, .minor, "Table was added"⟩
  | .tableDropped => ⟨102, .major, "Table was dropped"⟩
  | .tableResourceChange => ⟨103, .major, "Table resource was changed"⟩
  | .tableEngineChange => ⟨104, .minor, "Table engine was changed"⟩
  | .tableCommentChange => ⟨105, .patch, "Table comment was changed"⟩
  | .columnAdd => ⟨106, .minor, "Column was added"⟩
  | .columnRemove => ⟨107, .major, "Column was removed"⟩
  | .columnTypeChange => ⟨108, .major, "Column type was changed"⟩
  | .columnBecameNotNull => ⟨109, .major, "Column became not nullable"⟩
  | .columnBecameNullable => ⟨110, .minor, "Column became nullable"⟩
  | .columnDefaultChange => ⟨111, .minor, "Column default was changed"⟩
  | .columnDefinitionChange => ⟨112, .major, "Column definition was changed"⟩
  | .indexAdd => ⟨113, .minor, "Index was added"⟩
  | .indexRemove => ⟨114, .major, "Index was removed"⟩
  | .indexChange => ⟨115, .major, "Index was changed"⟩
  | .primaryKeyAdd => ⟨116, .major, "Primary key was added"⟩
  | .primaryKeyRemove => ⟨117, .major, "Primary key was removed"⟩
  | .primaryKeyChange => ⟨118, .major, "Primary key was changed"⟩
  | .uniqueKeyAdd => ⟨119, .major, "Unique key was added"⟩
  | .uniqueKeyRemove => ⟨120, .major, "Unique key was removed"⟩
  | .uniqueKeyChange => ⟨121, .major, "Unique key was changed"⟩
  | .foreignKeyAdd => ⟨122, .major, "Foreign key was added"⟩
  | .foreignKeyRemove => ⟨123, .major, "Foreign key was removed"⟩
  | .foreignKeyChange => ⟨124, .major, "Foreign key was changed"⟩

/-- The rows of the virtual type changes. -/
def diRow : DiChange → Row
  | .virtualTypeAdded => ⟨101, .minor, "Virtual type was added"⟩
  | .virtualTypeAddedInScope => ⟨102, .patch, "Virtual type was added in a non-global scope"⟩
  | .virtualTypeRemoved => ⟨103, .major, "Virtual type was removed"⟩
  | .virtualTypeScopeChangedToGlobal => ⟨104, .patch, "Virtual type scope was changed to global"⟩
  | .virtualTypeScopeChanged => ⟨105, .major, "Virtual type scope was changed"⟩
  | .virtualTypeTypeChanged => ⟨106, .major, "Virtual type target type was changed"⟩
  | .virtualTypeSharedChanged => ⟨107, .major, "Virtual type shared flag was changed"⟩

/-- The rows of the grammar changes. -/
def xsdRow : XsdChange → Row
  | .schemaFileAdded => ⟨101, .minor, "Schema file was added"⟩
  | .schemaFileRemoved => ⟨102, .major, "Schema file was removed"⟩
  | .optionalNodeAdded => ⟨103, .minor, "Optional node was added"⟩
  | .requiredNodeAdded => ⟨104, .major, "Required node was added"⟩
  | .nodeRemoved => ⟨105, .major, "Node was removed"⟩
  | .optionalAttributeAdded => ⟨106, .minor, "Optional attribute was added"⟩
  | .requiredAttributeAdded => ⟨107, .major, "Required attribute was added"⟩
  | .attributeRemoved => ⟨108, .major, "Attribute was removed"⟩
  | .becameRequired => ⟨109, .major, "Node became required"⟩
  | .becameOptional => ⟨110, .minor, "Node became optional"⟩
  | .typeChanged => ⟨111, .major, "Node type was changed"⟩

/-- The rows of the settings changes. -/
def settingsRow : SettingsChange → Row
  | .fileAdded => ⟨101, .minor, "System configuration file was added"⟩
  | .fileRemoved => ⟨102, .major, "System configuration file was removed"⟩
  | .sectionAdded => ⟨103, .minor, "Section was added"⟩
  | .sectionRemoved => ⟨104, .major, "Section was removed"⟩
  | .groupAdded => ⟨105, .minor, "Group was added"⟩
  | .groupRemoved => ⟨106, .major, "Group was removed"⟩
  | .fieldAdded => ⟨107, .minor, "Field was added"⟩
  | .fieldRemoved => ⟨108, .major, "Field was removed"⟩
  | .fieldTypeChanged => ⟨109, .patch, "Field type was changed"⟩
  | .fieldScopeReduced => ⟨110, .major, "Field is shown in fewer scopes"⟩
  | .fieldScopeExtended => ⟨111, .minor, "Field is shown in more scopes"⟩

/-- The rows of the stylesheet changes. -/
def lessRow : LessChange → Row
  | .fileAdded => ⟨101, .minor, "Stylesheet was added"⟩
  | .fileRemoved => ⟨102, .major, "Stylesheet was removed"⟩
  | .variableAdded => ⟨103, .minor, "Variable was added"⟩
  | .variableRemoved => ⟨104, .major, "Variable was removed"⟩
  | .variableValueChanged => ⟨105, .patch, "Variable value was changed"⟩
  | .mixinAdded => ⟨106, .minor, "Mixin was added"⟩
  | .mixinRemoved => ⟨107, .major, "Mixin was removed"⟩
  | .importAdded => ⟨108, .patch, "Import was added"⟩
  | .importRemoved => ⟨109, .major, "Import was removed"⟩

/-- The levels of a moved type annotation, for classes, interfaces and traits. -/
def docTypeLevel : TypeSlot → TypeMove → Column → Level
  | .parameter, .docToInline, _ => .major
  | .parameter, .inlineToDoc, .traits => .patch
  | .parameter, .inlineToDoc, _ => .major
  | .returnValue, .docToInline, .traits => .minor
  | .returnValue, .docToInline, _ => .major
  | .returnValue, .inlineToDoc, _ => .patch
  | .property, _, .interfaces => .patch
  | .property, _, _ => .major

/-- The place of a moved type annotation in the docblock codes. -/
def docTypeIndex : TypeSlot → TypeMove → Nat
  | .parameter, .docToInline => 0
  | .parameter, .inlineToDoc => 1
  | .returnValue, .docToInline => 2
  | .returnValue, .inlineToDoc => 3
  | .property, .docToInline => 4
  | .property, .inlineToDoc => 5

/-- The reason of a moved type annotation. -/
def docTypeReason (slot : TypeSlot) (move : TypeMove) : String :=
  slot.name ++ " type moved from " ++
    match move with
    | .docToInline => "docblock to inline declaration"
    | .inlineToDoc => "inline declaration to docblock"

/-- The rule of a row, with the letters of its family in front of the number. -/
def Row.rule (letters : String) (row : Row) : Rule :=
  ⟨row.level, letters ++ Text.padNat 3 row.number, row.reason⟩

/-- The rule of a kind of change in a context. -/
def rule (context : Context) : Change → Rule
  | .php change =>
    let column := Column.ofContext context
    (phpRow column change).rule column.letter
  | .docType slot move =>
    let column := Column.ofContext context
    (Row.mk (101 + docTypeIndex slot move * 3 + column.index) (docTypeLevel slot move column)
      (docTypeReason slot move)).rule "D"
  | .database change => (databaseRow change).rule "DB"
  | .di change => (diRow change).rule "DI"
  | .xsd change => (xsdRow change).rule "X"
  | .settings change => (settingsRow change).rule "S"
  | .less change => (lessRow change).rule "L"

/-- The contexts of PHP declarations. -/
def phpContexts : List Context := [.classes, .interfaces, .traits]

/-- Every kind of change with a context in which it arises. -/
def kinds : List (Context × Change) :=
  phpContexts.flatMap (fun c => (PhpChange.all.map Change.php ++ Change.docTypes).map (c, ·)) ++
    DatabaseChange.all.map (fun k => (.database, .database k)) ++
    DiChange.all.map (fun k => (.di, .di k)) ++
    XsdChange.all.map (fun k => (.xsd, .xsd k)) ++
    SettingsChange.all.map (fun k => (.settings, .settings k)) ++
    LessChange.all.map (fun k => (.less, .less k))

/-- Every kind of change with its context and its rule. -/
def catalogue : List (Context × Change × Rule) := kinds.map fun (c, k) => (c, k, rule c k)

end VersionBump.Severity
