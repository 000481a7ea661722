/-!
# Kinds of change

What a comparison can find, one constructor for each kind of finding. The kinds are grouped by the
family of declarations they concern; `Change` joins the families.

* `Change.name` is the name under which a kind is listed.
* Each family lists its kinds in `all`, in the order of the catalogue.
-/

namespace VersionBump

/-- The part of a class-like whose publication changes. -/
inductive Member where
  | declaration
  | method
  | property
  | constant
  deriving DecidableEq, Repr, Inhabited

/-- The name of a part of a class-like. -/
def Member.name : Member → String
  | .declaration => "Declaration"
  | .method => "Method"
  | .property => "Property"
  | .constant => "Constant"

/-- A change of a class, interface or trait. -/
inductive PhpChange where
  | added
  | removed
  | membershipAdded (of : Member)
  | membershipRemoved (of : Member)
  | parentAdded
  | parentRemoved
  | interfaceAdded
  | interfaceRemoved
  | traitAdded
  | traitRemoved
  | becameFinal
  | becameNonFinal
  | becameAbstract
  | becameNonAbstract
  | methodAdded
  | methodRemoved
  | methodMovedToParent
  | methodMovedFromParent
  | methodOverwriteAdded
  | methodVisibilityDecreased
  | methodVisibilityIncreased
  | methodBecameStatic
  | methodBecameNonStatic
  | methodBecameFinal
  | methodBecameAbstract
  | requiredParameterAdded
  | optionalParameterAdded
  | optionalParameterAddedToExtendable
  | parameterRemoved
  | parameterBecameRequired
  | parameterBecameOptional
  | parameterTypeChanged
  | parameterDefaultChanged
  | returnTypeAdded
  | returnTypeRemoved
  | returnTypeChanged
  | exceptionSubclassed
  | exceptionSuperclassed
  | exceptionAdded
  | exceptionRemoved
  | propertyAdded
  | propertyRemoved
  | propertyMovedToParent
  | propertyMovedFromParent
  | propertyVisibilityDecreased
  | propertyVisibilityIncreased
  | propertyTypeChanged
  | propertyBecameStatic
  | propertyBecameNonStatic
  | constantAdded
  | constantRemoved
  | constantMovedToParent
  | constantMovedFromParent
  | constantVisibilityDecreased
  | constantVisibilityIncreased
  deriving DecidableEq, Repr, Inhabited

/-- The listed name of the change. -/
def PhpChange.name : PhpChange → String
  | .added => "Added"
  | .removed => "Removed"
  | .membershipAdded member => "MembershipAdded(" ++ member.name ++ ")"
  | .membershipRemoved member => "MembershipRemoved(" ++ member.name ++ ")"
  | .parentAdded => "ParentAdded"
  | .parentRemoved => "ParentRemoved"
  | .interfaceAdded => "InterfaceAdded"
  | .interfaceRemoved => "InterfaceRemoved"
  | .traitAdded => "TraitAdded"
  | .traitRemoved => "TraitRemoved"
  | .becameFinal => "BecameFinal"
  | .becameNonFinal => "BecameNonFinal"
  | .becameAbstract => "BecameAbstract"
  | .becameNonAbstract => "BecameNonAbstract"
  | .methodAdded => "MethodAdded"
  | .methodRemoved => "MethodRemoved"
  | .methodMovedToParent => "MethodMovedToParent"
  | .methodMovedFromParent => "MethodMovedFromParent"
  | .methodOverwriteAdded => "MethodOverwriteAdded"
  | .methodVisibilityDecreased => "MethodVisibilityDecreased"
  | .methodVisibilityIncreased => "MethodVisibilityIncreased"
  | .methodBecameStatic => "MethodBecameStatic"
  | .methodBecameNonStatic => "MethodBecameNonStatic"
  | .methodBecameFinal => "MethodBecameFinal"
  | .methodBecameAbstract => "MethodBecameAbstract"
  | .requiredParameterAdded => "RequiredParameterAdded"
  | .optionalParameterAdded => "OptionalParameterAdded"
  | .optionalParameterAddedToExtendable => "OptionalParameterAddedToExtendable"
  | .parameterRemoved => "ParameterRemoved"
  | .parameterBecameRequired => "ParameterBecameRequired"
  | .parameterBecameOptional => "ParameterBecameOptional"
  | .parameterTypeChanged => "ParameterTypeChanged"
  | .parameterDefaultChanged => "ParameterDefaultChanged"
  | .returnTypeAdded => "ReturnTypeAdded"
  | .returnTypeRemoved => "ReturnTypeRemoved"
  | .returnTypeChanged => "ReturnTypeChanged"
  | .exceptionSubclassed => "ExceptionSubclassed"
  | .exceptionSuperclassed => "ExceptionSuperclassed"
  | .exceptionAdded => "ExceptionAdded"
  | .exceptionRemoved => "ExceptionRemoved"
  | .propertyAdded => "PropertyAdded"
  | .propertyRemoved => "PropertyRemoved"
  | .propertyMovedToParent => "PropertyMovedToParent"
  | .propertyMovedFromParent => "PropertyMovedFromParent"
  | .propertyVisibilityDecreased => "PropertyVisibilityDecreased"
  | .propertyVisibilityIncreased => "PropertyVisibilityIncreased"
  | .propertyTypeChanged => "PropertyTypeChanged"
  | .propertyBecameStatic => "PropertyBecameStatic"
  | .propertyBecameNonStatic => "PropertyBecameNonStatic"
  | .constantAdded => "ConstantAdded"
  | .constantRemoved => "ConstantRemoved"
  | .constantMovedToParent => "ConstantMovedToParent"
  | .constantMovedFromParent => "ConstantMovedFromParent"
  | .constantVisibilityDecreased => "ConstantVisibilityDecreased"
  | .constantVisibilityIncreased => "ConstantVisibilityIncreased"

/-- Every change of the family, in catalogue order. -/
def PhpChange.all : List PhpChange :=
  [.added, .removed, .membershipAdded .declaration, .membershipRemoved .declaration,
   .membershipAdded .method, .membershipRemoved .method, .membershipAdded .property,
   .membershipRemoved .property, .membershipAdded .constant, .membershipRemoved .constant,
   .parentAdded, .parentRemoved, .interfaceAdded, .interfaceRemoved, .traitAdded, .traitRemoved,
   .becameFinal, .becameNonFinal, .becameAbstract, .becameNonAbstract, .methodAdded,
   .methodRemoved, .methodMovedToParent, .methodMovedFromParent, .methodOverwriteAdded,
   .methodVisibilityDecreased, .methodVisibilityIncreased, .methodBecameStatic,
   .methodBecameNonStatic, .methodBecameFinal, .methodBecameAbstract, .requiredParameterAdded,
   .optionalParameterAdded, .optionalParameterAddedToExtendable, .parameterRemoved,
   .parameterBecameRequired, .parameterBecameOptional, .parameterTypeChanged,
   .parameterDefaultChanged, .returnTypeAdded, .returnTypeRemoved, .returnTypeChanged,
   .exceptionSubclassed, .exceptionSuperclassed, .exceptionAdded, .exceptionRemoved,
   .propertyAdded, .propertyRemoved, .propertyMovedToParent, .propertyMovedFromParent,
   .propertyVisibilityDecreased, .propertyVisibilityIncreased, .propertyTypeChanged,
   .propertyBecameStatic, .propertyBecameNonStatic, .constantAdded, .constantRemoved,
   .constantMovedToParent, .constantMovedFromParent, .constantVisibilityDecreased,
   .constantVisibilityIncreased]

/-- A change of a database table. -/
inductive DatabaseChange where
  | tableAdded
  | tableDropped
  | tableResourceChange
  | tableEngineChange
  | tableCommentChange
  | columnAdd
  | columnRemove
  | columnTypeChange
  | columnBecameNotNull
  | columnBecameNullable
  | columnDefaultChange
  | columnDefinitionChange
  | indexAdd
  | indexRemove
  | indexChange
  | primaryKeyAdd
  | primaryKeyRemove
  | primaryKeyChange
  | uniqueKeyAdd
  | uniqueKeyRemove
  | uniqueKeyChange
  | foreignKeyAdd
  | foreignKeyRemove
  | foreignKeyChange
  deriving DecidableEq, Repr, Inhabited

/-- The listed name of the change. -/
def DatabaseChange.name : DatabaseChange → String
  | .tableAdded => "TableAdded"
  | .tableDropped => "TableDropped"
  | .tableResourceChange => "TableResourceChange"
  | .tableEngineChange => "TableEngineChange"
  | .tableCommentChange => "TableCommentChange"
  | .columnAdd => "ColumnAdd"
  | .columnRemove => "ColumnRemove"
  | .columnTypeChange => "ColumnTypeChange"
  | .columnBecameNotNull => "ColumnBecameNotNull"
  | .columnBecameNullable => "ColumnBecameNullable"
  | .columnDefaultChange => "ColumnDefaultChange"
  | .columnDefinitionChange => "ColumnDefinitionChange"
  | .indexAdd => "IndexAdd"
  | .indexRemove => "IndexRemove"
  | .indexChange => "IndexChange"
  | .primaryKeyAdd => "PrimaryKeyAdd"
  | .primaryKeyRemove => "PrimaryKeyRemove"
  | .primaryKeyChange => "PrimaryKeyChange"
  | .uniqueKeyAdd => "UniqueKeyAdd"
  | .uniqueKeyRemove => "UniqueKeyRemove"
  | .uniqueKeyChange => "UniqueKeyChange"
  | .foreignKeyAdd => "ForeignKeyAdd"
  | .foreignKeyRemove => "ForeignKeyRemove"
  | .foreignKeyChange => "ForeignKeyChange"

/-- Every change of the family, in catalogue order. -/
def DatabaseChange.all : List DatabaseChange :=
  [.tableAdded, .tableDropped, .tableResourceChange, .tableEngineChange, .tableCommentChange,
   .columnAdd, .columnRemove, .columnTypeChange, .columnBecameNotNull, .columnBecameNullable,
   .columnDefaultChange, .columnDefinitionChange, .indexAdd, .indexRemove, .indexChange,
   .primaryKeyAdd, .primaryKeyRemove, .primaryKeyChange, .uniqueKeyAdd, .uniqueKeyRemove,
   .uniqueKeyChange, .foreignKeyAdd, .foreignKeyRemove, .foreignKeyChange]

/-- A change of a virtual type. -/
inductive DiChange where
  | virtualTypeAdded
  | virtualTypeAddedInScope
  | virtualTypeRemoved
  | virtualTypeScopeChangedToGlobal
  | virtualTypeScopeChanged
  | virtualTypeTypeChanged
  | virtualTypeSharedChanged
  deriving DecidableEq, Repr, Inhabited

/-- The listed name of the change. -/
def DiChange.name : DiChange → String
  | .virtualTypeAdded => "VirtualTypeAdded"
  | .virtualTypeAddedInScope => "VirtualTypeAddedInScope"
  | .virtualTypeRemoved => "VirtualTypeRemoved"
  | .virtualTypeScopeChangedToGlobal => "VirtualTypeScopeChangedToGlobal"
  | .virtualTypeScopeChanged => "VirtualTypeScopeChanged"
  | .virtualTypeTypeChanged => "VirtualTypeTypeChanged"
  | .virtualTypeSharedChanged => "VirtualTypeSharedChanged"

/-- Every change of the family, in catalogue order. -/
def DiChange.all : List DiChange :=
  [.virtualTypeAdded, .virtualTypeAddedInScope, .virtualTypeRemoved,
   .virtualTypeScopeChangedToGlobal, .virtualTypeScopeChanged, .virtualTypeTypeChanged,
   .virtualTypeSharedChanged]

/-- A change of an XML schema file. -/
inductive XsdChange where
  | schemaFileAdded
  | schemaFileRemoved
  | optionalNodeAdded
  | requiredNodeAdded
  | nodeRemoved
  | optionalAttributeAdded
  | requiredAttributeAdded
  | attributeRemoved
  | becameRequired
  | becameOptional
  | typeChanged
  deriving DecidableEq, Repr, Inhabited

/-- The listed name of the change. -/
def XsdChange.name : XsdChange → String
  | .schemaFileAdded => "SchemaFileAdded"
  | .schemaFileRemoved => "SchemaFileRemoved"
  | .optionalNodeAdded => "OptionalNodeAdded"
  | .requiredNodeAdded => "RequiredNodeAdded"
  | .nodeRemoved => "NodeRemoved"
  | .optionalAttributeAdded => "OptionalAttributeAdded"
  | .requiredAttributeAdded => "RequiredAttributeAdded"
  | .attributeRemoved => "AttributeRemoved"
  | .becameRequired => "BecameRequired"
  | .becameOptional => "BecameOptional"
  | .typeChanged => "TypeChanged"

/-- Every change of the family, in catalogue order. -/
def XsdChange.all : List XsdChange :=
  [.schemaFileAdded, .schemaFileRemoved, .optionalNodeAdded, .requiredNodeAdded, .nodeRemoved,
   .optionalAttributeAdded, .requiredAttributeAdded, .attributeRemoved, .becameRequired,
   .becameOptional, .typeChanged]

/-- A change of the admin settings of a module. -/
inductive SettingsChange where
  | fileAdded
  | fileRemoved
  | sectionAdded
  | sectionRemoved
  | groupAdded
  | groupRemoved
  | fieldAdded
  | fieldRemoved
  | fieldTypeChanged
  | fieldScopeReduced
  | fieldScopeExtended
  deriving DecidableEq, Repr, Inhabited

/-- The listed name of the change. -/
def SettingsChange.name : SettingsChange → String
  | .fileAdded => "FileAdded"
  | .fileRemoved => "FileRemoved"
  | .sectionAdded => "SectionAdded"
  | .sectionRemoved => "SectionRemoved"
  | .groupAdded => "GroupAdded"
  | .groupRemoved => "GroupRemoved"
  | .fieldAdded => "FieldAdded"
  | .fieldRemoved => "FieldRemoved"
  | .fieldTypeChanged => "FieldTypeChanged"
  | .fieldScopeReduced => "FieldScopeReduced"
  | .fieldScopeExtended => "FieldScopeExtended"

/-- Every change of the family, in catalogue order. -/
def SettingsChange.all : List SettingsChange :=
  [.fileAdded, .fileRemoved, .sectionAdded, .sectionRemoved, .groupAdded, .groupRemoved,
   .fieldAdded, .fieldRemoved, .fieldTypeChanged, .fieldScopeReduced, .fieldScopeExtended]

/-- A change of a stylesheet. -/
inductive LessChange where
  | fileAdded
  | fileRemoved
  | variableAdded
  | variableRemoved
  | variableValueChanged
  | mixinAdded
  | mixinRemoved
  | importAdded
  | importRemoved
  deriving DecidableEq, Repr, Inhabited

/-- The listed name of the change. -/
def LessChange.name : LessChange → String
  | .fileAdded => "FileAdded"
  | .fileRemoved => "FileRemoved"
  | .variableAdded => "VariableAdded"
  | .variableRemoved => "VariableRemoved"
  | .variableValueChanged => "VariableValueChanged"
  | .mixinAdded => "MixinAdded"
  | .mixinRemoved => "MixinRemoved"
  | .importAdded => "ImportAdded"
  | .importRemoved => "ImportRemoved"

/-- Every change of the family, in catalogue order. -/
def LessChange.all : List LessChange :=
  [.fileAdded, .fileRemoved, .variableAdded, .variableRemoved, .variableValueChanged,
   .mixinAdded, .mixinRemoved, .importAdded, .importRemoved]

/-- The place of a type annotation. -/
inductive TypeSlot where
  | parameter
  | returnValue
  | property
  deriving DecidableEq, Repr, Inhabited

/-- The name of the place. -/
def TypeSlot.name : TypeSlot → String
  | .parameter => "Parameter"
  | .returnValue => "Return"
  | .property => "Property"

/-- The way an unchanged type annotation moved. -/
inductive TypeMove where
  | docToInline
  | inlineToDoc
  deriving DecidableEq, Repr, Inhabited

/-- The name of the move. -/
def TypeMove.name : TypeMove → String
  | .docToInline => "DocToInline"
  | .inlineToDoc => "InlineToDoc"

/-- A kind of change. -/
inductive Change where
  | php (change : PhpChange)
  | docType (slot : TypeSlot) (move : TypeMove)
  | database (change : DatabaseChange)
  | di (change : DiChange)
  | xsd (change : XsdChange)
  | settings (change : SettingsChange)
  | less (change : LessChange)
  deriving DecidableEq, Repr, Inhabited

/-- Every move of every type annotation, in catalogue order. -/
def Change.docTypes : List Change :=
  [.docType .parameter .docToInline, .docType .parameter .inlineToDoc,
   .docType .returnValue .docToInline, .docType .returnValue .inlineToDoc,
   .docType .property .docToInline, .docType .property .inlineToDoc]

/-- The listed name of the change. -/
def Change.name : Change → String
  | .php change => change.name
  | .docType slot move => slot.name ++ "Type" ++ move.name
  | .database change => change.name
  | .di change => change.name
  | .xsd change => change.name
  | .settings change => change.name
  | .less change => change.name

end VersionBump
