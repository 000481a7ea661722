import VersionBump.Manifest.File
import VersionBump.Proofs.WrittenRecords

/-!
# Decoding written manifests

What is written for a part of a manifest is decoded as that part, from the innermost records out to
the files. Two families need more than the order of their fields: the fields of a key are decoded
only after its kind, which stands among them, and a PHP file is read whole before it is tried as
one class-like and then as a list of them.

* `Php.decode_class`, `Database.decode_table`, `Di.decode_declaration`, `Xsd.decode_node`,
  `Settings.decode_section` and `Less.decode_rule` decode what is written for the parts of a file.
* `Php.decodeFile_encodeFile` and its likes decode what is written for a file.
-/

namespace VersionBump.Manifest

open Json Record

/-! ## Room for values -/

/-- A list of texts is not nested any further. -/
theorem fits_strings {room : Nat} (h : 0 < room) (ss : List String) :
    (Value.strings ss).Fits room := by
  simp [Value.strings, Value.Fits, Value.itemsFit_iff, h]

/-- An optional text is not nested at all. -/
theorem fits_optional (room : Nat) (o : Option String) : (Value.optional o).Fits room := by
  cases o <;> simp [Value.optional, Value.Fits]

/-- A list fits if there is room for it and for its items in it. -/
theorem fits_map {α : Type} {room : Nat} {encode : α → Value} {as : List α}
    (h : ∀ a ∈ as, (encode a).Fits room) : (Value.array (as.map encode)).Fits (room + 1) := by
  simpa [Value.Fits, Value.itemsFit_iff] using h

/-! ## Dependency injection -/

namespace Di

open VersionBump.Di

theorem decode_declaration (d : Declaration) :
    declarationFields.decode "struct VirtualTypeDecl" (encodeDeclaration d).toNode = .ok d :=
  (Reads.first (text_string d.name) |>.next (text_string d.type)
    |>.next (flag_bool d.shared)).decode rfl (by decide)

theorem decodeFile_encodeFile (c : VersionBump.Di.Config) :
    decodeFile (encodeFile c).toNode = .ok c :=
  (Reads.first (text_string c.module) |>.next (text_string c.scope)
    |>.next (list_map fun d _ => decode_declaration d)).decode rfl (by decide)

end Di

/-! ## Grammars -/

namespace Xsd

open VersionBump.Xsd

theorem lookup_nodeKinds (k : NodeKind) : nodeKinds.lookup k.name = some k := by
  cases k <;> rfl

theorem decode_node (n : VersionBump.Xsd.Node) :
    nodeFields.decode "struct XsdNode" (encodeNode n).toNode = .ok n :=
  (Reads.first (text_string n.path) |>.next (keyword_string (lookup_nodeKinds n.kind))
    |>.next (flag_bool n.required) |>.next (optional_text n.type)).decode rfl (by decide)

theorem decodeFile_encodeFile (g : Grammar) : decodeFile (encodeFile g).toNode = .ok g :=
  (Reads.first (list_map fun n _ => decode_node n)).decode rfl (by decide)

end Xsd

/-! ## Stylesheets -/

namespace Less

open VersionBump.Less

theorem lookup_ruleKinds (k : RuleKind) : ruleKinds.lookup k.name = some k := by
  cases k <;> rfl

theorem decode_rule (r : Rule) :
    ruleFields.decode "struct LessRule" (encodeRule r).toNode = .ok r :=
  (Reads.first (keyword_string (lookup_ruleKinds r.kind)) |>.next (text_string r.name)
    |>.next (optional_text r.value)).decode rfl (by decide)

theorem decodeFile_encodeFile (s : Stylesheet) : decodeFile (encodeFile s).toNode = .ok s :=
  (Reads.first (list_map fun r _ => decode_rule r)).decode rfl (by decide)

end Less

/-! ## Admin settings -/

namespace Settings

open VersionBump.Settings

theorem decode_field (f : Field) :
    fieldFields.decode "struct SystemField" (encodeField f).toNode = .ok f :=
  (Reads.first (text_string f.id) |>.next (optional_text f.type)
    |>.next (flag_bool f.showInDefault) |>.next (flag_bool f.showInWebsite)
    |>.next (flag_bool f.showInStore)).decode rfl (by decide)

theorem decode_group (g : Group) :
    groupFields.decode "struct SystemGroup" (encodeGroup g).toNode = .ok g :=
  (Reads.first (text_string g.id) |>.next (list_map fun f _ => decode_field f)).decode rfl
    (by decide)

theorem decode_section (s : VersionBump.Settings.Section) :
    sectionFields.decode "struct SystemSection" (encodeSection s).toNode = .ok s :=
  (Reads.first (text_string s.id) |>.next (list_map fun g _ => decode_group g)).decode rfl
    (by decide)

theorem decodeFile_encodeFile (c : VersionBump.Settings.Config) :
    decodeFile (encodeFile c).toNode = .ok c :=
  (Reads.first (text_string c.module) |>.next (list_map fun s _ => decode_section s)).decode rfl
    (by decide)

end Settings

/-! ## Database schemas -/

namespace Database

open VersionBump.Database

/-- The numbers of a column fit 32 bits, the width in which they are kept. -/
structure ColumnFits (c : Column) : Prop where
  length : ∀ n ∈ c.length, n ≤ maxWord
  precision : ∀ n ∈ c.precision, n ≤ maxWord
  scale : ∀ n ∈ c.scale, n ≤ maxWord

/-- The numbers of a schema fit 32 bits. -/
def SchemaFits (s : ModuleSchema) : Prop := ∀ t ∈ s.tables, ∀ c ∈ t.columns, ColumnFits c

theorem optional_word {o : Option Nat} (h : ∀ n ∈ o, n ≤ maxWord) :
    optional word (encodeWord o).toNode = .ok o := by
  cases o with
  | none => rfl
  | some n => exact optional_of_ne_null (by simp [encodeWord, Value.toNode]) (word_nat (h n rfl))

theorem decode_column {c : Column} (h : ColumnFits c) :
    columnFields.decode "struct Column" (encodeColumn c).toNode = .ok c :=
  (Reads.first (text_string c.name) |>.next (text_string c.type) |>.next (flag_bool c.nullable)
    |>.next (optional_text c.default) |>.next (optional_word h.length)
    |>.next (optional_word h.precision) |>.next (optional_word h.scale)
    |>.next (flag_bool c.unsigned) |>.next (flag_bool c.identity)
    |>.next (optional_text c.comment)).decode rfl (by decide)

theorem decode_index (i : Index) :
    indexFields.decode "struct Index" (encodeIndex i).toNode = .ok i :=
  (Reads.first (text_string i.referenceId) |>.next (text_string i.type)
    |>.next (list_strings i.columns)).decode rfl (by decide)

/-- The fields behind the kind of a key are left as they are. -/
theorem splitKey_toMembers {kind : Option KeyKind} {ms : List (String × Value)}
    (other : ∀ m ∈ ms, m.1 ≠ kindField) (fits : Value.MembersFit roomInKey ms) :
    splitKey kind (Value.toMembers ms) = .ok (kind, Value.toMembers ms) := by
  induction ms with
  | nil => rfl
  | cons m ms ih =>
    rw [Value.MembersFit] at fits
    have rest := ih (fun m' h => other m' (List.mem_cons_of_mem m h)) fits.2
    rw [Value.toMembers, splitKey, if_neg (other m List.mem_cons_self),
      Value.readFault?_toNode fits.1]
    simp [rest, bind, Except.bind, pure, Except.pure]

/-- A written key is decoded by the description of its kind. -/
theorem constraint_of_reads {kind : KeyKind} {s : String} {ms : List (String × Value)}
    {c : Constraint} (known : keyKinds.lookup s = some kind) (fields : (keyFields kind).Reads ms c)
    (nodup : (kindField :: (keyFields kind).names).Nodup) (fits : Value.MembersFit roomInKey ms) :
    constraint (Value.object ((kindField, .string s) :: ms)).toNode = .ok c := by
  rw [List.nodup_cons] at nodup
  -- The kind is no field of any key, so it is found once, and the fields are left for their record.
  have other : ∀ m ∈ ms, m.1 ≠ kindField := fun m hm same =>
    nodup.1 (same ▸ fields.names ▸ List.mem_map_of_mem hm)
  have found : keyKind (Value.string s).toNode = .ok kind := by
    simp [Value.toNode, keyKind, ofKeyword, known]
  have split : splitKey none (Value.toMembers ((kindField, .string s) :: ms)) =
      .ok (some kind, Value.toMembers ms) := by
    rw [Value.toMembers, splitKey, if_pos rfl, found]
    exact splitKey_toMembers other fits
  rw [Value.toNode, constraint, split]
  exact fields.ofObject nodup.2

theorem decode_constraint (c : Constraint) : constraint (encodeConstraint c).toNode = .ok c := by
  have columnsFit := fits_strings (show 0 < roomInKey by decide)
  cases c with
  | primary r cs =>
    have known : keyKinds.lookup "primary" = some .primary := rfl
    refine constraint_of_reads known ?_ (by decide) ⟨trivial, columnsFit cs, trivial⟩
    exact Reads.first (text_string r) |>.next (list_strings cs)
  | unique r cs =>
    have known : keyKinds.lookup "unique" = some .unique := rfl
    refine constraint_of_reads known ?_ (by decide) ⟨trivial, columnsFit cs, trivial⟩
    exact Reads.first (text_string r) |>.next (list_strings cs)
  | foreign r c t rc d =>
    have known : keyKinds.lookup "foreign" = some .foreign := rfl
    refine constraint_of_reads known ?_ (by decide)
      ⟨trivial, trivial, trivial, trivial, fits_optional _ d, trivial⟩
    exact Reads.first (text_string r) |>.next (text_string c) |>.next (text_string t)
      |>.next (text_string rc) |>.next (optional_text d)

theorem decode_table {t : Table} (h : ∀ c ∈ t.columns, ColumnFits c) :
    tableFields.decode "struct Table" (encodeTable t).toNode = .ok t :=
  (Reads.first (text_string t.name) |>.next (optional_text t.resource)
    |>.next (optional_text t.engine) |>.next (optional_text t.comment)
    |>.next (list_map fun c hc => decode_column (h c hc))
    |>.next (list_map fun i _ => decode_index i)
    |>.next (list_map fun c _ => decode_constraint c)).decode rfl (by decide)

theorem decodeFile_encodeFile {s : ModuleSchema} (h : SchemaFits s) :
    decodeFile (encodeFile s).toNode = .ok s :=
  (Reads.first (text_string s.module)
    |>.next (list_map fun t ht => decode_table (h t ht))).decode rfl (by decide)

end Database

/-! ## PHP files -/

namespace Php

open VersionBump.Php

theorem lookup_kinds (k : ClassKind) : kinds.lookup k.name = some k := by
  cases k <;> rfl

theorem lookup_visibilities (v : Visibility) : visibilities.lookup v.name = some v := by
  cases v <;> rfl

theorem lookup_typeSources (s : TypeSource) : typeSources.lookup s.name = some s := by
  cases s <;> rfl

theorem optional_type (o : Option TypeDecl) : optional typeDecl (encodeType o).toNode = .ok o := by
  cases o with
  | none => rfl
  | some t =>
    refine optional_of_ne_null (by simp [encodeType, Value.toNode]) ?_
    exact (Reads.first (text_string t.name)
      |>.next (keyword_string (lookup_typeSources t.source))).decode rfl (by decide)

theorem decode_param (p : Param) :
    paramFields.decode "struct Param" (encodeParam p).toNode = .ok p :=
  (Reads.first (text_string p.name) |>.next (optional_type p.type)
    |>.next (optional_text p.default) |>.next (flag_bool p.variadic)).decode rfl (by decide)

theorem decode_method (m : Method) :
    methodFields.decode "struct Method" (encodeMethod m).toNode = .ok m :=
  (Reads.first (text_string m.name) |>.next (keyword_string (lookup_visibilities m.visibility))
    |>.next (flag_bool m.isStatic) |>.next (flag_bool m.isFinal) |>.next (flag_bool m.isAbstract)
    |>.next (flag_bool m.isApi) |>.next (list_map fun p _ => decode_param p)
    |>.next (optional_type m.returnType) |>.next (list_strings m.throws)).decode rfl (by decide)

theorem decode_property (p : Property) :
    propertyFields.decode "struct Property" (encodeProperty p).toNode = .ok p :=
  (Reads.first (text_string p.name) |>.next (keyword_string (lookup_visibilities p.visibility))
    |>.next (flag_bool p.isStatic) |>.next (flag_bool p.isApi) |>.next (optional_type p.type)
    |>.next (optional_text p.default)).decode rfl (by decide)

theorem decode_constant (c : Constant) :
    constantFields.decode "struct Constant" (encodeConstant c).toNode = .ok c :=
  (Reads.first (text_string c.name) |>.next (keyword_string (lookup_visibilities c.visibility))
    |>.next (flag_bool c.isApi) |>.next (optional_text c.value)).decode rfl (by decide)

theorem decode_class (c : ClassLike) : classLike (encodeClass c).toNode = .ok c :=
  (Reads.first (text_string c.name) |>.next (keyword_string (lookup_kinds c.kind))
    |>.next (flag_bool c.isApi) |>.next (flag_bool c.isFinal) |>.next (flag_bool c.isAbstract)
    |>.next (list_strings c.parents) |>.next (list_strings c.interfaces)
    |>.next (list_strings c.traits) |>.next (list_map fun m _ => decode_method m)
    |>.next (list_map fun p _ => decode_property p)
    |>.next (list_map fun c _ => decode_constant c)).decode rfl (by decide)

/-- A list of class-likes is no class-like: an empty one lacks the name, and in any other an object
stands where the name should. -/
theorem classLike_encodeFile (cs : List ClassLike) :
    ∃ e, classLike (encodeFile cs).toNode = .error e := by
  cases cs with
  | nil => exact ⟨_, rfl⟩
  | cons c cs => exact ⟨_, rfl⟩

-- How deep the parts are nested shows in the room they need; a class-like needs six levels.

theorem fits_type (room : Nat) (o : Option TypeDecl) : (encodeType o).Fits (room + 1) := by
  cases o with
  | none => trivial
  | some t => exact ⟨room.succ_pos, trivial, trivial, trivial⟩

theorem fits_param (room : Nat) (p : Param) : (encodeParam p).Fits (room + 2) :=
  ⟨Nat.succ_pos _, trivial, fits_type room p.type, fits_optional _ _, trivial, trivial⟩

theorem fits_method (room : Nat) (m : Method) : (encodeMethod m).Fits (room + 4) :=
  ⟨Nat.succ_pos _, trivial, trivial, trivial, trivial, trivial, trivial,
    fits_map fun p _ => fits_param room p, fits_type _ m.returnType,
    fits_strings (Nat.succ_pos _) m.throws, trivial⟩

theorem fits_property (room : Nat) (p : Property) : (encodeProperty p).Fits (room + 2) :=
  ⟨Nat.succ_pos _, trivial, trivial, trivial, trivial, fits_type room p.type, fits_optional _ _,
    trivial⟩

theorem fits_constant (room : Nat) (c : Constant) : (encodeConstant c).Fits (room + 1) :=
  ⟨Nat.succ_pos _, trivial, trivial, trivial, fits_optional _ _, trivial⟩

theorem fits_class (room : Nat) (c : ClassLike) : (encodeClass c).Fits (room + 6) :=
  ⟨Nat.succ_pos _, trivial, trivial, trivial, trivial, trivial,
    fits_strings (Nat.succ_pos _) c.parents, fits_strings (Nat.succ_pos _) c.interfaces,
    fits_strings (Nat.succ_pos _) c.traits, fits_map fun m _ => fits_method room m,
    fits_map fun p _ => fits_property (room + 2) p,
    fits_map fun k _ => fits_constant (room + 3) k, trivial⟩

/-- A single class-like is tried first. -/
theorem decodeFile_encodeClass (c : ClassLike) : decodeFile (encodeClass c).toNode = .ok [c] := by
  have whole : (encodeClass c).toNode.readFault? nestingLimit = none :=
    Value.readFault?_toNode (fits_class 121 c)
  simp only [decodeFile, whole, decode_class]

/-- A list is tried when it has turned out to be no class-like. -/
theorem decodeFile_encodeFile (cs : List ClassLike) :
    decodeFile (encodeFile cs).toNode = .ok cs := by
  have whole : (encodeFile cs).toNode.readFault? nestingLimit = none :=
    Value.readFault?_toNode (fits_map fun c _ => fits_class 120 c)
  obtain ⟨e, refused⟩ := classLike_encodeFile cs
  have read : list classLike (encodeFile cs).toNode = .ok cs := list_map fun c _ => decode_class c
  simp only [decodeFile, whole, refused, read]

end Php

end VersionBump.Manifest
