import VersionBump.Proofs.DecodedValues
import VersionBump.Proofs.SelectedFamilies
import VersionBump.Proofs.WrittenManifests

/-!
# Round trips of manifests

Reading undoes writing: the text that is written for the content of a manifest is read as that
content, for every family and in both layouts, and the text of one class-like as a list of one. The
numbers of a schema have to fit 32 bits, which they do if the schema was read. So whatever text is
read, the text written for its content is read alike.

* `Declared.Fits` bounds the numbers of a content; `Declared.fits_of_read` says that what is read is
  within the bound.
* `Declared.read_texts` is the round trip of contents, of single class-likes and of texts.
-/

namespace VersionBump.Manifest

open Json

/-! ## Numbers of schemas that are read -/

namespace Database

open VersionBump.Database

/-- The numbers of a column are decoded as words. -/
theorem columnFields_yields : columnFields.Yields ColumnFits := by
  have words : Yields (optional word) fun o => ∀ n ∈ o, n ≤ maxWord := yields_word.optional
  refine .skip <| .skip <| .skip <| .next words (by simp) <| .next words (by simp) <|
    .next words (by simp) <| .skip <| .skip <| .skip <| .start ?_
  intro _ _ _ _ length hlength precision hprecision scale hscale _ _ _
  exact ⟨hlength, hprecision, hscale⟩

theorem tableFields_yields : tableFields.Yields fun t => ∀ c ∈ t.columns, ColumnFits c := by
  have columns := (columnFields_yields.decode "struct Column").list
  refine .skip <| .skip <| .next columns (by simp) <| .skip <| .skip <| .skip <| .start ?_
  intro _ _ _ _ columns hcolumns _ _
  exact hcolumns

theorem schemaFields_yields : schemaFields.Yields SchemaFits := by
  have tables := (tableFields_yields.decode "struct Table").list
  refine .next tables (by simp) <| .start ?_
  intro _ tables htables
  exact htables

end Database

/-! ## Round trips -/

/-- What is read is what the decoder returns for the tree of the text. -/
theorem exists_of_readText {α : Type} {d : Decoder α} {source : String} {a : α}
    (h : readText d source = .ok a) : ∃ node, d node = .ok a := by
  obtain ⟨b, decoded, ended⟩ := exists_of_bind_eq_ok h
  split at ended
  · contradiction
  · obtain rfl : b = a := Except.ok.inj ended
    exact ⟨_, decoded⟩

/-- A text that is written for a value is read as what the decoder returns for it. -/
theorem readText_of_mem_texts {α β : Type} {d : Decoder α} {v : Value} {text : String} {a : α}
    {f : α → β} (h : text ∈ v.texts) (decoded : d v.toNode = .ok a) :
    (readText d text).map f = .ok (f a) := by
  simp [readText, Document.read_of_mem_texts h, decoded, bind, Except.bind, Except.map]

namespace Declared

/-- The numbers of a schema fit 32 bits; other contents hold no numbers. -/
def Fits : Declared → Prop
  | database s => Database.SchemaFits s
  | _ => True

/-- The numbers of what is read fit 32 bits. -/
theorem fits_of_read {family : Family} {source : String} {d : Declared}
    (h : read family source = .ok d) : d.Fits := by
  cases family with
  | database =>
    obtain ⟨s, returned, rfl⟩ := exists_of_map_eq_ok h
    obtain ⟨node, decoded⟩ := exists_of_readText returned
    exact Database.schemaFields_yields.decode _ node s decoded
  | _ =>
    obtain ⟨a, -, rfl⟩ := exists_of_map_eq_ok h
    trivial

/-- The text of one class-like is read as a list of one. -/
theorem read_of_mem_texts_encodeClass (c : VersionBump.Php.ClassLike) {text : String}
    (h : text ∈ (Php.encodeClass c).texts) : read .php text = .ok (php [c]) :=
  readText_of_mem_texts h (Php.decodeFile_encodeClass c)

/-- The text of a content is read as the content. -/
theorem read_of_mem_texts {d : Declared} (fits : d.Fits) {text : String}
    (h : text ∈ d.encode.texts) : read d.family text = .ok d := by
  cases d with
  | php cs => exact readText_of_mem_texts h (Php.decodeFile_encodeFile cs)
  | database s => exact readText_of_mem_texts h (Database.decodeFile_encodeFile fits)
  | di c => exact readText_of_mem_texts h (Di.decodeFile_encodeFile c)
  | xsd g => exact readText_of_mem_texts h (Xsd.decodeFile_encodeFile g)
  | settings c => exact readText_of_mem_texts h (Settings.decodeFile_encodeFile c)
  | less s => exact readText_of_mem_texts h (Less.decodeFile_encodeFile s)

/-- Reading undoes writing. The text of a content, in either layout, is read as that content, and
the text of a single class-like as a list of one; so what is read from any text is read again from
the text that is written for it. -/
theorem read_texts :
    (∀ d : Declared, d.Fits → ∀ text ∈ d.encode.texts, read d.family text = .ok d) ∧
    (∀ c : VersionBump.Php.ClassLike, ∀ text ∈ (Php.encodeClass c).texts,
      read .php text = .ok (php [c])) ∧
    ∀ (family : Family) (source : String) (d : Declared), read family source = .ok d →
      ∀ text ∈ d.encode.texts, read family text = .ok d := by
  refine ⟨?contents, ?classes, ?texts⟩
  case contents => exact fun d fits text h => read_of_mem_texts fits h
  case classes => exact fun c text h => read_of_mem_texts_encodeClass c h
  case texts =>
    intro family source d accepted text h
    have again := read_of_mem_texts (fits_of_read accepted) h
    rwa [family_of_read accepted] at again

/-- A schema with a number and with texts that need escapes. -/
def escapedSchema : VersionBump.Database.ModuleSchema where
  module := "Vendor\n"
  tables := [⟨"\\t", none, none, none,
    [⟨"sku\x01", "varchar", true, some "\"", some 64, none, none, false, false, none⟩], [],
    [.primary "P" ["sku\x01"]]⟩]

/-- A class-like without members. -/
def bareClass : VersionBump.Php.ClassLike where
  name := "\\Vendor\\A"
  kind := .interfaceKind

/-- The text of a stylesheet with the fields of a rule in another order and one of them missing. -/
def shuffledSheet : String :=
  "\x7b\"rules\": [\x7b\"name\": \".a\", \"kind\": \"mixin\"\x7d]\x7d"

/-- All three of a content with escapes, a single class-like and a text that was not written. -/
theorem read_texts_escaped :
    (database escapedSchema).Fits ∧
    (∀ text ∈ (database escapedSchema).encode.texts,
      read .database text = .ok (database escapedSchema)) ∧
    (∀ text ∈ (Php.encodeClass bareClass).texts, read .php text = .ok (php [bareClass])) ∧
    read .less shuffledSheet = .ok (less ⟨[⟨.mixinRule, ".a", none⟩]⟩) ∧
    ∀ text ∈ (less ⟨[⟨.mixinRule, ".a", none⟩]⟩).encode.texts,
      read .less text = .ok (less ⟨[⟨.mixinRule, ".a", none⟩]⟩) := by
  have fits : (database escapedSchema).Fits := by
    rintro t (_ | ⟨_, ⟨⟩⟩) c (_ | ⟨_, ⟨⟩⟩)
    exact ⟨by rintro n ⟨⟩; decide, by rintro n ⟨⟩, by rintro n ⟨⟩⟩
  have accepted : read .less shuffledSheet = .ok (less ⟨[⟨.mixinRule, ".a", none⟩]⟩) := by
    decide +kernel
  exact ⟨fits, read_texts.1 _ fits, read_texts.2.1 bareClass, accepted,
    read_texts.2.2 .less shuffledSheet _ accepted⟩

end Declared

end VersionBump.Manifest
