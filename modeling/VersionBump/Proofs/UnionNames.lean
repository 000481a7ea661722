import Mathlib.Data.Multiset.MapFold
import VersionBump.Php.Declaration
import VersionBump.Proofs.FoldedNames

/-!
# Names of unions

The name of a type lists alternatives with bars between them. Two annotations name the same type
exactly if their alternatives have the same keys, each as often; in other words, if the alternatives
of one are those of the other in another order and in other spellings.

* `Name.alternatives` are the alternatives of a name as they are written.
* `Name.Respelled` relates the spellings of one alternative, and `Name.respelled_iff` says that they
  are the texts of one key.
* `TypeDecl.same_iff_perm` says when two annotations are the same by the keys of the alternatives.
* `TypeDecl.same_compares_unions` is the statement.
-/

namespace VersionBump

/-! ## Margins of a text -/

namespace Text

/-- Blanks in front of a text are dropped by trimming it. -/
private theorem trim_append_left {before s : String}
    (h : ∀ c ∈ before.toList, isBlank c = true) : trim (before ++ s) = trim s := by
  refine String.toList_inj.mp ?_
  rw [toList_trim, toList_trim, String.toList_append, List.dropWhile_append_of_pos h]

/-- Blanks at the end of a text are dropped by trimming it. -/
private theorem trim_append_right {s after : String}
    (h : ∀ c ∈ after.toList, isBlank c = true) : trim (s ++ after) = trim s := by
  refine String.toList_inj.mp ?_
  rw [toList_trim, toList_trim, String.toList_append, List.dropWhile_append]
  have hafter : after.toList.dropWhile isBlank = [] := by simpa using h
  have hreverse : ∀ c ∈ after.toList.reverse, isBlank c = true := by simpa using h
  cases hs : s.toList.dropWhile isBlank with
  | nil => simp [hafter]
  | cons c cs => simp [List.rdropWhile, List.dropWhile_append_of_pos hreverse]

/-- Every text is its trimmed form with blanks around it. -/
private theorem exists_eq_append_trim (s : String) : ∃ before after : String,
    (∀ c ∈ before.toList, isBlank c = true) ∧ (∀ c ∈ after.toList, isBlank c = true) ∧
      s = before ++ trim s ++ after := by
  refine ⟨String.ofList (s.toList.takeWhile isBlank),
    String.ofList ((s.toList.dropWhile isBlank).rtakeWhile isBlank), fun c hc => ?_,
    fun c hc => ?_, String.toList_inj.mp ?_⟩
  · exact List.mem_takeWhile_imp (by simpa using hc)
  · exact List.mem_rtakeWhile_imp (by simpa using hc)
  · rw [String.toList_append, String.toList_append, String.toList_ofList, String.toList_ofList,
      toList_trim, List.append_assoc, List.rdropWhile_append_rtakeWhile,
      List.takeWhile_append_dropWhile]

/-- A trimmed text does not start with a blank. -/
private theorem startsBlank_trim (s : String) : startsBlank (trim s) = false := by
  have hhead := List.head?_dropWhile_not isBlank s.toList
  obtain ⟨rest, hfront⟩ := List.rdropWhile_prefix isBlank (s.toList.dropWhile isBlank)
  rw [startsBlank, toList_trim]
  cases hs : (s.toList.dropWhile isBlank).rdropWhile isBlank with
  | nil => rfl
  | cons c cs =>
    rw [hs] at hfront
    simpa [← hfront] using hhead

/-- A separator in front of a text shields it from trimming. -/
private theorem trim_separator_append {s : String} (h : startsBlank s = false) :
    trim ("\\" ++ s) = "\\" ++ trim s := by
  have hsame : s.toList.dropWhile isBlank = s.toList := by
    unfold startsBlank at h
    cases hs : s.toList <;> simp_all
  have hseparator : isBlank '\\' = false := by decide
  refine String.toList_inj.mp ?_
  rw [toList_trim, String.toList_append, String.toList_append, toList_trim, hsame]
  show (('\\' :: s.toList).dropWhile isBlank).rdropWhile isBlank =
    '\\' :: s.toList.rdropWhile isBlank
  rw [List.dropWhile_cons_of_neg (by simp [hseparator]), List.rdropWhile, List.reverse_cons,
    List.dropWhile_append, List.rdropWhile]
  split
  · next hnil =>
    rw [List.isEmpty_iff] at hnil
    simp [hnil, hseparator]
  · simp

/-- A separator in front of a text is dropped with those behind it. -/
private theorem dropLeading_separator_append (s : String) :
    dropLeading '\\' ("\\" ++ s) = dropLeading '\\' s := by
  simp [dropLeading]

/-- Some separators. -/
private def separators (n : Nat) : String := String.ofList (List.replicate n '\\')

private theorem separators_zero_append (s : String) : separators 0 ++ s = s := String.empty_append

private theorem separators_succ_append (n : Nat) (s : String) :
    separators (n + 1) ++ s = separators n ++ ("\\" ++ s) := by
  refine String.toList_inj.mp ?_
  simp [separators, List.replicate_succ']

/-- A separator is no blank. -/
private theorem startsBlank_separator_append (s : String) : startsBlank ("\\" ++ s) = false := by
  rw [startsBlank, String.toList_append]
  show Option.any isBlank (some '\\') = false
  decide

/-- Every text is what is left of it with separators in front. -/
private theorem exists_eq_separators_append (s : String) :
    ∃ n, s = separators n ++ dropLeading '\\' s := by
  have hall : ∀ c ∈ s.toList.takeWhile (· == '\\'), c = '\\' :=
    fun c hc => by simpa using List.mem_takeWhile_imp hc
  refine ⟨(s.toList.takeWhile (· == '\\')).length, String.toList_inj.mp ?_⟩
  rw [separators, dropLeading, String.toList_append, String.toList_ofList, String.toList_ofList,
    ← List.eq_replicate_of_mem hall, List.takeWhile_append_dropWhile]

end Text

namespace Name

/-- The alternatives of a union, as they are written. -/
def alternatives (name : String) : Multiset String := Text.splitAt '|' name

/-- Spellings of one alternative: with other blanks around it, with other separators in front of it
and in other case. A separator in front of a blank is no separator in front of the name. -/
inductive Respelled : String → String → Prop
  | blanks {before part after : String} (hbefore : ∀ c ∈ before.toList, Text.isBlank c = true)
      (hafter : ∀ c ∈ after.toList, Text.isBlank c = true) :
      Respelled part (before ++ part ++ after)
  | separator {part : String} (h : Text.startsBlank part = false) : Respelled part ("\\" ++ part)
  | letterCase {part other : String} (h : Text.toLower part = Text.toLower other) :
      Respelled part other
  | symm {part other : String} (h : Respelled part other) : Respelled other part
  | trans {part other third : String} (h : Respelled part other) (h' : Respelled other third) :
      Respelled part third

/-- Spellings of one alternative have one key. -/
theorem Respelled.key_eq {part other : String} (h : Respelled part other) :
    key part = key other := by
  induction h with
  | blanks hbefore hafter =>
    rw [key, key, normalize, normalize, Text.trim_append_right hafter,
      Text.trim_append_left hbefore]
  | separator h =>
    rw [key, key, normalize, normalize, Text.trim_separator_append h,
      Text.dropLeading_separator_append]
  | letterCase h => rw [key, key, ← normalize_toLower, ← normalize_toLower, h]
  | symm _ ih => exact ih.symm
  | trans _ _ ih ih' => exact ih.trans ih'

/-- Separators in front of a name may be left out, however many there are. -/
private theorem respelled_separators {name : String} (h : Text.startsBlank name = false) (n : Nat) :
    Respelled (Text.separators n ++ name) name := by
  induction n generalizing name with
  | zero => exact .letterCase (congrArg Text.toLower (Text.separators_zero_append name))
  | succ n ih =>
    rw [Text.separators_succ_append]
    exact (ih (Text.startsBlank_separator_append name)).trans (Respelled.separator h).symm

/-- A normal form with a separator in front if it starts with a blank, which would be trimmed. -/
private def shield (name : String) : String := if Text.startsBlank name then "\\" ++ name else name

/-- A text that starts with no blank is a spelling of what stands behind its separators. -/
private theorem respelled_shield {name : String} {n : Nat}
    (h : Text.startsBlank (Text.separators n ++ name) = false) :
    Respelled (Text.separators n ++ name) (shield name) := by
  cases hname : Text.startsBlank name with
  | false =>
    rw [shield, hname]
    exact respelled_separators hname n
  | true =>
    rw [shield, if_pos hname]
    -- The blank in front of the name is not the first character, so there is a separator.
    cases n with
    | zero =>
      rw [Text.separators_zero_append, hname] at h
      exact nomatch h
    | succ n =>
      rw [Text.separators_succ_append]
      exact respelled_separators (Text.startsBlank_separator_append name) n

/-- Every text is a spelling of its normal form. -/
private theorem respelled_normalize (part : String) : Respelled part (shield (normalize part)) := by
  obtain ⟨before, after, hbefore, hafter, hpart⟩ := Text.exists_eq_append_trim part
  obtain ⟨n, htrim⟩ := Text.exists_eq_separators_append (Text.trim part)
  have hstart := Text.startsBlank_trim part
  have hblanks : Respelled (Text.trim part) part := by
    have hwritten : Respelled (Text.trim part) (before ++ Text.trim part ++ after) :=
      .blanks hbefore hafter
    rwa [← hpart] at hwritten
  rw [htrim] at hstart hblanks
  exact hblanks.symm.trans (respelled_shield hstart)

/-- The spellings of one alternative are the texts of one key. -/
theorem respelled_iff {part other : String} : Respelled part other ↔ key part = key other := by
  refine ⟨Respelled.key_eq, fun h => ?_⟩
  have hlower :
      Text.toLower (shield (normalize part)) = Text.toLower (shield (normalize other)) := by
    have hstart : Text.startsBlank (normalize part) = Text.startsBlank (normalize other) := by
      rw [← Text.startsBlank_toLower, ← Text.startsBlank_toLower (normalize other)]
      exact congrArg Text.startsBlank h
    rw [shield, shield, hstart]
    split
    · rw [Text.toLower_separator_append, Text.toLower_separator_append]
      exact congrArg ("\\" ++ ·) h
    · exact h
  exact (respelled_normalize part).trans ((Respelled.letterCase hlower).trans
    (respelled_normalize other).symm)

/-! ## Unions -/

/-- The key of an alternative has no bar either. -/
private theorem bar_not_mem_key {part : String} (h : '|' ∉ part.toList) : '|' ∉ (key part).toList :=
  fun hbar => h ((normalize_isInfix part).subset (Text.bar_mem_of_mem_toLower hbar))

theorem typeParts_perm (s : String) : (typeParts s).Perm ((Text.splitAt '|' s).map key) :=
  List.mergeSort_perm _ _

/-- The key of a union tells the keys of its alternatives. -/
theorem typeParts_eq_of_typeKey_eq {a b : String} (h : typeKey a = typeKey b) :
    typeParts a = typeParts b := by
  have hne : ∀ s, typeParts s ≠ [] := fun s hnil => by
    have hlength := congrArg List.length hnil
    rw [typeParts, List.length_mergeSort, List.length_map] at hlength
    exact Text.splitAt_ne_nil '|' s (List.length_eq_zero_iff.mp hlength)
  have hbar : ∀ s, ∀ part ∈ typeParts s, '|' ∉ part.toList := fun s part hpart => by
    rw [typeParts, List.mem_mergeSort] at hpart
    obtain ⟨written, hwritten, rfl⟩ := List.mem_map.mp hpart
    exact bar_not_mem_key (Text.not_mem_of_mem_splitAt hwritten)
  exact Text.joinWith_injective (hne a) (hne b) (hbar a) (hbar b) h

/-- The alternatives of texts that are joined are those of the texts. -/
theorem alternatives_joinWith_perm {texts texts' : List String} (h : texts.Perm texts') :
    alternatives (Text.joinWith "|" texts) = alternatives (Text.joinWith "|" texts') := by
  cases texts with
  | nil => rw [h.nil_eq]
  | cons text texts =>
    have hne : texts' ≠ [] := by
      rintro rfl
      exact List.cons_ne_nil _ _ h.eq_nil
    exact Multiset.coe_eq_coe.mpr (by
      rw [show "|" = String.singleton '|' from rfl,
        Text.splitAt_joinWith_eq_flatMap '|' (List.cons_ne_nil _ _),
        Text.splitAt_joinWith_eq_flatMap '|' hne]
      exact h.flatMap_right _)

end Name

namespace Php.TypeDecl

/-- Annotations are the same if they list the same alternatives, in any order and spelling. -/
theorem same_of_perm {old new : TypeDecl}
    (h : ((Text.splitAt '|' old.name).map Name.key).Perm
      ((Text.splitAt '|' new.name).map Name.key)) : old.same new = true := by
  have hsorted := Name.pairwise_mergeSort_compare (id : String → String)
  -- Both keys list the alternatives in order, and there is only one order.
  have hparts : Name.typeParts old.name = Name.typeParts new.name := by
    refine List.Perm.eq_of_pairwise (fun a b _ _ hab hba => ?_) (hsorted _) (hsorted _)
      ((Name.typeParts_perm _).trans (h.trans (Name.typeParts_perm _).symm))
    exact Std.LawfulEqOrd.eq_of_compare (Std.OrientedCmp.isLE_antisymm hab hba)
  rw [same, Name.typeKey, Name.typeKey, hparts, beq_self_eq_true]

/-- Annotations are the same exactly if their alternatives have the same keys, each as often. -/
theorem same_iff_map_key {a b : TypeDecl} : a.same b = true ↔
    (Name.alternatives a.name).map Name.key = (Name.alternatives b.name).map Name.key := by
  rw [Name.alternatives, Name.alternatives, Multiset.map_coe, Multiset.map_coe, Multiset.coe_eq_coe]
  refine ⟨fun h => ?_, same_of_perm⟩
  have hparts := Name.typeParts_eq_of_typeKey_eq (eq_of_beq h)
  exact (Name.typeParts_perm a.name).symm.trans (hparts ▸ Name.typeParts_perm b.name)

/-- Annotations are the same exactly if the alternatives of one are those of the other, in any order
and spelling. -/
theorem same_iff_respelled {a b : TypeDecl} : a.same b = true ↔
    (Name.alternatives a.name).Rel Name.Respelled (Name.alternatives b.name) := by
  have hkeys : Name.Respelled = fun part other => Name.key part = Name.key other :=
    funext₂ fun _ _ => propext Name.respelled_iff
  rw [same_iff_map_key, hkeys, ← Multiset.rel_map, Multiset.rel_eq]

/-- Annotations with one lower-case form are the same. -/
theorem same_of_toLower_eq {a b : TypeDecl} (h : Text.toLower a.name = Text.toLower b.name) :
    a.same b = true := by
  have hkeys : ∀ s : String, (Text.splitAt '|' s).map Name.key =
      (Text.splitAt '|' (Text.toLower s)).map Name.normalize := fun s => by
    rw [Text.splitAt_toLower, List.map_map]
    exact List.map_congr_left fun part _ => (Name.normalize_toLower part).symm
  refine same_of_perm (.of_eq ?_)
  rw [hkeys, h, ← hkeys]

/-- Annotations are compared as unions: they are the same exactly if the keys of their alternatives
are, each as often, or in other words if their alternatives differ in order and spelling only. So
this is an equivalence, and neither the order of the alternatives nor the case of letters counts. -/
theorem same_compares_unions :
    (∀ a b : TypeDecl, a.same b = true ↔
      (Name.alternatives a.name).map Name.key = (Name.alternatives b.name).map Name.key) ∧
    (∀ a b : TypeDecl, a.same b = true ↔
      (Name.alternatives a.name).Rel Name.Respelled (Name.alternatives b.name)) ∧
    Equivalence (fun a b : TypeDecl => a.same b = true) ∧
    (∀ (texts texts' : List String) (s s' : TypeSource), texts.Perm texts' →
      TypeDecl.same ⟨Text.joinWith "|" texts, s⟩ ⟨Text.joinWith "|" texts', s'⟩ = true) ∧
    ∀ (a : TypeDecl) (s : TypeSource), a.same ⟨Text.toLower a.name, s⟩ = true := by
  refine ⟨fun _ _ => same_iff_map_key, fun _ _ => same_iff_respelled, ⟨?_, ?_, ?_⟩, ?_, ?_⟩
  · exact fun a => same_iff_map_key.mpr rfl
  · exact fun h => same_iff_map_key.mpr (same_iff_map_key.mp h).symm
  · exact fun h h' =>
      same_iff_map_key.mpr ((same_iff_map_key.mp h).trans (same_iff_map_key.mp h'))
  · intro texts texts' s s' h
    exact same_iff_map_key.mpr (congrArg _ (Name.alternatives_joinWith_perm h))
  · exact fun a s => same_of_toLower_eq (Text.toLower_toLower a.name).symm

/-- Alternatives may be empty and may be repeated; how often they are repeated counts. -/
theorem same_compares_unions_written :
    ["\\Foo", " INT ", "", "int"].Perm ["", " INT ", "int", "\\Foo"] ∧
      TypeDecl.same ⟨Text.joinWith "|" ["\\Foo", " INT ", "", "int"], .inline⟩
        ⟨Text.joinWith "|" ["", " INT ", "int", "\\Foo"], .docBlock⟩ = true ∧
      TypeDecl.same ⟨"\\Foo| INT ||int", .inline⟩ ⟨"int|foo|int| \\\\", .inline⟩ = true ∧
      ¬ TypeDecl.same ⟨"\\Foo| INT ||int", .inline⟩ ⟨"int|foo||foo", .inline⟩ = true := by
  obtain ⟨hkeys, -, -, hreordered, -⟩ := same_compares_unions
  have hperm : ["\\Foo", " INT ", "", "int"].Perm ["", " INT ", "int", "\\Foo"] := by decide
  refine ⟨hperm, hreordered _ _ _ _ hperm, (hkeys _ _).mpr (by decide +kernel), ?_⟩
  exact fun h => absurd ((hkeys _ _).mp h) (by decide +kernel)

/-- A blank behind a separator belongs to the name. -/
example : ¬ TypeDecl.same ⟨"\\ Foo", .inline⟩ ⟨"\\Foo", .inline⟩ = true := by decide +kernel

end Php.TypeDecl

end VersionBump
