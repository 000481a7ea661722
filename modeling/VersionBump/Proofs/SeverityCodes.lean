import Mathlib.Data.List.Nodup
import VersionBump.Severity.Rule

/-!
# Codes of changes

A code consists of the letters of a family and a number within the family, and tells both. So it
tells the kind of change and the context, if the kind arises in the context at all.

* `Severity.mem_kinds_iff` says which kinds arise in which contexts.
* `Text.padNat_injective` reads a number back from its digits.
* `Severity.code_injective` is the statement.
-/

namespace VersionBump

/-! ## Digits -/

namespace Text

/-- Padded digits are digits. -/
private theorem isDigit_of_mem_padNat {width n : Nat} {c : Char} (h : c ∈ (padNat width n).toList) :
    c.isDigit = true := by
  simp only [padNat, String.toList_ofList, List.mem_append, List.mem_replicate] at h
  rcases h with ⟨-, rfl⟩ | h
  · decide
  · exact Nat.isDigit_of_mem_toDigits (by decide) (by decide) h

/-- Zeros in front of a number do not change it. -/
theorem padNat_injective {width m n : Nat} (h : padNat width m = padNat width n) : m = n := by
  have hvalue : ∀ k, Nat.ofDigitChars 10 (padNat width k).toList 0 = k := fun k => by
    simp [padNat, Nat.ofDigitChars_append]
  rw [← hvalue m, h, hvalue n]

/-- Letters in front of digits can be told from them. -/
private theorem append_padNat_injective {a b : String} {width m n : Nat}
    (ha : ∀ c ∈ a.toList, c.isDigit = false) (hb : ∀ c ∈ b.toList, c.isDigit = false)
    (h : a ++ padNat width m = b ++ padNat width n) : a = b ∧ m = n := by
  have hdigits : ∀ s : String, (∀ c ∈ s.toList, c.isDigit = false) → ∀ k,
      (s ++ padNat width k).toList.filter Char.isDigit = (padNat width k).toList ∧
        (s ++ padNat width k).toList.filter (!·.isDigit) = s.toList := by
    intro s hs k
    have hpad : ∀ c ∈ (padNat width k).toList, c.isDigit = true := fun c => isDigit_of_mem_padNat
    rw [String.toList_append, List.filter_append, List.filter_append]
    constructor
    · rw [List.filter_eq_nil_iff.mpr (by simpa using hs), List.nil_append,
        List.filter_eq_self.mpr hpad]
    · rw [List.filter_eq_self.mpr (by simpa using hs),
        List.filter_eq_nil_iff.mpr (by simpa using hpad), List.append_nil]
  constructor
  · rw [← String.toList_inj, ← (hdigits a ha m).2, h, (hdigits b hb n).2]
  · have hpad : padNat width m = padNat width n := by
      rw [← String.toList_inj, ← (hdigits a ha m).1, h, (hdigits b hb n).1]
    exact padNat_injective hpad

end Text

/-! ## Kinds -/

/-- Every change of a family is listed. -/
theorem PhpChange.mem_all (k : PhpChange) : k ∈ all := by
  cases k with
  | membershipAdded m => cases m <;> decide
  | membershipRemoved m => cases m <;> decide
  | _ => decide

/-- Every change of a family is listed. -/
theorem DatabaseChange.mem_all (k : DatabaseChange) : k ∈ all := by cases k <;> decide

/-- Every change of a family is listed. -/
theorem DiChange.mem_all (k : DiChange) : k ∈ all := by cases k <;> decide

/-- Every change of a family is listed. -/
theorem XsdChange.mem_all (k : XsdChange) : k ∈ all := by cases k <;> decide

/-- Every change of a family is listed. -/
theorem SettingsChange.mem_all (k : SettingsChange) : k ∈ all := by cases k <;> decide

/-- Every change of a family is listed. -/
theorem LessChange.mem_all (k : LessChange) : k ∈ all := by cases k <;> decide

/-- Every moved annotation is listed. -/
theorem Change.docType_mem (slot : TypeSlot) (move : TypeMove) : docType slot move ∈ docTypes := by
  cases slot <;> cases move <;> decide

namespace Severity

/-- The contexts in which a kind of change arises. -/
def Arises (context : Context) : Change → Prop
  | .php _ => context ∈ phpContexts
  | .docType .. => context ∈ phpContexts
  | .database _ => context = .database
  | .di _ => context = .di
  | .xsd _ => context = .xsd
  | .settings _ => context = .settings
  | .less _ => context = .less

/-- The kinds that are listed are those that arise. -/
theorem mem_kinds_iff {context : Context} {kind : Change} :
    (context, kind) ∈ kinds ↔ Arises context kind := by
  have hdocs : ∀ k ∈ Change.docTypes, ∃ slot move, k = .docType slot move := by
    simp [Change.docTypes]
  constructor
  · intro h
    simp only [kinds, List.mem_append, List.mem_flatMap, List.mem_map, Prod.mk.injEq] at h
    rcases h with ((((⟨c, hc, k, hk, rfl, rfl⟩ | h) | h) | h) | h) | h
    · rcases hk with ⟨k, -, rfl⟩ | hk
      · exact hc
      · obtain ⟨slot, move, rfl⟩ := hdocs k hk
        exact hc
    all_goals
      obtain ⟨k, -, rfl, rfl⟩ := h
      rfl
  · intro h
    simp only [kinds, List.mem_append, List.mem_flatMap, List.mem_map, Prod.mk.injEq]
    cases kind with
    | php k =>
      exact .inl (.inl (.inl (.inl (.inl ⟨context, h, .php k, .inl ⟨k, k.mem_all, rfl⟩, rfl, rfl⟩))))
    | docType slot move =>
      exact .inl (.inl (.inl (.inl (.inl
        ⟨context, h, _, .inr (Change.docType_mem slot move), rfl, rfl⟩))))
    | database k => exact .inl (.inl (.inl (.inl (.inr ⟨k, k.mem_all, Eq.symm h, rfl⟩))))
    | di k => exact .inl (.inl (.inl (.inr ⟨k, k.mem_all, Eq.symm h, rfl⟩)))
    | xsd k => exact .inl (.inl (.inr ⟨k, k.mem_all, Eq.symm h, rfl⟩))
    | settings k => exact .inl (.inr ⟨k, k.mem_all, Eq.symm h, rfl⟩)
    | less k => exact .inr ⟨k, k.mem_all, Eq.symm h, rfl⟩

/-! ## Letters and numbers -/

/-- The letters of the code of a kind of change. -/
def letters (context : Context) : Change → String
  | .php _ => (Column.ofContext context).letter
  | .docType .. => "D"
  | .database _ => "DB"
  | .di _ => "DI"
  | .xsd _ => "X"
  | .settings _ => "S"
  | .less _ => "L"

/-- The number of the code of a kind of change. -/
def number (context : Context) : Change → Nat
  | .php change => (phpRow (Column.ofContext context) change).number
  | .docType slot move => 101 + docTypeIndex slot move * 3 + (Column.ofContext context).index
  | .database change => (databaseRow change).number
  | .di change => (diRow change).number
  | .xsd change => (xsdRow change).number
  | .settings change => (settingsRow change).number
  | .less change => (lessRow change).number

/-- A code is letters and a number. -/
theorem code_eq (context : Context) (kind : Change) :
    (rule context kind).code = letters context kind ++ Text.padNat 3 (number context kind) := by
  cases kind <;> rfl

/-- There is no digit among the letters. -/
private theorem isDigit_letters (context : Context) (kind : Change) :
    ∀ c ∈ (letters context kind).toList, c.isDigit = false := by
  have hall : (letters context kind).toList.all (fun c => !c.isDigit) = true := by
    cases kind with
    | php k =>
      show (Column.ofContext context).letter.toList.all (fun c => !c.isDigit) = true
      cases Column.ofContext context <;> decide
    | _ =>
      simp only [letters]
      decide
  intro c hc
  simpa using List.all_eq_true.mp hall c hc

/-- The number of a PHP change is the same in all columns, and no other has it. -/
private theorem phpRow_number_injective {c d : Column} {a b : PhpChange}
    (h : (phpRow c a).number = (phpRow d b).number) : a = b := by
  have hcolumn : ∀ (column : Column) (k : PhpChange),
      (phpRow column k).number = (phpRow .classes k).number := fun column k => by
    cases k with
    | membershipAdded m => cases m <;> rfl
    | membershipRemoved m => cases m <;> rfl
    | _ => rfl
  have hnodup : (PhpChange.all.map fun k => (phpRow .classes k).number).Nodup := by decide
  refine List.inj_on_of_nodup_map hnodup a.mem_all b.mem_all ?_
  rw [← hcolumn c, h, hcolumn d]

/-- The number of a moved annotation tells the column too. -/
private theorem docType_number_injective {c d : Column} {s s' : TypeSlot} {m m' : TypeMove}
    (h : 101 + docTypeIndex s m * 3 + c.index = 101 + docTypeIndex s' m' * 3 + d.index) :
    s = s' ∧ m = m' ∧ c = d := by
  revert h
  cases s <;> cases m <;> cases s' <;> cases m' <;> cases c <;> cases d <;> decide

/-- The contexts of PHP declarations have columns of their own. -/
private theorem ofContext_injective {c d : Context} (hc : c ∈ phpContexts) (hd : d ∈ phpContexts)
    (h : Column.ofContext c = Column.ofContext d) : c = d :=
  List.inj_on_of_nodup_map (f := Column.ofContext) (by decide) hc hd h

/-- The letters of PHP changes are no other family's. -/
private theorem letter_ne (column : Column) :
    ∀ s ∈ ["D", "DB", "DI", "X", "S", "L"], column.letter ≠ s := by
  cases column <;> decide

/-- Columns have letters of their own. -/
private theorem letter_injective {c d : Column} (h : c.letter = d.letter) : c = d := by
  revert h
  cases c <;> cases d <;> decide

/-- The numbers of a family of configuration changes are distinct. -/
private theorem number_injective :
    (∀ a b, (databaseRow a).number = (databaseRow b).number → a = b) ∧
      (∀ a b, (diRow a).number = (diRow b).number → a = b) ∧
      (∀ a b, (xsdRow a).number = (xsdRow b).number → a = b) ∧
      (∀ a b, (settingsRow a).number = (settingsRow b).number → a = b) ∧
      ∀ a b, (lessRow a).number = (lessRow b).number → a = b := by
  refine ⟨fun a b h => ?_, fun a b h => ?_, fun a b h => ?_, fun a b h => ?_, fun a b h => ?_⟩
  · exact List.inj_on_of_nodup_map (f := fun k => (databaseRow k).number) (by decide) a.mem_all
      b.mem_all h
  · exact List.inj_on_of_nodup_map (f := fun k => (diRow k).number) (by decide) a.mem_all
      b.mem_all h
  · exact List.inj_on_of_nodup_map (f := fun k => (xsdRow k).number) (by decide) a.mem_all
      b.mem_all h
  · exact List.inj_on_of_nodup_map (f := fun k => (settingsRow k).number) (by decide) a.mem_all
      b.mem_all h
  · exact List.inj_on_of_nodup_map (f := fun k => (lessRow k).number) (by decide) a.mem_all
      b.mem_all h

/-- A code tells the kind of change and the context in which it arises. -/
theorem code_injective {c d : Context} {k l : Change} (hk : (c, k) ∈ kinds) (hl : (d, l) ∈ kinds)
    (h : (rule c k).code = (rule d l).code) : c = d ∧ k = l := by
  rw [mem_kinds_iff] at hk hl
  rw [code_eq, code_eq] at h
  obtain ⟨hletters, hnumber⟩ :=
    Text.append_padNat_injective (isDigit_letters c k) (isDigit_letters d l) h
  obtain ⟨hdatabase, hdi, hxsd, hsettings, hless⟩ := number_injective
  cases k <;> cases l <;> simp only [letters, number] at hletters hnumber
  case php.php a b =>
    exact ⟨ofContext_injective hk hl (letter_injective hletters),
      congrArg Change.php (phpRow_number_injective hnumber)⟩
  case docType.docType =>
    obtain ⟨rfl, rfl, hcolumn⟩ := docType_number_injective hnumber
    exact ⟨ofContext_injective hk hl hcolumn, rfl⟩
  case database.database => exact ⟨hk.trans hl.symm, congrArg _ (hdatabase _ _ hnumber)⟩
  case di.di => exact ⟨hk.trans hl.symm, congrArg _ (hdi _ _ hnumber)⟩
  case xsd.xsd => exact ⟨hk.trans hl.symm, congrArg _ (hxsd _ _ hnumber)⟩
  case settings.settings => exact ⟨hk.trans hl.symm, congrArg _ (hsettings _ _ hnumber)⟩
  case less.less => exact ⟨hk.trans hl.symm, congrArg _ (hless _ _ hnumber)⟩
  -- Different families have different letters.
  all_goals
    first
      | exact absurd hletters (by decide)
      | exact absurd hletters (letter_ne _ _ (by decide))
      | exact absurd hletters.symm (letter_ne _ _ (by decide))

end Severity

end VersionBump
