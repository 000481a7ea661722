import VersionBump.Name

/-!
# Normal forms of names

The normal form of a name is cut out of it, without the blanks around it and the separators in
front. Blanks may stand behind the separators, so a normal form need not be a normal form of its own.

* `Name.Stable` is a name whose normal form is its own normal form.
* `Text.eq_of_isInfix`: what is cut out of a text and has the same lower-case form is the whole text,
  as the lower-case form of no character is empty.
* `Name.key_normalize_iff`: a name and its normal form have the same key exactly if the name is
  stable.
-/

namespace VersionBump

namespace Text

/-- The lower-case form of a character, up to the form of a final sigma, which has one character
as well. -/
def lowerForm (c : Char) : List Char := if c = 'Σ' then ['σ'] else lowerChar c

/-- The lower-case form of no character is empty. -/
theorem lowerForm_ne_nil (c : Char) : lowerForm c ≠ [] := by
  have hmany : ∀ cs, CaseTable.lowerMany.lookup c.toNat = some cs → cs ≠ [] := by
    intro cs hcs
    obtain ⟨before, after, htable, -⟩ := List.lookup_eq_some_iff.mp hcs
    have hmem : (c.toNat, cs) ∈ CaseTable.lowerMany := by rw [htable]; simp
    simp only [CaseTable.lowerMany, List.mem_singleton, Prod.mk.injEq] at hmem
    rw [hmem.2]
    decide
  unfold lowerForm lowerChar mapChar
  split
  · exact List.cons_ne_nil _ _
  · split
    · exact List.cons_ne_nil _ _
    · split
      case h_1 cs hcs => simpa using hmany cs hcs
      case h_2 => split <;> exact List.cons_ne_nil _ _

/-- The lower-case form of a text is as long as those of its characters together. -/
private theorem length_lowerFrom (before cs : List Char) :
    (lowerFrom before cs).length = (cs.flatMap lowerForm).length := by
  induction cs generalizing before with
  | nil => rfl
  | cons c cs ih =>
    rw [lowerFrom, List.length_append, ih, List.flatMap_cons, List.length_append]
    congr 1
    unfold lowerForm
    split <;> rfl

/-- Only the empty list of characters has an empty lower-case form. -/
private theorem eq_nil_of_length_eq_zero {cs : List Char} (h : (cs.flatMap lowerForm).length = 0) :
    cs = [] :=
  List.eq_nil_iff_forall_not_mem.mpr fun c hc =>
    lowerForm_ne_nil c (List.flatMap_eq_nil_iff.mp (List.length_eq_zero_iff.mp h) c hc)

/-- What is cut out of a text and has the same lower-case form is the whole text. -/
theorem eq_of_isInfix {a b : String} (h : a.toList <:+: b.toList) (hlower : toLower a = toLower b) :
    a = b := by
  obtain ⟨front, back, hparts⟩ := h
  have hlists : lowerFrom [] a.toList = lowerFrom [] b.toList := String.ofList_injective hlower
  have hlength := congrArg List.length hlists
  rw [length_lowerFrom, length_lowerFrom, ← hparts, List.flatMap_append, List.flatMap_append,
    List.length_append, List.length_append] at hlength
  -- Nothing is left for what stands in front and behind.
  have hfront : front = [] := eq_nil_of_length_eq_zero (by omega)
  have hback : back = [] := eq_nil_of_length_eq_zero (by omega)
  rw [hfront, hback, List.nil_append, List.append_nil] at hparts
  exact String.ext hparts

end Text

namespace Name

/-- A name whose normal form is its own normal form. -/
def Stable (name : String) : Prop := normalize (normalize name) = normalize name

instance (name : String) : Decidable (Stable name) := inferInstanceAs (Decidable (_ = _))

/-- Trimming cuts a piece out of a list. -/
private theorem trimList_isInfix (p : Char → Bool) (cs : List Char) :
    Text.trimList p cs <:+: cs := by
  have hback : ((cs.dropWhile p).reverse.dropWhile p).reverse <+: cs.dropWhile p := by
    rw [← List.reverse_suffix, List.reverse_reverse]
    exact List.dropWhile_suffix p
  exact hback.isInfix.trans (List.dropWhile_suffix p).isInfix

/-- The normal form is cut out of a name. -/
theorem normalize_isInfix (name : String) : (normalize name).toList <:+: name.toList := by
  rw [normalize, Text.dropLeading, Text.trim, String.toList_ofList, String.toList_ofList]
  exact (List.dropWhile_suffix _).isInfix.trans (trimList_isInfix _ _)

/-- A name and its normal form have the same key exactly if the name is stable. -/
theorem key_normalize_iff (name : String) : key (normalize name) = key name ↔ Stable name :=
  ⟨fun h => Text.eq_of_isInfix (normalize_isInfix _) h, fun h => congrArg Text.toLower h⟩

end Name

end VersionBump
