import VersionBump.Text.Case

/-!
# Letter case and ASCII letters

Texts that differ at most in the case of ASCII letters have the same lower-case form, sigmas at the
ends of words included.

* `Text.toLower_eq_of_equalsIgnoreAsciiCase` is the statement. It holds since the lower-case form of
  a text is that of the text with its ASCII letters in lower case.
* `Text.equalsIgnoreAsciiCase_iff` is the converse for texts of ASCII characters only.
-/

namespace VersionBump.Text

/-- No character but the capitals has an ASCII letter in lower case. -/
theorem toLower_eq_self_or (c : Char) : c.toLower = c ∨ ∃ k < 26, c = Char.ofNat (65 + k) := by
  by_cases hc : c.val ≥ 'A'.val ∧ c.val ≤ 'Z'.val
  · have hlow : 65 ≤ c.toNat := hc.1
    have hhigh : c.toNat ≤ 90 := hc.2
    refine .inr ⟨c.toNat - 65, by omega, ?_⟩
    rw [Nat.add_sub_cancel' hlow, Char.ofNat_toNat]
  · exact .inl (dif_neg hc)

/-- The ASCII capitals and their letters in lower case, by number. -/
theorem toLower_capital : ∀ k < 26, (Char.ofNat (65 + k)).toLower = Char.ofNat (97 + k) := by
  decide

/-- What does not tell the cases of ASCII letters apart is seen on the capitals. -/
private theorem eq_of_capitals {β : Type} (g : Char → β)
    (h : ∀ k < 26, g (Char.ofNat (65 + k)).toLower = g (Char.ofNat (65 + k))) (c : Char) :
    g c.toLower = g c := by
  rcases toLower_eq_self_or c with hsame | ⟨k, hk, rfl⟩
  · rw [hsame]
  · exact h k hk

private theorem lowerChar_toLower (c : Char) : lowerChar c.toLower = lowerChar c :=
  eq_of_capitals lowerChar (by decide) c

private theorem isSigma_toLower (c : Char) : (c.toLower = 'Σ') = (c = 'Σ') :=
  propext (decide_eq_decide.mp (eq_of_capitals (fun c => decide (c = 'Σ')) (by decide) c))

/-- No ASCII letter is looked through. -/
private theorem inRanges_ignored_letter {n : Nat} (h : 65 ≤ n ∧ n ≤ 90 ∨ 97 ≤ n ∧ n ≤ 122) :
    inRanges CaseTable.ignored n = false := by
  have hapart : (CaseTable.ignored.all fun r =>
      r.2 < 65 || 90 < r.1 && r.2 < 97 || 122 < r.1) = true := by
    decide +kernel
  rw [inRanges, List.any_eq_false]
  intro r hr
  have hrange := List.all_eq_true.mp hapart r hr
  simp only [Bool.or_eq_true, Bool.and_eq_true, decide_eq_true_eq] at hrange ⊢
  omega

private theorem inRanges_ignored_toLower (c : Char) :
    inRanges CaseTable.ignored c.toLower.toNat = inRanges CaseTable.ignored c.toNat := by
  have hnumbers : ∀ k < 26, (Char.ofNat (97 + k)).toNat = 97 + k ∧
      (Char.ofNat (65 + k)).toNat = 65 + k := by
    decide
  refine eq_of_capitals (fun c => inRanges CaseTable.ignored c.toNat) (fun k hk => ?_) c
  obtain ⟨hsmall, hcapital⟩ := hnumbers k hk
  rw [toLower_capital k hk, hsmall, hcapital, inRanges_ignored_letter (by omega),
    inRanges_ignored_letter (by omega)]

private theorem inRanges_cased_toLower (c : Char) :
    inRanges CaseTable.cased c.toLower.toNat = inRanges CaseTable.cased c.toNat :=
  eq_of_capitals (fun c => inRanges CaseTable.cased c.toNat) (by decide) c

private theorem startsCased_map_toLower (cs : List Char) :
    startsCased (cs.map Char.toLower) = startsCased cs := by
  unfold startsCased
  induction cs with
  | nil => rfl
  | cons c cs ih =>
    rw [List.map_cons, List.dropWhile_cons, List.dropWhile_cons, inRanges_ignored_toLower]
    cases inRanges CaseTable.ignored c.toNat with
    | true => exact ih
    | false => exact inRanges_cased_toLower c

/-- The lower-case form of a text is that of the text with its ASCII letters in lower case. -/
private theorem lowerFrom_map_toLower (before cs : List Char) :
    lowerFrom (before.map Char.toLower) (cs.map Char.toLower) = lowerFrom before cs := by
  induction cs generalizing before with
  | nil => rfl
  | cons c cs ih =>
    -- A sigma looks at both of its sides, so what stands before is put into lower case as well.
    have hrest := ih (c :: before)
    rw [List.map_cons] at hrest
    rw [List.map_cons, lowerFrom, lowerFrom, hrest]
    simp only [isSigma_toLower, lowerChar_toLower, startsCased_map_toLower]

/-- Texts that differ at most in the case of ASCII letters have the same lower-case form. -/
theorem toLower_eq_of_equalsIgnoreAsciiCase {a b : String} (h : equalsIgnoreAsciiCase a b = true) :
    toLower a = toLower b := by
  have hmap : a.toList.map Char.toLower = b.toList.map Char.toLower := eq_of_beq h
  have ha := lowerFrom_map_toLower [] a.toList
  have hb := lowerFrom_map_toLower [] b.toList
  rw [List.map_nil] at ha hb
  rw [toLower, toLower, ← ha, ← hb, hmap]

/-- Whether texts differ in more than the case of ASCII letters is seen on either of two that do
not. -/
theorem equalsIgnoreAsciiCase_congr {a b : String} (h : equalsIgnoreAsciiCase a b = true)
    (s : String) : equalsIgnoreAsciiCase s a = equalsIgnoreAsciiCase s b := by
  have hmap : a.toList.map Char.toLower = b.toList.map Char.toLower := eq_of_beq h
  rw [equalsIgnoreAsciiCase, equalsIgnoreAsciiCase, hmap]

/-- All characters of a text are ASCII characters. -/
def IsAscii (s : String) : Prop := ∀ c ∈ s.toList, c.toNat < 0x80

instance (s : String) : Decidable (IsAscii s) := List.decidableBAll _ s.toList

/-- The lower-case form of ASCII characters is taken one by one. -/
private theorem lowerFrom_of_isAscii {cs : List Char} (h : ∀ c ∈ cs, c.toNat < 0x80)
    (before : List Char) : lowerFrom before cs = cs.map Char.toLower := by
  induction cs generalizing before with
  | nil => rfl
  | cons c cs ih =>
    obtain ⟨hc, hcs⟩ := List.forall_mem_cons.mp h
    have hsigma : c ≠ 'Σ' := by
      rintro rfl
      exact absurd hc (by decide)
    rw [lowerFrom, ih hcs, if_neg hsigma, lowerChar, if_pos hc, List.map_cons,
      List.singleton_append]

/-- Texts of ASCII characters differ at most in case exactly if they have the same lower-case
form. -/
theorem equalsIgnoreAsciiCase_iff {a b : String} (ha : IsAscii a) (hb : IsAscii b) :
    equalsIgnoreAsciiCase a b = true ↔ toLower a = toLower b := by
  refine ⟨toLower_eq_of_equalsIgnoreAsciiCase, fun h => ?_⟩
  have hlower := congrArg String.toList h
  rw [toLower, toLower, String.toList_ofList, String.toList_ofList, lowerFrom_of_isAscii ha,
    lowerFrom_of_isAscii hb] at hlower
  rw [equalsIgnoreAsciiCase, hlower, beq_self_eq_true]

end VersionBump.Text
