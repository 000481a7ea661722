import Mathlib.Data.List.DropRight
import VersionBump.Proofs.LowerForms
import VersionBump.Proofs.NormalForms
import VersionBump.Proofs.SeparatedTexts

/-!
# Normal forms and letter case

The blanks around a name and the separators in front of it have no case, and neither have the bars
between the names of a union; nothing else becomes one of them in lower case. So it does not matter
whether a name is put into its normal form or into lower case first, and the key of a name decides
the key of its normal form. Likewise it does not matter whether a union is cut apart or put into
lower case first.

* `Text.trim_toLower` and `Text.dropLeading_toLower` say that both parts of a normal form agree with
  lower case, and `Text.splitAt_toLower` says it of the parts of a union.
* `Name.normalize_toLower` is the statement, and `Name.key_normalize` what it is needed for.
-/

namespace VersionBump

namespace Text

/-- What stands at the ends of names and between them: a blank, a separator or a bar. -/
private def isMargin (c : Char) : Bool := isBlank c || c == '\\' || c == '|'

/-- The characters at the ends of names and between them, by number. -/
private def margins : List Nat :=
  [0x9, 0xA, 0xB, 0xC, 0xD, 0x20, 0x5C, 0x7C, 0x85, 0xA0, 0x1680, 0x2000, 0x2001, 0x2002, 0x2003,
   0x2004, 0x2005, 0x2006, 0x2007, 0x2008, 0x2009, 0x200A, 0x2028, 0x2029, 0x202F, 0x205F, 0x3000]

private theorem toNat_mem_margins {c : Char} (h : isMargin c = true) : c.toNat ∈ margins := by
  have hcases : (isBlank c = true ∨ c = '\\') ∨ c = '|' := by simpa [isMargin] using h
  simp only [margins, List.mem_cons, List.not_mem_nil, or_false]
  rcases hcases with (hblank | rfl) | rfl
  · simp only [isBlank, Bool.or_eq_true, Bool.and_eq_true, decide_eq_true_eq, beq_iff_eq] at hblank
    omega
  · decide
  · decide

/-- What holds of the listed characters holds of every margin. -/
private theorem of_margins {P : Char → Prop} (h : ∀ n ∈ margins, P (Char.ofNat n)) {c : Char}
    (hc : isMargin c = true) : P c := by
  have hlisted := h c.toNat (toNat_mem_margins hc)
  rwa [Char.ofNat_toNat] at hlisted

private theorem settled_margin {c : Char} (h : isMargin c = true) : Settled c :=
  of_margins (by decide) h

/-- A sigma sees the end of a word in front of a blank and of a separator. -/
private theorem inRanges_margin {c : Char} (h : isMargin c = true) :
    inRanges CaseTable.ignored c.toNat = false ∧ inRanges CaseTable.cased c.toNat = false :=
  of_margins (P := fun c => inRanges CaseTable.ignored c.toNat = false ∧
    inRanges CaseTable.cased c.toNat = false) (by decide +kernel) h

/-- No run of the table leads to a blank or to a separator. -/
private theorem covers_eq_false : ∀ r ∈ CaseTable.lower, ∀ n ∈ margins,
    r.covers (Int.ofNat n - r.offset).toNat = false := by
  have hall : (CaseTable.lower.all fun r => margins.all fun n =>
      !r.covers (Int.ofNat n - r.offset).toNat) = true := by
    decide +kernel
  simpa using hall

/-- A number that stands for a margin is listed. -/
private theorem mem_margins_of_ofNat {n : Nat} (h : isMargin (Char.ofNat n) = true) :
    n ∈ margins := by
  have hlisted := toNat_mem_margins h
  rcases toNat_ofNat_eq_or n with hn | hn <;> rw [hn] at hlisted
  · exact hlisted
  · exact absurd hlisted (by decide)

private theorem not_margin_of_covers {c : Char} {r : CaseTable.Run} (hr : r ∈ CaseTable.lower)
    (hcovers : r.covers c.toNat = true) :
    isMargin (Char.ofNat (Int.ofNat c.toNat + r.offset).toNat) = false := by
  by_contra hmargin
  rw [Bool.not_eq_false] at hmargin
  have hlisted := mem_margins_of_ofNat hmargin
  -- The run would lead from the number below to a listed one.
  have hsource : (Int.ofNat (Int.ofNat c.toNat + r.offset).toNat - r.offset).toNat = c.toNat := by
    have hpositive : ∀ m ∈ margins, m ≠ 0 := by decide
    have hne := hpositive _ hlisted
    simp only [Int.ofNat_eq_natCast] at hne ⊢
    omega
  have hnot := covers_eq_false r hr _ hlisted
  rw [hsource, hcovers] at hnot
  exact nomatch hnot

/-- A margin stands in the lower-case form of itself only. -/
private theorem eq_of_mem_lowerChar {c d : Char} (hd : d ∈ lowerChar c)
    (hmargin : isMargin d = true) : d = c := by
  cases lowersTo_of_mem hd with
  | self _ => rfl
  | @letter k hk =>
    have hletters : ∀ k < 26, isMargin (Char.ofNat (97 + k)) = false := by decide
    exact nomatch hmargin.symm.trans (hletters k hk)
  | @many e n he hn =>
    have hmany : ∀ e ∈ CaseTable.lowerMany, ∀ n ∈ e.2, isMargin (Char.ofNat n) = false := by
      decide
    exact nomatch hmargin.symm.trans (hmany e he n hn)
  | run hr hcovers => exact nomatch hmargin.symm.trans (not_margin_of_covers hr hcovers)

/-! ## Texts -/

/-- A sigma does not look past a margin. -/
private theorem startsCased_append_margin {c : Char} (hc : isMargin c = true)
    (cs past : List Char) : startsCased (cs ++ c :: past) = startsCased cs := by
  obtain ⟨hignored, hcased⟩ := inRanges_margin hc
  unfold startsCased
  induction cs with
  | nil => simp [hignored, hcased]
  | cons d cs ih =>
    rw [List.cons_append, List.dropWhile_cons, List.dropWhile_cons]
    cases inRanges CaseTable.ignored d.toNat with
    | true => exact ih
    | false => rfl

/-- What stands before a margin does not show in the lower-case form of what follows it. -/
private theorem lowerFrom_after_margin {c : Char} (hc : isMargin c = true)
    (before past cs : List Char) : lowerFrom (before ++ c :: past) cs = lowerFrom before cs := by
  induction cs generalizing before with
  | nil => rfl
  | cons d cs ih =>
    have hrest := ih (d :: before)
    rw [List.cons_append] at hrest
    rw [lowerFrom, lowerFrom, startsCased_append_margin hc, hrest]

/-- What stands on the two sides of a margin is put into lower case apart. -/
private theorem lowerFrom_append_cons_margin {c : Char} (hc : isMargin c = true)
    (before cs rest : List Char) :
    lowerFrom before (cs ++ c :: rest) = lowerFrom before cs ++ c :: lowerFrom [] rest := by
  induction cs generalizing before with
  | nil =>
    obtain ⟨hsigma, hlower⟩ := settled_margin hc
    have hrest := lowerFrom_after_margin hc [] before rest
    rw [List.nil_append] at hrest
    show lowerFrom before (c :: rest) = c :: lowerFrom [] rest
    rw [lowerFrom, if_neg hsigma, hlower, hrest]
    rfl
  | cons d cs ih =>
    rw [List.cons_append, lowerFrom, lowerFrom, startsCased_append_margin hc, ih,
      List.append_assoc]

private theorem lowerFrom_cons_margin {c : Char} (hc : isMargin c = true) (cs : List Char) :
    lowerFrom [] (c :: cs) = c :: lowerFrom [] cs :=
  lowerFrom_append_cons_margin hc [] [] cs

private theorem lowerFrom_append_margin {c : Char} (hc : isMargin c = true)
    (before cs : List Char) : lowerFrom before (cs ++ [c]) = lowerFrom before cs ++ [c] :=
  lowerFrom_append_cons_margin hc before cs []

/-- What a character becomes is not empty, and no margin unless the character is one. -/
private theorem exists_lowerFrom_cons (before : List Char) (c : Char) (cs : List Char) :
    ∃ form, form ≠ [] ∧ (∀ d ∈ form, isMargin d = true → d = c) ∧
      lowerFrom before (c :: cs) = form ++ lowerFrom (c :: before) cs := by
  by_cases hc : c = 'Σ'
  · refine ⟨_, ?_, fun d hd hmargin => ?_, by rw [lowerFrom, if_pos hc]⟩
    · exact List.cons_ne_nil _ _
    · have hsigmas : isMargin 'ς' = false ∧ isMargin 'σ' = false := by decide
      rw [List.mem_singleton.mp hd] at hmargin
      split at hmargin
      · exact absurd hmargin (Bool.eq_false_iff.mp hsigmas.1)
      · exact absurd hmargin (Bool.eq_false_iff.mp hsigmas.2)
  · have hform : lowerForm c = lowerChar c := if_neg hc
    exact ⟨lowerChar c, hform ▸ lowerForm_ne_nil c, fun d hd => eq_of_mem_lowerChar hd,
      by rw [lowerFrom, if_neg hc]⟩

/-- The same of the last character of a text. -/
private theorem exists_lowerFrom_append (before cs : List Char) (c : Char) :
    ∃ front form, form ≠ [] ∧ (∀ d ∈ form, isMargin d = true → d = c) ∧
      lowerFrom before (cs ++ [c]) = front ++ form := by
  induction cs generalizing before with
  | nil =>
    obtain ⟨form, hne, hmargin, heq⟩ := exists_lowerFrom_cons before c []
    exact ⟨[], form, hne, hmargin, by rw [List.nil_append, heq, lowerFrom, List.append_nil]; rfl⟩
  | cons x cs ih =>
    obtain ⟨first, -, -, hfirst⟩ := exists_lowerFrom_cons before x (cs ++ [c])
    obtain ⟨front, form, hne, hmargin, heq⟩ := ih (x :: before)
    exact ⟨first ++ front, form, hne, hmargin, by
      rw [List.cons_append, hfirst, heq, List.append_assoc]⟩

/-- A margin stands in a lower-case form only where it stands in the text. -/
private theorem mem_of_mem_lowerFrom {before cs : List Char} {d : Char}
    (h : d ∈ lowerFrom before cs) (hmargin : isMargin d = true) : d ∈ cs := by
  induction cs generalizing before with
  | nil => exact h
  | cons c cs ih =>
    obtain ⟨form, -, hform, heq⟩ := exists_lowerFrom_cons before c cs
    rw [heq, List.mem_append] at h
    exact List.mem_cons.mpr (h.imp (hform d · hmargin) ih)

variable {p : Char → Bool}

/-- Whether a text starts with a margin is seen on its lower-case form. -/
private theorem any_head?_lowerFrom (hp : ∀ c, p c = true → isMargin c = true) (cs : List Char) :
    (lowerFrom [] cs).head?.any p = cs.head?.any p := by
  cases cs with
  | nil => rfl
  | cons c cs =>
    by_cases hc : p c = true
    · rw [lowerFrom_cons_margin (hp c hc), List.head?_cons, List.head?_cons]
    · obtain ⟨form, hne, hmargin, heq⟩ := exists_lowerFrom_cons [] c cs
      obtain ⟨d, rest, rfl⟩ := List.exists_cons_of_ne_nil hne
      have hd : ¬ p d = true := fun hd => hc (hmargin d List.mem_cons_self (hp d hd) ▸ hd)
      rw [heq, List.cons_append, List.head?_cons, List.head?_cons]
      simp [hc, hd]

/-- What is dropped in front of a text is dropped in front of its lower-case form. -/
private theorem dropWhile_lowerFrom (hp : ∀ c, p c = true → isMargin c = true) (cs : List Char) :
    (lowerFrom [] cs).dropWhile p = lowerFrom [] (cs.dropWhile p) := by
  induction cs with
  | nil => rfl
  | cons c cs ih =>
    by_cases hc : p c = true
    · rw [lowerFrom_cons_margin (hp c hc), List.dropWhile_cons_of_pos hc,
        List.dropWhile_cons_of_pos hc, ih]
    · obtain ⟨form, hne, hmargin, heq⟩ := exists_lowerFrom_cons [] c cs
      obtain ⟨d, rest, rfl⟩ := List.exists_cons_of_ne_nil hne
      have hd : ¬ p d = true := fun hd => hc (hmargin d List.mem_cons_self (hp d hd) ▸ hd)
      rw [List.dropWhile_cons_of_neg hc, heq, List.cons_append, List.dropWhile_cons_of_neg hd]

/-- What is dropped at the end of a text is dropped at the end of its lower-case form. -/
private theorem rdropWhile_lowerFrom (hp : ∀ c, p c = true → isMargin c = true) (cs : List Char) :
    (lowerFrom [] cs).rdropWhile p = lowerFrom [] (cs.rdropWhile p) := by
  induction cs using List.reverseRecOn with
  | nil => rfl
  | append_singleton cs c ih =>
    by_cases hc : p c = true
    · rw [lowerFrom_append_margin (hp c hc), List.rdropWhile_concat_pos _ _ _ hc,
        List.rdropWhile_concat_pos _ _ _ hc, ih]
    · obtain ⟨front, form, hne, hmargin, heq⟩ := exists_lowerFrom_append [] cs c
      obtain ⟨rest, d, rfl⟩ := (List.eq_nil_or_concat form).resolve_left hne
      rw [List.concat_eq_append] at hmargin heq
      have hd : ¬ p d = true := fun hd => hc (hmargin d (by simp) (hp d hd) ▸ hd)
      rw [List.rdropWhile_concat_neg _ _ _ hc, heq, ← List.append_assoc,
        List.rdropWhile_concat_neg _ _ _ hd]

private theorem isMargin_of_isBlank {c : Char} (h : isBlank c = true) : isMargin c = true := by
  simp [isMargin, h]

/-- Whether a text starts with a blank. -/
def startsBlank (s : String) : Bool := s.toList.head?.any isBlank

/-- A text starts with a blank if its lower-case form does. -/
theorem startsBlank_toLower (s : String) : startsBlank (toLower s) = startsBlank s := by
  rw [startsBlank, toLower, String.toList_ofList, any_head?_lowerFrom fun _ => isMargin_of_isBlank]
  rfl

/-- A separator in front of a text stays as it is. -/
theorem toLower_separator_append (s : String) : toLower ("\\" ++ s) = "\\" ++ toLower s := by
  refine String.toList_inj.mp ?_
  have hcons := lowerFrom_cons_margin (c := '\\') (by decide) s.toList
  simpa [toLower] using hcons

/-- The lower-case form of a text has no bars unless the text has. -/
theorem bar_mem_of_mem_toLower {s : String} (h : '|' ∈ (toLower s).toList) : '|' ∈ s.toList := by
  rw [toLower, String.toList_ofList] at h
  exact mem_of_mem_lowerFrom h (by decide)

/-- Texts with bars between them are put into lower case one by one. -/
theorem toLower_joinWith (parts : List String) :
    toLower (joinWith "|" parts) = joinWith "|" (parts.map toLower) := by
  have hbar : ∀ s t : String, toLower (s ++ "|" ++ t) = toLower s ++ "|" ++ toLower t := by
    intro s t
    refine String.toList_inj.mp ?_
    have happend := lowerFrom_append_cons_margin (c := '|') (by decide) [] s.toList t.toList
    simpa [toLower] using happend
  induction parts with
  | nil => rfl
  | cons part parts ih =>
    cases parts with
    | nil => simp [joinWith]
    | cons next rest =>
      simp only [joinWith, List.map_cons, String.intercalate_cons_cons, hbar] at ih ⊢
      rw [ih]

/-- The parts of a text between bars are put into lower case one by one. -/
theorem splitAt_toLower (s : String) : splitAt '|' (toLower s) = (splitAt '|' s).map toLower := by
  have hparts : ∀ part ∈ (splitAt '|' s).map toLower, '|' ∉ part.toList := by
    intro part hpart hbar
    obtain ⟨old, hold, rfl⟩ := List.mem_map.mp hpart
    exact not_mem_of_mem_splitAt hold (bar_mem_of_mem_toLower hbar)
  have hjoined : toLower s = joinWith "|" ((splitAt '|' s).map toLower) := by
    rw [← toLower_joinWith]
    exact congrArg toLower (joinWith_splitAt '|' s).symm
  rw [hjoined]
  exact splitAt_joinWith (by simpa using splitAt_ne_nil '|' s) hparts

theorem toList_trim (s : String) :
    (trim s).toList = (s.toList.dropWhile isBlank).rdropWhile isBlank := by
  rw [trim, String.toList_ofList]
  rfl

/-- Trimming and putting into lower case may change places. -/
theorem trim_toLower (s : String) : trim (toLower s) = toLower (trim s) := by
  have hp : ∀ c, isBlank c = true → isMargin c = true := fun _ => isMargin_of_isBlank
  refine String.toList_inj.mp ?_
  rw [toList_trim, toLower, toLower, String.toList_ofList, String.toList_ofList, toList_trim,
    dropWhile_lowerFrom hp, rdropWhile_lowerFrom hp]

/-- Dropping separators in front and putting into lower case may change places. -/
theorem dropLeading_toLower (s : String) :
    dropLeading '\\' (toLower s) = toLower (dropLeading '\\' s) := by
  rw [dropLeading, dropLeading, toLower, toLower, String.toList_ofList, String.toList_ofList,
    dropWhile_lowerFrom fun c hc => by simp_all [isMargin]]

end Text

namespace Name

/-- A name may be put into its normal form or into lower case first. -/
theorem normalize_toLower (name : String) :
    normalize (Text.toLower name) = Text.toLower (normalize name) := by
  rw [normalize, normalize, Text.trim_toLower, Text.dropLeading_toLower]

/-- The key of a normal form is the normal form of the key. -/
theorem key_normalize (name : String) : key (normalize name) = normalize (key name) := by
  rw [key, key, normalize_toLower]

end Name

end VersionBump
