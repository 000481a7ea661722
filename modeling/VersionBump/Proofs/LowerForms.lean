import VersionBump.Proofs.LetterCase

/-!
# Lower-case forms

A text in lower case stays as it is when it is put into lower case again: every character of the
lower-case form of a character is its own lower-case form.

* `Text.LowersTo` tells where a character of a lower-case form comes from, and
  `Text.lowersTo_of_mem` that it comes from there.
* `Text.Settled` characters are their own lower-case forms.
* `Text.toLower_toLower` is the statement.
-/

namespace VersionBump.Text

open CaseTable (Run)

/-! ## Where the characters come from -/

/-- Where a character of the lower-case form of `c` comes from. -/
inductive LowersTo (c : Char) : Char → Prop
  | self (h : lowerChar c = [c]) : LowersTo c c
  | letter {k : Nat} (hk : k < 26) : LowersTo c (Char.ofNat (97 + k))
  | many {e : Nat × List Nat} {n : Nat} (he : e ∈ CaseTable.lowerMany) (hn : n ∈ e.2) :
      LowersTo c (Char.ofNat n)
  | run {r : Run} (hr : r ∈ CaseTable.lower) (hc : r.covers c.toNat = true) :
      LowersTo c (Char.ofNat (Int.ofNat c.toNat + r.offset).toNat)

theorem lowersTo_of_mem {c d : Char} (h : d ∈ lowerChar c) : LowersTo c d := by
  by_cases hascii : c.toNat < 0x80
  · have hform : lowerChar c = [c.toLower] := if_pos hascii
    rw [hform, List.mem_singleton] at h
    rcases toLower_eq_self_or c with hsame | ⟨k, hk, rfl⟩
    · rw [hsame] at h hform
      obtain rfl := h
      exact .self hform
    · rw [h, toLower_capital k hk]
      exact .letter hk
  · have hform : lowerChar c = mapChar CaseTable.lower CaseTable.lowerMany c := if_neg hascii
    unfold mapChar at hform
    rw [hform] at h
    split at h
    case h_1 cs hcs =>
      obtain ⟨before, after, htable, -⟩ := List.lookup_eq_some_iff.mp hcs
      have hmem : (c.toNat, cs) ∈ CaseTable.lowerMany := by rw [htable]; simp
      obtain ⟨n, hn, rfl⟩ := List.mem_map.mp h
      exact .many hmem hn
    case h_2 hmany =>
      split at h
      case h_1 n hn =>
        obtain rfl := List.mem_singleton.mp h
        obtain ⟨r, hr, rfl⟩ := Option.map_eq_some_iff.mp hn
        exact .run (List.mem_of_find?_eq_some hr)
          (List.find?_some (p := fun r : Run => r.covers c.toNat) hr)
      case h_2 hruns =>
        obtain rfl := List.mem_singleton.mp h
        exact .self (by rw [hform, hmany, hruns])

/-! ## Characters that stay -/

/-- A character that is its own lower-case form wherever it stands. -/
def Settled (c : Char) : Prop := c ≠ 'Σ' ∧ lowerChar c = [c]

instance (c : Char) : Decidable (Settled c) := inferInstanceAs (Decidable (_ ∧ _))

/-- Whether the images of a run lie apart from the characters that another run maps: before them,
after them, or in the gaps between them. -/
private def isClearOf (r s : Run) : Bool :=
  let first := (Int.ofNat r.first + r.offset).toNat
  let last := (Int.ofNat r.last + r.offset).toNat
  last.blt s.first || s.last.blt first ||
    (r.step == 2 || r.first == r.last) && s.step == 2 && (first - s.first) % 2 == 1

/-- No run maps what is the image of a run that is clear of it. -/
private theorem covers_eq_false_of_isClearOf {r s : Run} {c : Nat} (h : isClearOf r s = true)
    (hc : r.covers c = true) : s.covers (Int.ofNat c + r.offset).toNat = false := by
  rw [Bool.eq_false_iff]
  intro hs
  simp only [Run.covers, isClearOf, Int.ofNat_eq_natCast, Bool.and_eq_true, Bool.or_eq_true,
    decide_eq_true_eq, beq_iff_eq, Nat.blt_eq] at hc hs h
  obtain ⟨⟨hfirst, hlast⟩, hstep⟩ := hc
  obtain ⟨⟨hfirst', hlast'⟩, hstep'⟩ := hs
  rcases h with (h | h) | ⟨⟨hr, hs⟩, h⟩
  · omega
  · omega
  · -- The other run maps every second character only, and the images are the ones between.
    rw [hs] at hstep'
    rcases hr with hr | hr
    · rw [hr] at hstep
      omega
    · omega

/-- The characters with a single counterpart, and those with several as runs of their own. -/
private def mapped : List Run :=
  CaseTable.lower ++ CaseTable.lowerMany.map fun e => ⟨e.1, e.1, 1, 0⟩

/-- The images of every run are clear of all characters that are mapped. -/
private theorem isClearOf_mapped :
    (CaseTable.lower.all fun r => mapped.all (isClearOf r)) = true := by
  -- There are 186 runs, too many pairs for anything but the kernel.
  decide +kernel

/-- A character that nothing maps is its own lower-case form. -/
private theorem settled_of_not_covers {c : Char} (h : ∀ s ∈ mapped, s.covers c.toNat = false) :
    Settled c := by
  have hruns : ∀ s ∈ CaseTable.lower, ¬ s.covers c.toNat = true :=
    fun s hs => Bool.eq_false_iff.mp (h s (List.mem_append_left _ hs))
  have hnone : ¬ CaseTable.lower.any (·.covers c.toNat) = true := by simpa using hruns
  -- The table has the capital sigma and the capital ASCII letters, so `c` is none of them.
  have hsigma : CaseTable.lower.any (·.covers 'Σ'.toNat) = true := by decide
  have hcapitals : ∀ k < 26, CaseTable.lower.any (·.covers (Char.ofNat (65 + k)).toNat) = true := by
    decide
  refine ⟨fun hc => hnone (hc ▸ hsigma), ?_⟩
  by_cases hascii : c.toNat < 0x80
  · rw [lowerChar, if_pos hascii]
    rcases toLower_eq_self_or c with hsame | ⟨k, hk, rfl⟩
    · rw [hsame]
    · exact absurd (hcapitals k hk) hnone
  · have hmany : CaseTable.lowerMany.lookup c.toNat = none := by
      rw [List.lookup_eq_none_iff]
      intro e he
      have hnot := h _ (List.mem_append_right _ (List.mem_map_of_mem he))
      rw [bne_iff_ne]
      intro heq
      simp [Run.covers, heq] at hnot
    have hrun : mapByRuns CaseTable.lower c.toNat = none := by
      rw [mapByRuns, List.find?_eq_none.mpr hruns]
      rfl
    rw [lowerChar, if_neg hascii, mapChar, hmany, hrun]

/-- The character of a number has that number, unless it is the one that stands for all numbers
without a character. -/
theorem toNat_ofNat_eq_or (n : Nat) : (Char.ofNat n).toNat = n ∨ (Char.ofNat n).toNat = 0 := by
  by_cases hvalid : n.isValidChar
  · exact .inl (by rw [Char.ofNat, dif_pos hvalid]; rfl)
  · exact .inr (by rw [Char.ofNat, dif_neg hvalid]; rfl)

/-- The characters of lower-case forms are their own lower-case forms. -/
theorem settled_of_mem_lowerChar {c d : Char} (h : d ∈ lowerChar c) : Settled d := by
  cases lowersTo_of_mem h with
  | self hself =>
    refine ⟨?_, hself⟩
    rintro rfl
    exact absurd hself (by decide)
  | @letter k hk =>
    have hletters : ∀ k < 26, Settled (Char.ofNat (97 + k)) := by decide
    exact hletters k hk
  | @many e n he hn =>
    have hmany : ∀ e ∈ CaseTable.lowerMany, ∀ n ∈ e.2, Settled (Char.ofNat n) := by
      decide
    exact hmany e he n hn
  | @run r hr hc =>
    have hclear := List.all_eq_true.mp (List.all_eq_true.mp isClearOf_mapped r hr)
    have hzero : (mapped.all fun s => !s.covers 0) = true := by decide
    refine settled_of_not_covers fun s hs => ?_
    rcases toNat_ofNat_eq_or (Int.ofNat c.toNat + r.offset).toNat with h | h <;> rw [h]
    · exact covers_eq_false_of_isClearOf (hclear s hs) hc
    · simpa using List.all_eq_true.mp hzero s hs

/-- A text of settled characters is its own lower-case form. -/
theorem lowerFrom_of_settled {cs : List Char} (h : ∀ c ∈ cs, Settled c) (before : List Char) :
    lowerFrom before cs = cs := by
  induction cs generalizing before with
  | nil => rfl
  | cons c cs ih =>
    obtain ⟨⟨hsigma, hlower⟩, hcs⟩ := List.forall_mem_cons.mp h
    rw [lowerFrom, if_neg hsigma, hlower, ih hcs, List.singleton_append]

/-- The lower-case form of a text has settled characters only. -/
theorem settled_of_mem_lowerFrom {before cs : List Char} {d : Char} (h : d ∈ lowerFrom before cs) :
    Settled d := by
  induction cs generalizing before with
  | nil => exact absurd h List.not_mem_nil
  | cons c cs ih =>
    rw [lowerFrom, List.mem_append] at h
    rcases h with h | h
    · split at h
      · have hsigmas : Settled 'ς' ∧ Settled 'σ' := by decide
        rw [List.mem_singleton] at h
        split at h
        · exact h ▸ hsigmas.1
        · exact h ▸ hsigmas.2
      · exact settled_of_mem_lowerChar h
    · exact ih h

/-- A text in lower case stays as it is when it is put into lower case again. -/
theorem toLower_toLower (s : String) : toLower (toLower s) = toLower s := by
  rw [toLower, toLower, String.toList_ofList,
    lowerFrom_of_settled fun _ => settled_of_mem_lowerFrom]

end VersionBump.Text
