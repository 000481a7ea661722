import VersionBump.Text.Basic

/-!
# Texts between separators

Cutting a text apart at a character and joining the parts with the character undo each other: every
text is joined from its parts, and parts without the character, if there are any, can be read off
their joined text.

* `Text.joinWith_splitAt` and `Text.splitAt_joinWith` are the two statements.
* `Text.joinWith_injective` is what they say about joined texts.
-/

namespace VersionBump.Text

/-- The parts of a list between the occurrences of an element are those of the standard library. -/
theorem splitList_eq_splitOn {α : Type} [DecidableEq α] (c : α) (cs : List α) :
    splitList c cs = cs.splitOn c := by
  induction cs with
  | nil => rfl
  | cons d rest ih =>
    rw [splitList, ih, List.splitOn, List.splitOn, List.splitOnP_cons_eq_if_modifyHead]
    by_cases hd : d = c
    · simp [hd]
    · simp only [hd, beq_iff_eq, if_false]
      cases hparts : rest.splitOnP (· == c) with
      | nil => exact absurd hparts (List.splitOnP_ne_nil _ _)
      | cons part parts => rfl

/-- The parts between the occurrences of an element do not have the element. -/
theorem not_mem_of_mem_splitList {α : Type} [DecidableEq α] {c : α} {cs part : List α}
    (h : part ∈ splitList c cs) : c ∉ part := by
  induction cs generalizing part with
  | nil => simp_all [splitList]
  | cons d rest ih =>
    simp only [splitList] at h
    split at h
    case isTrue =>
      rcases List.mem_cons.mp h with rfl | h
      · exact List.not_mem_nil
      · exact ih h
    case isFalse hd =>
      split at h
      case h_1 => simpa using fun hc => by simp_all
      case h_2 first others hsplit =>
        rcases List.mem_cons.mp h with rfl | h
        · have hfirst : c ∉ first := ih (by rw [hsplit]; exact List.mem_cons_self)
          simpa [hfirst] using Ne.symm hd
        · exact ih (by rw [hsplit]; exact List.mem_cons_of_mem _ h)

/-- The parts of a text do not have the character that it is cut at. -/
theorem not_mem_of_mem_splitAt {c : Char} {s part : String} (h : part ∈ splitAt c s) :
    c ∉ part.toList := by
  obtain ⟨cs, hcs, rfl⟩ := List.mem_map.mp h
  rw [String.toList_ofList]
  exact not_mem_of_mem_splitList hcs

theorem splitAt_ne_nil (c : Char) (s : String) : splitAt c s ≠ [] := by
  simpa [splitAt] using splitList_ne_nil c s.toList

/-- What stands on the two sides of a separator is cut apart on its own. -/
private theorem splitList_append_cons {α : Type} [DecidableEq α] (c : α) (as bs : List α) :
    splitList c (as ++ c :: bs) = splitList c as ++ splitList c bs := by
  induction as with
  | nil => simp [splitList]
  | cons d as ih =>
    rw [List.cons_append, splitList, splitList, ih]
    split
    · rfl
    · cases hparts : splitList c as with
      | nil => exact absurd hparts (splitList_ne_nil c as)
      | cons part parts => rfl

/-- The parts of texts that are joined are those of the texts. -/
theorem splitAt_joinWith_eq_flatMap (c : Char) {texts : List String} (hne : texts ≠ []) :
    splitAt c (joinWith (String.singleton c) texts) = texts.flatMap (splitAt c) := by
  induction texts with
  | nil => exact absurd rfl hne
  | cons text texts ih =>
    cases texts with
    | nil => simp [joinWith]
    | cons next rest =>
      rw [List.flatMap_cons, ← ih (List.cons_ne_nil _ _), joinWith, String.intercalate_cons_cons,
        ← joinWith, splitAt, splitAt, splitAt, ← List.map_append, ← splitList_append_cons]
      simp

/-- Every text is joined from its parts. -/
theorem joinWith_splitAt (c : Char) (s : String) :
    joinWith (String.singleton c) (splitAt c s) = s := by
  refine String.toList_inj.mp ?_
  rw [joinWith, String.toList_intercalate, splitAt, List.map_map, splitList_eq_splitOn]
  simp [Function.comp_def, List.intercalate_splitOn]

/-- Parts without the character can be read off their joined text. -/
theorem splitAt_joinWith {c : Char} {parts : List String} (hne : parts ≠ [])
    (hparts : ∀ part ∈ parts, c ∉ part.toList) :
    splitAt c (joinWith (String.singleton c) parts) = parts := by
  rw [splitAt, joinWith, String.toList_intercalate, splitList_eq_splitOn, String.toList_singleton,
    List.splitOn_intercalate c (by simpa using hparts) (by simpa using hne), List.map_map]
  simp [Function.comp_def]

/-- Parts without the character are known by their joined text. -/
theorem joinWith_injective {c : Char} {as bs : List String} (hane : as ≠ []) (hbne : bs ≠ [])
    (ha : ∀ s ∈ as, c ∉ s.toList) (hb : ∀ s ∈ bs, c ∉ s.toList)
    (h : joinWith (String.singleton c) as = joinWith (String.singleton c) bs) : as = bs := by
  rw [← splitAt_joinWith hane ha, h, splitAt_joinWith hbne hb]

end VersionBump.Text
