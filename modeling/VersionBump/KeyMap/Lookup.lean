import VersionBump.KeyMap.Basic

/-!
# Looking up in keyed maps

A keyed map is known by its look-ups: the value under a key is the value of the entry with that
key, and two maps with the same look-ups are equal.

* `KeyMap.find?_update` says what changing an entry does to every look-up.
* `KeyMap.mem_toList_iff` ties the look-up to the list of entries.
* `KeyMap.ext_find?` is extensionality.
-/

namespace VersionBump

universe u v w

section Entries

variable {κ : Type u} {ν : Type v} [Ord κ] [Std.TransOrd κ] [Std.LawfulEqOrd κ]

omit [Std.TransOrd κ] [Std.LawfulEqOrd κ] in
/-- Below the first key nothing is found. -/
theorem lookupEntry_eq_none_of_lt {k : κ} {es : List (κ × ν)}
    (h : ∀ e ∈ es, compare k e.1 = .lt) : lookupEntry k es = none := by
  induction es with
  | nil => rfl
  | cons e rest ih =>
    have hhead := h e List.mem_cons_self
    simp [lookupEntry, hhead, ih fun a ha => h a (List.mem_cons_of_mem e ha)]

omit [Std.TransOrd κ] in
/-- In a sorted list a key finds the entry that has it. -/
theorem lookupEntry_eq_some_iff {es : List (κ × ν)} (hs : SortedEntries es) {k : κ} {x : ν} :
    lookupEntry k es = some x ↔ (k, x) ∈ es := by
  induction es with
  | nil => simp [lookupEntry]
  | cons e rest ih =>
    obtain ⟨hhead, htail⟩ := List.pairwise_cons.mp hs
    simp only [lookupEntry, List.mem_cons]
    split
    case isTrue h =>
      have hk : k = e.1 := Std.LawfulEqOrd.eq_of_compare h
      subst hk
      constructor
      · rintro h; exact Or.inl (by cases h; rfl)
      · rintro (h | h)
        · rw [← h]
        · have hlt := hhead _ h
          simp [Std.ReflOrd.compare_self] at hlt
    case isFalse h =>
      rw [ih htail]
      constructor
      · exact Or.inr
      · rintro (rfl | h')
        · exact absurd Std.ReflOrd.compare_self h
        · exact h'

/-- Changing the entry under `k` affects the look-up of `k` and no other. -/
theorem lookupEntry_updateEntry (k : κ) (f : Option ν → ν) {es : List (κ × ν)}
    (hs : SortedEntries es) (q : κ) :
    lookupEntry q (updateEntry k f es) =
      if compare q k = .eq then some (f (lookupEntry k es)) else lookupEntry q es := by
  induction es with
  | nil => simp [updateEntry, lookupEntry]
  | cons e rest ih =>
    obtain ⟨hhead, htail⟩ := List.pairwise_cons.mp hs
    cases hcmp : compare k e.1 with
    | lt =>
      have hnone : lookupEntry k (e :: rest) = none := by
        refine lookupEntry_eq_none_of_lt fun a ha => ?_
        rcases List.mem_cons.mp ha with rfl | ha
        · exact hcmp
        · exact Std.TransCmp.lt_trans hcmp (hhead a ha)
      rw [hnone]
      simp only [updateEntry, hcmp, lookupEntry]
    | eq =>
      have hk : k = e.1 := Std.LawfulEqOrd.eq_of_compare hcmp
      subst hk
      by_cases hq : compare q e.1 = .eq <;> simp [updateEntry, lookupEntry, hq]
    | gt =>
      simp only [updateEntry, lookupEntry, hcmp, ih htail, reduceCtorEq, if_false]
      by_cases hqe : compare q e.1 = .eq
      · have hq : q = e.1 := Std.LawfulEqOrd.eq_of_compare hqe
        subst hq
        have hqk : compare e.1 k ≠ .eq := by simp [Std.OrientedCmp.lt_of_gt hcmp]
        simp [hqk]
      · simp [hqe]

/-- Sorted lists with the same entries are equal. -/
theorem eq_of_sortedEntries {as bs : List (κ × ν)} (ha : SortedEntries as)
    (hb : SortedEntries bs) (h : ∀ e, e ∈ as ↔ e ∈ bs) : as = bs := by
  induction as generalizing bs with
  | nil => exact (List.eq_nil_iff_forall_not_mem.mpr fun e he => by simpa using (h e).mpr he).symm
  | cons a as ih =>
    obtain ⟨hahead, hatail⟩ := List.pairwise_cons.mp ha
    cases bs with
    | nil => simpa using (h a).mp List.mem_cons_self
    | cons b bs =>
      obtain ⟨hbhead, hbtail⟩ := List.pairwise_cons.mp hb
      have hab : a = b := by
        rcases List.mem_cons.mp ((h a).mp List.mem_cons_self) with hab | hab
        · exact hab
        · rcases List.mem_cons.mp ((h b).mpr List.mem_cons_self) with hba | hba
          · exact hba.symm
          · exact absurd (Std.TransCmp.lt_trans (hahead b hba) (hbhead a hab))
              (by simp [Std.ReflOrd.compare_self])
      subst hab
      refine congrArg (a :: ·) (ih hatail hbtail fun e => ⟨fun he => ?_, fun he => ?_⟩)
      · rcases List.mem_cons.mp ((h e).mp (List.mem_cons_of_mem a he)) with rfl | h'
        · exact absurd (hahead _ he) (by simp [Std.ReflOrd.compare_self])
        · exact h'
      · rcases List.mem_cons.mp ((h e).mpr (List.mem_cons_of_mem a he)) with rfl | h'
        · exact absurd (hbhead _ he) (by simp [Std.ReflOrd.compare_self])
        · exact h'

end Entries

namespace KeyMap

variable {κ : Type u} {ν : Type v} {ω : Type w} [Ord κ] [Std.TransOrd κ] [Std.LawfulEqOrd κ]

omit [Std.TransOrd κ] [Std.LawfulEqOrd κ] in
/-- The empty map finds nothing. -/
theorem find?_empty (k : κ) : (empty : KeyMap κ ν).find? k = none := rfl

/-- Looking up after changing the entry of `k`. -/
theorem find?_update (m : KeyMap κ ν) (k : κ) (f : Option ν → ν) (q : κ) :
    (m.update k f).find? q = if compare q k = .eq then some (f (m.find? k)) else m.find? q :=
  lookupEntry_updateEntry k f m.sorted q

/-- The value that was put in is found. -/
theorem find?_insert_self (m : KeyMap κ ν) (k : κ) (x : ν) : (m.insert k x).find? k = some x := by
  simp [insert, find?_update, Std.ReflOrd.compare_self]

/-- Putting a value under one key leaves the others alone. -/
theorem find?_insert_of_ne (m : KeyMap κ ν) {k q : κ} (x : ν) (h : q ≠ k) :
    (m.insert k x).find? q = m.find? q := by
  have hne : compare q k ≠ .eq := fun heq => h (Std.LawfulEqOrd.eq_of_compare heq)
  simp [insert, find?_update, hne]

omit [Std.TransOrd κ] in
/-- What is listed is what is found. -/
theorem mem_toList_iff (m : KeyMap κ ν) {k : κ} {x : ν} :
    (k, x) ∈ m.toList ↔ m.find? k = some x :=
  (lookupEntry_eq_some_iff m.sorted).symm

omit [Std.TransOrd κ] in
/-- The keys are those under which something is found. -/
theorem mem_keys_iff (m : KeyMap κ ν) {k : κ} : k ∈ m.keys ↔ m.contains k = true := by
  rw [contains, Option.isSome_iff_exists]
  constructor
  · intro h
    obtain ⟨⟨k', x⟩, he, rfl⟩ := List.mem_map.mp h
    exact ⟨x, m.mem_toList_iff.mp he⟩
  · rintro ⟨x, hx⟩
    exact List.mem_map.mpr ⟨(k, x), m.mem_toList_iff.mpr hx, rfl⟩

/-- Maps with the same look-ups are equal. -/
theorem ext_find? {m n : KeyMap κ ν} (h : ∀ k, m.find? k = n.find? k) : m = n := by
  obtain ⟨es, hs⟩ := m
  obtain ⟨fs, ht⟩ := n
  have : es = fs := eq_of_sortedEntries hs ht fun e => by
    have := h e.1
    rw [← lookupEntry_eq_some_iff hs ,
      ← lookupEntry_eq_some_iff ht ]
    exact (congrArg (· = some e.2) this).to_iff
  subst this
  rfl

end KeyMap

end VersionBump
