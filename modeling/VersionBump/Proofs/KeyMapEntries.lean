import Mathlib.Data.List.Induction
import Mathlib.Data.List.Nodup
import Mathlib.Data.List.Perm.Basic
import VersionBump.KeyMap.Lookup
import VersionBump.Registry

/-!
# Entries of keyed maps and registries

What is found in a map after it has been built from a list or after some of its entries have been
dropped, and how the map of one context of a registry relates to the registry.

* `filter_key_eq_singleton` is what distinct keys mean for a list, and `KeyMap.filter_key_toList` reads
  a look-up off the entries.
* `KeyMap.ne_empty_iff` says what it takes not to be empty.
* `KeyMap.find?_foldl_insert` says that of the elements put in under one key the last is found, and
  `KeyMap.find?_ofList` that so is the last entry of a list.
* `KeyMap.mem_of_find?_ofList` and `KeyMap.exists_find?_ofList` compare a map with its list, and
  `KeyMap.find?_ofList_iff` reads a map of distinct keys off it.
* `KeyMap.IsLast` picks the last entry of each key, and `KeyMap.find?_ofList_iff_isLast` says that
  it is the one which is found. `KeyMap.insert_comm` is why the order of other keys does not matter.
* `KeyMap.find?_ofListFirst` says that the map which keeps the first of each key finds the first.
* `KeyMap.find?_filterMap`, `Registry.find?_inContext` and `Registry.find?_filterMap` follow a
  look-up through an operation, and `KeyMap.keys_eq_of_contains_eq` says that the keys of a map are
  known by what it contains.
-/

namespace VersionBump

universe u v w

/-- In a list without repeated keys every element is the only one of its key. -/
theorem filter_key_eq_singleton {α : Type u} {κ : Type v} [DecidableEq κ] {key : α → κ} {xs : List α}
    (hnodup : (xs.map key).Nodup) {x : α} (hx : x ∈ xs) : xs.filter (key · = key x) = [x] := by
  have hfilter : (xs.filter (key · = key x)).Nodup := (List.Nodup.of_map _ hnodup).filter _
  refine List.perm_singleton.mp ((List.perm_ext_iff_of_nodup hfilter (List.nodup_singleton x)).mpr ?_)
  intro y
  rw [List.mem_filter, List.mem_singleton, decide_eq_true_eq]
  refine ⟨fun h => List.inj_on_of_nodup_map hnodup h.1 hx h.2, ?_⟩
  rintro rfl
  exact ⟨hx, rfl⟩

namespace KeyMap

variable {κ : Type u} {ν : Type v} {ω : Type w} [Ord κ] [Std.TransOrd κ] [Std.LawfulEqOrd κ]

omit [Std.TransOrd κ] in
/-- Every entry of a keyed map is found under its own key. -/
theorem find?_of_mem {m : KeyMap κ ν} {e : κ × ν} (h : e ∈ m.toList) : m.find? e.1 = some e.2 :=
  m.mem_toList_iff.mp h

omit [Std.TransOrd κ] [Std.LawfulEqOrd κ] in
/-- A key is not contained exactly if nothing is found under it. -/
theorem contains_eq_false_iff {m : KeyMap κ ν} {k : κ} : m.contains k = false ↔ m.find? k = none := by
  simp [contains]

/-- A map is not empty if something is found in it. -/
theorem ne_empty_iff {m : KeyMap κ ν} : m ≠ ∅ ↔ ∃ k x, m.find? k = some x := by
  constructor
  · intro hne
    by_contra hnone
    refine hne (ext_find? fun k => ?_)
    cases hfind : m.find? k with
    | none => rfl
    | some x => exact absurd ⟨k, x, hfind⟩ hnone
  · rintro ⟨k, x, hfind⟩ rfl
    exact nomatch hfind

omit [Std.TransOrd κ] in
/-- The keys of a map are distinct. -/
theorem nodup_keys (m : KeyMap κ ν) : (m.toList.map (·.1)).Nodup := by
  refine List.Pairwise.map _ (fun a b hab heq => ?_) m.sorted
  rw [heq, Std.ReflOrd.compare_self] at hab
  exact nomatch hab

omit [Std.TransOrd κ] in
/-- The entries under a key are the one that is found. -/
theorem filter_key_toList [DecidableEq κ] (m : KeyMap κ ν) (k : κ) :
    m.toList.filter (·.1 = k) = (m.find? k).toList.map (k, ·) := by
  cases hfind : m.find? k with
  | none =>
    refine List.filter_eq_nil_iff.mpr fun e he => ?_
    simp only [decide_eq_true_eq]
    rintro rfl
    exact nomatch hfind.symm.trans (find?_of_mem he)
  | some x => exact filter_key_eq_singleton m.nodup_keys (m.mem_toList_iff.mpr hfind)

omit [Std.TransOrd κ] [Std.LawfulEqOrd κ] in
/-- What stands behind an entry has a greater key. -/
theorem lt_of_sortedEntries {front back : List (κ × ν)} {e e' : κ × ν}
    (h : SortedEntries (front ++ e :: back)) (he : e' ∈ back) : compare e.1 e'.1 = .lt :=
  List.rel_of_pairwise_cons (List.pairwise_append.mp h).2.1 he

/-- Putting in a value affects the look-up of its key and no other. -/
theorem find?_insert [DecidableEq κ] (m : KeyMap κ ν) (k : κ) (x : ν) (q : κ) :
    (m.insert k x).find? q = if q = k then some x else m.find? q := by
  split
  case isTrue h => subst h; exact m.find?_insert_self q x
  case isFalse h => exact m.find?_insert_of_ne x h

/-- Values under two keys may be put in in either order. -/
theorem insert_comm [DecidableEq κ] (m : KeyMap κ ν) {k l : κ} (h : k ≠ l) (x y : ν) :
    (m.insert k x).insert l y = (m.insert l y).insert k x := by
  refine ext_find? fun q => ?_
  simp only [find?_insert]
  by_cases hk : q = k
  · have hl : q ≠ l := fun hl => h (hk.symm.trans hl)
    rw [if_neg hl, if_pos hk, if_pos hk]
  · simp only [if_neg hk]

/-- Of two values put in under one key the second stays. -/
theorem insert_insert [DecidableEq κ] (m : KeyMap κ ν) (k : κ) (x y : ν) :
    (m.insert k x).insert k y = m.insert k y := by
  refine ext_find? fun q => ?_
  simp only [find?_insert]
  split <;> rfl

/-- Putting in a value adds its key and no other. -/
theorem contains_insert_iff [DecidableEq κ] (m : KeyMap κ ν) (k : κ) (x : ν) (q : κ) :
    (m.insert k x).contains q = true ↔ q = k ∨ m.contains q = true := by
  rw [contains, find?_insert]
  by_cases hq : q = k <;> simp [hq, contains]

section Lists

variable [DecidableEq κ]

/-- Of the elements of a list that are put in under one key the last is found. -/
theorem find?_foldl_insert {α : Type w} (key : α → κ) (value : α → ν) (xs : List α) (m : KeyMap κ ν)
    (k : κ) : (xs.foldl (fun m x => m.insert (key x) (value x)) m).find? k =
      (((xs.filter (key · = k)).getLast?).map value).or (m.find? k) := by
  induction xs generalizing m with
  | nil => simp
  | cons x xs ih =>
    rw [List.foldl_cons, ih, find?_insert]
    by_cases hk : key x = k
    · rw [if_pos hk.symm, List.filter_cons_of_pos (by simpa using hk), List.getLast?_cons]
      cases (xs.filter (key · = k)).getLast? <;> rfl
    · rw [if_neg (Ne.symm hk), List.filter_cons_of_neg (by simpa using hk)]

/-- The map of a list finds the last entry of a key. -/
theorem find?_ofList (es : List (κ × ν)) (k : κ) :
    (ofList es).find? k = ((es.filter (·.1 = k)).getLast?).map (·.2) := by
  have hfold := find?_foldl_insert (·.1) (·.2) es empty k
  rwa [find?_empty, Option.or_none] at hfold

/-- What the map of a list finds is listed. -/
theorem mem_of_find?_ofList {es : List (κ × ν)} {k : κ} {x : ν}
    (h : (ofList es).find? k = some x) : (k, x) ∈ es := by
  rw [find?_ofList] at h
  obtain ⟨e, he, rfl⟩ := Option.map_eq_some_iff.mp h
  obtain ⟨hin, hk⟩ := List.mem_filter.mp (List.mem_of_getLast? he)
  rwa [← of_decide_eq_true hk]

/-- The map of a list finds something under every key that is listed. -/
theorem exists_find?_ofList {es : List (κ × ν)} {k : κ} {x : ν} (h : (k, x) ∈ es) :
    ∃ y, (ofList es).find? k = some y := by
  have hne : es.filter (·.1 = k) ≠ [] := List.ne_nil_of_mem (List.mem_filter.mpr ⟨h, by simp⟩)
  rw [find?_ofList, List.getLast?_eq_some_getLast hne, Option.map_some]
  exact ⟨_, rfl⟩

/-- A list of distinct keys is what is found in its map. -/
theorem find?_ofList_iff {es : List (κ × ν)} (hnodup : (es.map (·.1)).Nodup) {k : κ} {x : ν} :
    (ofList es).find? k = some x ↔ (k, x) ∈ es := by
  refine ⟨mem_of_find?_ofList, fun h => ?_⟩
  obtain ⟨y, hy⟩ := exists_find?_ofList h
  have hsame := List.inj_on_of_nodup_map hnodup h (mem_of_find?_ofList hy) rfl
  rw [hy, (Prod.mk.inj hsame).2]

/-- An entry of a list whose key does not come again after it. -/
def IsLast (es : List (κ × ν)) (e : κ × ν) : Prop :=
  ∃ front back, es = front ++ e :: back ∧ e.1 ∉ back.map (·.1)

omit [Ord κ] [Std.TransOrd κ] [Std.LawfulEqOrd κ] [DecidableEq κ] in
/-- One more entry is the last of its key, and those of other keys remain the last of theirs. -/
private theorem isLast_append_singleton {es : List (κ × ν)} {e x : κ × ν} :
    IsLast (es ++ [e]) x ↔ x = e ∨ (x.1 ≠ e.1 ∧ IsLast es x) := by
  constructor
  · rintro ⟨front, back, heq, hlast⟩
    rcases List.eq_nil_or_concat back with rfl | ⟨rest, y, rfl⟩
    · have hsame := List.append_inj_right' heq rfl
      exact .inl (List.singleton_inj.mp hsame).symm
    · have heq : es ++ [e] = (front ++ x :: rest) ++ [y] := by
        rw [heq, List.concat_eq_append, List.append_assoc, List.cons_append]
      obtain rfl : e = y := List.singleton_inj.mp (List.append_inj_right' heq rfl)
      rw [List.concat_eq_append, List.map_append, List.mem_append, not_or] at hlast
      have hne : x.1 ≠ e.1 := fun h => hlast.2 (by rw [h]; exact List.mem_cons_self)
      exact .inr ⟨hne, front, rest, List.append_inj_left' heq rfl, hlast.1⟩
  · rintro (rfl | ⟨hne, front, back, rfl, hlast⟩)
    · exact ⟨es, [], rfl, List.not_mem_nil⟩
    · refine ⟨front, back ++ [e], by rw [List.append_assoc, List.cons_append], ?_⟩
      rw [List.map_append, List.mem_append, not_or]
      exact ⟨hlast, fun h => hne (List.mem_singleton.mp h)⟩

/-- What the map of a list finds is the last entry of the key. -/
theorem find?_ofList_iff_isLast {es : List (κ × ν)} {k : κ} {x : ν} :
    (ofList es).find? k = some x ↔ IsLast es (k, x) := by
  induction es using List.reverseRecOn with
  | nil =>
    refine iff_of_false (fun h => nomatch h) ?_
    rintro ⟨front, back, heq, -⟩
    simp at heq
  | append_singleton es e ih =>
    have hsnoc : ofList (es ++ [e]) = (ofList es).insert e.1 e.2 := by
      rw [ofList, List.foldl_append]
      rfl
    rw [hsnoc, find?_insert, isLast_append_singleton, ← ih]
    obtain ⟨l, y⟩ := e
    by_cases hk : k = l
    · simp [hk, eq_comm]
    · simp [hk]

/-- What the map that keeps the first of each key finds is the first entry of the key. -/
theorem find?_ofListFirst {es : List (κ × ν)} {k : κ} :
    (ofListFirst es).find? k = (es.find? (·.1 == k)).map (·.2) := by
  have hfold : ∀ m : KeyMap κ ν, (es.foldl (fun m e => m.insertIfNew e.1 e.2) m).find? k =
      (m.find? k).or ((es.find? (·.1 == k)).map (·.2)) := by
    induction es with
    | nil => simp
    | cons e rest ih =>
      intro m
      rw [List.foldl_cons, ih, insertIfNew, find?_update, List.find?_cons]
      by_cases hk : k = e.1
      · cases hfind : m.find? e.1 <;> simp [hk, hfind, Std.ReflOrd.compare_self]
      · have hne : compare k e.1 ≠ .eq := fun heq => hk (Std.LawfulEqOrd.eq_of_compare heq)
        have hbeq : (e.1 == k) = false := beq_eq_false_iff_ne.mpr (Ne.symm hk)
        simp [hne, hbeq]
  rw [ofListFirst, hfold, find?_empty, Option.none_or]

/-- A key is found in the map that keeps the first of each key exactly if it is listed. -/
theorem contains_ofListFirst {es : List (κ × ν)} {k : κ} :
    (ofListFirst es).contains k = true ↔ k ∈ es.map (·.1) := by
  rw [contains, find?_ofListFirst, Option.isSome_map, List.find?_isSome, List.mem_map]
  simp

end Lists

omit [Std.TransOrd κ] in
/-- Dropping entries changes look-ups entry by entry. -/
theorem find?_filterMap (f : κ → ν → Option ω) (m : KeyMap κ ν) (k : κ) :
    (m.filterMap f).find? k = (m.find? k).bind (f k) := by
  refine Option.ext fun y => ?_
  rw [← mem_toList_iff, Option.bind_eq_some_iff]
  constructor
  · intro h
    obtain ⟨e, he, hy⟩ := List.mem_filterMap.mp h
    obtain ⟨z, hz, heq⟩ := Option.map_eq_some_iff.mp hy
    obtain ⟨rfl, rfl⟩ := Prod.mk.inj heq
    exact ⟨e.2, m.mem_toList_iff.mp he, hz⟩
  · rintro ⟨x, hx, hy⟩
    exact List.mem_filterMap.mpr ⟨(k, x), m.mem_toList_iff.mpr hx, by simp [hy]⟩

omit [Std.TransOrd κ] [Std.LawfulEqOrd κ] in
/-- A map without its values lists the same keys. -/
private theorem keys_filterMap_unit (m : KeyMap κ ν) :
    (m.filterMap fun _ _ => some ()).keys = m.keys := by
  simp [keys, filterMap]

/-- Maps that contain the same keys list the same keys. -/
theorem keys_eq_of_contains_eq {m : KeyMap κ ν} {n : KeyMap κ ω}
    (h : ∀ k, m.contains k = n.contains k) : m.keys = n.keys := by
  -- Without their values the maps are equal.
  have hmaps : (m.filterMap fun _ _ => some ()) = n.filterMap fun _ _ => some () := by
    refine ext_find? fun k => ?_
    rw [find?_filterMap, find?_filterMap]
    have hk := h k
    rw [contains, contains] at hk
    cases hm : m.find? k <;> cases hn : n.find? k <;> simp_all
  rw [← keys_filterMap_unit m, ← keys_filterMap_unit n, hmaps]

end KeyMap

namespace Registry

variable {α β : Type}

/-- The map of a context finds what the registry finds in that context. -/
theorem find?_inContext (r : Registry α) (context : Context) (key : String) :
    (r.inContext context).find? key = r.find? context key := by
  refine Option.ext fun x => ?_
  rw [← KeyMap.mem_toList_iff, Registry.find?, ← KeyMap.mem_toList_iff]
  constructor
  · intro h
    obtain ⟨e, he, hx⟩ := List.mem_filterMap.mp h
    obtain ⟨⟨c, n⟩, v⟩ := e
    simp only [entryIn?] at hx
    split at hx <;> simp_all [KeyMap.toList]
  · intro h
    exact List.mem_filterMap.mpr ⟨_, h, by simp [entryIn?]⟩

/-- Registering a value affects the look-up of its context and key and no other. -/
theorem find?_insert (r : Registry α) (context : Context) (key : String) (x : α) (location : Path)
    (c : Context) (k : String) :
    (r.insert context key x location).find? c k =
      if c = context ∧ k = key then some ⟨x, location⟩ else r.find? c k := by
  simp only [find?, insert, KeyMap.find?_insert, Key.mk.injEq]

/-- Dropping entries changes look-ups entry by entry and keeps the files. -/
theorem find?_filterMap (f : α → Option β) (r : Registry α) (context : Context) (key : String) :
    (r.filterMap f).find? context key =
      (r.find? context key).bind fun e => (f e.value).map (⟨·, e.location⟩) :=
  KeyMap.find?_filterMap _ _ _

end Registry

end VersionBump
