/-!
# Keyed maps

A map kept as its list of entries, strictly sorted by key. Every collection whose order shows in an
answer is one of these, so the order of the output is the order of the keys and two maps with the
same look-ups are the same map.

* `KeyMap.update` changes one entry, `KeyMap.insert` replaces it.
* `KeyMap.ofList` lets the last entry of a key win.
* `KeyMap.sorted` is carried by the map itself.
-/

namespace VersionBump

universe u v w

/-- The entry list with the entry under `k` changed by `f`, which gets `none` where there is
none. -/
def updateEntry {κ : Type u} {ν : Type v} [Ord κ] (k : κ) (f : Option ν → ν) :
    List (κ × ν) → List (κ × ν)
  | [] => [(k, f none)]
  | e :: rest =>
    match compare k e.1 with
    | .lt => (k, f none) :: e :: rest
    | .eq => (k, f (some e.2)) :: rest
    | .gt => e :: updateEntry k f rest

/-- The value of the first entry under `k`. -/
def lookupEntry {κ : Type u} {ν : Type v} [Ord κ] (k : κ) : List (κ × ν) → Option ν
  | [] => none
  | e :: rest => if compare k e.1 = .eq then some e.2 else lookupEntry k rest

/-- Entries in strictly increasing order of their keys. -/
def SortedEntries {κ : Type u} {ν : Type v} [Ord κ] (es : List (κ × ν)) : Prop :=
  es.Pairwise fun a b => compare a.1 b.1 = .lt

/-- A finite map, listed in key order. -/
structure KeyMap (κ : Type u) (ν : Type v) [Ord κ] where
  entries : List (κ × ν)
  sorted : SortedEntries entries

section Entries

variable {κ : Type u} {ν : Type v} [Ord κ]

theorem mem_updateEntry {k : κ} {f : Option ν → ν} {a : κ × ν} {es : List (κ × ν)}
    (h : a ∈ updateEntry k f es) : a.1 = k ∨ a ∈ es := by
  induction es with
  | nil => simp_all [updateEntry]
  | cons e rest ih =>
    simp only [updateEntry] at h
    split at h <;> simp only [List.mem_cons] at h ⊢
    · rcases h with rfl | h | h <;> simp_all
    · rcases h with rfl | h <;> simp_all
    · rcases h with rfl | h
      · simp
      · rcases ih h with h | h <;> simp_all

theorem sorted_updateEntry [Std.TransOrd κ] [Std.LawfulEqOrd κ] (k : κ) (f : Option ν → ν)
    {es : List (κ × ν)} (h : SortedEntries es) : SortedEntries (updateEntry k f es) := by
  induction es with
  | nil => simp [updateEntry, SortedEntries]
  | cons e rest ih =>
    obtain ⟨hhead, htail⟩ := List.pairwise_cons.mp h
    simp only [updateEntry]
    split
    case h_1 hlt =>
      refine List.pairwise_cons.mpr ⟨fun a ha => ?_, h⟩
      rcases List.mem_cons.mp ha with rfl | ha
      · exact hlt
      · exact Std.TransCmp.lt_trans hlt (hhead a ha)
    case h_2 heq =>
      have hk : k = e.1 := Std.LawfulEqOrd.eq_of_compare heq
      subst hk
      exact List.pairwise_cons.mpr ⟨hhead, htail⟩
    case h_3 hgt =>
      refine List.pairwise_cons.mpr ⟨fun a ha => ?_, ih htail⟩
      rcases mem_updateEntry ha with h' | ha
      · rw [h']; exact Std.OrientedCmp.lt_of_gt hgt
      · exact hhead a ha

end Entries

namespace KeyMap

variable {κ : Type u} {ν : Type v} {ω : Type w} [Ord κ]

/-- The map without entries. -/
def empty : KeyMap κ ν := ⟨[], List.Pairwise.nil⟩

instance : EmptyCollection (KeyMap κ ν) := ⟨empty⟩
instance : Inhabited (KeyMap κ ν) := ⟨empty⟩
instance [Repr κ] [Repr ν] : Repr (KeyMap κ ν) := ⟨fun m n => reprPrec m.entries n⟩

instance [DecidableEq κ] [DecidableEq ν] : DecidableEq (KeyMap κ ν) := fun a b =>
  decidable_of_iff (a.entries = b.entries) (by cases a; cases b; simp)

/-- The entries in key order. -/
def toList (m : KeyMap κ ν) : List (κ × ν) := m.entries

/-- The keys in order. -/
def keys (m : KeyMap κ ν) : List κ := m.entries.map (·.1)

/-- The values in key order. -/
def values (m : KeyMap κ ν) : List ν := m.entries.map (·.2)

/-- The number of entries. -/
def size (m : KeyMap κ ν) : Nat := m.entries.length

/-- Whether there is no entry. -/
def isEmpty (m : KeyMap κ ν) : Bool := m.entries.isEmpty

/-- The value under `k`. -/
def find? (m : KeyMap κ ν) (k : κ) : Option ν := lookupEntry k m.entries

/-- Whether `k` is a key. -/
def contains (m : KeyMap κ ν) (k : κ) : Bool := (m.find? k).isSome

variable [Std.TransOrd κ] [Std.LawfulEqOrd κ]

/-- The map with the value under `k` changed by `f`, which gets `none` where there is none. -/
def update (m : KeyMap κ ν) (k : κ) (f : Option ν → ν) : KeyMap κ ν :=
  ⟨updateEntry k f m.entries, sorted_updateEntry k f m.sorted⟩

/-- The map with `v` under `k`. -/
def insert (m : KeyMap κ ν) (k : κ) (v : ν) : KeyMap κ ν := m.update k fun _ => v

/-- The map with `v` under `k`, unless `k` has a value already. -/
def insertIfNew (m : KeyMap κ ν) (k : κ) (v : ν) : KeyMap κ ν := m.update k (·.getD v)

/-- The map of a list of entries; of two entries with one key the later stays. -/
def ofList (es : List (κ × ν)) : KeyMap κ ν := es.foldl (fun m e => m.insert e.1 e.2) empty

/-- The map of a list of entries; of two entries with one key the earlier stays. -/
def ofListFirst (es : List (κ × ν)) : KeyMap κ ν :=
  es.foldl (fun m e => m.insertIfNew e.1 e.2) empty

omit [Std.TransOrd κ] [Std.LawfulEqOrd κ] in
/-- Dropping entries keeps the rest sorted. -/
theorem sorted_filterMap (f : κ → ν → Option ω) {es : List (κ × ν)} (h : SortedEntries es) :
    SortedEntries (es.filterMap fun e => (f e.1 e.2).map (e.1, ·)) := by
  refine List.Pairwise.filterMap _ (fun a b hab a' ha b' hb => ?_) h
  simp only [Option.map_eq_some_iff] at ha hb
  obtain ⟨x, -, rfl⟩ := ha
  obtain ⟨y, -, rfl⟩ := hb
  exact hab

omit [Std.TransOrd κ] [Std.LawfulEqOrd κ] in
/-- The entries that `f` keeps, each with the value that `f` gives it. -/
def filterMap (f : κ → ν → Option ω) (m : KeyMap κ ν) : KeyMap κ ω :=
  ⟨m.entries.filterMap fun e => (f e.1 e.2).map (e.1, ·), sorted_filterMap f m.sorted⟩

end KeyMap

end VersionBump
