import VersionBump.Proofs.ReportedFiles

/-!
# Registries of two maps

A registry may also be kept as two maps, one of the values and one of the files, each by context and
in each context by key. Then a value can be asked for its file although there is none, and whoever
asks falls back on the empty path. As long as both maps are written together this does not happen,
and what is read off them is the registry.

* `ByContext` is a map of maps, and `Registry.TwoMap` is the pair of them with the operations on it.
  `Registry.TwoMap.located` reads it off with the fallback.
* `Registry.TwoMap.Represents` ties the pair to the registry that it stands for. There is only one
  such pair, by `Registry.TwoMap.Represents.unique`, and the operations keep it:
  `Registry.TwoMap.Represents.insert` and `Registry.TwoMap.Represents.filterMap`.
* `Registry.TwoMap.Represents.located_eq` and `Registry.TwoMap.Represents.entriesIn_eq` say that
  what is read off with the fallback is what the registry has.
* `Registry.Recipe` is a way to make a registry, and `Registry.Recipe.twoMap_represents` follows it
  in both forms. `Registry.Recipe.exists_location` is why the fallback is never taken.
-/

namespace VersionBump

variable {α β : Type}

/-! ## Maps of maps -/

/-- Values by context, and in each context by key. -/
structure ByContext (α : Type) where
  contexts : KeyMap Context (KeyMap String α) := ∅

namespace ByContext

/-- The value under a key of a context. -/
def find? (m : ByContext α) (context : Context) (key : String) : Option α :=
  (m.contexts.find? context).bind (·.find? key)

/-- The map with a value under a key of a context, which is there afterwards if it was not. -/
def insert (m : ByContext α) (context : Context) (key : String) (x : α) : ByContext α :=
  ⟨m.contexts.update context fun known => (known.getD ∅).insert key x⟩

/-- No context is there without a value. -/
def Filled (m : ByContext α) : Prop :=
  ∀ context inner, m.contexts.find? context = some inner → inner ≠ ∅

theorem find?_insert (m : ByContext α) (context : Context) (key : String) (x : α) (c : Context)
    (k : String) :
    (m.insert context key x).find? c k = if c = context ∧ k = key then some x else m.find? c k := by
  rw [find?, insert, KeyMap.find?_update]
  by_cases hc : c = context
  · subst hc
    rw [if_pos Std.ReflOrd.compare_self, Option.bind_some, KeyMap.find?_insert, find?]
    cases m.contexts.find? c <;> simp [KeyMap.find?_empty, EmptyCollection.emptyCollection]
  · rw [if_neg fun heq => hc (Std.LawfulEqOrd.eq_of_compare heq), if_neg fun h => hc h.1, find?]

theorem filled_empty : Filled ({} : ByContext α) := fun _ _ h => nomatch h

theorem Filled.insert {m : ByContext α} (h : m.Filled) (context : Context) (key : String) (x : α) :
    (m.insert context key x).Filled := by
  intro c inner hfind
  rw [ByContext.insert, KeyMap.find?_update] at hfind
  split at hfind
  · obtain rfl := Option.some.inj hfind
    exact KeyMap.ne_empty_iff.mpr ⟨key, x, KeyMap.find?_insert_self _ _ _⟩
  · exact h c inner hfind

/-- In a context that is not there nothing is found, and in any other something is. -/
theorem Filled.find?_contexts {m : ByContext α} (h : m.Filled) {context : Context} :
    m.contexts.find? context = none ↔ ∀ key, m.find? context key = none := by
  simp only [find?]
  cases hfind : m.contexts.find? context with
  | none => simp
  | some inner =>
    obtain ⟨key, x, hx⟩ := KeyMap.ne_empty_iff.mp (h context inner hfind)
    refine iff_of_false nofun fun hnone => ?_
    exact nomatch hx.symm.trans (hnone key)

/-- Filled maps with the same look-ups are equal. -/
theorem Filled.ext {m n : ByContext α} (hm : m.Filled) (hn : n.Filled)
    (h : ∀ context key, m.find? context key = n.find? context key) : m = n := by
  have hcontexts : m.contexts = n.contexts := by
    refine KeyMap.ext_find? fun context => ?_
    have hsame := h context
    simp only [find?] at hsame
    -- A context in which one map finds nothing is missing in the other one too.
    cases hfind : m.contexts.find? context with
    | none =>
      refine (hn.find?_contexts.mpr fun key => ?_).symm
      rw [← h, hm.find?_contexts.mp hfind]
    | some inner =>
      cases hfind' : n.contexts.find? context with
      | none =>
        have hnone := hm.find?_contexts.mpr fun key => (h context key).trans
          (hn.find?_contexts.mp hfind' key)
        exact nomatch hfind.symm.trans hnone
      | some inner' =>
        rw [hfind, hfind'] at hsame
        exact congrArg some (KeyMap.ext_find? hsame)
  cases m
  cases n
  exact congrArg ByContext.mk hcontexts

end ByContext

namespace Registry

/-! ## Two maps -/

/-- The values and the files of a registry, each in a map of its own. -/
structure TwoMap (α : Type) where
  values : ByContext α := {}
  locations : ByContext Path := {}

namespace TwoMap

/-- The two maps without entries. -/
def empty : TwoMap α := {}

/-- The two maps with `value` and its file under `key`. -/
def insert (t : TwoMap α) (context : Context) (key : String) (value : α) (location : Path) :
    TwoMap α :=
  ⟨t.values.insert context key value, t.locations.insert context key location⟩

/-- The value under `key`. -/
def get? (t : TwoMap α) (context : Context) (key : String) : Option α := t.values.find? context key

/-- The file under `key`. -/
def location? (t : TwoMap α) (context : Context) (key : String) : Option Path :=
  t.locations.find? context key

/-- The value with the file that is under the same key, and with the empty path if there is none. -/
def locate (t : TwoMap α) (context : Context) (key : String) (value : α) : Located α :=
  ⟨value, (t.location? context key).getD ⟨""⟩⟩

/-- All entries, in the order of contexts and keys. -/
def located (t : TwoMap α) : List (Key × Located α) :=
  t.values.contexts.toList.flatMap fun e =>
    e.2.toList.map fun x => (⟨e.1, x.1⟩, t.locate e.1 x.1 x.2)

/-- The entries of one context by key. -/
def entriesIn (t : TwoMap α) (context : Context) : KeyMap String (Located α) :=
  ((t.values.contexts.find? context).getD ∅).filterMap fun key value =>
    some (t.locate context key value)

/-- The two maps of a list of entries, put in one after the other. -/
def ofList (es : List (Key × Located α)) : TwoMap α :=
  es.foldl (fun t e => t.insert e.1.context e.1.name e.2.value e.2.location) empty

/-- The entries whose value `f` keeps, put into two new maps with the value that `f` gives. -/
def filterMap (f : α → Option β) (t : TwoMap α) : TwoMap β :=
  ofList (t.located.filterMap fun e => (f e.2.value).map fun x => (e.1, ⟨x, e.2.location⟩))

/-- The entries are read off in order. -/
private theorem sorted_located (t : TwoMap α) : SortedEntries t.located := by
  refine List.pairwise_flatMap.mpr ⟨fun e _ => ?_, ?_⟩
  · rw [List.pairwise_map]
    refine e.2.sorted.imp fun {a b} hlt => ?_
    exact (Key.compare_of_context_eq (a := ⟨e.1, a.1⟩) (b := ⟨e.1, b.1⟩) rfl).trans hlt
  · refine t.values.contexts.sorted.imp fun {e e'} hlt a ha b hb => ?_
    obtain ⟨x, -, rfl⟩ := List.mem_map.mp ha
    obtain ⟨y, -, rfl⟩ := List.mem_map.mp hb
    show compareLex (compareOn Key.context) (compareOn Key.name) _ _ = .lt
    simp only [compareLex, compareOn, hlt, Ordering.then]

/-- What is read off is what is found, with the file or the empty path in its place. -/
private theorem mem_located_iff {t : TwoMap α} {context : Context} {key : String} {e : Located α} :
    (⟨context, key⟩, e) ∈ t.located ↔
      ∃ value, t.get? context key = some value ∧ t.locate context key value = e := by
  simp only [located, List.mem_flatMap, List.mem_map, Prod.mk.injEq, Key.mk.injEq]
  simp only [get?, ByContext.find?, Option.bind_eq_some_iff]
  constructor
  · rintro ⟨c, hc, x, hx, ⟨rfl, rfl⟩, rfl⟩
    exact ⟨x.2, ⟨c.2, KeyMap.find?_of_mem hc, KeyMap.find?_of_mem hx⟩, rfl⟩
  · rintro ⟨value, ⟨inner, hinner, hvalue⟩, rfl⟩
    exact ⟨(context, inner), KeyMap.mem_toList_iff _ |>.mpr hinner, (key, value),
      KeyMap.mem_toList_iff _ |>.mpr hvalue, ⟨rfl, rfl⟩, rfl⟩

/-! ## What two maps stand for -/

/-- The two maps hold the values of a registry and their files, and no context without entries. -/
structure Represents (t : TwoMap α) (r : Registry α) : Prop where
  value_eq : ∀ context key, t.get? context key = r.get? context key
  location_eq : ∀ context key, t.location? context key = r.location? context key
  filled_values : t.values.Filled
  filled_locations : t.locations.Filled

variable {t u : TwoMap α} {r : Registry α}

/-- Only one pair of maps stands for a registry. -/
theorem Represents.unique (ht : t.Represents r) (hu : u.Represents r) : t = u := by
  have hvalues : t.values = u.values := ht.filled_values.ext hu.filled_values fun context key =>
    (ht.value_eq context key).trans (hu.value_eq context key).symm
  have hlocations : t.locations = u.locations :=
    ht.filled_locations.ext hu.filled_locations fun context key =>
      (ht.location_eq context key).trans (hu.location_eq context key).symm
  cases t
  cases u
  exact congrArg₂ TwoMap.mk hvalues hlocations

/-- A value has its file under the same key, so the empty path does not take its place. -/
theorem Represents.locate_eq_iff (h : t.Represents r) {context : Context} {key : String}
    {e : Located α} :
    (∃ value, t.get? context key = some value ∧ t.locate context key value = e) ↔
      r.find? context key = some e := by
  rw [h.value_eq]
  unfold locate
  rw [h.location_eq, Registry.get?, Registry.location?]
  cases r.find? context key <;> simp

/-- All entries are read off as the registry has them. -/
theorem Represents.located_eq (h : t.Represents r) : t.located = r.toList := by
  refine eq_of_sortedEntries t.sorted_located r.entries.sorted fun e => ?_
  rw [mem_located_iff, h.locate_eq_iff, Registry.find?, ← KeyMap.mem_toList_iff]
  rfl

/-- The entries of a context are read off as the registry has them. -/
theorem Represents.entriesIn_eq (h : t.Represents r) (context : Context) :
    t.entriesIn context = r.inContext context := by
  refine KeyMap.ext_find? fun key => Option.ext fun e => ?_
  rw [find?_inContext, ← h.locate_eq_iff, entriesIn, KeyMap.find?_filterMap,
    Option.bind_eq_some_iff, get?, ByContext.find?]
  cases t.values.contexts.find? context <;>
    simp [KeyMap.find?_empty, EmptyCollection.emptyCollection]

/-- What two maps have a value for, they have a file for, and the registry backs it. -/
theorem Represents.exists_location (h : t.Represents r) {p : Path → Prop} (hr : r.Backed p)
    {context : Context} {key : String} {value : α} (hvalue : t.get? context key = some value) :
    ∃ location, t.location? context key = some location ∧ p location := by
  rw [h.location_eq]
  exact hr context key value ((h.value_eq context key).symm.trans hvalue)

/-! ## What the operations keep -/

theorem represents_empty : (empty : TwoMap α).Represents ∅ :=
  ⟨fun _ _ => rfl, fun _ _ => rfl, ByContext.filled_empty, ByContext.filled_empty⟩

/-- Putting a value and its file into both maps registers the value. -/
theorem Represents.insert (h : t.Represents r) (context : Context) (key : String) (value : α)
    (location : Path) :
    (t.insert context key value location).Represents (r.insert context key value location) where
  value_eq c k := by
    rw [TwoMap.get?, TwoMap.insert, ByContext.find?_insert, Registry.get?, Registry.find?_insert,
      apply_ite (Option.map Located.value)]
    exact congrArg _ (h.value_eq c k)
  location_eq c k := by
    rw [TwoMap.location?, TwoMap.insert, ByContext.find?_insert, Registry.location?,
      Registry.find?_insert, apply_ite (Option.map Located.location)]
    exact congrArg _ (h.location_eq c k)
  filled_values := h.filled_values.insert context key value
  filled_locations := h.filled_locations.insert context key location

/-- Putting entries in one after the other makes the registry of the list. -/
theorem represents_ofList (es : List (Key × Located α)) :
    (ofList es).Represents ⟨KeyMap.ofList es⟩ := by
  have hfold : ∀ (t : TwoMap α) (m : KeyMap Key (Located α)), t.Represents ⟨m⟩ →
      (es.foldl (fun t e => t.insert e.1.context e.1.name e.2.value e.2.location) t).Represents
        ⟨es.foldl (fun m e => m.insert e.1 e.2) m⟩ := by
    induction es with
    | nil => exact fun _ _ h => h
    | cons e es ih => exact fun t m h => ih _ _ (h.insert _ _ _ _)
  exact hfold empty ∅ represents_empty

/-- The entries of a registry, put in one after the other, stand for it. -/
theorem represents_toList (r : Registry α) : (ofList r.toList).Represents r := by
  -- The keys of a registry are distinct, so no entry replaces another.
  have hsame : KeyMap.ofList r.entries.toList = r.entries :=
    KeyMap.ext_find? fun k => Option.ext fun e => by
      rw [KeyMap.find?_ofList_iff r.entries.nodup_keys, KeyMap.mem_toList_iff]
  have h := represents_ofList r.toList
  rwa [Registry.toList, hsame] at h

/-- Keeping some of the values in two new maps keeps them in the registry. -/
theorem Represents.filterMap (h : t.Represents r) (f : α → Option β) :
    (t.filterMap f).Represents (r.filterMap f) := by
  have hkept : (t.located.filterMap fun e => (f e.2.value).map fun x => (e.1, ⟨x, e.2.location⟩)) =
      (r.filterMap f).toList := by
    rw [h.located_eq]
    exact List.filterMap_congr fun e _ => by rw [Option.map_map]; rfl
  rw [TwoMap.filterMap, hkept]
  exact represents_toList _

end TwoMap

/-! ## Ways to make registries -/

/-- A way to make a registry by the operations on registries. -/
inductive Recipe : Type → Type 1 where
  | empty {α : Type} : Recipe α
  | insert {α : Type} (p : Recipe α) (context : Context) (key : String) (value : α)
      (location : Path) : Recipe α
  | filterMap {α β : Type} (f : α → Option β) (p : Recipe α) : Recipe β

namespace Recipe

/-- The registry that is made. -/
def registry : {α : Type} → Recipe α → Registry α
  | _, empty => .empty
  | _, insert p context key value location => p.registry.insert context key value location
  | _, filterMap f p => p.registry.filterMap f

/-- The two maps that are made. -/
def twoMap : {α : Type} → Recipe α → TwoMap α
  | _, empty => .empty
  | _, insert p context key value location => p.twoMap.insert context key value location
  | _, filterMap f p => p.twoMap.filterMap f

/-- In both forms the same is made. -/
theorem twoMap_represents (p : Recipe α) : p.twoMap.Represents p.registry := by
  induction p with
  | empty => exact TwoMap.represents_empty
  | insert p context key value location ih => exact ih.insert context key value location
  | filterMap f p ih => exact ih.filterMap f

/-- In two maps that have been made every value has a file. -/
theorem exists_location (p : Recipe α) {context : Context} {key : String} {value : α}
    (hvalue : p.twoMap.get? context key = some value) :
    ∃ location, p.twoMap.location? context key = some location ∧
      p.registry.find? context key = some ⟨value, location⟩ := by
  rw [p.twoMap_represents.value_eq, Registry.get?, Option.map_eq_some_iff] at hvalue
  obtain ⟨e, he, rfl⟩ := hvalue
  refine ⟨e.location, ?_, he⟩
  rw [p.twoMap_represents.location_eq, Registry.location?, he, Option.map_some]

end Recipe

end Registry

end VersionBump
