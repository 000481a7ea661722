import VersionBump.Proofs.ReportCells

/-!
# Nested reports

A report may also be kept as a map of maps: by context, and in each context by level. Then there are
contexts without levels and levels without operations to be avoided, and a cell is reached in two
steps. Both forms go through the same operations, and the flat report is the nested one read off in
order.

* `Report.Nested` is the nested form with the operations on it, `Report.Nested.flatten` reads it off.
* `Report.Nested.Tidy` says that nothing in it is empty or out of place, and
  `Report.Nested.Tidy.eq_of_flatten_eq` that tidy forms of one report are equal.
* `Report.Nested.Tidy.flatten_add` and its neighbours exchange reading off with the operations.
* `Report.Recipe` is a way to make a report, and `Report.Recipe.nested_represents` says that both
  forms made in this way hold the same.
-/

namespace VersionBump

/-! ## Levels as keys -/

namespace Level

instance : Ord Level := ⟨compareOn rank⟩

instance : Std.TransOrd Level := inferInstanceAs (Std.TransCmp (compareOn rank))

instance : Std.LawfulEqOrd Level where
  compare_self {a} := Std.ReflOrd.compare_self (a := a.rank)
  eq_of_compare {a b} h :=
    rank_injective (Std.LawfulEqOrd.eq_of_compare (a := a.rank) (b := b.rank) h)

end Level

namespace Report

/-- The operations of one context, by level. -/
abbrev Levels := KeyMap Level (List Operation)

namespace Levels

/-- The levels with operations put behind those of one level. -/
def append (ls : Levels) (level : Level) (ops : List Operation) : Levels :=
  ls.update level fun known => known.getD [] ++ ops

/-- The levels with the operations of other levels put behind theirs. -/
def appendAll (ls ms : Levels) : Levels := ms.toList.foldl (fun ls e => ls.append e.1 e.2) ls

/-- The operations of a level. -/
def operations (ls : Levels) (level : Level) : List Operation := (ls.find? level).getD []

/-- The levels without those above a patch. -/
def capped (ls : Levels) : Levels :=
  ls.filterMap fun level ops => if level = .major ∨ level = .minor then none else some ops

/-- The levels with what is above a patch taken out and put behind the patches. -/
def dampen (ls : Levels) : Levels :=
  let moved := ls.operations .major ++ ls.operations .minor
  if moved.isEmpty then ls.capped else ls.capped.append .patch (moved.map dampenOperation)

end Levels

/-- Operations by context, and in each context by level. -/
structure Nested where
  contexts : KeyMap Context Levels := ∅

namespace Nested

/-- The nested report without operations. -/
def empty : Nested := {}

/-- The operation filed under its own context, and there under its own level. -/
def add (n : Nested) (op : Operation) : Nested :=
  ⟨n.contexts.update op.context fun known => (known.getD ∅).append op.level [op]⟩

/-- All operations of a list filed. -/
def addAll (n : Nested) (ops : List Operation) : Nested := ops.foldl add n

/-- The operations of two nested reports, context by context and level by level. -/
def merge (n m : Nested) : Nested :=
  ⟨m.contexts.toList.foldl
    (fun contexts e => contexts.update e.1 fun known => (known.getD ∅).appendAll e.2) n.contexts⟩

/-- Every context dampened. -/
def dampen (n : Nested) : Nested := ⟨n.contexts.filterMap fun _ ls => some ls.dampen⟩

/-- All operations by context, and in each context from the highest level to the lowest. -/
def toList (n : Nested) : List Operation :=
  n.contexts.toList.flatMap fun e => e.2.toList.reverse.flatMap (·.2)

/-- One operation for each difference: the first of the most severe. -/
def deduplicate (n : Nested) : Nested := empty.addAll (mostSevere n.toList n.toList [])

/-- The levels of a context. -/
def levelsIn (n : Nested) (context : Context) : Levels := (n.contexts.find? context).getD ∅

/-- The operations of a context at a level. -/
def operations (n : Nested) (context : Context) (level : Level) : List Operation :=
  (n.levelsIn context).operations level

/-! ## Reading off -/

/-- The cells in the order of the flat report. -/
def cells (n : Nested) : List (Cell × List Operation) :=
  n.contexts.toList.flatMap fun e => e.2.toList.reverse.map fun l => (⟨e.1, l.1⟩, l.2)

/-- In one context cells are ordered from the highest level to the lowest. -/
private theorem compare_cell_of_gt (context : Context) {a b : Level} (h : compare b a = .lt) :
    compare (⟨context, a⟩ : Cell) ⟨context, b⟩ = .lt := by
  show compareLex (compareOn Cell.context) (compareOn Cell.depth) _ _ = .lt
  simp only [compareLex, compareOn, Std.ReflOrd.compare_self, Ordering.then]
  show compare (Level.major.rank - a.rank) (Level.major.rank - b.rank) = .lt
  revert h
  cases a <;> cases b <;> decide

/-- Cells are ordered by their contexts first. -/
private theorem compare_cell_of_lt {c d : Context} (h : compare c d = .lt) (a b : Level) :
    compare (⟨c, a⟩ : Cell) ⟨d, b⟩ = .lt := by
  show compareLex (compareOn Cell.context) (compareOn Cell.depth) _ _ = .lt
  simp only [compareLex, compareOn, h, Ordering.then]

/-- The cells are read off in order. -/
theorem sorted_cells (n : Nested) : SortedEntries n.cells := by
  refine List.pairwise_flatMap.mpr ⟨fun e _ => ?_, ?_⟩
  · rw [List.pairwise_map, List.pairwise_reverse]
    exact e.2.sorted.imp fun hlt => compare_cell_of_gt e.1 hlt
  · refine n.contexts.sorted.imp fun {e e'} hlt a ha b hb => ?_
    obtain ⟨l, -, rfl⟩ := List.mem_map.mp ha
    obtain ⟨l', -, rfl⟩ := List.mem_map.mp hb
    exact compare_cell_of_lt hlt l.1 l'.1

/-- The flat report of a nested one. -/
def flatten (n : Nested) : Report := ⟨⟨n.cells, n.sorted_cells⟩⟩

/-- A context that is not there counts as one without levels. -/
theorem find?_levelsIn (n : Nested) (context : Context) (level : Level) :
    (n.levelsIn context).find? level = (n.contexts.find? context).bind (·.find? level) := by
  rw [levelsIn]
  cases n.contexts.find? context <;> rfl

/-- A cell is found in two steps. -/
theorem find?_flatten (n : Nested) (context : Context) (level : Level) :
    n.flatten.cells.find? ⟨context, level⟩ = (n.levelsIn context).find? level := by
  rw [find?_levelsIn]
  refine Option.ext fun ops => ?_
  rw [← KeyMap.mem_toList_iff, Option.bind_eq_some_iff]
  show _ ∈ n.cells ↔ _
  simp only [cells, List.mem_flatMap, List.mem_map, List.mem_reverse, Prod.mk.injEq, Cell.mk.injEq]
  constructor
  · rintro ⟨e, he, l, hl, ⟨rfl, rfl⟩, rfl⟩
    exact ⟨e.2, KeyMap.find?_of_mem he, KeyMap.find?_of_mem hl⟩
  · rintro ⟨ls, hls, hops⟩
    exact ⟨(context, ls), KeyMap.mem_toList_iff _ |>.mpr hls, (level, ops),
      KeyMap.mem_toList_iff _ |>.mpr hops, ⟨rfl, rfl⟩, rfl⟩

/-- A cell of the flat report holds what its level holds in its context. -/
theorem operations_flatten (n : Nested) (context : Context) (level : Level) :
    n.flatten.operations context level = n.operations context level := by
  rw [Report.operations, find?_flatten, operations, Levels.operations]

/-- The flat report lists the operations in the order of the nested one. -/
theorem toList_flatten (n : Nested) : n.flatten.toList = n.toList := by
  show n.cells.flatMap (·.2) = n.toList
  simp only [cells, toList, List.flatMap_assoc, List.flatMap_map]

end Nested

/-! ## Tidy levels -/

namespace Levels

variable {ls ms : Levels} {context : Context} {level : Level} {ops : List Operation}

/-- No level of a context is empty, and each holds operations of its own. -/
def Filled (context : Context) (ls : Levels) : Prop :=
  ∀ level ops, ls.find? level = some ops →
    ops ≠ [] ∧ ∀ op ∈ ops, op.context = context ∧ op.level = level

/-- Operations are put behind those of their level, and the other levels stay as they are. -/
theorem operations_append (ls : Levels) (level : Level) (ops : List Operation) (l : Level) :
    (ls.append level ops).operations l = ls.operations l ++ if level = l then ops else [] := by
  by_cases hlevel : level = l
  · subst hlevel
    simp [operations, append, KeyMap.find?_update, Std.ReflOrd.compare_self]
  · have hne : compare l level ≠ .eq := fun heq => hlevel (Std.LawfulEqOrd.eq_of_compare heq).symm
    simp [operations, append, KeyMap.find?_update, hlevel, hne]

/-- Levels are put together level by level. -/
theorem operations_appendAll (ls ms : Levels) (level : Level) :
    (ls.appendAll ms).operations level = ls.operations level ++ ms.operations level := by
  -- Of all entries that are put in, only that of the level counts.
  have hfold : ∀ (es : List (Level × List Operation)) (ls : Levels),
      (es.foldl (fun ls e => ls.append e.1 e.2) ls).operations level =
        ls.operations level ++ (es.filter (·.1 = level)).flatMap (·.2) := by
    intro es
    induction es with
    | nil => simp
    | cons e es ih =>
      intro ls
      rw [List.foldl_cons, ih, operations_append]
      by_cases hlevel : e.1 = level <;> simp [hlevel]
  rw [appendAll, hfold, KeyMap.filter_key_toList, operations, operations]
  cases ms.find? level <;> simp

/-- After dampening the patches are the old ones, and behind them what was major and then what was
minor. -/
theorem operations_dampen (ls : Levels) (level : Level) :
    ls.dampen.operations level =
      if level = .patch then ls.operations .patch ++
        (ls.operations .major ++ ls.operations .minor).map dampenOperation
      else if level = .none then ls.operations .none
      else [] := by
  have hcapped : ∀ l, ls.capped.operations l =
      if l = .major ∨ l = .minor then [] else ls.operations l := by
    intro l
    rw [operations, capped, KeyMap.find?_filterMap, operations]
    cases ls.find? l <;> split <;> rfl
  unfold dampen
  dsimp only
  split
  case isTrue hmoved =>
    rw [hcapped, List.isEmpty_iff.mp hmoved]
    cases level <;> simp
  case isFalse hmoved =>
    rw [operations_append, hcapped]
    cases level <;> simp

theorem filled_empty (context : Context) : Filled context ∅ := fun _ _ h => nomatch h

/-- Putting operations into their level leaves no level empty. -/
theorem Filled.append (h : ls.Filled context) (hne : ops ≠ [])
    (hops : ∀ op ∈ ops, op.context = context ∧ op.level = level) :
    (ls.append level ops).Filled context := by
  intro l held hfind
  simp only [Levels.append, KeyMap.find?_update] at hfind
  split at hfind
  case isFalse => exact h l held hfind
  case isTrue heq =>
    obtain rfl : l = level := Std.LawfulEqOrd.eq_of_compare heq
    obtain rfl := Option.some.inj hfind
    refine ⟨by simp [hne], fun op hop => ?_⟩
    rcases List.mem_append.mp hop with hop | hop
    · cases hknown : ls.find? l with
      | none => simp [hknown] at hop
      | some known => exact (h l known hknown).2 op (by simpa [hknown] using hop)
    · exact hops op hop

theorem append_ne_empty (ls : Levels) (level : Level) (ops : List Operation) :
    ls.append level ops ≠ ∅ :=
  KeyMap.ne_empty_iff.mpr ⟨level, _, by
    rw [Levels.append, KeyMap.find?_update, if_pos Std.ReflOrd.compare_self]⟩

/-- Levels that are filled are put together to such levels, and there are some if there were. -/
theorem Filled.appendAll (hls : ls.Filled context) (hms : ms.Filled context) (hne : ms ≠ ∅) :
    (ls.appendAll ms).Filled context ∧ ls.appendAll ms ≠ ∅ := by
  have hfold : ∀ (es : List (Level × List Operation)) (ls : Levels), ls.Filled context →
      (∀ e ∈ es, e.2 ≠ [] ∧ ∀ op ∈ e.2, op.context = context ∧ op.level = e.1) →
      (es ≠ [] ∨ ls ≠ ∅) →
      (es.foldl (fun ls e => ls.append e.1 e.2) ls).Filled context ∧
        es.foldl (fun ls e => ls.append e.1 e.2) ls ≠ ∅ := by
    intro es
    induction es with
    | nil => exact fun ls hls _ hsome => ⟨hls, hsome.resolve_left (absurd rfl)⟩
    | cons e es ih =>
      intro ls hls hes _
      obtain ⟨⟨hne, hops⟩, hrest⟩ := List.forall_mem_cons.mp hes
      exact ih _ (hls.append hne hops) hrest (.inr (append_ne_empty _ _ _))
  refine hfold ms.toList ls hls (fun e he => hms _ _ (KeyMap.find?_of_mem he)) (.inl fun hnil => ?_)
  obtain ⟨level, ops, hfind⟩ := KeyMap.ne_empty_iff.mp hne
  exact List.not_mem_nil (hnil ▸ ms.mem_toList_iff.mpr hfind)

/-- Dampening moves what is above a patch and leaves no level empty. -/
theorem Filled.dampen (h : ls.Filled context) (hne : ls ≠ ∅) :
    ls.dampen.Filled context ∧ ls.dampen ≠ ∅ := by
  have hcapped : ls.capped.Filled context := by
    intro l held hfind
    rw [capped, KeyMap.find?_filterMap, Option.bind_eq_some_iff] at hfind
    obtain ⟨ops, hops, hkept⟩ := hfind
    split at hkept
    · exact nomatch hkept
    · cases hkept
      exact h l held hops
  unfold Levels.dampen
  dsimp only
  split
  case isFalse hmoved =>
    refine ⟨hcapped.append (by simpa using hmoved) fun op hop => ?_, append_ne_empty _ _ _⟩
    obtain ⟨original, horiginal, rfl⟩ := List.mem_map.mp hop
    -- What is moved was major or minor before, in the same context.
    have hcontext : ∀ level, original ∈ ls.operations level → original.context = context := by
      intro level hin
      cases hfind : ls.find? level with
      | none => simp [operations, hfind] at hin
      | some ops => exact ((h level ops hfind).2 original (by simpa [operations, hfind] using hin)).1
    rcases List.mem_append.mp horiginal with hin | hin
    · exact ⟨hcontext _ hin, rfl⟩
    · exact ⟨hcontext _ hin, rfl⟩
  case isTrue hmoved =>
    -- If nothing is moved, there was no major and no minor level, so another one is left.
    refine ⟨hcapped, ?_⟩
    obtain ⟨level, ops, hfind⟩ := KeyMap.ne_empty_iff.mp hne
    have hnil : ls.operations .major = [] ∧ ls.operations .minor = [] := by simpa using hmoved
    have hother : ¬(level = .major ∨ level = .minor) := by
      rintro (rfl | rfl)
      · exact (h _ _ hfind).1 (by simpa [operations, hfind] using hnil.1)
      · exact (h _ _ hfind).1 (by simpa [operations, hfind] using hnil.2)
    refine KeyMap.ne_empty_iff.mpr ⟨level, ops, ?_⟩
    rw [capped, KeyMap.find?_filterMap, hfind, Option.bind_some, if_neg hother]

end Levels

/-! ## Tidy nested reports -/

namespace Nested

variable {n m : Nested}

/-- No context and no level of a context is empty, and every operation stands under its own context
and level. -/
def Tidy (n : Nested) : Prop :=
  ∀ context ls, n.contexts.find? context = some ls → ls ≠ ∅ ∧ ls.Filled context

theorem Tidy.filled_levelsIn (h : n.Tidy) (context : Context) :
    (n.levelsIn context).Filled context := by
  rw [levelsIn]
  cases hfind : n.contexts.find? context with
  | none => exact Levels.filled_empty context
  | some ls => exact (h context ls hfind).2

/-- The flat report of a tidy one has no empty cells. -/
theorem Tidy.proper_flatten (h : n.Tidy) : n.flatten.Proper := by
  rintro ⟨context, level⟩ ops hfind
  rw [find?_flatten] at hfind
  exact (h.filled_levelsIn context level ops hfind).1

/-- In a tidy report a context is there exactly if it has levels. -/
private theorem Tidy.find?_eq (h : n.Tidy) (context : Context) :
    n.contexts.find? context =
      if n.levelsIn context = ∅ then none else some (n.levelsIn context) := by
  rw [levelsIn]
  cases hfind : n.contexts.find? context with
  | none => simp
  | some ls => simp [(h context ls hfind).1]

/-- Tidy reports that are read off alike are equal. -/
theorem Tidy.eq_of_flatten_eq (hn : n.Tidy) (hm : m.Tidy) (h : n.flatten = m.flatten) : n = m := by
  have hlevels : ∀ context, n.levelsIn context = m.levelsIn context := by
    intro context
    refine KeyMap.ext_find? fun level => ?_
    rw [← find?_flatten, h, find?_flatten]
  have hcontexts : n.contexts = m.contexts :=
    KeyMap.ext_find? fun context => by rw [hn.find?_eq, hm.find?_eq, hlevels]
  cases n
  cases m
  exact congrArg Nested.mk hcontexts

/-! ## Filing and merging -/

theorem tidy_empty : empty.Tidy := fun _ _ h => nomatch h

/-- The levels of a context after those of one context have been changed. -/
private theorem levelsIn_update (contexts : KeyMap Context Levels) (context : Context)
    (f : Levels → Levels) (c : Context) :
    (Nested.mk (contexts.update context fun known => f (known.getD ∅))).levelsIn c =
      if c = context then f ((Nested.mk contexts).levelsIn c) else (Nested.mk contexts).levelsIn c := by
  rw [levelsIn, KeyMap.find?_update]
  by_cases hc : c = context
  · subst hc
    rw [if_pos Std.ReflOrd.compare_self, if_pos rfl]
    rfl
  · rw [if_neg fun heq => hc (Std.LawfulEqOrd.eq_of_compare heq), if_neg hc]
    rfl

/-- A tidy report stays tidy if the levels of one context are changed to tidy ones. -/
private theorem Tidy.update {contexts : KeyMap Context Levels} (h : Tidy ⟨contexts⟩)
    {context : Context} {f : Levels → Levels}
    (hf : ∀ ls : Levels, ls.Filled context → f ls ≠ ∅ ∧ (f ls).Filled context) :
    Tidy ⟨contexts.update context fun known => f (known.getD ∅)⟩ := by
  intro c ls hfind
  rw [KeyMap.find?_update] at hfind
  split at hfind
  case isTrue heq =>
    obtain rfl : c = context := Std.LawfulEqOrd.eq_of_compare heq
    obtain rfl := Option.some.inj hfind
    exact hf _ (h.filled_levelsIn c)
  case isFalse => exact h c ls hfind

theorem Tidy.add (h : n.Tidy) (op : Operation) : (n.add op).Tidy :=
  Tidy.update h fun ls hls =>
    ⟨ls.append_ne_empty _ _, hls.append (by simp) fun o ho => by
      rw [List.mem_singleton.mp ho]
      exact ⟨rfl, rfl⟩⟩

/-- Filing an operation in a nested report files it in the flat one. -/
theorem Tidy.flatten_add (h : n.Tidy) (op : Operation) : (n.add op).flatten = n.flatten.add op := by
  refine (h.add op).proper_flatten.ext_operations (h.proper_flatten.add op) fun context level => ?_
  rw [operations_flatten, operations, Nested.add,
    levelsIn_update n.contexts op.context fun ls => ls.append op.level [op], Report.add,
    operations_append, operations_flatten]
  by_cases hcontext : context = op.context
  · subst hcontext
    simp [Levels.operations_append, operations]
  · simp [hcontext, Ne.symm hcontext, operations]

theorem Tidy.addAll (h : n.Tidy) (ops : List Operation) :
    (n.addAll ops).Tidy ∧ (n.addAll ops).flatten = n.flatten.addAll ops := by
  induction ops generalizing n with
  | nil => exact ⟨h, rfl⟩
  | cons op ops ih =>
    obtain ⟨htidy, hflatten⟩ := ih (h.add op)
    refine ⟨htidy, hflatten.trans ?_⟩
    rw [h.flatten_add, Report.addAll, Report.addAll, List.foldl_cons]

/-- Putting in contexts one by one keeps a report tidy and adds to each context what comes for it. -/
private theorem Tidy.foldl_update {es : List (Context × Levels)}
    (hes : ∀ e ∈ es, e.2 ≠ ∅ ∧ e.2.Filled e.1) {contexts : KeyMap Context Levels}
    (h : Tidy ⟨contexts⟩) :
    let result : Nested := ⟨es.foldl
      (fun contexts e => contexts.update e.1 fun known => (known.getD ∅).appendAll e.2) contexts⟩
    result.Tidy ∧ ∀ context level, result.operations context level =
      (Nested.mk contexts).operations context level ++
        (es.filter (·.1 = context)).flatMap fun e => e.2.operations level := by
  induction es generalizing contexts with
  | nil => exact ⟨h, by simp⟩
  | cons e es ih =>
    obtain ⟨⟨hne, hfilled⟩, hrest⟩ := List.forall_mem_cons.mp hes
    have hstep : Tidy ⟨contexts.update e.1 fun known => (known.getD ∅).appendAll e.2⟩ :=
      h.update (f := fun ls => ls.appendAll e.2) fun ls hls =>
        (hls.appendAll hfilled hne).symm
    obtain ⟨htidy, hoperations⟩ := ih hrest hstep
    refine ⟨htidy, fun context level => (hoperations context level).trans ?_⟩
    rw [operations, levelsIn_update contexts e.1 fun ls => ls.appendAll e.2]
    by_cases hcontext : context = e.1
    · subst hcontext
      simp [Levels.operations_appendAll, operations]
    · simp [hcontext, Ne.symm hcontext, operations]

/-- Merging nested reports merges the flat ones. -/
theorem Tidy.merge (hn : n.Tidy) (hm : m.Tidy) :
    (n.merge m).Tidy ∧ (n.merge m).flatten = n.flatten.merge m.flatten := by
  have hes : ∀ e ∈ m.contexts.toList, e.2 ≠ ∅ ∧ e.2.Filled e.1 := fun e he =>
    hm _ _ (KeyMap.find?_of_mem he)
  obtain ⟨htidy, hoperations⟩ := Tidy.foldl_update hes hn
  refine ⟨htidy, htidy.proper_flatten.ext_operations (hn.proper_flatten.merge hm.proper_flatten)
    fun context level => ?_⟩
  rw [operations_flatten, operations_merge, operations_flatten, operations_flatten]
  refine (hoperations context level).trans (congrArg _ ?_)
  rw [KeyMap.filter_key_toList, operations, levelsIn]
  cases m.contexts.find? context with
  | none => rfl
  | some ls => simp

/-! ## Dampening and picking -/

/-- Dampening a nested report dampens the flat one. -/
theorem Tidy.dampen (h : n.Tidy) : n.dampen.Tidy ∧ n.dampen.flatten = n.flatten.dampen := by
  have htidy : n.dampen.Tidy := by
    intro context ls hfind
    rw [Nested.dampen, KeyMap.find?_filterMap, Option.bind_eq_some_iff] at hfind
    obtain ⟨held, hheld, hls⟩ := hfind
    cases hls
    obtain ⟨hne, hfilled⟩ := h context held hheld
    exact (hfilled.dampen hne).symm
  refine ⟨htidy, htidy.proper_flatten.ext_operations h.proper_flatten.dampen fun context level => ?_⟩
  rw [operations_flatten, operations, Nested.dampen, levelsIn, KeyMap.find?_filterMap,
    Report.operations_dampen]
  simp only [operations_flatten, operations, levelsIn]
  cases n.contexts.find? context with
  | none => cases level <;> rfl
  | some ls => exact Levels.operations_dampen ls level

/-- Picking the operations of a nested report picks those of the flat one. -/
theorem Tidy.deduplicate (n : Nested) :
    n.deduplicate.Tidy ∧ n.deduplicate.flatten = n.flatten.deduplicate := by
  obtain ⟨htidy, hflatten⟩ := tidy_empty.addAll (mostSevere n.toList n.toList [])
  refine ⟨htidy, hflatten.trans ?_⟩
  rw [Report.deduplicate, toList_flatten]
  rfl

end Nested

/-! ## Ways to make reports -/

/-- A way to make a report by the operations on reports. -/
inductive Recipe where
  | empty
  | add (p : Recipe) (op : Operation)
  | addAll (p : Recipe) (ops : List Operation)
  | merge (p q : Recipe)
  | dampen (p : Recipe)
  | deduplicate (p : Recipe)

namespace Recipe

/-- The report that is made. -/
def report : Recipe → Report
  | empty => .empty
  | add p op => p.report.add op
  | addAll p ops => p.report.addAll ops
  | merge p q => p.report.merge q.report
  | dampen p => p.report.dampen
  | deduplicate p => p.report.deduplicate

/-- The nested report that is made. -/
def nested : Recipe → Nested
  | empty => .empty
  | add p op => p.nested.add op
  | addAll p ops => p.nested.addAll ops
  | merge p q => p.nested.merge q.nested
  | dampen p => p.nested.dampen
  | deduplicate p => p.nested.deduplicate

/-- What is made in some way is a report that can be made. -/
theorem built (p : Recipe) : p.report.Built := by
  induction p with
  | empty => exact .empty
  | add p op ih => exact ih.add op
  | addAll p ops ih => exact ih.addAll ops
  | merge p q ihp ihq => exact ihp.merge ihq
  | dampen p ih => exact ih.dampen
  | deduplicate p ih => exact ih.deduplicate

/-- In both forms the same is made, and the nested one is tidy. -/
theorem nested_represents (p : Recipe) : p.nested.Tidy ∧ p.nested.flatten = p.report := by
  induction p with
  | empty => exact ⟨Nested.tidy_empty, rfl⟩
  | add p op ih => exact ⟨ih.1.add op, by rw [nested, ih.1.flatten_add, ih.2, report]⟩
  | addAll p ops ih =>
    obtain ⟨htidy, hflatten⟩ := ih.1.addAll ops
    exact ⟨htidy, by rw [nested, hflatten, ih.2, report]⟩
  | merge p q ihp ihq =>
    obtain ⟨htidy, hflatten⟩ := ihp.1.merge ihq.1
    exact ⟨htidy, by rw [nested, hflatten, ihp.2, ihq.2, report]⟩
  | dampen p ih =>
    obtain ⟨htidy, hflatten⟩ := ih.1.dampen
    exact ⟨htidy, by rw [nested, hflatten, ih.2, report]⟩
  | deduplicate p ih =>
    obtain ⟨htidy, hflatten⟩ := Nested.Tidy.deduplicate p.nested
    exact ⟨htidy, by rw [nested, hflatten, ih.2, report]⟩

end Recipe

end Report

end VersionBump
