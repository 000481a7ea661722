import Mathlib.Data.List.Basic
import Mathlib.Data.List.Flatten
import VersionBump.Php.Inheritance
import VersionBump.Proofs.KeyMapEntries

/-!
# Searching the sources of a class-like

The search for an inherited member finds one exactly if a class-like that can be reached from the
sources has one to offer. It stops because every declaration puts its sources in front of the
pending names at most once, so the steps that it is given are enough, whatever cycles there are.

* `Reaches` is the relation that the search explores.
* A search without a hit leaves a set of names behind that no source leads out of, with no offer
  among them.
* `isSome_inherited?_iff` is the statement.
-/

namespace VersionBump.Php

/-- A class-like that can be reached from a name, through the sources of those on the way. -/
inductive Reaches (r : Registry ClassLike) : String → ClassLike → Prop
  | found {name : String} {c : ClassLike} (h : findClass? r name = some c) : Reaches r name c
  | source {name source : String} {c d : ClassLike} (h : findClass? r name = some c)
      (hs : source ∈ c.sources) (hd : Reaches r source d) : Reaches r name d

/-! ## Names -/

/-- Names of one key find the same class-like. -/
theorem findClass?_congr (r : Registry ClassLike) {a b : String} (h : Name.key a = Name.key b) :
    findClass? r a = findClass? r b := by
  simp only [findClass?, h]

/-- A class-like that is found stands in the registry under the key of the name. -/
theorem exists_find?_of_findClass? {r : Registry ClassLike} {name : String} {c : ClassLike}
    (h : findClass? r name = some c) :
    ∃ kind : ClassKind, ∃ e, r.find? kind.context (Name.key name) = some e ∧ e.value = c := by
  obtain ⟨kind, -, hkind⟩ := List.exists_of_findSome?_eq_some h
  obtain ⟨e, he, hvalue⟩ := Option.map_eq_some_iff.mp hkind
  exact ⟨kind, e, he, hvalue⟩

/-! ## Steps -/

/-- The number of sources of the declarations under names that have not been met. -/
def unmetSources (r : Registry ClassLike) (met : List String) : Nat :=
  ((r.toList.filter fun e => e.1.name ∉ met).flatMap fun e => e.2.value.sources).length

/-- Before the search all sources are ahead. -/
theorem unmetSources_nil (r : Registry ClassLike) : unmetSources r [] = sourceCount r := by
  have hall : r.toList.filter (fun e => e.1.name ∉ []) = r.toList :=
    List.filter_eq_self.mpr fun _ _ => by simp
  have hvalues : r.values = r.toList.map fun e => e.2.value := by
    simp [Registry.values, Registry.toList, KeyMap.values, KeyMap.toList]
  rw [unmetSources, hall, sourceCount, hvalues, List.flatMap_map]

/-- Of a list that is filtered more strictly an element that falls out takes its share along. -/
private theorem length_flatMap_filter_add {α β : Type} {l : List α} {p q : α → Bool}
    {g : α → List β} (hpq : ∀ x, q x = true → p x = true) {x : α} (hx : x ∈ l) (hp : p x = true)
    (hq : q x = false) :
    ((l.filter q).flatMap g).length + (g x).length ≤ ((l.filter p).flatMap g).length := by
  induction l with
  | nil => exact absurd hx List.not_mem_nil
  | cons y l ih =>
    have hmono : ((l.filter q).flatMap g).length ≤ ((l.filter p).flatMap g).length :=
      ((List.monotone_filter_right l hpq).flatMap g).length_le
    rcases List.mem_cons.mp hx with rfl | hx
    · rw [List.filter_cons_of_pos hp, List.filter_cons_of_neg (by simp [hq]), List.flatMap_cons,
        List.length_append]
      omega
    · have hrest := ih hx
      cases hqy : q y with
      | true =>
        rw [List.filter_cons_of_pos hqy, List.filter_cons_of_pos (hpq y hqy), List.flatMap_cons,
          List.flatMap_cons, List.length_append, List.length_append]
        omega
      | false =>
        rw [List.filter_cons_of_neg (p := q) (by simp [hqy])]
        cases hpy : p y with
        | true =>
          rw [List.filter_cons_of_pos hpy, List.flatMap_cons, List.length_append]
          omega
        | false =>
          rw [List.filter_cons_of_neg (p := p) (by simp [hpy])]
          exact hrest

/-- Meeting more names does not put sources ahead. -/
theorem unmetSources_le_of_subset (r : Registry ClassLike) {met met' : List String}
    (h : met ⊆ met') : unmetSources r met' ≤ unmetSources r met := by
  have hsub : ∀ e : Registry.Key × Located ClassLike,
      decide (e.1.name ∉ met') = true → decide (e.1.name ∉ met) = true := by
    intro e he
    rw [decide_eq_true_eq] at he ⊢
    exact fun hmet => he (h hmet)
  exact ((List.monotone_filter_right _ hsub).flatMap _).length_le

/-- Meeting a name takes the sources of its declaration off those ahead. -/
theorem unmetSources_cons_add {r : Registry ClassLike} {name : String} {c : ClassLike}
    {met : List String} (h : findClass? r name = some c) (hmet : Name.key name ∉ met) :
    unmetSources r (Name.key name :: met) + c.sources.length ≤ unmetSources r met := by
  obtain ⟨kind, e, he, rfl⟩ := exists_find?_of_findClass? h
  have hmem : ((⟨kind.context, Name.key name⟩ : Registry.Key), e) ∈ r.toList :=
    r.entries.mem_toList_iff.mpr he
  refine length_flatMap_filter_add (fun x hx => ?_) hmem ?_ ?_
  · rw [decide_eq_true_eq] at hx ⊢
    exact fun h => hx (List.mem_cons_of_mem _ h)
  · simpa using hmet
  · simp

/-! ## The search -/

variable {α : Type} {r : Registry ClassLike} {offer : ClassLike → Option α}

/-- What a search finds is the offer of a class-like that can be reached from a pending name. -/
theorem exists_reaches_of_searchPending {x : α} {steps : Nat} :
    ∀ {pending met : List String}, searchPending r offer steps pending met = some x →
      ∃ name ∈ pending, ∃ c, Reaches r name c ∧ offer c = some x := by
  induction steps with
  | zero => exact fun h => nomatch h
  | succ steps ih =>
    intro pending met h
    cases pending with
    | nil => exact nomatch h
    | cons name pending =>
      -- What is reached from the names behind the first is reached from the whole list.
      have hlater : (∃ n ∈ pending, ∃ c, Reaches r n c ∧ offer c = some x) →
          ∃ n ∈ name :: pending, ∃ c, Reaches r n c ∧ offer c = some x := by
        rintro ⟨n, hn, hc⟩
        exact ⟨n, List.mem_cons_of_mem name hn, hc⟩
      simp only [searchPending] at h
      split at h
      · exact hlater (ih h)
      · cases hfind : findClass? r name with
        | none =>
          rw [hfind] at h
          exact hlater (ih h)
        | some source =>
          rw [hfind] at h
          cases hoffer : offer source with
          | some found =>
            simp only [hoffer, Option.some.injEq] at h
            subst h
            exact ⟨name, List.mem_cons_self, source, .found hfind, hoffer⟩
          | none =>
            simp only [hoffer] at h
            obtain ⟨n, hn, c, hc, hx⟩ := ih h
            rcases List.mem_append.mp hn with hn | hn
            · exact ⟨name, List.mem_cons_self, c, .source hfind hn hc, hx⟩
            · exact hlater ⟨n, hn, c, hc, hx⟩

/-- A set of names that no source leads out of, with no offer among the names that `met` lacks. -/
private structure Exhausted (r : Registry ClassLike) (offer : ClassLike → Option α)
    (met closed : List String) : Prop where
  no_offer : ∀ name c, Name.key name ∈ closed → Name.key name ∉ met →
    findClass? r name = some c → offer c = none
  sources_mem : ∀ name c, Name.key name ∈ closed → Name.key name ∉ met →
    findClass? r name = some c → ∀ source ∈ c.sources, Name.key source ∈ closed

/-- A name that has no offer and whose sources are in the set need not have been met. -/
private theorem Exhausted.of_cons {name : String} {met closed : List String}
    (h : Exhausted r offer (Name.key name :: met) closed)
    (hname : ∀ c, findClass? r name = some c →
      offer c = none ∧ ∀ source ∈ c.sources, Name.key source ∈ closed) :
    Exhausted r offer met closed := by
  have hall : ∀ n c, Name.key n ∈ closed → Name.key n ∉ met → findClass? r n = some c →
      offer c = none ∧ ∀ source ∈ c.sources, Name.key source ∈ closed := by
    intro n c hin hout hn
    by_cases hkey : Name.key n = Name.key name
    · exact hname c (findClass?_congr r hkey ▸ hn)
    · have hout : Name.key n ∉ Name.key name :: met := by simp [hkey, hout]
      exact ⟨h.no_offer n c hin hout hn, h.sources_mem n c hin hout hn⟩
  exact ⟨fun n c hin hout hn => (hall n c hin hout hn).1,
    fun n c hin hout hn => (hall n c hin hout hn).2⟩

/-- A search that finds nothing within enough steps has exhausted all names that can be met. -/
private theorem exists_exhausted {steps : Nat} :
    ∀ {pending met : List String}, searchPending r offer steps pending met = none →
      pending.length + unmetSources r met < steps →
      ∃ closed, (∀ name ∈ pending, Name.key name ∈ closed) ∧ (∀ key ∈ met, key ∈ closed) ∧
        Exhausted r offer met closed := by
  -- Each step takes a name off the pending ones; what it puts in front comes off the unmet sources.
  induction steps with
  | zero => exact fun _ h => absurd h (Nat.not_lt_zero _)
  | succ steps ih =>
    intro pending met h hsteps
    cases pending with
    | nil =>
      exact ⟨met, fun _ hn => absurd hn List.not_mem_nil, fun _ hk => hk,
        fun _ _ hin hout => absurd hin hout, fun _ _ hin hout => absurd hin hout⟩
    | cons name pending =>
      rw [List.length_cons] at hsteps
      simp only [searchPending] at h
      split at h
      case isTrue hmet =>
        obtain ⟨closed, hpending, hsub, hclosed⟩ := ih h (by omega)
        refine ⟨closed, fun n hn => ?_, hsub, hclosed⟩
        rcases List.mem_cons.mp hn with rfl | hn
        · exact hsub _ hmet
        · exact hpending n hn
      case isFalse hmet =>
        cases hfind : findClass? r name with
        | none =>
          rw [hfind] at h
          have hle := unmetSources_le_of_subset r (List.subset_cons_self (Name.key name) met)
          obtain ⟨closed, hpending, hsub, hclosed⟩ := ih h (by omega)
          refine ⟨closed, fun n hn => ?_, fun k hk => hsub k (List.mem_cons_of_mem _ hk),
            hclosed.of_cons fun c hc => ?_⟩
          · rcases List.mem_cons.mp hn with rfl | hn
            · exact hsub _ List.mem_cons_self
            · exact hpending n hn
          · rw [hfind] at hc
            exact nomatch hc
        | some source =>
          rw [hfind] at h
          cases hoffer : offer source with
          | some found => simp [hoffer] at h
          | none =>
            simp only [hoffer] at h
            have hadd := unmetSources_cons_add hfind hmet
            obtain ⟨closed, hpending, hsub, hclosed⟩ :=
              ih h (by rw [List.length_append]; omega)
            refine ⟨closed, fun n hn => ?_, fun k hk => hsub k (List.mem_cons_of_mem _ hk),
              hclosed.of_cons fun c hc => ?_⟩
            · rcases List.mem_cons.mp hn with rfl | hn
              · exact hsub _ List.mem_cons_self
              · exact hpending n (List.mem_append_right _ hn)
            · rw [hfind] at hc
              cases hc
              exact ⟨hoffer, fun s hs => hpending s (List.mem_append_left _ hs)⟩

/-- No name of an exhausted set leads to an offer. -/
private theorem Exhausted.eq_none {closed : List String} (h : Exhausted r offer [] closed)
    {name : String} {c : ClassLike} (hc : Reaches r name c) (hin : Name.key name ∈ closed) :
    offer c = none := by
  -- The set is not left on the way, so it holds the end of it too.
  induction hc with
  | found hfind => exact h.no_offer _ _ hin List.not_mem_nil hfind
  | source hfind hs _ ih => exact ih (h.sources_mem _ _ hin List.not_mem_nil hfind _ hs)

/-- Something is inherited exactly if a class-like that can be reached from the sources offers
something. -/
theorem isSome_inherited?_iff {c : ClassLike} :
    (inherited? r c offer).isSome ↔
      ∃ source ∈ c.sources, ∃ d, Reaches r source d ∧ (offer d).isSome := by
  unfold inherited?
  constructor
  · intro h
    obtain ⟨x, hx⟩ := Option.isSome_iff_exists.mp h
    obtain ⟨source, hs, d, hd, hoffer⟩ := exists_reaches_of_searchPending hx
    exact ⟨source, hs, d, hd, Option.isSome_iff_exists.mpr ⟨x, hoffer⟩⟩
  · rintro ⟨source, hs, d, hd, hoffer⟩
    have hsteps : c.sources.length + unmetSources r [] < c.sources.length + sourceCount r + 1 := by
      rw [unmetSources_nil]
      omega
    cases h : searchPending r offer (c.sources.length + sourceCount r + 1) c.sources [] with
    | some x => rfl
    | none =>
      obtain ⟨closed, hpending, -, hclosed⟩ := exists_exhausted h hsteps
      rw [hclosed.eq_none hd (hpending source hs)] at hoffer
      exact nomatch hoffer

end VersionBump.Php
