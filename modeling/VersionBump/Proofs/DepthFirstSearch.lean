import VersionBump.Proofs.InheritanceSearch

/-!
# Depth-first search

The search for an inherited member keeps a list of pending names and takes one step after the other.
Told without that list it is a recursion: a name is looked up, its class-like is asked for an offer,
then the sources of the class-like are searched, and after them the names that follow. The keys that
have been met anywhere are handed on from one search to the next.

* `depthFirst` is the recursion. It ends because a class-like that is gone into takes its sources
  off those that are ahead.
* `SearchRun` is the stepwise search without a number of steps; a derivation of it is a search that
  comes to its end. `searchRun_searchPending`: given as many steps as it can take, every search does.
* `search` is the search with that number of steps, and `search_cons` its step.
* `search_append`: the pending names in front are searched as by the recursion.
* `inherited?_eq_depthFirst` is the statement.
-/

namespace VersionBump.Php

variable {α : Type} {r : Registry ClassLike} {offer : ClassLike → Option α}

/-! ## The recursion -/

/-- The end of a search that had met some keys: the first offer, if there is one, and the keys that
have been met by then. -/
structure SearchEnd (α : Type) (before : List String) where
  offer? : Option α
  met : List String
  grown : before ⊆ met

/-- The end of a search as that of one that had met less. -/
def SearchEnd.after {before before' : List String} (h : before ⊆ before')
    (e : SearchEnd α before') : SearchEnd α before :=
  ⟨e.offer?, e.met, List.Subset.trans h e.grown⟩

/-- Behind the first name there is less ahead of a search that has met more. -/
private theorem fewer_ahead_of_subset (r : Registry ClassLike) (name : String) (names : List String)
    {met met' : List String} (h : met ⊆ met') :
    names.length + unmetSources r met' < (name :: names).length + unmetSources r met := by
  have hle := unmetSources_le_of_subset r h
  rw [List.length_cons]
  omega

/-- Among the sources of a name that has not been met there is less ahead. -/
private theorem fewer_ahead_of_find {name : String} (names : List String) {c : ClassLike}
    {met : List String} (h : findClass? r name = some c) (hmet : Name.key name ∉ met) :
    c.sources.length + unmetSources r (Name.key name :: met) <
      (name :: names).length + unmetSources r met := by
  have hadd := unmetSources_cons_add h hmet
  rw [List.length_cons]
  omega

/-- Searches names one after the other, each with all that lies behind it, until there is an offer.
A name whose key has been met is skipped. -/
def depthFirst (r : Registry ClassLike) (offer : ClassLike → Option α) (names met : List String) :
    SearchEnd α met :=
  match names with
  | [] => ⟨none, met, List.Subset.refl met⟩
  | name :: names =>
    if _hmet : Name.key name ∈ met then depthFirst r offer names met
    else
      have hnew : met ⊆ Name.key name :: met := List.subset_cons_self _ met
      match _hfind : findClass? r name with
      | none => (depthFirst r offer names (Name.key name :: met)).after hnew
      | some source =>
        match offer source with
        | some found => ⟨some found, Name.key name :: met, hnew⟩
        | none =>
          -- What the sources have met is met for the names that follow.
          let inner := depthFirst r offer source.sources (Name.key name :: met)
          match inner.offer? with
          | some found => ⟨some found, inner.met, List.Subset.trans hnew inner.grown⟩
          | none => (depthFirst r offer names inner.met).after (List.Subset.trans hnew inner.grown)
termination_by names.length + unmetSources r met
decreasing_by
  · exact fewer_ahead_of_subset r name names (List.Subset.refl met)
  · exact fewer_ahead_of_subset r name names hnew
  · exact fewer_ahead_of_find names _hfind _hmet
  · exact fewer_ahead_of_subset r name names (List.Subset.trans hnew inner.grown)

/-! ## The stepwise search -/

/-- A stepwise search that comes to its end: to a hit, or to the last of the pending names. -/
inductive SearchRun (r : Registry ClassLike) (offer : ClassLike → Option α) :
    List String → List String → Option α → Prop
  /-- No name is pending any more. -/
  | finished (met : List String) : SearchRun r offer [] met none
  /-- A name whose key has been met is skipped. -/
  | skipped {name : String} {pending met : List String} {x : Option α}
      (hmet : Name.key name ∈ met) (rest : SearchRun r offer pending met x) :
      SearchRun r offer (name :: pending) met x
  /-- A name that is not declared has nothing to offer. -/
  | undeclared {name : String} {pending met : List String} {x : Option α}
      (hmet : Name.key name ∉ met) (hfind : findClass? r name = none)
      (rest : SearchRun r offer pending (Name.key name :: met) x) :
      SearchRun r offer (name :: pending) met x
  /-- An offer ends the search. -/
  | hit {name : String} {pending met : List String} {source : ClassLike} {found : α}
      (hmet : Name.key name ∉ met) (hfind : findClass? r name = some source)
      (hoffer : offer source = some found) : SearchRun r offer (name :: pending) met (some found)
  /-- A class-like without an offer puts its sources in front. -/
  | opened {name : String} {pending met : List String} {source : ClassLike} {x : Option α}
      (hmet : Name.key name ∉ met) (hfind : findClass? r name = some source)
      (hoffer : offer source = none)
      (rest : SearchRun r offer (source.sources ++ pending) (Name.key name :: met) x) :
      SearchRun r offer (name :: pending) met x

/-- A search has one end only. -/
theorem SearchRun.unique {pending met : List String} {x y : Option α}
    (hx : SearchRun r offer pending met x) (hy : SearchRun r offer pending met y) : x = y := by
  induction hx with
  | finished => cases hy; rfl
  | skipped hmet _ ih =>
    cases hy with
    | skipped _ rest => exact ih rest
    | undeclared hnot | hit hnot | opened hnot => exact absurd hmet hnot
  | undeclared hmet hfind _ ih =>
    cases hy with
    | skipped hin => exact absurd hin hmet
    | undeclared _ _ rest => exact ih rest
    | hit _ hfind' | opened _ hfind' => exact nomatch hfind.symm.trans hfind'
  | hit hmet hfind hoffer =>
    cases hy with
    | skipped hin => exact absurd hin hmet
    | undeclared _ hfind' => exact nomatch hfind.symm.trans hfind'
    | hit _ hfind' hoffer' =>
      cases hfind.symm.trans hfind'
      exact hoffer.symm.trans hoffer'
    | opened _ hfind' hoffer' =>
      cases hfind.symm.trans hfind'
      exact nomatch hoffer.symm.trans hoffer'
  | opened hmet hfind hoffer _ ih =>
    cases hy with
    | skipped hin => exact absurd hin hmet
    | undeclared _ hfind' => exact nomatch hfind.symm.trans hfind'
    | hit _ hfind' hoffer' =>
      cases hfind.symm.trans hfind'
      exact nomatch hoffer.symm.trans hoffer'
    | opened _ hfind' _ rest =>
      cases hfind.symm.trans hfind'
      exact ih rest

/-- With as many steps as it can take a search comes to its end. -/
theorem searchRun_searchPending {steps : Nat} {pending met : List String}
    (hsteps : pending.length + unmetSources r met < steps) :
    SearchRun r offer pending met (searchPending r offer steps pending met) := by
  induction steps generalizing pending met with
  | zero => omega
  | succ steps ih =>
    cases pending with
    | nil => exact .finished met
    | cons name pending =>
      rw [List.length_cons] at hsteps
      simp only [searchPending]
      split
      case isTrue hmet => exact .skipped hmet (ih (by omega))
      case isFalse hmet =>
        cases hfind : findClass? r name with
        | none =>
          have hle := unmetSources_le_of_subset r (List.subset_cons_self (Name.key name) met)
          exact .undeclared hmet hfind (ih (by omega))
        | some source =>
          cases hoffer : offer source with
          | some found =>
            simp only [hoffer]
            exact .hit hmet hfind hoffer
          | none =>
            -- The sources that are put in front were ahead before.
            have hadd := unmetSources_cons_add hfind hmet
            simp only [hoffer]
            exact .opened hmet hfind hoffer (ih (by rw [List.length_append]; omega))

/-- The stepwise search with as many steps as it can take. -/
def search (r : Registry ClassLike) (offer : ClassLike → Option α) (pending met : List String) :
    Option α :=
  searchPending r offer (pending.length + unmetSources r met + 1) pending met

/-- A search with enough steps is the search. -/
theorem searchPending_eq_search {steps : Nat} {pending met : List String}
    (hsteps : pending.length + unmetSources r met < steps) :
    searchPending r offer steps pending met = search r offer pending met :=
  (searchRun_searchPending hsteps).unique (searchRun_searchPending (Nat.lt_succ_self _))

theorem search_nil (met : List String) : search r offer [] met = none := rfl

/-- The step of the search. -/
theorem search_cons (name : String) (pending met : List String) :
    search r offer (name :: pending) met =
      if Name.key name ∈ met then search r offer pending met
      else
        match findClass? r name with
        | none => search r offer pending (Name.key name :: met)
        | some source =>
          (offer source).or
            (search r offer (source.sources ++ pending) (Name.key name :: met)) := by
  rw [search, List.length_cons, searchPending]
  split
  case isTrue => exact searchPending_eq_search (by omega)
  case isFalse hmet =>
    cases hfind : findClass? r name with
    | none =>
      have hle := unmetSources_le_of_subset r (List.subset_cons_self (Name.key name) met)
      exact searchPending_eq_search (by omega)
    | some source =>
      cases hoffer : offer source with
      | some found => simp only [hoffer, Option.some_or]
      | none =>
        have hadd := unmetSources_cons_add hfind hmet
        simp only [hoffer, Option.none_or]
        exact searchPending_eq_search (by rw [List.length_append]; omega)

/-! ## The statement -/

/-- The pending names in front are searched as by the recursion, which hands on what it has met. -/
theorem search_append (names pending met : List String) :
    search r offer (names ++ pending) met =
      (depthFirst r offer names met).offer?.or
        (search r offer pending (depthFirst r offer names met).met) := by
  fun_induction depthFirst r offer names met generalizing pending with
  | case1 met => rfl
  | case2 met name names hmet ih =>
    rw [List.cons_append, search_cons, if_pos hmet, ih]
  | case3 met name names hmet hnew hfind ih =>
    rw [List.cons_append, search_cons, if_neg hmet, hfind]
    exact ih pending
  | case4 met name names hmet hnew source hfind found hoffer =>
    rw [List.cons_append, search_cons, if_neg hmet, hfind]
    simp only [hoffer]
    rfl
  | case5 met name names hmet hnew source hfind hoffer inner found hinner ih =>
    rw [List.cons_append, search_cons, if_neg hmet, hfind]
    have hinside := ih (names ++ pending)
    -- The hit among the sources ends the search of the names behind them as well.
    rw [show (depthFirst r offer source.sources (Name.key name :: met)).offer? = some found from
      hinner, Option.some_or] at hinside
    simp only [hoffer, Option.none_or, Option.some_or, hinside]
  | case6 met name names hmet hnew source hfind hoffer inner hinner ih ihrest =>
    rw [List.cons_append, search_cons, if_neg hmet, hfind]
    have hinside := ih (names ++ pending)
    rw [show (depthFirst r offer source.sources (Name.key name :: met)).offer? = none from hinner,
      Option.none_or] at hinside
    simp only [hoffer, Option.none_or, hinside]
    exact ihrest pending

/-- What a class-like inherits is what the recursion finds that goes through its parents and then its
traits. The search comes to its end with it, and with nothing else, and more steps than the search is
given would change nothing. Something is inherited exactly if a class-like that can be reached from
the parents and traits has an offer. -/
theorem inherited?_eq_depthFirst (r : Registry ClassLike) (c : ClassLike)
    (offer : ClassLike → Option α) :
    inherited? r c offer = (depthFirst r offer (c.parents ++ c.traits) []).offer? ∧
    (∀ x, SearchRun r offer c.sources [] x ↔ x = inherited? r c offer) ∧
    (∀ more, searchPending r offer (c.sources.length + sourceCount r + 1 + more) c.sources [] =
      inherited? r c offer) ∧
    ((inherited? r c offer).isSome ↔
      ∃ source ∈ c.parents ++ c.traits, ∃ d, Reaches r source d ∧ (offer d).isSome) := by
  have henough : ∀ more, c.sources.length + unmetSources r [] <
      c.sources.length + sourceCount r + 1 + more := by
    intro more
    rw [unmetSources_nil]
    omega
  have hinherited : inherited? r c offer = search r offer c.sources [] :=
    searchPending_eq_search (henough 0)
  have hrun : SearchRun r offer c.sources [] (inherited? r c offer) :=
    searchRun_searchPending (henough 0)
  refine ⟨?_, fun x => ⟨fun hx => hx.unique hrun, fun hx => hx ▸ hrun⟩,
    fun more => (searchPending_eq_search (henough more)).trans hinherited.symm,
    isSome_inherited?_iff⟩
  calc inherited? r c offer
      = search r offer (c.sources ++ []) [] := by rw [hinherited, List.append_nil]
    _ = (depthFirst r offer c.sources []).offer? := by
      rw [search_append, search_nil, Option.or_none]

end VersionBump.Php
