import VersionBump.Family

/-!
# Families of files

The name of a file tells its family: no two families take files of one name, since of a name of its
own and of an ending none ends like another. So the order in which families are tried does not
matter, and neither does how a list of names selects them: what counts is which families it names.

* `Family.eq_of_accepts` says that a file belongs to one family.
* `Family.find?_eq_some_iff` says which family is found among the selected ones.
* `Family.NamedBy` are the families that a list of names names, by any alias and in any case, and
  `Family.mem_select_iff` says what such a list selects.
* `Family.found_by_named` is the statement: the family that is found depends on the file and on the
  families that are named.
-/

namespace VersionBump.Family

/-! ## The family of a file -/

/-- How the names of the files of a family end. -/
def ending : Family → String
  | php => ".php.json"
  | database => "db_schema.json"
  | di => "di.json"
  | xsd => ".xsd.json"
  | settings => "system.json"
  | less => ".less.json"

/-- The name of a file of a family ends like that, also where it is a name of its own. -/
theorem ending_suffix_of_accepts {f : Family} {path : Path} (h : f.accepts path = true) :
    f.ending.toList <:+ (path.fileName?.getD "").toList := by
  cases f <;>
    simp only [accepts, Text.endsWith, List.isSuffixOf_iff_suffix, beq_iff_eq] at h <;>
    first
      | exact h
      | exact h ▸ List.suffix_refl _

/-- No ending ends like another one. -/
private theorem eq_of_ending_suffix {f g : Family} (h : f.ending.toList <:+ g.ending.toList) :
    f = g := by
  cases f <;> cases g <;> first | rfl | exact absurd h (by decide)

/-- A file belongs to one family. -/
theorem eq_of_accepts {f g : Family} {path : Path} (hf : f.accepts path = true)
    (hg : g.accepts path = true) : f = g := by
  have hends := ending_suffix_of_accepts hf
  have hends' := ending_suffix_of_accepts hg
  -- Of two ends of one name the shorter is an end of the longer.
  rcases List.suffix_or_suffix_of_suffix hends hends' with h | h
  · exact eq_of_ending_suffix h
  · exact (eq_of_ending_suffix h).symm

theorem mem_all (f : Family) : f ∈ all := by
  cases f <;> decide

/-- A file belongs to the family that is found for it. -/
theorem accepts_of_find? {selected : List Family} {path : Path} {f : Family}
    (h : find? selected path = some f) : f.accepts path = true :=
  (List.find?_eq_some_iff_append.mp h).1

/-- The family that is found is the selected one that the file belongs to, wherever it stands. -/
theorem find?_eq_some_iff {selected : List Family} {path : Path} {f : Family} :
    find? selected path = some f ↔ f ∈ selected ∧ f.accepts path = true := by
  refine ⟨fun h => ⟨List.mem_of_find?_eq_some h, accepts_of_find? h⟩, fun ⟨hmem, hf⟩ => ?_⟩
  -- Whichever selected family comes first, it is the only one that accepts the path.
  cases hfind : find? selected path with
  | none => exact absurd hf (List.find?_eq_none.mp hfind f hmem)
  | some g => rw [eq_of_accepts (accepts_of_find? hfind) hf]

/-- Among selected families a file has its family if that is selected, and else none, whatever the
order of the selection. -/
theorem find?_eq_filter (selected : List Family) (path : Path) :
    find? selected path = (find? all path).filter (· ∈ selected) := by
  ext f
  simp only [Option.filter_eq_some_iff, find?_eq_some_iff, decide_eq_true_eq, f.mem_all,
    true_and, and_comm]

/-! ## Families by name -/

/-- The names of a family, in lower case. -/
def aliases : Family → List String
  | php => ["php"]
  | database => ["database", "db", "db_schema"]
  | di => ["di"]
  | xsd => ["xsd"]
  | settings => ["system"]
  | less => ["less"]

/-- A name is a name of a family in any case. -/
theorem ofName?_eq_some_iff {name : String} {f : Family} :
    ofName? name = some f ↔ Text.toLower name ∈ f.aliases := by
  unfold ofName?
  split <;> cases f <;> simp_all [aliases]

/-- The families that a list of names names. Names that are not known name none. -/
def NamedBy (names : List String) (f : Family) : Prop :=
  ∃ name ∈ names, Text.toLower name ∈ f.aliases

instance (names : List String) (f : Family) : Decidable (f.NamedBy names) :=
  inferInstanceAs (Decidable (∃ name ∈ names, Text.toLower name ∈ f.aliases))

theorem namedBy_iff {names : List String} {f : Family} :
    f.NamedBy names ↔ ∃ name ∈ names, ofName? name = some f := by
  simp only [NamedBy, ofName?_eq_some_iff]

/-- A list names no family if none of its names is known. -/
theorem forall_not_namedBy_iff {names : List String} :
    (∀ f : Family, ¬ f.NamedBy names) ↔ ∀ name ∈ names, ofName? name = none := by
  simp only [namedBy_iff, not_exists, not_and, Option.eq_none_iff_forall_ne_some]
  exact ⟨fun h name hname f => h f name hname, fun h f name hname => h name hname f⟩

/-- A list selects the families that it names, and all families if it names none. -/
theorem mem_select_iff {names : List String} {f : Family} :
    f ∈ select names ↔ f.NamedBy names ∨ ∀ g : Family, ¬ g.NamedBy names := by
  have hknown : ∀ g : Family, g ∈ names.filterMap ofName? ↔ g.NamedBy names := fun g => by
    rw [List.mem_filterMap, namedBy_iff]
  unfold select
  split
  case h_1 hnone =>
    rw [hnone] at hknown
    exact iff_of_true f.mem_all (.inr fun g hg => List.not_mem_nil ((hknown g).mpr hg))
  case h_2 hsome =>
    -- Some family is named, so it is not the case that none is.
    obtain ⟨g, hg⟩ := List.exists_mem_of_ne_nil _ hsome
    rw [hknown, or_iff_left fun hnone => hnone g ((hknown g).mp hg)]

/-- At most one family takes a file. So two lists of names that name the same families find the same
family for every file, whatever their order, spelling and repetition and whichever unknown names
they have: it is the family that takes the file, if that family is named or no known family is. -/
theorem found_by_named :
    (∀ (path : Path) (f g : Family), f.accepts path = true → g.accepts path = true → f = g) ∧
      (∀ names names' : List String, (∀ f : Family, f.NamedBy names ↔ f.NamedBy names') →
        ∀ path, find? (select names) path = find? (select names') path) ∧
      ∀ (names : List String) (path : Path),
        (∀ f, find? (select names) path = some f ↔
          f.accepts path = true ∧ (f.NamedBy names ∨ ∀ g : Family, ¬ g.NamedBy names)) ∧
        (find? (select names) path = none ↔ ∀ f : Family, f.accepts path = true →
          ¬ f.NamedBy names ∧ ∃ g : Family, g.NamedBy names) := by
  have hfound : ∀ (names : List String) (path : Path) (f : Family),
      find? (select names) path = some f ↔
        f.accepts path = true ∧ (f.NamedBy names ∨ ∀ g : Family, ¬ g.NamedBy names) :=
    fun names path f => by rw [find?_eq_some_iff, mem_select_iff, and_comm]
  refine ⟨fun path f g => eq_of_accepts, fun names names' hnames path => ?_, fun names path =>
    ⟨hfound names path, ?_⟩⟩
  · ext f
    simp only [hfound, hnames]
  · rw [Option.eq_none_iff_forall_ne_some]
    refine forall_congr' fun f => ?_
    rw [Ne, hfound, not_and, not_or, Classical.not_forall_not]

/-- The stylesheets and the schemas, once more and once less, by alias and in capitals, with a name
that is not known; and a list of names that are not known, beside no list at all. -/
theorem found_by_named_aliases :
    (∀ f : Family,
        f.NamedBy ["LESS", "Db_Schema", "cobol", "less"] ↔ f.NamedBy ["database", "less"]) ∧
      (database.accepts ⟨"etc/db_schema.json"⟩ = true ∧ database.NamedBy ["database", "less"]) ∧
      find? (select ["LESS", "Db_Schema", "cobol", "less"]) ⟨"etc/db_schema.json"⟩ = some database ∧
      find? (select ["database", "less"]) ⟨"etc/db_schema.json"⟩ = some database ∧
      (∀ f : Family, f.NamedBy ["cobol"] ↔ f.NamedBy []) ∧
      find? (select ["cobol"]) ⟨"etc/db_schema.json"⟩ =
        find? (select []) ⟨"etc/db_schema.json"⟩ := by
  have hsame : ∀ f : Family,
      f.NamedBy ["LESS", "Db_Schema", "cobol", "less"] ↔ f.NamedBy ["database", "less"] := by
    intro f
    cases f <;> decide +kernel
  have hnone : ∀ f : Family, f.NamedBy ["cobol"] ↔ f.NamedBy [] := by
    intro f
    cases f <;> decide +kernel
  have haccepts : database.accepts ⟨"etc/db_schema.json"⟩ = true := by decide +kernel
  have hnamed : database.NamedBy ["database", "less"] := by decide +kernel
  obtain ⟨-, hsameFound, hfound⟩ := found_by_named
  have hdatabase := ((hfound ["database", "less"] ⟨"etc/db_schema.json"⟩).1 database).mpr
    ⟨haccepts, .inl hnamed⟩
  exact ⟨hsame, ⟨haccepts, hnamed⟩, (hsameFound _ _ hsame _).trans hdatabase, hdatabase, hnone,
    hsameFound _ _ hnone _⟩

end VersionBump.Family
