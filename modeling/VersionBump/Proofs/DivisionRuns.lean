import VersionBump.Proofs.DivisionContents

/-!
# Runs of rules

A division runs one rule for every published key. The list of these runs, each with its key, says
what a division does, whether it succeeds or not.

* `Findings.collect_append` and `Findings.collect_flatMap` put collections together.
* `Division.runs` lists the runs, and `Division.apply_eq_collect` says that they are all there is.
* `Views.nodup_runs`: no key has two of them.
-/

namespace VersionBump

variable {α β ε : Type}

namespace Findings

theorem append_assoc (a b c : Findings) : a ++ b ++ c = a ++ (b ++ c) :=
  congrArg₂ Findings.mk (List.append_assoc _ _ _) (List.append_assoc _ _ _)

/-- Lists are collected one after the other. -/
theorem collect_append (f : α → Except ε Findings) (xs ys : List α) :
    collect f (xs ++ ys) = (do return (← collect f xs) ++ (← collect f ys)) := by
  -- The first complaint of the first list is that of both, so the two sides fail alike.
  induction xs with
  | nil =>
    show collect f ys = (collect f ys >>= fun found => .ok found)
    cases collect f ys <;> rfl
  | cons x xs ih =>
    rw [List.cons_append, collect, collect, ih]
    cases f x with
    | error e => rfl
    | ok first =>
      cases collect f xs with
      | error e => rfl
      | ok others =>
        cases collect f ys with
        | error e => rfl
        | ok rest => exact congrArg Except.ok (append_assoc first others rest).symm

/-- A single element is collected as it is. -/
theorem collect_singleton (f : α → Except ε Findings) (x : α) : collect f [x] = f x := by
  rw [collect]
  cases f x with
  | error e => rfl
  | ok first => exact congrArg Except.ok (append_empty first)

/-- Elements that lead to the same are collected alike. -/
theorem collect_congr {f g : α → Except ε Findings} {xs : List α} (h : ∀ x ∈ xs, f x = g x) :
    collect f xs = collect g xs := by
  induction xs with
  | nil => rfl
  | cons x xs ih =>
    rw [collect, collect, h x List.mem_cons_self, ih fun y hy => h y (List.mem_cons_of_mem x hy)]

theorem collect_map (f : β → Except ε Findings) (g : α → β) (xs : List α) :
    collect f (xs.map g) = collect (fun x => f (g x)) xs := by
  induction xs with
  | nil => rfl
  | cons x xs ih => rw [List.map_cons, collect, collect, ih]

/-- Lists of elements are collected list by list. -/
theorem collect_flatMap (f : β → Except ε Findings) (g : α → List β) (xs : List α) :
    collect f (xs.flatMap g) = collect (fun x => collect f (g x)) xs := by
  induction xs with
  | nil => rfl
  | cons x xs ih =>
    rw [List.flatMap_cons, collect_append, ih, collect]

end Findings

/-! ## Runs -/

/-- A run of a rule for a key. -/
abbrev Run (ε : Type) := String × Except ε Findings

/-- The runs of the rules of a division, in order. -/
def Division.runs (d : Division α) (rules : DivisionRules α ε) : List (Run ε) :=
  d.fullyAdded.map (fun e => (e.1, rules.added e.1 e.2)) ++
    d.fullyRemoved.map (fun e => (e.1, rules.removed e.1 e.2)) ++
    d.membershipAdded.map (fun e => (e.1, rules.membershipAdded e.1 e.2.1 e.2.2)) ++
    d.membershipRemoved.map (fun e => (e.1, rules.membershipRemoved e.1 e.2.1 e.2.2)) ++
    d.toVerify.map (fun e => (e.1, rules.changed e.1 e.2.1 e.2.2))

/-- A division collects what its runs lead to. -/
theorem Division.apply_eq_collect (d : Division α) (rules : DivisionRules α ε) :
    d.apply rules = Findings.collect (·.2) (d.runs rules) := by
  simp only [runs, Findings.collect_append, Findings.collect_map, apply, bind_assoc, pure_bind]

namespace Views

variable {v : Views α} {key : String}

/-- The number of the class in which a key stands, by what the views hold under it. -/
private def classNumber (v : Views α) (key : String) : Nat :=
  match v.publishedBefore.find? key, v.publishedAfter.find? key with
  | none, some _ => if (v.allBefore.find? key).isNone then 0 else 2
  | some _, none => if (v.allAfter.find? key).isNone then 1 else 3
  | _, _ => 4

private theorem classNumber_fullyAdded (h : key ∈ v.divide.fullyAdded.map (·.1)) :
    v.classNumber key = 0 := by
  obtain ⟨e, he, rfl⟩ := List.mem_map.mp h
  obtain ⟨hafter, hbefore, hall⟩ := v.mem_fullyAdded.mp he
  simp [classNumber, hafter, hbefore, hall]

private theorem classNumber_fullyRemoved (h : key ∈ v.divide.fullyRemoved.map (·.1)) :
    v.classNumber key = 1 := by
  obtain ⟨e, he, rfl⟩ := List.mem_map.mp h
  obtain ⟨hbefore, hafter, hall⟩ := v.mem_fullyRemoved.mp he
  simp [classNumber, hafter, hbefore, hall]

private theorem classNumber_membershipAdded (h : key ∈ v.divide.membershipAdded.map (·.1)) :
    v.classNumber key = 2 := by
  obtain ⟨⟨key, b, a⟩, he, rfl⟩ := List.mem_map.mp h
  obtain ⟨hafter, hbefore, hall⟩ := v.mem_membershipAdded.mp he
  simp [classNumber, hafter, hbefore, hall]

private theorem classNumber_membershipRemoved
    (h : key ∈ v.divide.membershipRemoved.map (·.1)) : v.classNumber key = 3 := by
  obtain ⟨⟨key, b, a⟩, he, rfl⟩ := List.mem_map.mp h
  obtain ⟨hbefore, hafter, hall⟩ := v.mem_membershipRemoved.mp he
  simp [classNumber, hafter, hbefore, hall]

private theorem classNumber_toVerify (h : key ∈ v.divide.toVerify.map (·.1)) :
    v.classNumber key = 4 := by
  obtain ⟨⟨key, b, a⟩, he, rfl⟩ := List.mem_map.mp h
  obtain ⟨hbefore, hafter⟩ := v.mem_toVerify.mp he
  simp [classNumber, hafter, hbefore]

/-- A list of distinct keys of one class may be put behind one of distinct keys of lower classes. -/
private theorem nodup_append_class {xs ys : List String} {n : Nat}
    (hxs : xs.Nodup ∧ ∀ key ∈ xs, v.classNumber key < n) (hys : ys.Nodup)
    (hclass : ∀ key ∈ ys, v.classNumber key = n) :
    (xs ++ ys).Nodup ∧ ∀ key ∈ xs ++ ys, v.classNumber key < n + 1 := by
  refine ⟨List.nodup_append'.mpr ⟨hxs.1, hys, fun key hx hy => ?_⟩, fun key hkey => ?_⟩
  · exact absurd (hclass key hy) (Nat.ne_of_lt (hxs.2 key hx))
  · rcases List.mem_append.mp hkey with hx | hy
    · exact Nat.lt_succ_of_lt (hxs.2 key hx)
    · exact (hclass key hy).symm ▸ Nat.lt_succ_self n

/-- No key has two runs. -/
theorem nodup_runs (v : Views α) (rules : DivisionRules α ε) :
    ((v.divide.runs rules).map (·.1)).Nodup := by
  have hadded : (v.divide.fullyAdded.map (·.1)).Nodup :=
    v.publishedAfter.nodup_keys.sublist (List.filter_sublist.map _)
  have hremoved : (v.divide.fullyRemoved.map (·.1)).Nodup :=
    v.publishedBefore.nodup_keys.sublist (List.filter_sublist.map _)
  -- The classes exclude each other.
  have hzero : (v.divide.fullyAdded.map (·.1)).Nodup ∧
      ∀ key ∈ v.divide.fullyAdded.map (·.1), v.classNumber key < 1 :=
    ⟨hadded, fun key hkey => (classNumber_fullyAdded hkey).symm ▸ Nat.one_pos⟩
  have hone := nodup_append_class hzero hremoved fun _ => classNumber_fullyRemoved
  have htwo := nodup_append_class hone v.nodup_membershipAdded fun _ => classNumber_membershipAdded
  have hthree :=
    nodup_append_class htwo v.nodup_membershipRemoved fun _ => classNumber_membershipRemoved
  have hfour := nodup_append_class hthree v.nodup_toVerify fun _ => classNumber_toVerify
  simpa only [Division.runs, List.map_append, List.map_map, Function.comp_def] using hfour.1

end Views

end VersionBump
