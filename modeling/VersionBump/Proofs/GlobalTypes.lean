import Mathlib.Data.List.Perm.Basic
import VersionBump.Proofs.KeyMapEntries
import VersionBump.Snapshot

/-!
# Global virtual types

A virtual type may be declared by several files for several scopes, and one declaration of each name
is registered: the last global one, and the last one of all if none is global. Registering looks at
the registered declaration only, so the proof goes one declaration at a time.

* `Di.authoritative?` picks the declaration that counts out of all declarations of a name, and
  `Di.authoritative?_append_singleton` is what one more declaration does to it.
* `Snapshot.find?_foldl_registerType` follows the registry through the declarations of a file, and
  `Snapshot.find?_registerAll` through a list of manifests.
* `Snapshot.registerAll_authoritative` is the statement.
-/

namespace VersionBump

namespace Di

/-- The declaration that counts among those of one name, in the order of registration: the last
global one, and the last one if none is global. -/
def authoritative? (declared : List (Located VirtualType)) : Option (Located VirtualType) :=
  (declared.filter (·.value.isGlobal)).getLast?.or declared.getLast?

/-- The declaration that is registered after another one of its name: the known one if it is global
and the other one is not. -/
def successor (known : Option (Located VirtualType)) (next : Located VirtualType) :
    Located VirtualType :=
  if known.any (·.value.isGlobal) && !next.value.isGlobal then known.getD next else next

variable {declared declared' : List (Located VirtualType)} {e : Located VirtualType}

/-- A single declaration counts. -/
theorem authoritative?_toList (known : Option (Located VirtualType)) :
    authoritative? known.toList = known := by
  cases known with
  | none => rfl
  | some e => cases h : e.value.isGlobal <;> simp [authoritative?, h]

/-- What counts is one of the declarations. -/
theorem mem_of_authoritative? (h : authoritative? declared = some e) : e ∈ declared := by
  rcases Option.or_eq_some_iff.mp h with hglobal | ⟨-, hlast⟩
  · exact (List.mem_filter.mp (List.mem_of_getLast? hglobal)).1
  · exact List.mem_of_getLast? hlast

/-- Of some declarations one counts. -/
theorem exists_authoritative? (h : declared ≠ []) : ∃ e, authoritative? declared = some e := by
  rw [authoritative?, List.getLast?_eq_some_getLast h]
  cases (declared.filter (·.value.isGlobal)).getLast? with
  | none => exact ⟨_, rfl⟩
  | some e => exact ⟨e, rfl⟩

/-- What counts is global exactly if a declaration is. -/
theorem isGlobal_of_authoritative? (h : authoritative? declared = some e) :
    e.value.isGlobal = true ↔ ∃ d ∈ declared, d.value.isGlobal = true := by
  refine ⟨fun hglobal => ⟨e, mem_of_authoritative? h, hglobal⟩, ?_⟩
  rintro ⟨d, hd, hglobal⟩
  have hne : declared.filter (·.value.isGlobal) ≠ [] :=
    List.ne_nil_of_mem (List.mem_filter.mpr ⟨hd, hglobal⟩)
  rw [authoritative?, List.getLast?_eq_some_getLast hne, Option.some_or] at h
  obtain rfl := Option.some.inj h
  exact (List.mem_filter.mp (List.getLast_mem hne)).2

/-- One more declaration succeeds the one that counted before. -/
theorem authoritative?_append_singleton (declared : List (Located VirtualType))
    (next : Located VirtualType) :
    authoritative? (declared ++ [next]) = some (successor (authoritative? declared) next) := by
  cases hnext : next.value.isGlobal with
  | true => simp [authoritative?, successor, hnext, List.getLast?_append]
  | false =>
    have hfilter : (declared ++ [next]).filter (·.value.isGlobal) =
        declared.filter (·.value.isGlobal) := by simp [hnext]
    rw [authoritative?, hfilter, List.getLast?_concat]
    cases hlast : (declared.filter (·.value.isGlobal)).getLast? with
    | some g =>
      -- The last global declaration counts, and it stays.
      have hglobal : g.value.isGlobal = true := (List.mem_filter.mp (List.mem_of_getLast? hlast)).2
      simp [authoritative?, successor, hlast, hglobal, hnext]
    | none =>
      have hnone : ∀ d ∈ declared, d.value.isGlobal = false := by
        simpa [List.getLast?_eq_none_iff] using hlast
      have hknown : (authoritative? declared).any (·.value.isGlobal) = false := by
        cases hcount : authoritative? declared with
        | none => rfl
        | some d => exact hnone d (mem_of_authoritative? hcount)
      simp [successor, hknown]

end Di

/-- The virtual types that a manifest declares, with its location. -/
def Manifest.Declared.typeEntries (location : String) :
    Declared → List (Located VersionBump.Di.VirtualType)
  | .di c => c.types.map (⟨·, ⟨location⟩⟩)
  | _ => []

/-- The declarations of a virtual type in a list of located manifests. -/
def typeDeclarations (manifests : List (String × Manifest.Declared)) (name : String) :
    List (Located Di.VirtualType) :=
  (manifests.flatMap fun m => m.2.typeEntries m.1).filter (·.value.name = name)

namespace Snapshot

/-- The snapshot with the contents of a list of located manifests, one after the other. -/
def registerAll (s : Snapshot) (manifests : List (String × Manifest.Declared)) : Snapshot :=
  manifests.foldl (fun s m => s.register m.1 m.2) s

/-- A declaration succeeds the registered one of its name and leaves the other names alone. -/
theorem find?_registerType (location : Path) (r : Registry Di.VirtualType) (v : Di.VirtualType)
    (name : String) :
    (registerType location r v).find? .di name =
      if v.name = name then some (Di.successor (r.find? .di name) ⟨v, location⟩)
      else r.find? .di name := by
  unfold registerType
  by_cases hname : v.name = name
  · subst hname
    rw [if_pos rfl, Di.successor, Registry.get?]
    cases hknown : r.find? .di v.name with
    | none => simp [Registry.find?_insert]
    | some known =>
      cases hglobal : known.value.isGlobal && !v.isGlobal with
      | true => simp [hglobal, hknown]
      | false => simp [hglobal, Registry.find?_insert]
  · rw [if_neg hname]
    split
    · rfl
    · rw [Registry.find?_insert, if_neg fun h => hname h.2.symm]

/-- Where the declaration that counts is registered, it is so after a list of further ones. -/
theorem find?_foldl_registerType (location : Path) (vs : List Di.VirtualType)
    {r : Registry Di.VirtualType} {name : String} {declared : List (Located Di.VirtualType)}
    (h : r.find? .di name = Di.authoritative? declared) :
    (vs.foldl (registerType location) r).find? .di name = Di.authoritative? (declared ++
      (vs.map fun v => (⟨v, location⟩ : Located _)).filter (·.value.name = name)) := by
  induction vs generalizing r declared with
  | nil => simpa using h
  | cons v vs ih =>
    rw [List.foldl_cons, List.map_cons]
    by_cases hname : v.name = name
    · have hstep : (registerType location r v).find? .di name =
          Di.authoritative? (declared ++ [⟨v, location⟩]) := by
        rw [find?_registerType, if_pos hname, h, Di.authoritative?_append_singleton]
      rw [ih hstep, List.filter_cons_of_pos (by simpa using hname), List.append_assoc,
        List.singleton_append]
    · have hstep : (registerType location r v).find? .di name = Di.authoritative? declared := by
        rw [find?_registerType, if_neg hname, h]
      rw [ih hstep, List.filter_cons_of_neg (by simpa using hname)]

/-- Where the declaration that counts is registered, it is so after a manifest. -/
theorem find?_di_register (s : Snapshot) (location : String) (declared : Manifest.Declared)
    {name : String} {known : List (Located Di.VirtualType)}
    (h : s.di.find? .di name = Di.authoritative? known) :
    (s.register location declared).di.find? .di name = Di.authoritative? (known ++
      (declared.typeEntries location).filter (·.value.name = name)) := by
  cases declared with
  | di c => exact find?_foldl_registerType ⟨location⟩ c.types h
  | _ => simpa [register, Manifest.Declared.typeEntries] using h

/-- Of a virtual type that was known and has been declared further, the declaration that counts is
registered. -/
theorem find?_registerAll (s : Snapshot) (manifests : List (String × Manifest.Declared))
    (name : String) :
    (s.registerAll manifests).di.find? .di name =
      Di.authoritative? ((s.di.find? .di name).toList ++ typeDeclarations manifests name) := by
  have hfold : ∀ {s : Snapshot} {known : List (Located Di.VirtualType)},
      s.di.find? .di name = Di.authoritative? known →
      (s.registerAll manifests).di.find? .di name =
        Di.authoritative? (known ++ typeDeclarations manifests name) := by
    induction manifests with
    | nil => intro s known h; simpa [registerAll, typeDeclarations] using h
    | cons m manifests ih =>
      intro s known h
      have hcons : typeDeclarations (m :: manifests) name =
          (m.2.typeEntries m.1).filter (·.value.name = name) ++ typeDeclarations manifests name := by
        rw [typeDeclarations, List.flatMap_cons, List.filter_append]
        rfl
      rw [hcons, ← List.append_assoc]
      exact ih (find?_di_register s m.1 m.2 h)
  exact hfold (Di.authoritative?_toList _).symm

/-- A virtual type that some manifests declare is registered as its last global declaration, and as
its last one if none is global, with the type, the shared flag, the module and the location of that
declaration; what the snapshot held before counts as the first declaration. Whether it is global does
not depend on the order of the manifests. -/
theorem registerAll_authoritative (s : Snapshot) (manifests : List (String × Manifest.Declared))
    (name : String) (h : ∃ d ∈ manifests.flatMap (fun m => m.2.typeEntries m.1), d.value.name = name) :
    ∃ e, (s.registerAll manifests).di.find? .di name = some e ∧
      Di.authoritative? ((s.di.find? .di name).toList ++ typeDeclarations manifests name) = some e ∧
      ∀ manifests', manifests'.Perm manifests →
        ∃ e', (s.registerAll manifests').di.find? .di name = some e' ∧
          e'.value.isGlobal = e.value.isGlobal := by
  have hne : ∀ {ms : List (String × Manifest.Declared)}, ms.Perm manifests →
      (s.di.find? .di name).toList ++ typeDeclarations ms name ≠ [] := by
    obtain ⟨d, hd, hname⟩ := h
    intro ms hperm
    refine List.append_ne_nil_of_right_ne_nil _ (List.ne_nil_of_mem (a := d) ?_)
    exact List.mem_filter.mpr ⟨(hperm.flatMap_right _).mem_iff.mpr hd, by simpa using hname⟩
  obtain ⟨e, he⟩ := Di.exists_authoritative? (hne (.refl _))
  refine ⟨e, (find?_registerAll ..).trans he, he, fun ms hperm => ?_⟩
  obtain ⟨e', he'⟩ := Di.exists_authoritative? (hne hperm)
  refine ⟨e', (find?_registerAll ..).trans he', ?_⟩
  -- Both are global exactly if some declaration is, and the declarations are the same.
  have hsame : ((s.di.find? .di name).toList ++ typeDeclarations ms name).Perm
      ((s.di.find? .di name).toList ++ typeDeclarations manifests name) :=
    ((hperm.flatMap_right _).filter _).append_left _
  rw [Bool.eq_iff_iff, Di.isGlobal_of_authoritative? he', Di.isGlobal_of_authoritative? he]
  simp only [hsame.mem_iff]

/-- Three files that declare one virtual type, the second of them globally. -/
private def layered : List (String × Manifest.Declared) :=
  [("a/etc/frontend/di.json", .di ⟨"A", "frontend", [⟨"VT", "X", true⟩, ⟨"W", "X", true⟩]⟩),
   ("b/etc/di.json", .di ⟨"B", Di.globalScope, [⟨"VT", "Y", false⟩]⟩),
   ("c/etc/adminhtml/di.json", .di ⟨"C", "adminhtml", [⟨"VT", "Z", true⟩]⟩)]

/-- The global declaration between two scoped ones is registered, and so is it backwards. -/
theorem registerAll_authoritative_layered :
    (({} : Snapshot).registerAll layered).di.find? .di "VT" =
      some ⟨⟨"VT", "Y", false, "global", "B"⟩, ⟨"b/etc/di.json"⟩⟩ ∧
    ∃ e, (({} : Snapshot).registerAll layered.reverse).di.find? .di "VT" = some e ∧
      e.value.isGlobal = true := by
  obtain ⟨e, hfind, hcounts, horder⟩ := registerAll_authoritative {} layered "VT" (by decide)
  have he : Di.authoritative? (([] : List (Located Di.VirtualType)) ++
      typeDeclarations layered "VT") =
      some ⟨⟨"VT", "Y", false, "global", "B"⟩, ⟨"b/etc/di.json"⟩⟩ := by decide
  obtain rfl := Option.some.inj (hcounts.symm.trans he)
  exact ⟨hfind, horder _ (List.reverse_perm _)⟩

end Snapshot

end VersionBump
