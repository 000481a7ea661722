import Mathlib.Data.List.Sort
import VersionBump.Proofs.DivisionRuns

/-!
# Calls of rules

A division calls one rule for every published key. Here it is put together a second time, from the
keys alone: the keys of the published views are sorted into classes, and then the rules are called
class by class, with the declarations looked up in the views that the class names. Such a look-up
could fail, but none does.

* `Call` is a call of a rule with all that it is given, `Division.calls` lists the calls of a
  division and `Division.apply_eq_collect_calls` says that they are all there is.
* `Views.call?` names the call for a key by what the four views hold under it, and
  `Views.filter_key_calls` says that it is the only one.
* `Views.keyClasses` sorts the keys and `Views.dispatch` runs the rules over them;
  `Views.dispatch_eq` says that this does what the calls do.
* `Views.dispatches` is the statement.
-/

namespace VersionBump

variable {α ε σ : Type}

/-! ## Calls -/

/-- The classes of published keys. -/
inductive Division.Kind where
  | fullyAdded
  | fullyRemoved
  | membershipAdded
  | membershipRemoved
  | toVerify
  deriving DecidableEq, Repr

namespace Division.Kind

/-- The classes in the order in which their rules are run. -/
def all : List Kind := [fullyAdded, fullyRemoved, membershipAdded, membershipRemoved, toVerify]

/-- The place of a class in the order. -/
def rank : Kind → Nat
  | fullyAdded => 0
  | fullyRemoved => 1
  | membershipAdded => 2
  | membershipRemoved => 3
  | toVerify => 4

theorem mem_all (c : Kind) : c ∈ all := by
  cases c <;> decide

end Division.Kind

open Division (Kind)

/-- A call of a rule for a key, with the declarations that the rule is given. -/
inductive Call (α : Type) where
  | added (key : String) (after : Located α)
  | removed (key : String) (before : Located α)
  | membershipAdded (key : String) (before after : Located α)
  | membershipRemoved (key : String) (before after : Located α)
  | changed (key : String) (before after : Located α)

namespace Call

/-- The key that a rule is called for. -/
def key : Call α → String
  | added key _ | removed key _ | membershipAdded key _ _ | membershipRemoved key _ _
  | changed key _ _ => key

/-- The class whose rule is called. -/
def kind : Call α → Kind
  | added _ _ => .fullyAdded
  | removed _ _ => .fullyRemoved
  | membershipAdded _ _ _ => .membershipAdded
  | membershipRemoved _ _ _ => .membershipRemoved
  | changed _ _ _ => .toVerify

/-- One call comes before another if its class does, or in the same class its key. -/
def Before (a b : Call α) : Prop :=
  a.kind.rank < b.kind.rank ∨ a.kind = b.kind ∧ compare a.key b.key = .lt

/-- No call comes before itself. -/
theorem Before.ne {a b : Call α} (h : a.Before b) : a ≠ b := by
  rintro rfl
  rcases h with hrank | ⟨-, hkey⟩
  · exact Nat.lt_irrefl _ hrank
  · rw [Std.ReflOrd.compare_self] at hkey
    exact nomatch hkey

end Call

/-- What the rules find when they are called. -/
def DivisionRules.answer (rules : DivisionRules α ε) : Call α → Except ε Findings
  | .added key after => rules.added key after
  | .removed key before => rules.removed key before
  | .membershipAdded key before after => rules.membershipAdded key before after
  | .membershipRemoved key before after => rules.membershipRemoved key before after
  | .changed key before after => rules.changed key before after

namespace Division

/-- The calls for one class of a division, in key order. -/
def callsOf (d : Division α) : Kind → List (Call α)
  | .fullyAdded => d.fullyAdded.map fun e => .added e.1 e.2
  | .fullyRemoved => d.fullyRemoved.map fun e => .removed e.1 e.2
  | .membershipAdded => d.membershipAdded.map fun e => .membershipAdded e.1 e.2.1 e.2.2
  | .membershipRemoved => d.membershipRemoved.map fun e => .membershipRemoved e.1 e.2.1 e.2.2
  | .toVerify => d.toVerify.map fun e => .changed e.1 e.2.1 e.2.2

/-- The calls of a division, class by class. -/
def calls (d : Division α) : List (Call α) := Kind.all.flatMap d.callsOf

/-- The calls for a class are of this class. -/
theorem kind_of_mem_callsOf {d : Division α} {c : Kind} {call : Call α} (h : call ∈ d.callsOf c) :
    call.kind = c := by
  cases c <;> obtain ⟨e, -, rfl⟩ := List.mem_map.mp h <;> rfl

/-- A division collects what its rules find when they are called. -/
theorem apply_eq_collect_calls (d : Division α) (rules : DivisionRules α ε) :
    d.apply rules = Findings.collect rules.answer d.calls := by
  rw [apply_eq_collect, runs]
  simp only [calls, Kind.all, List.flatMap_cons, List.flatMap_nil, List.append_nil,
    List.append_assoc, callsOf, Findings.collect_append, Findings.collect_map, DivisionRules.answer]

end Division

/-! ## Keys -/

/-- A set of keys, listed in order. -/
abbrev KeySet := KeyMap String Unit

/-- The keys of two sets. -/
def KeySet.union (s t : KeySet) : KeySet :=
  t.keys.foldl (fun s key => s.insert key ()) s

/-- Why a run over keys ends early: a view lacks a key that it should hold, or a rule complains. -/
inductive Stop (ε : Type) where
  | missing (key : String)
  | rule (complaint : ε)

/-- The declaration that a view should hold under a key. -/
def View.index (view : View α) (key : String) : Except (Stop ε) (Located α) :=
  match view.find? key with
  | some declaration => .ok declaration
  | none => .error (.missing key)

namespace Views

/-- The call for a key, by what the four views hold under it. Published on one side only, it is
called as new or gone if the other side does not have it at all, and as entering or leaving the
published surface otherwise. A key that is published on neither side is not called. -/
def call? (v : Views α) (key : String) : Option (Call α) :=
  match v.publishedBefore.find? key, v.publishedAfter.find? key with
  | none, none => none
  | none, some after =>
    match v.allBefore.find? key with
    | none => some (.added key after)
    | some before => some (.membershipAdded key before after)
  | some before, none =>
    match v.allAfter.find? key with
    | none => some (.removed key before)
    | some after => some (.membershipRemoved key before after)
  | some before, some after => some (.changed key before after)

/-- The classes with one more key in one of them. -/
def fileKey (classes : Kind → KeySet) (c : Kind) (key : String) : Kind → KeySet :=
  fun d => if d = c then (classes d).insert key () else classes d

/-- The classes with all keys of a list sorted into them, as far as they have a class. -/
def fileKeys (classOf : String → Option Kind) (keys : List String) (classes : Kind → KeySet) :
    Kind → KeySet :=
  keys.foldl (fun classes key =>
    match classOf key with
    | none => classes
    | some c => fileKey classes c key) classes

/-- The class of a key that is published afterwards. -/
def enteringClass (v : Views α) (key : String) : Option Kind :=
  if v.publishedBefore.contains key then some .toVerify
  else if v.allBefore.contains key then some .membershipAdded
  else some .fullyAdded

/-- The class of a key that was published before, unless it still is. -/
def leavingClass (v : Views α) (key : String) : Option Kind :=
  if v.publishedAfter.contains key then none
  else if v.allAfter.contains key then some .membershipRemoved
  else some .fullyRemoved

/-- The keys of the published views, sorted into classes. -/
def keyClasses (v : Views α) : Kind → KeySet :=
  fileKeys v.leavingClass v.publishedBefore.keys
    (fileKeys v.enteringClass v.publishedAfter.keys fun _ => ∅)

/-- The keys that are new on the published surface. -/
def publishedAdded (v : Views α) : KeySet :=
  (v.keyClasses .fullyAdded).union (v.keyClasses .membershipAdded)

/-- The keys that are gone from the published surface. -/
def publishedRemoved (v : Views α) : KeySet :=
  (v.keyClasses .fullyRemoved).union (v.keyClasses .membershipRemoved)

/-- The call for a key of a class, with the declarations of the views that the class looks at. -/
def callFor (v : Views α) (c : Kind) (key : String) : Except (Stop ε) (Call α) :=
  match c with
  | .fullyAdded => return .added key (← v.publishedAfter.index key)
  | .fullyRemoved => return .removed key (← v.publishedBefore.index key)
  | .membershipAdded =>
    return .membershipAdded key (← v.allBefore.index key) (← v.publishedAfter.index key)
  | .membershipRemoved =>
    return .membershipRemoved key (← v.publishedBefore.index key) (← v.allAfter.index key)
  | .toVerify => return .changed key (← v.publishedBefore.index key) (← v.publishedAfter.index key)

/-- What rules make of something that they are handed in turn, class by class and key by key. -/
def dispatch (v : Views α) (rule : Call α → σ → Except ε σ) (out : σ) : Except (Stop ε) σ :=
  Kind.all.foldlM (fun out c => (v.keyClasses c).keys.foldlM (fun out key => do
    let call ← v.callFor c key
    (rule call out).mapError .rule) out) out

/-! ## The call for a key -/

variable {v : Views α} {key : String}

/-- What the four views hold under the key of a call. -/
def Names (v : Views α) : Call α → Prop
  | .added key after => v.publishedAfter.find? key = some after ∧
      v.publishedBefore.find? key = none ∧ v.allBefore.find? key = none
  | .removed key before => v.publishedBefore.find? key = some before ∧
      v.publishedAfter.find? key = none ∧ v.allAfter.find? key = none
  | .membershipAdded key before after => v.publishedAfter.find? key = some after ∧
      v.publishedBefore.find? key = none ∧ v.allBefore.find? key = some before
  | .membershipRemoved key before after => v.publishedBefore.find? key = some before ∧
      v.publishedAfter.find? key = none ∧ v.allAfter.find? key = some after
  | .changed key before after => v.publishedBefore.find? key = some before ∧
      v.publishedAfter.find? key = some after

/-- The call for a key is the one that the views name. -/
theorem call?_eq_some_iff {call : Call α} :
    v.call? key = some call ↔ call.key = key ∧ v.Names call := by
  constructor
  · intro h
    unfold call? at h
    split at h
    case h_1 => exact nomatch h
    case h_2 after hbefore hafter =>
      split at h <;> cases h
      case h_1 hall => exact ⟨rfl, hafter, hbefore, hall⟩
      case h_2 before hall => exact ⟨rfl, hafter, hbefore, hall⟩
    case h_3 before hbefore hafter =>
      split at h <;> cases h
      case h_1 hall => exact ⟨rfl, hbefore, hafter, hall⟩
      case h_2 after hall => exact ⟨rfl, hbefore, hafter, hall⟩
    case h_4 before after hbefore hafter =>
      cases h
      exact ⟨rfl, hbefore, hafter⟩
  · rintro ⟨rfl, h⟩
    cases call with
    | added key after => simp [call?, Call.key, h.1, h.2.1, h.2.2]
    | removed key before => simp [call?, Call.key, h.1, h.2.1, h.2.2]
    | membershipAdded key before after => simp [call?, Call.key, h.1, h.2.1, h.2.2]
    | membershipRemoved key before after => simp [call?, Call.key, h.1, h.2.1, h.2.2]
    | changed key before after => simp [call?, Call.key, h.1, h.2]

/-- The calls of a class are those of its kind that the views name. -/
theorem mem_callsOf_iff {c : Kind} {call : Call α} :
    call ∈ v.divide.callsOf c ↔ v.Names call ∧ call.kind = c := by
  constructor
  · intro h
    refine ⟨?_, Division.kind_of_mem_callsOf h⟩
    cases c with
    | fullyAdded =>
      obtain ⟨e, he, rfl⟩ := List.mem_map.mp h
      exact v.mem_fullyAdded.mp he
    | fullyRemoved =>
      obtain ⟨e, he, rfl⟩ := List.mem_map.mp h
      exact v.mem_fullyRemoved.mp he
    | membershipAdded =>
      obtain ⟨e, he, rfl⟩ := List.mem_map.mp h
      exact v.mem_membershipAdded.mp he
    | membershipRemoved =>
      obtain ⟨e, he, rfl⟩ := List.mem_map.mp h
      exact v.mem_membershipRemoved.mp he
    | toVerify =>
      obtain ⟨e, he, rfl⟩ := List.mem_map.mp h
      exact v.mem_toVerify.mp he
  · rintro ⟨h, rfl⟩
    cases call with
    | added key after => exact List.mem_map.mpr ⟨(key, after), v.mem_fullyAdded.mpr h, rfl⟩
    | removed key before => exact List.mem_map.mpr ⟨(key, before), v.mem_fullyRemoved.mpr h, rfl⟩
    | membershipAdded key before after =>
      exact List.mem_map.mpr ⟨(key, before, after), v.mem_membershipAdded.mpr h, rfl⟩
    | membershipRemoved key before after =>
      exact List.mem_map.mpr ⟨(key, before, after), v.mem_membershipRemoved.mpr h, rfl⟩
    | changed key before after =>
      exact List.mem_map.mpr ⟨(key, before, after), v.mem_toVerify.mpr h, rfl⟩

/-- The calls of a division are those that the views name. -/
theorem mem_calls_iff {call : Call α} : call ∈ v.divide.calls ↔ v.Names call := by
  simp only [Division.calls, List.mem_flatMap, mem_callsOf_iff]
  constructor
  · rintro ⟨c, -, hnames, -⟩
    exact hnames
  · intro hnames
    exact ⟨call.kind, call.kind.mem_all, hnames, rfl⟩

/-! ## The order of the calls -/

/-- Entries that keep their keys stay in key order. -/
private theorem pairwise_filterMap {β γ : Type} (m : KeyMap String β)
    {f : String × β → Option (String × γ)} (h : ∀ e c, f e = some c → c.1 = e.1) :
    (m.toList.filterMap f).Pairwise fun a b => compare a.1 b.1 = .lt := by
  refine List.Pairwise.filterMap f (fun a b hab c hc d hd => ?_) m.sorted
  rw [h a c hc, h b d hd]
  exact hab

/-- The calls for a class come in key order. -/
theorem pairwise_callsOf (v : Views α) (c : Kind) :
    (v.divide.callsOf c).Pairwise fun a b => compare a.key b.key = .lt := by
  cases c with
  | fullyAdded => exact List.pairwise_map.mpr (v.publishedAfter.sorted.sublist List.filter_sublist)
  | fullyRemoved =>
    exact List.pairwise_map.mpr (v.publishedBefore.sorted.sublist List.filter_sublist)
  | membershipAdded =>
    refine List.pairwise_map.mpr (pairwise_filterMap _ fun e c h => ?_)
    split at h
    · exact nomatch h
    · obtain ⟨before, -, rfl⟩ := Option.map_eq_some_iff.mp h
      rfl
  | membershipRemoved =>
    refine List.pairwise_map.mpr (pairwise_filterMap _ fun e c h => ?_)
    split at h
    · exact nomatch h
    · obtain ⟨after, -, rfl⟩ := Option.map_eq_some_iff.mp h
      rfl
  | toVerify =>
    refine List.pairwise_map.mpr (pairwise_filterMap _ fun e c h => ?_)
    obtain ⟨before, -, rfl⟩ := Option.map_eq_some_iff.mp h
    rfl

/-- The calls come class by class, and in each class in key order. -/
theorem pairwise_calls (v : Views α) : v.divide.calls.Pairwise Call.Before := by
  refine List.pairwise_flatMap.mpr ⟨fun c _ => ?_, ?_⟩
  · refine (v.pairwise_callsOf c).imp_of_mem fun ha hb hlt => .inr ⟨?_, hlt⟩
    rw [Division.kind_of_mem_callsOf ha, Division.kind_of_mem_callsOf hb]
  · have hranks : Kind.all.Pairwise fun c d => c.rank < d.rank := by decide
    refine hranks.imp fun hlt a ha b hb => .inl ?_
    rwa [Division.kind_of_mem_callsOf ha, Division.kind_of_mem_callsOf hb]

/-- A key is called exactly as the views say, once or not at all. -/
theorem filter_key_calls (v : Views α) (key : String) :
    v.divide.calls.filter (·.key = key) = (v.call? key).toList := by
  have hmem : ∀ call, call ∈ v.divide.calls.filter (·.key = key) ↔ v.call? key = some call := by
    intro call
    rw [List.mem_filter, mem_calls_iff, decide_eq_true_eq, call?_eq_some_iff, and_comm]
  have hnodup : (v.divide.calls.filter (·.key = key)).Nodup :=
    (v.pairwise_calls.imp Call.Before.ne).sublist List.filter_sublist
  cases hcall : v.call? key with
  | none =>
    refine List.eq_nil_iff_forall_not_mem.mpr fun call hin => ?_
    exact nomatch hcall.symm.trans ((hmem call).mp hin)
  | some call =>
    refine List.perm_singleton.mp
      ((List.perm_ext_iff_of_nodup hnodup (List.nodup_singleton call)).mpr fun other => ?_)
    rw [hmem, hcall, List.mem_singleton, Option.some.injEq, eq_comm]

/-! ## Sorting keys -/

/-- A list of keys is sorted into the classes that its keys have. -/
private theorem contains_fileKeys (classOf : String → Option Kind) (keys : List String)
    (classes : Kind → KeySet) (c : Kind) (key : String) :
    (fileKeys classOf keys classes c).contains key = true ↔
      (classes c).contains key = true ∨ key ∈ keys ∧ classOf key = some c := by
  induction keys generalizing classes with
  | nil => simp [fileKeys]
  | cons k keys ih =>
    rw [fileKeys, List.foldl_cons]
    refine (ih _).trans ?_
    cases hk : classOf k with
    | none =>
      have hne : key = k → classOf key ≠ some c := by
        rintro rfl
        simp [hk]
      simp only [List.mem_cons]
      tauto
    | some d =>
      by_cases hd : c = d
      · subst hd
        simp only [fileKey, if_true, KeyMap.contains_insert_iff, List.mem_cons]
        constructor
        · rintro ((rfl | h) | h)
          · exact .inr ⟨.inl rfl, hk⟩
          · exact .inl h
          · exact .inr ⟨.inr h.1, h.2⟩
        · rintro (h | ⟨rfl | h, hc⟩)
          · exact .inl (.inr h)
          · exact .inl (.inl rfl)
          · exact .inr ⟨h, hc⟩
      · have hne : key = k → classOf key ≠ some c := by
          rintro rfl
          simp [hk, Ne.symm hd]
        simp only [fileKey, if_neg hd, List.mem_cons]
        tauto

/-- The class of the call for a key: that in which it enters or stays, or else that in which it
leaves. -/
theorem map_kind_call? (v : Views α) (key : String) : (v.call? key).map Call.kind =
    if v.publishedAfter.contains key then v.enteringClass key
    else if v.publishedBefore.contains key then v.leavingClass key else none := by
  unfold enteringClass leavingClass KeyMap.contains call?
  generalize v.publishedBefore.find? key = before
  generalize v.publishedAfter.find? key = after
  cases before with
  | none =>
    cases after with
    | none => rfl
    | some after => cases v.allBefore.find? key <;> rfl
  | some before =>
    cases after with
    | none => cases v.allAfter.find? key <;> rfl
    | some after => rfl

/-- A key is sorted into the class of its call. -/
theorem mem_keyClasses_iff {c : Kind} :
    key ∈ (v.keyClasses c).keys ↔ (v.call? key).map Call.kind = some c := by
  rw [KeyMap.mem_keys_iff, keyClasses, contains_fileKeys, contains_fileKeys, KeyMap.mem_keys_iff,
    KeyMap.mem_keys_iff, map_kind_call?]
  have hempty : (∅ : KeySet).contains key ≠ true := nofun
  rw [or_iff_right hempty]
  unfold leavingClass
  split_ifs <;> simp_all

/-- Lists of keys in order are equal if they hold the same keys. -/
private theorem eq_of_pairwise_lt {xs ys : List String}
    (hx : xs.Pairwise fun a b => compare a b = .lt) (hy : ys.Pairwise fun a b => compare a b = .lt)
    (h : ∀ key, key ∈ xs ↔ key ∈ ys) : xs = ys := by
  have : Std.Irrefl fun a b : String => compare a b = .lt :=
    ⟨fun a hlt => by simp [Std.ReflOrd.compare_self] at hlt⟩
  have : Std.Antisymm fun a b : String => compare a b = .lt :=
    ⟨fun a b hab hba => by simp [Std.OrientedCmp.gt_of_lt hba] at hab⟩
  exact hx.eq_of_mem_iff hy h

/-- The keys of a class are those that its rule is called for, in the same order. -/
theorem keys_keyClasses (v : Views α) (c : Kind) :
    (v.keyClasses c).keys = (v.divide.callsOf c).map Call.key := by
  refine eq_of_pairwise_lt (List.pairwise_map.mpr (v.keyClasses c).sorted)
    (List.pairwise_map.mpr (v.pairwise_callsOf c)) fun key => ?_
  simp only [mem_keyClasses_iff, Option.map_eq_some_iff, List.mem_map, mem_callsOf_iff,
    call?_eq_some_iff]
  constructor
  · rintro ⟨call, ⟨rfl, hnames⟩, rfl⟩
    exact ⟨call, ⟨hnames, rfl⟩, rfl⟩
  · rintro ⟨call, ⟨hnames, rfl⟩, rfl⟩
    exact ⟨call, ⟨rfl, hnames⟩, rfl⟩

/-! ## Running the rules over keys -/

/-- For a call that the views name the look-ups succeed, and lead to the call. -/
theorem Names.callFor_eq {call : Call α} (h : v.Names call) :
    v.callFor call.kind call.key = (.ok call : Except (Stop ε) (Call α)) := by
  cases call with
  | added key after =>
    simp only [callFor, Call.kind, Call.key, View.index, h.1]
    rfl
  | removed key before =>
    simp only [callFor, Call.kind, Call.key, View.index, h.1]
    rfl
  | membershipAdded key before after =>
    simp only [callFor, Call.kind, Call.key, View.index, h.1, h.2.2]
    rfl
  | membershipRemoved key before after =>
    simp only [callFor, Call.kind, Call.key, View.index, h.1, h.2.2]
    rfl
  | changed key before after =>
    simp only [callFor, Call.kind, Call.key, View.index, h.1, h.2]
    rfl

/-- Where every look-up leads to the call, a run over keys is a run over calls. -/
private theorem foldlM_callFor {c : Kind} {calls : List (Call α)}
    (h : ∀ call ∈ calls, v.callFor c call.key = (.ok call : Except (Stop ε) (Call α)))
    (rule : Call α → σ → Except ε σ) (out : σ) :
    (calls.map Call.key).foldlM (fun out key => do
      let call ← v.callFor c key
      (rule call out).mapError Stop.rule) out =
    (calls.foldlM (fun out call => rule call out) out).mapError .rule := by
  induction calls generalizing out with
  | nil => rfl
  | cons call calls ih =>
    obtain ⟨hcall, hrest⟩ := List.forall_mem_cons.mp h
    rw [List.map_cons, List.foldlM_cons, List.foldlM_cons, hcall]
    show ((rule call out).mapError Stop.rule >>= _) = _
    cases rule call out with
    | error e => rfl
    | ok out => exact ih hrest out

/-- Running the rules over keys makes the calls of the division. No look-up fails, so whatever goes
wrong is the complaint of a rule. -/
theorem dispatch_eq (v : Views α) (rule : Call α → σ → Except ε σ) (out : σ) :
    v.dispatch rule out =
      (v.divide.calls.foldlM (fun out call => rule call out) out).mapError .rule := by
  rw [dispatch, Division.calls]
  generalize Kind.all = classes
  induction classes generalizing out with
  | nil => rfl
  | cons c classes ih =>
    rw [List.foldlM_cons, List.flatMap_cons, List.foldlM_append, keys_keyClasses, foldlM_callFor]
    · cases (v.divide.callsOf c).foldlM (fun out call => rule call out) out with
      | error e => rfl
      | ok out => exact ih out
    · intro call hcall
      obtain ⟨hnames, rfl⟩ := mem_callsOf_iff.mp hcall
      exact hnames.callFor_eq

/-- Rules that never complain are run to the end. -/
theorem dispatch_ok (v : Views α) (rule : Call α → σ → σ) (out : σ) :
    v.dispatch (fun call out => (.ok (rule call out) : Except ε σ)) out =
      .ok (v.divide.calls.foldl (fun out call => rule call out) out) := by
  rw [dispatch_eq]
  generalize v.divide.calls = calls
  induction calls generalizing out with
  | nil => rfl
  | cons call calls ih => exact ih (rule call out)

/-- Findings are collected call by call. -/
private theorem foldlM_answer (rules : DivisionRules α ε) (calls : List (Call α)) (out : Findings) :
    calls.foldlM (fun out call => (rules.answer call).map (out ++ ·)) out =
      (Findings.collect rules.answer calls).map (out ++ ·) := by
  induction calls generalizing out with
  | nil => exact congrArg Except.ok (Findings.append_empty out).symm
  | cons call calls ih =>
    rw [List.foldlM_cons, Findings.collect]
    cases rules.answer call with
    | error e => rfl
    | ok found =>
      refine (ih (out ++ found)).trans ?_
      cases Findings.collect rules.answer calls with
      | error e => rfl
      | ok others => exact congrArg Except.ok (Findings.append_assoc out found others)

/-- A run over keys that collects what the rules find is the division with these rules. -/
theorem dispatch_answer (v : Views α) (rules : DivisionRules α ε) :
    v.dispatch (fun call out => (rules.answer call).map (out ++ ·)) {} =
      (v.divide.apply rules).mapError .rule := by
  rw [dispatch_eq, foldlM_answer, Division.apply_eq_collect_calls]
  cases Findings.collect rules.answer v.divide.calls <;> rfl

/-! ## The published surface -/

/-- No key is in two classes. -/
theorem eq_of_mem_keyClasses {c d : Kind} (hc : key ∈ (v.keyClasses c).keys)
    (hd : key ∈ (v.keyClasses d).keys) : c = d := by
  rw [mem_keyClasses_iff] at hc hd
  exact Option.some.inj (hc.symm.trans hd)

/-- A key is called exactly if it is published on one of the two sides, whatever else there is. -/
theorem isSome_call?_iff : (v.call? key).isSome ↔
    v.publishedBefore.contains key = true ∨ v.publishedAfter.contains key = true := by
  rw [← Option.isSome_map (f := Call.kind), map_kind_call?]
  unfold enteringClass leavingClass
  split_ifs <;> simp_all

/-- A union has the keys of both sets. -/
private theorem mem_keys_union {s t : KeySet} :
    key ∈ (s.union t).keys ↔ key ∈ s.keys ∨ key ∈ t.keys := by
  have hfold : ∀ (keys : List String) (s : KeySet),
      (keys.foldl (fun s key => s.insert key ()) s).contains key = true ↔
        s.contains key = true ∨ key ∈ keys := by
    intro keys
    induction keys with
    | nil => simp
    | cons k keys ih =>
      intro s
      rw [List.foldl_cons, ih, KeyMap.contains_insert_iff, List.mem_cons, or_assoc, or_left_comm]
  rw [KeyMap.mem_keys_iff, KeyMap.mem_keys_iff s, KeySet.union, hfold]

/-- The keys of two classes together, without repetitions. -/
private theorem union_keyClasses_perm (v : Views α) {c d : Kind} (hne : c ≠ d) :
    ((v.keyClasses c).union (v.keyClasses d)).keys.Perm
      ((v.keyClasses c).keys ++ (v.keyClasses d).keys) := by
  have hdisjoint : (v.keyClasses c).keys.Disjoint (v.keyClasses d).keys :=
    fun key hc hd => hne (eq_of_mem_keyClasses hc hd)
  have hnodup : ((v.keyClasses c).keys ++ (v.keyClasses d).keys).Nodup :=
    List.nodup_append'.mpr ⟨KeyMap.nodup_keys _, KeyMap.nodup_keys _, hdisjoint⟩
  exact (List.perm_ext_iff_of_nodup (KeyMap.nodup_keys _) hnodup).mpr fun key =>
    mem_keys_union.trans List.mem_append.symm

/-- The keys of two classes are those of one view without those of another, if their calls are. -/
private theorem keys_union_keyClasses {c d : Kind} {view other : View α}
    (h : ∀ key, (v.call? key).map Call.kind = some c ∨ (v.call? key).map Call.kind = some d ↔
      view.contains key = true ∧ other.contains key = false) :
    ((v.keyClasses c).union (v.keyClasses d)).keys =
      view.keys.filter fun key => !other.contains key := by
  have hview : view.keys.Pairwise fun a b => compare a b = .lt := List.pairwise_map.mpr view.sorted
  refine eq_of_pairwise_lt (List.pairwise_map.mpr (KeyMap.sorted _))
    (hview.sublist List.filter_sublist) fun key => mem_keys_union.trans ?_
  rw [mem_keyClasses_iff, mem_keyClasses_iff, h, List.mem_filter, KeyMap.mem_keys_iff,
    Bool.not_eq_true']

/-- What is new on the published surface is what is published afterwards only. -/
theorem keys_publishedAdded (v : Views α) : v.publishedAdded.keys =
    v.publishedAfter.keys.filter fun key => !v.publishedBefore.contains key := by
  refine keys_union_keyClasses fun key => ?_
  rw [map_kind_call?]
  unfold enteringClass leavingClass
  split_ifs <;> simp_all

/-- What is gone from the published surface is what was published before only. -/
theorem keys_publishedRemoved (v : Views α) : v.publishedRemoved.keys =
    v.publishedBefore.keys.filter fun key => !v.publishedAfter.contains key := by
  refine keys_union_keyClasses fun key => ?_
  rw [map_kind_call?]
  unfold enteringClass leavingClass
  split_ifs <;> simp_all

/-! ## Ignoring publication -/

/-- Where publication is ignored, the classes are those of the difference of the keys. -/
theorem divide_unpublished (before after : View α) : (unpublished before after).divide =
    { fullyAdded := (KeyDiff.between before after).added
      fullyRemoved := (KeyDiff.between before after).removed
      membershipAdded := []
      membershipRemoved := []
      toVerify := (KeyDiff.between before after).common } := by
  have hadded : (unpublished before after).divide.fullyAdded =
      (KeyDiff.between before after).added :=
    List.filter_congr fun e _ => Bool.and_self _
  have hremoved : (unpublished before after).divide.fullyRemoved =
      (KeyDiff.between before after).removed :=
    List.filter_congr fun e _ => Bool.and_self _
  -- A key that one side does not publish is not on that side at all.
  have hentered : (unpublished before after).divide.membershipAdded = [] := by
    refine List.eq_nil_iff_forall_not_mem.mpr fun e he => ?_
    obtain ⟨-, hbefore, hall⟩ := (mem_membershipAdded _).mp he
    exact nomatch hbefore.symm.trans hall
  have hleft : (unpublished before after).divide.membershipRemoved = [] := by
    refine List.eq_nil_iff_forall_not_mem.mpr fun e he => ?_
    obtain ⟨-, hafter, hall⟩ := (mem_membershipRemoved _).mp he
    exact nomatch hafter.symm.trans hall
  exact (Division.mk.injEq ..).mpr ⟨hadded, hremoved, hentered, hleft, rfl⟩

/-- Where publication is ignored, the calls follow the difference of the keys. -/
theorem calls_unpublished (before after : View α) : (unpublished before after).divide.calls =
    (KeyDiff.between before after).added.map (fun e => .added e.1 e.2) ++
      ((KeyDiff.between before after).removed.map (fun e => .removed e.1 e.2) ++
        (KeyDiff.between before after).common.map fun e => .changed e.1 e.2.1 e.2.2) := by
  simp only [divide_unpublished, Division.calls, Kind.all, List.flatMap_cons, List.flatMap_nil,
    Division.callsOf, List.map_nil, List.nil_append, List.append_nil]

/-! ## Every published key is called exactly once -/

/-- The rules of a division are called for every published key, once, with what the views hold. -/
structure CallsOnce (v : Views α) : Prop where
  /-- A run over keys makes the calls of the division, so that no look-up fails in it. -/
  run {ε σ : Type} (rule : Call α → σ → Except ε σ) (out : σ) : v.dispatch rule out =
    (v.divide.calls.foldlM (fun out call => rule call out) out).mapError .rule
  /-- It comes to its end if no rule complains. -/
  succeeds {ε σ : Type} (rule : Call α → σ → σ) (out : σ) :
    v.dispatch (fun call out => (.ok (rule call out) : Except ε σ)) out =
      .ok (v.divide.calls.foldl (fun out call => rule call out) out)
  /-- Collecting what the rules find, it is the run of the division. -/
  collects {ε : Type} (rules : DivisionRules α ε) :
    v.dispatch (fun call out => (rules.answer call).map (out ++ ·)) {} =
      (v.divide.apply rules).mapError .rule
  /-- There is one call for a key, or none. -/
  once (key : String) : v.divide.calls.filter (·.key = key) = (v.call? key).toList
  /-- There is one if the key is published on one of the sides. -/
  published (key : String) : (v.call? key).isSome ↔
    v.publishedBefore.contains key = true ∨ v.publishedAfter.contains key = true
  /-- The call has the declarations of the views that its class is about. -/
  names (key : String) (call : Call α) :
    v.call? key = some call ↔ call.key = key ∧ v.Names call
  /-- Calls of one class come in key order. -/
  ordered : v.divide.calls.Pairwise Call.Before
  /-- The keys of a class are those that are called for it. -/
  classes (c : Kind) : (v.keyClasses c).keys = (v.divide.callsOf c).map Call.key
  /-- No two classes share a key. -/
  disjoint {c d : Kind} (hne : c ≠ d) : (v.keyClasses c).keys.Disjoint (v.keyClasses d).keys
  /-- What is new on the published surface has two parts. -/
  added : v.publishedAdded.keys.Perm
    ((v.keyClasses .fullyAdded).keys ++ (v.keyClasses .membershipAdded).keys)
  /-- It is what is published afterwards only. -/
  keys_added : v.publishedAdded.keys =
    v.publishedAfter.keys.filter fun key => !v.publishedBefore.contains key
  /-- What is gone from the published surface has two parts. -/
  removed : v.publishedRemoved.keys.Perm
    ((v.keyClasses .fullyRemoved).keys ++ (v.keyClasses .membershipRemoved).keys)
  /-- It is what was published before only. -/
  keys_removed : v.publishedRemoved.keys =
    v.publishedBefore.keys.filter fun key => !v.publishedAfter.contains key

/-- Two views that are divided without regard to publication are divided as their keys differ. -/
structure FollowsKeys (before after : View α) : Prop where
  /-- Every call is for something added, removed or common. -/
  calls : (unpublished before after).divide.calls =
    (KeyDiff.between before after).added.map (fun e => .added e.1 e.2) ++
      ((KeyDiff.between before after).removed.map (fun e => .removed e.1 e.2) ++
        (KeyDiff.between before after).common.map fun e => .changed e.1 e.2.1 e.2.2)
  added : ((unpublished before after).keyClasses .fullyAdded).keys =
    (KeyDiff.between before after).added.map (·.1)
  removed : ((unpublished before after).keyClasses .fullyRemoved).keys =
    (KeyDiff.between before after).removed.map (·.1)
  changed : ((unpublished before after).keyClasses .toVerify).keys =
    (KeyDiff.between before after).common.map (·.1)
  /-- Nothing enters the published surface. -/
  entered : ((unpublished before after).keyClasses .membershipAdded).keys = []
  /-- Nothing leaves the published surface. -/
  left : ((unpublished before after).keyClasses .membershipRemoved).keys = []

/-- The views need not be related for the rules to be called once for every published key. Views
that are divided without regard to publication are divided as their keys differ. -/
theorem dispatches :
    (∀ v : Views α, v.CallsOnce) ∧ ∀ before after : View α, FollowsKeys before after := by
  refine ⟨fun v => ?_, fun before after => ?_⟩
  · exact
      { run := v.dispatch_eq
        succeeds := v.dispatch_ok
        collects := v.dispatch_answer
        once := v.filter_key_calls
        published := fun _ => isSome_call?_iff
        names := fun _ _ => call?_eq_some_iff
        ordered := v.pairwise_calls
        classes := v.keys_keyClasses
        disjoint := fun hne _ hc hd => hne (eq_of_mem_keyClasses hc hd)
        added := v.union_keyClasses_perm (by decide)
        keys_added := v.keys_publishedAdded
        removed := v.union_keyClasses_perm (by decide)
        keys_removed := v.keys_publishedRemoved }
  · have hkeys : ∀ c, ((unpublished before after).keyClasses c).keys = _ := keys_keyClasses _
    refine ⟨calls_unpublished before after, ?_, ?_, ?_, ?_, ?_⟩ <;>
      simp only [hkeys, divide_unpublished, Division.callsOf, List.map_map, List.map_nil,
        Function.comp_def, Call.key]

end Views

end VersionBump
