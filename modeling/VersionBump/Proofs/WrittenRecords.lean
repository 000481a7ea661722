import VersionBump.Manifest.Record
import VersionBump.Proofs.WrittenDocuments

/-!
# Decoding written records

A record that is written as an object with all its fields is decoded as the record. Every
description of fields is put together from single fields, so this is shown for a field, for a record
with its value changed and for two records one after the other; the fields of any one record follow
in the order of its declaration.

* `Record.Reads` relates a description of fields to the members that are written for a value.
* `Record.Reads.decode` says that such an object is decoded as the value.
* `list_map`, `optional_text`, `word_nat` and `keyword_string` do the same for simple values.
-/

namespace VersionBump.Manifest

open Json

variable {α β : Type}

/-! ## Simple values -/

theorem text_string (s : String) : text (Value.string s).toNode = .ok s := rfl

theorem flag_bool (b : Bool) : flag (Value.bool b).toNode = .ok b := rfl

/-- A written number of 32 bits is decoded as itself. -/
theorem word_nat {n : Nat} (h : n ≤ maxWord) : word (Value.nat n).toNode = .ok n := by
  have small : n ≤ maxNatural := by
    unfold maxWord at h
    unfold maxNatural
    omega
  rw [Value.toNode, word, numeric_toDigits small]
  exact if_pos h

/-- What is not null is decoded as the value that may be null. -/
theorem optional_of_ne_null {d : Decoder α} {node : Node} {a : α} (notNull : node ≠ .null)
    (h : d node = .ok a) : optional d node = .ok (some a) := by
  cases node with
  | null => exact absurd rfl notNull
  | _ => simp [optional, h, Except.map]

theorem optional_text (o : Option String) :
    optional text (Value.optional o).toNode = .ok o := by
  cases o <;> rfl

/-- A written list is decoded item by item. -/
theorem list_map {d : Decoder α} {encode : α → Value} {as : List α}
    (h : ∀ a ∈ as, d (encode a).toNode = .ok a) :
    list d (Value.array (as.map encode)).toNode = .ok as := by
  rw [Value.toNode, list]
  induction as with
  | nil => rfl
  | cons a as ih =>
    have first := h a List.mem_cons_self
    have others := ih fun b hb => h b (List.mem_cons_of_mem a hb)
    simp [Value.toItems, items, first, others, bind, Except.bind, pure, Except.pure]

theorem list_strings (ss : List String) : list text (Value.strings ss).toNode = .ok ss :=
  list_map fun s _ => text_string s

/-- A written keyword is decoded as its value. -/
theorem keyword_string {known : List (String × α)} {s : String} {a : α}
    (h : known.lookup s = some a) : keyword known (Value.string s).toNode = .ok a := by
  simp [Value.toNode, keyword, ofKeyword, h]

namespace Record

/-! ## Gathering the members of a written object -/

/-- The slots of the members of a written object from a place on. -/
def slotsOf (place : Nat) : List (String × Value) → List Slot
  | [] => []
  | (k, v) :: ms => ⟨place, k, v.toNode⟩ :: slotsOf (place + 1) ms

/-- Among the slots, the one that is found for the key of a member holds its value. -/
def Holds (slots : List Slot) (ms : List (String × Value)) : Prop :=
  ∀ m ∈ ms, ∃ slot, slots.find? (·.key = m.1) = some slot ∧ slot.value = m.2.toNode

theorem holds_slotsOf {ms : List (String × Value)} (nodup : (ms.map (·.1)).Nodup) (place : Nat) :
    Holds (slotsOf place ms) ms := by
  induction ms generalizing place with
  | nil => simp [Holds]
  | cons m ms ih =>
    rw [List.map_cons, List.nodup_cons] at nodup
    rintro m' (_ | ⟨_, mem⟩)
    · exact ⟨_, List.find?_cons_of_pos (by simp), rfl⟩
    · obtain ⟨slot, found, value⟩ := ih nodup.2 (place + 1) m' mem
      have other : m.1 ≠ m'.1 := fun h => nodup.1 (h ▸ List.mem_map_of_mem mem)
      refine ⟨slot, ?_, value⟩
      rw [slotsOf, List.find?_cons_of_neg (by simpa using other), found]

/-- Known keys that differ are all gathered, without a complaint. -/
theorem gather_toMembers {names : List String} {ms : List (String × Value)} (slots : List Slot)
    (place : Nat) (known : ∀ m ∈ ms, m.1 ∈ names)
    (nodup : (slots.map (·.key) ++ ms.map (·.1)).Nodup) :
    gather names slots place (Value.toMembers ms) =
      ⟨slots ++ slotsOf place ms, place + ms.length, none⟩ := by
  induction ms generalizing slots place with
  | nil => simp [Value.toMembers, gather, slotsOf]
  | cons m ms ih =>
    -- A key that was gathered before would stand twice among the keys of the object.
    have fresh : ¬ slots.any (·.key = m.1) := by
      intro h
      obtain ⟨slot, mem, same⟩ : ∃ slot ∈ slots, slot.key = m.1 := by simpa using h
      exact (List.nodup_append.mp nodup).2.2 _ (List.mem_map_of_mem mem) _ List.mem_cons_self same
    have rest := ih (slots ++ [⟨place, m.1, m.2.toNode⟩]) (place + 1)
      (fun m' h => known m' (List.mem_cons_of_mem m h)) (by simpa using nodup)
    rw [Value.toMembers, gather, if_pos (known m List.mem_cons_self), if_neg fresh, rest]
    simp [slotsOf]
    omega

/-! ## Descriptions of fields -/

/-- The members are those that the description names, in its order, and are decoded as the value. -/
structure Reads (r : Record α) (ms : List (String × Value)) (a : α) : Prop where
  names : r.names = ms.map (·.1)
  ofSlots : ∀ slots ending, Holds slots ms → r.ofSlots slots ending = .ok a

/-- A field is read from its member, with a value to fall back on or without. -/
theorem Reads.field {d : Decoder α} {v : Value} {a : α} (name : String) (fallback : Option α)
    (h : d v.toNode = .ok a) : (field name d fallback).Reads [(name, v)] a where
  names := rfl
  ofSlots slots ending holds := by
    obtain ⟨slot, found, value⟩ := holds _ List.mem_cons_self
    rw [← value] at h
    simp only [Manifest.field, found, h]
    rfl

theorem Reads.map {r : Record α} {ms : List (String × Value)} {a : α} (f : α → β)
    (h : r.Reads ms a) : (f <$> r).Reads ms (f a) where
  names := h.names
  ofSlots slots ending holds := by
    show (r.ofSlots slots ending).map f = .ok (f a)
    rw [h.ofSlots slots ending holds]
    rfl

theorem Reads.seq {r : Record (α → β)} {s : Record α} {ms ns : List (String × Value)} {f : α → β}
    {a : α} (h : r.Reads ms f) (h' : s.Reads ns a) : (r <*> s).Reads (ms ++ ns) (f a) where
  names := by
    show r.names ++ s.names = _
    rw [h.names, h'.names, List.map_append]
  ofSlots slots ending holds := by
    show (Placed.and (r.ofSlots slots ending) (s.ofSlots slots ending)).map _ = _
    rw [h.ofSlots slots ending fun m hm => holds m (List.mem_append_left ns hm),
      h'.ofSlots slots ending fun m hm => holds m (List.mem_append_right ms hm)]
    rfl

/-- A record starts with its first field. -/
theorem Reads.first {d : Decoder α} {v : Value} {a : α} {f : α → β} {name : String}
    {fallback : Option α} (h : d v.toNode = .ok a) :
    (f <$> Manifest.field name d fallback).Reads [(name, v)] (f a) :=
  (Reads.field name fallback h).map f

/-- A record goes on with another field. -/
theorem Reads.next {r : Record (α → β)} {ms : List (String × Value)} {f : α → β} {d : Decoder α}
    {v : Value} {a : α} {name : String} {fallback : Option α} (h : r.Reads ms f)
    (h' : d v.toNode = .ok a) :
    (r <*> Manifest.field name d fallback).Reads (ms ++ [(name, v)]) (f a) :=
  h.seq (Reads.field name fallback h')

/-- The keys of the members differ if the names of the fields do. -/
theorem Reads.nodup {r : Record α} {ms : List (String × Value)} {a : α} (h : r.Reads ms a)
    (nodup : r.names.Nodup) : (ms.map (·.1)).Nodup :=
  h.names ▸ nodup

/-- An object with these members is decoded as the value. -/
theorem Reads.ofObject {r : Record α} {ms : List (String × Value)} {a : α} (h : r.Reads ms a)
    (nodup : r.names.Nodup) : r.ofObject (Value.toMembers ms) = .ok a := by
  have differ := h.nodup nodup
  have known : ∀ m ∈ ms, m.1 ∈ r.names := fun m hm => h.names ▸ List.mem_map_of_mem hm
  have gathered := gather_toMembers [] 0 known differ
  have value := h.ofSlots (slotsOf 0 ms) (0 + ms.length) (holds_slotsOf differ 0)
  rw [List.nil_append] at gathered
  simp only [Record.ofObject, gathered, value]

/-- A written record is decoded as the value. -/
theorem Reads.decode {r : Record α} {ms ns : List (String × Value)} {a : α} {name : String}
    (h : r.Reads ms a) (same : ms = ns) (nodup : r.names.Nodup) :
    r.decode name (Value.object ns).toNode = .ok a := by
  subst same
  exact h.ofObject nodup

end Record

end VersionBump.Manifest
