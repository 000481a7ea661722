import VersionBump.Manifest.Record
import VersionBump.Proofs.Outcomes

/-!
# What decoders return

A decoder may return only values of a certain kind, whatever text it is given. This is inherited by
lists, by optional values and by records. A record may be written in either form, and both are put
together from the same fields, so what is known of the fields is known of the record.

* `Yields` says it of a decoder, `Record.Yields` of a description of fields.
* `yields_word` is the case of words, which fit 32 bits.
-/

namespace VersionBump.Manifest

open Json

variable {α β : Type} {P : α → Prop} {Q : β → Prop}

/-! ## Simple values -/

/-- Whatever the decoder returns satisfies the predicate. -/
def Yields (d : Decoder α) (P : α → Prop) : Prop := ∀ node a, d node = .ok a → P a

/-- A word fits 32 bits. -/
theorem yields_word : Yields word (· ≤ maxWord) := by
  intro node k h
  cases node with
  | number n =>
    simp only [word] at h
    split at h
    · contradiction
    · split at h
      · next small =>
        cases h
        exact small
      · contradiction
    all_goals contradiction
  | _ => simp [word] at h

theorem Yields.optional {d : Decoder α} (h : Yields d P) :
    Yields (optional d) fun o => ∀ a ∈ o, P a := by
  intro node o decoded a mem
  have found : (d node).map some = .ok o := by
    cases node with
    | null =>
      obtain rfl : none = o := Except.ok.inj decoded
      contradiction
    | _ => exact decoded
  obtain ⟨b, returned, rfl⟩ := exists_of_map_eq_ok found
  obtain rfl : b = a := by simpa using mem
  exact h node b returned

theorem Yields.items {d : Decoder α} (h : Yields d P) :
    ∀ (is : Items) (as : List α), items d is = .ok as → ∀ a ∈ as, P a
  | .closed, as => by
    intro decoded
    obtain rfl : [] = as := Except.ok.inj decoded
    simp
  | .cut b, as => by
    intro decoded
    contradiction
  | .item first rest, as => by
    intro decoded
    obtain ⟨b, returned, decoded⟩ := exists_of_bind_eq_ok decoded
    obtain ⟨others, left, decoded⟩ := exists_of_bind_eq_ok decoded
    obtain rfl : b :: others = as := Except.ok.inj decoded
    rintro a (_ | ⟨_, mem⟩)
    · exact h first b returned
    · exact Yields.items h rest others left a mem

theorem Yields.list {d : Decoder α} (h : Yields d P) :
    Yields (list d) fun as => ∀ a ∈ as, P a := by
  intro node as decoded
  cases node with
  | array is => exact h.items is as decoded
  | _ => contradiction

/-! ## Records -/

/-- Both values are there only if each of them is. -/
theorem Placed.and_eq_ok {x : Placed α} {y : Placed β} {a : α} {b : β}
    (h : x.and y = .ok (a, b)) : x = .ok a ∧ y = .ok b := by
  cases x with
  | ok c =>
    cases y with
    | ok d => simpa [Placed.and] using h
    | error e => contradiction
  | error e =>
    cases y with
    | ok d => contradiction
    | error e' =>
      simp only [Placed.and] at h
      split at h <;> contradiction

namespace Record

/-- Whatever is decoded from the fields, in either form, satisfies the predicate. -/
structure Yields (r : Record α) (P : α → Prop) : Prop where
  ofSlots : ∀ slots ending a, r.ofSlots slots ending = .ok a → P a
  ofItems : ∀ expected count is a rest, r.ofItems expected count is = .ok (a, rest) → P a

/-- Nothing is asked of what a record returns. -/
theorem yields_any (r : Record α) : r.Yields fun _ => True :=
  ⟨fun _ _ _ _ => trivial, fun _ _ _ _ _ _ => trivial⟩

/-- A field yields what its decoder yields, and the value to fall back on. -/
theorem Yields.field {d : Decoder α} (name : String) {fallback : Option α}
    (h : Manifest.Yields d P) (default : ∀ a ∈ fallback, P a) :
    (field name d fallback).Yields P where
  ofSlots slots ending a decoded := by
    simp only [Manifest.field] at decoded
    split at decoded
    · exact h _ a (mapError_eq_ok_iff.mp decoded)
    · next b _ =>
      obtain rfl : b = a := Except.ok.inj decoded
      exact default b rfl
    · contradiction
  ofItems expected count is a rest decoded := by
    cases is with
    | item first others =>
      obtain ⟨b, returned, same⟩ := exists_of_map_eq_ok decoded
      obtain ⟨rfl, -⟩ : b = a ∧ others = rest := by simpa using same
      exact h first b returned
    | cut b => contradiction
    | closed =>
      cases fallback with
      | none => contradiction
      | some b =>
        obtain ⟨rfl, -⟩ : b = a ∧ Items.closed = rest := by simpa [Manifest.field] using decoded
        exact default b rfl

theorem Yields.map {r : Record α} {f : α → β} (h : r.Yields P) (into : ∀ a, P a → Q (f a)) :
    (f <$> r).Yields Q where
  ofSlots slots ending b decoded := by
    obtain ⟨a, returned, rfl⟩ := exists_of_map_eq_ok decoded
    exact into a (h.ofSlots slots ending a returned)
  ofItems expected count is b rest decoded := by
    obtain ⟨⟨a, left⟩, returned, same⟩ := exists_of_map_eq_ok decoded
    obtain ⟨rfl, -⟩ : f a = b ∧ left = rest := by simpa using same
    exact into a (h.ofItems expected count is a left returned)

theorem Yields.seq {r : Record (α → β)} {s : Record α}
    (h : r.Yields fun f => ∀ a, P a → Q (f a)) (h' : s.Yields P) : (r <*> s).Yields Q where
  ofSlots slots ending b decoded := by
    obtain ⟨⟨f, a⟩, both, rfl⟩ := exists_of_map_eq_ok decoded
    obtain ⟨hf, ha⟩ := Placed.and_eq_ok both
    exact h.ofSlots slots ending f hf a (h'.ofSlots slots ending a ha)
  ofItems expected count is b rest decoded := by
    obtain ⟨⟨⟨f, a⟩, left⟩, both, same⟩ := exists_of_map_eq_ok decoded
    obtain ⟨rfl, -⟩ : f a = b ∧ left = rest := by simpa using same
    obtain ⟨⟨g, middle⟩, hf, both⟩ := exists_of_bind_eq_ok both
    obtain ⟨⟨c, last⟩, ha, both⟩ := exists_of_bind_eq_ok both
    cases both
    exact h.ofItems _ _ _ f middle hf a (h'.ofItems _ _ _ a _ ha)

/-- A record goes on with a field of which something is known. -/
theorem Yields.next {r : Record (α → β)} {d : Decoder α} {name : String} {fallback : Option α}
    (h' : Manifest.Yields d P) (default : ∀ a ∈ fallback, P a)
    (h : r.Yields fun f => ∀ a, P a → Q (f a)) : (r <*> Manifest.field name d fallback).Yields Q :=
  h.seq (Yields.field name h' default)

/-- A record starts with a field of which nothing is known. -/
theorem Yields.start {s : Record α} {f : α → β} (h : ∀ a, Q (f a)) : (f <$> s).Yields Q :=
  (yields_any s).map fun a _ => h a

/-- A record goes on with a field of which nothing is known. -/
theorem Yields.skip {r : Record (α → β)} {s : Record α} (h : r.Yields fun f => ∀ a, Q (f a)) :
    (r <*> s).Yields Q :=
  Yields.seq (P := fun _ => True) ⟨fun slots ending f hf a _ => h.ofSlots slots ending f hf a,
    fun expected count f is rest hf a _ => h.ofItems expected count f is rest hf a⟩ (yields_any s)

/-- What is decoded as a record satisfies what the fields yield. -/
theorem Yields.decode {r : Record α} (name : String) (h : r.Yields P) :
    Manifest.Yields (r.decode name) P := by
  intro node a decoded
  cases node with
  | object members =>
    simp only [Record.decode, Record.ofObject] at decoded
    split at decoded
    · next returned _ =>
      cases decoded
      exact h.ofSlots _ _ a returned
    all_goals first | contradiction | (split at decoded <;> contradiction)
  | array is =>
    obtain ⟨⟨b, left⟩, returned, ended⟩ := exists_of_bind_eq_ok decoded
    cases left with
    | closed =>
      obtain rfl : b = a := Except.ok.inj ended
      exact h.ofItems _ _ _ b _ returned
    | _ => contradiction
  | _ => contradiction

end Record

end VersionBump.Manifest
