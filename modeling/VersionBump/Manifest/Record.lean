import VersionBump.Manifest.Decoder

/-!
# Decoding records

A record is written as an object with named fields or as a list of its fields in the order of their
declaration. One description of the fields serves both forms.

In an object fields may come in any order, so every field is decoded with the place of its member,
and of several complaints the one with the first place is made. Fields that are not known are
skipped, and a missing field is noticed at the end of the object.

* `required`, `defaulted` and `maybe` describe single fields.
* `Record.map` and `Record.and` put descriptions together.
* `Record.decode` decodes both forms.
-/

namespace VersionBump.Manifest

open Json

/-- A member of an object whose key is known, with its place. -/
structure Slot where
  place : Nat
  key : String
  value : Node

/-- A value, or a complaint with the place in the object where it arises. -/
abbrev Placed (α : Type) := Except (Nat × DecodeError) α

/-- Both values, or the complaint with the first place. -/
def Placed.and {α β : Type} : Placed α → Placed β → Placed (α × β)
  | .ok a, .ok b => .ok (a, b)
  | .error e, .ok _ => .error e
  | .ok _, .error e => .error e
  | .error e, .error e' => if e'.1 < e.1 then .error e' else .error e

/-- A description of fields. `ofSlots` gets the known members of an object and the place of its end;
`ofItems` gets the words for the whole record, the number of items before and the items left. -/
structure Record (α : Type) where
  names : List String
  ofSlots : List Slot → Nat → Placed α
  ofItems : String → Nat → Items → Except DecodeError (α × Items)

/-- A field; without a value to fall back on it must be there. -/
def field {α : Type} (name : String) (d : Decoder α) (fallback : Option α) : Record α where
  names := [name]
  ofSlots slots ending :=
    match slots.find? (·.key = name), fallback with
    | some slot, _ => (d slot.value).mapError (slot.place, ·)
    | none, some a => .ok a
    | none, none => .error (ending, .data (.missingField name))
  ofItems expected count
    | .item first rest => (d first).map (·, rest)
    | .cut b => .error (.form b.read)
    | .closed =>
      match fallback with
      | some a => .ok (a, .closed)
      | none => .error (.data (.invalidLength count expected))

/-- A field that must be there. -/
def required {α : Type} (name : String) (d : Decoder α) : Record α := field name d none

/-- A field with a value for the case that it is missing. -/
def defaulted {α : Type} (name : String) (d : Decoder α) (a : α) : Record α := field name d (some a)

/-- A field that may be null or missing. -/
def maybe {α : Type} (name : String) (d : Decoder α) : Record (Option α) :=
  defaulted name (optional d) none

namespace Record

/-- The record with its value changed. -/
def map {α β : Type} (f : α → β) (r : Record α) : Record β where
  names := r.names
  ofSlots slots ending := (r.ofSlots slots ending).map f
  ofItems expected count is := (r.ofItems expected count is).map fun (a, rest) => (f a, rest)

/-- The fields of one record followed by those of another. -/
def and {α β : Type} (r : Record α) (s : Record β) : Record (α × β) where
  names := r.names ++ s.names
  ofSlots slots ending := Placed.and (r.ofSlots slots ending) (s.ofSlots slots ending)
  ofItems expected count is := do
    let (a, rest) ← r.ofItems expected count is
    let (b, rest) ← s.ofItems expected (count + r.names.length) rest
    return ((a, b), rest)

/-- A record that makes a function, applied to the record after it. -/
def apply {α β : Type} (r : Record (α → β)) (s : Record α) : Record β :=
  (r.and s).map fun (f, a) => f a

instance : Functor Record := ⟨map, fun b => map fun _ => b⟩
instance : Seq Record := ⟨fun r s => r.apply (s ())⟩

/-- What an object holds for a record: the known members, and the complaint about the object itself
with its place. -/
structure Gathered where
  slots : List Slot
  ending : Nat
  complaint : Option (Nat × DecodeError)

/-- Gathers the members of an object from a place on. `slots` are the known members before it. -/
def gather (names : List String) (slots : List Slot) (place : Nat) : Members → Gathered
  | .closed => ⟨slots, place, none⟩
  | .cut b => ⟨slots, place, some (place, .form b.read)⟩
  | .keyless _ => ⟨slots, place, some (place, .form .keyNotString)⟩
  | .member (.error e) _ _ => ⟨slots, place, some (place, .form e)⟩
  | .member (.ok key) value rest =>
    -- A known field is decoded later, in the order of the members; only its place is noted here.
    if key ∈ names then
      if slots.any (·.key = key) then
        ⟨slots, place, some (place, .data (.duplicateField key))⟩
      else gather names (slots ++ [⟨place, key, value⟩]) (place + 1) rest
    else
      -- A field that is not known must still have a form.
      match value.skipFault? with
      | some e => ⟨slots, place, some (place, .form e)⟩
      | none => gather names slots (place + 1) rest

/-- The record that an object holds, or the first complaint about it. -/
def ofObject {α : Type} (r : Record α) (members : Members) : Except DecodeError α :=
  let g := gather r.names [] 0 members
  -- The fields and the object may both be at fault; what stands first in the text is said.
  match r.ofSlots g.slots g.ending, g.complaint with
  | .ok a, none => .ok a
  | .ok _, some (_, e) => .error e
  | .error (_, e), none => .error e
  | .error (place, e), some (place', e') => if place < place' then .error e else .error e'

/-- The words for a record with the number of its fields. -/
def expectation {α : Type} (r : Record α) (name : String) : String :=
  name ++ " with " ++ VersionBump.Text.ofNat r.names.length ++
    if r.names.length = 1 then " element" else " elements"

/-- The end of a list that holds a record. -/
def closeItems {α : Type} : α × Items → Except DecodeError α
  | (a, .closed) => .ok a
  | (_, .cut b) => .error (.form b.closing)
  | (_, .item _ _) => .error (.form .trailingCharacters)

/-- Decodes an object or a list as a record of the given name. -/
def decode {α : Type} (r : Record α) (name : String) : Decoder α
  | .object members => r.ofObject members
  | .array is => do closeItems (← r.ofItems (r.expectation name) 0 is)
  | node => .error (mismatch name node)

end Record

end VersionBump.Manifest
