/-!
# Reading UTF-8

Bytes are read as UTF-8; what is no well-formed sequence becomes the replacement character, one for
each longest beginning of a sequence.

* `Utf8.decode` reads any bytes.
* `Utf8.decode?` accepts well-formed bytes only.
-/

namespace VersionBump.Text.Utf8

/-- What the bytes after the first may look like: how many there are, and the range of the first of
them. -/
structure Lead where
  length : Nat
  low : Nat := 0x80
  high : Nat := 0xBF
  bits : Nat

/-- The shape of the sequence that a byte starts, if it starts one of several bytes. -/
def lead? (b : Nat) : Option Lead :=
  if 0xC2 ≤ b && b ≤ 0xDF then some { length := 1, bits := b - 0xC0 }
  else if b == 0xE0 then some { length := 2, low := 0xA0, bits := 0 }
  else if b == 0xED then some { length := 2, high := 0x9F, bits := 0xD }
  else if 0xE1 ≤ b && b ≤ 0xEF then some { length := 2, bits := b - 0xE0 }
  else if b == 0xF0 then some { length := 3, low := 0x90, bits := 0 }
  else if 0xF1 ≤ b && b ≤ 0xF3 then some { length := 3, bits := b - 0xF0 }
  else if b == 0xF4 then some { length := 3, high := 0x8F, bits := 4 }
  else none

/-- Reads up to `count` further bytes of a sequence. The answer is the number of bytes that fit, and
the code point if all of them do. -/
def follow (count low high bits : Nat) : List Nat → Nat × Option Nat
  | bytes =>
    match count with
    | 0 => (0, some bits)
    | count + 1 =>
      match bytes with
      | [] => (0, none)
      | b :: rest =>
        if low ≤ b && b ≤ high then
          let (used, code) := follow count 0x80 0xBF (bits * 64 + (b - 0x80)) rest
          (used + 1, code)
        else (0, none)

/-- Reads one character: how many bytes it takes, and the character unless the bytes are malformed.
-/
def step (b : Nat) (rest : List Nat) : Nat × Option Char :=
  if b < 0x80 then (1, some (Char.ofNat b))
  else
    match lead? b with
    | none => (1, none)
    | some l =>
      let (used, code) := follow l.length l.low l.high l.bits rest
      (used + 1, code.map Char.ofNat)

/-- The characters of the bytes, `none` for each malformed part. Every step uses up a byte, so the
number of bytes bounds the steps. -/
def steps : Nat → List Nat → List (Option Char)
  | 0, _ => []
  | _ + 1, [] => []
  | fuel + 1, b :: rest =>
    let (used, c) := step b rest
    c :: steps fuel (rest.drop (used - 1))

/-- The text of the bytes, with the replacement character for each malformed part. -/
def decode (bytes : ByteArray) : String :=
  let ns := bytes.toList.map UInt8.toNat
  String.ofList ((steps ns.length ns).map (·.getD '\uFFFD'))

/-- The text of well-formed bytes. -/
def decode? (bytes : ByteArray) : Option String :=
  let ns := bytes.toList.map UInt8.toNat
  ((steps ns.length ns).mapM id).map String.ofList

end VersionBump.Text.Utf8
