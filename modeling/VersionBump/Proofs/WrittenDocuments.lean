import VersionBump.Proofs.WrittenTokens

/-!
# Reading written documents

A value is read as it was written, in whichever layout. The two layouts in use differ only in the
blanks between the tokens, and blanks are skipped, so both are cases of one way of writing that
leaves the blanks open.

* `Layout` is a choice of blanks, `Value.chars` writes a value with it; `chars_compact` and
  `chars_pretty` say that these are the layouts in use.
* `Value.toNode` is the tree that a written value is read into.
* `Document.read_chars` reads a written value, and nothing follows it; so different values are written
  differently, as `Value.pretty_injective` says of one layout.
* `Value.Fits` bounds the nesting and the numbers of a value; `readFault?_toNode` says that such a
  value is read whole without a complaint.
-/

namespace VersionBump.Json

/-! ## Layouts -/

/-- The blanks of a layout: those in front of an item or a closing bracket at a level, and those
behind a colon. -/
structure Layout where
  gap : Nat → List Char
  space : List Char
  gap_blank : ∀ level, ∀ c ∈ gap level, isBlank c
  space_blank : ∀ c ∈ space, isBlank c

namespace Layout

/-- The layout without blanks. -/
def compact : Layout := ⟨fun _ => [], [], by simp, by simp⟩

/-- The layout with one member per line. -/
def pretty : Layout where
  gap := Value.newLine
  space := [' ']
  gap_blank level c h := by
    obtain rfl | ⟨-, rfl⟩ : c = '\n' ∨ 2 * level ≠ 0 ∧ c = ' ' := by
      simpa [Value.newLine, List.mem_replicate] using h
    all_goals rfl
  space_blank := by simp [isBlank]

end Layout

namespace Value

mutual

/-- The characters of a value at a level in a layout. -/
def chars (l : Layout) (level : Nat) : Value → List Char
  | null => "null".toList
  | bool true => "true".toList
  | bool false => "false".toList
  | nat n => Nat.toDigits 10 n
  | string s => quoteChars s.toList
  | array [] => ['[', ']']
  | array (v :: vs) => '[' :: (l.gap (level + 1) ++ (chars l (level + 1) v ++ itemChars l level vs))
  | object [] => ['\x7b', '\x7d']
  | object ((k, v) :: ms) =>
    '\x7b' :: (l.gap (level + 1) ++ (quoteChars k.toList ++ ':' :: (l.space ++
      (chars l (level + 1) v ++ memberChars l level ms))))

/-- The characters of the items after the first, with the closing bracket. -/
def itemChars (l : Layout) (level : Nat) : List Value → List Char
  | [] => l.gap level ++ [']']
  | v :: vs => ',' :: (l.gap (level + 1) ++ (chars l (level + 1) v ++ itemChars l level vs))

/-- The characters of the members after the first, with the closing brace. -/
def memberChars (l : Layout) (level : Nat) : List (String × Value) → List Char
  | [] => l.gap level ++ ['\x7d']
  | (k, v) :: ms =>
    ',' :: (l.gap (level + 1) ++ (quoteChars k.toList ++ ':' :: (l.space ++
      (chars l (level + 1) v ++ memberChars l level ms))))

end

mutual

/-- The layout without blanks writes the compact text. -/
theorem chars_compact : ∀ (level : Nat) (v : Value), v.chars .compact level = v.compactChars
  | _, null => rfl
  | _, bool true => rfl
  | _, bool false => rfl
  | _, nat _ => rfl
  | _, string _ => rfl
  | _, array [] => rfl
  | level, array (v :: vs) => by
    simp [chars, compactChars, Layout.compact, ← chars_compact (level + 1) v,
      ← itemChars_compact level vs]
  | _, object [] => rfl
  | level, object ((k, v) :: ms) => by
    simp [chars, compactChars, Layout.compact, ← chars_compact (level + 1) v,
      ← memberChars_compact level ms]

theorem itemChars_compact : ∀ (level : Nat) (vs : List Value),
    itemChars .compact level vs = compactItems vs
  | _, [] => rfl
  | level, v :: vs => by
    simp [itemChars, compactItems, Layout.compact, ← chars_compact (level + 1) v,
      ← itemChars_compact level vs]

theorem memberChars_compact : ∀ (level : Nat) (ms : List (String × Value)),
    memberChars .compact level ms = compactMembers ms
  | _, [] => rfl
  | level, (k, v) :: ms => by
    simp [memberChars, compactMembers, Layout.compact, ← chars_compact (level + 1) v,
      ← memberChars_compact level ms]

end

mutual

/-- The layout with one member per line writes the indented text. -/
theorem chars_pretty : ∀ (level : Nat) (v : Value), v.chars .pretty level = v.prettyChars level
  | _, null => rfl
  | _, bool true => rfl
  | _, bool false => rfl
  | _, nat _ => rfl
  | _, string _ => rfl
  | _, array [] => rfl
  | level, array (v :: vs) => by
    simp [chars, prettyChars, Layout.pretty, ← chars_pretty (level + 1) v,
      ← itemChars_pretty level vs]
  | _, object [] => rfl
  | level, object ((k, v) :: ms) => by
    simp [chars, prettyChars, Layout.pretty, ← chars_pretty (level + 1) v,
      ← memberChars_pretty level ms]

theorem itemChars_pretty : ∀ (level : Nat) (vs : List Value),
    itemChars .pretty level vs = prettyItems level vs
  | _, [] => rfl
  | level, v :: vs => by
    simp [itemChars, prettyItems, Layout.pretty, ← chars_pretty (level + 1) v,
      ← itemChars_pretty level vs]

theorem memberChars_pretty : ∀ (level : Nat) (ms : List (String × Value)),
    memberChars .pretty level ms = prettyMembers level ms
  | _, [] => rfl
  | level, (k, v) :: ms => by
    simp [memberChars, prettyMembers, Layout.pretty, ← chars_pretty (level + 1) v,
      ← memberChars_pretty level ms]

end

/-! ## The tree of a written value -/

mutual

/-- The tree that a written value is read into. -/
def toNode : Value → Node
  | null => .null
  | bool b => .bool b
  | nat n => .number ⟨false, Nat.toDigits 10 n, none, none⟩
  | string s => .string (.ok s)
  | array vs => .array (toItems vs)
  | object ms => .object (toMembers ms)

/-- The items of a written list. -/
def toItems : List Value → Items
  | [] => .closed
  | v :: vs => .item (toNode v) (toItems vs)

/-- The members of a written object. -/
def toMembers : List (String × Value) → Members
  | [] => .closed
  | (k, v) :: ms => .member (.ok k) (toNode v) (toMembers ms)

end

/-- The first character of a written value is no blank and closes nothing. -/
theorem chars_start (l : Layout) (level : Nat) (v : Value) : ∃ c cs, v.chars l level = c :: cs ∧
    isBlank c = false ∧ c ≠ ']' := by
  cases v with
  | null => exact ⟨'n', _, rfl, rfl, by decide⟩
  | bool b => cases b <;> exact ⟨_, _, rfl, rfl, by decide⟩
  | nat n =>
    obtain ⟨d, ds, written, digit⟩ := toDigits_start n
    refine ⟨d, ds, written, isBlank_of_isDigit digit, ?_⟩
    rintro rfl
    simp at digit
  | string s => exact ⟨'"', _, rfl, rfl, by decide⟩
  | array vs => cases vs <;> exact ⟨'[', _, rfl, rfl, by decide⟩
  | object ms =>
    cases ms with
    | nil => exact ⟨'\x7b', _, rfl, rfl, by decide⟩
    | cons m ms => exact ⟨'\x7b', _, rfl, rfl, by decide⟩

end Value

/-! ## Reading -/

variable {l : Layout} {level : Nat}

theorem skipBlanks_append {b : List Char} (h : ∀ c ∈ b, isBlank c) (cs : List Char) :
    skipBlanks (b ++ cs) = skipBlanks cs :=
  List.dropWhile_append_of_pos h

theorem skipBlanks_chars (v : Value) (cs : List Char) :
    skipBlanks (v.chars l level ++ cs) = v.chars l level ++ cs := by
  obtain ⟨c, ds, start, noBlank, -⟩ := v.chars_start l level
  simp [skipBlanks, start, noBlank]

/-- Blanks in front of a value are skipped. -/
theorem readValue_append {b : List Char} (h : ∀ c ∈ b, isBlank c) (fuel : Nat) (cs : List Char) :
    readValue fuel (b ++ cs) = readValue fuel cs := by
  cases fuel with
  | zero => rfl
  | succ n => rw [readValue, readValue, skipBlanks_append h]

/-- A bracket opens a list. -/
theorem readValue_bracket (fuel : Nat) (cs : List Char) : readValue (fuel + 1) ('[' :: cs) =
    (.array (readItems fuel true cs).1, (readItems fuel true cs).2) :=
  rfl

/-- A brace opens an object. -/
theorem readValue_brace (fuel : Nat) (cs : List Char) : readValue (fuel + 1) ('\x7b' :: cs) =
    (.object (readMembers fuel true cs).1, (readMembers fuel true cs).2) :=
  rfl

/-- The first item of a list is read where it stands. -/
theorem readItems_first (v : Value) (n : Nat) (cs : List Char) :
    readItems (n + 1) true (l.gap level ++ (v.chars l level ++ cs)) =
      readItem n (v.chars l level ++ cs) := by
  obtain ⟨c, ds, start, -, noBracket⟩ := v.chars_start l level
  rw [readItems, skipBlanks_append (l.gap_blank level), skipBlanks_chars]
  simp [start, noBracket]

/-- Another item is read behind its comma. -/
theorem readItems_next (v : Value) (n : Nat) (cs : List Char) :
    readItems (n + 1) false (',' :: (l.gap level ++ (v.chars l level ++ cs))) =
      readItem n (v.chars l level ++ cs) := by
  obtain ⟨c, ds, start, -, noBracket⟩ := v.chars_start l level
  rw [readItems, show skipBlanks (',' :: (l.gap level ++ (v.chars l level ++ cs))) =
    ',' :: (l.gap level ++ (v.chars l level ++ cs)) from rfl]
  simp only [skipBlanks_append (l.gap_blank level), skipBlanks_chars]
  simp [start, noBracket]

/-- A list ends with its bracket. -/
theorem readItems_closed (start : Bool) (n : Nat) (cs : List Char) :
    readItems (n + 1) start (l.gap level ++ ']' :: cs) = (.closed, some cs) := by
  rw [readItems, skipBlanks_append (l.gap_blank level)]
  rfl

/-- The first key of an object is read where it stands. -/
theorem readMembers_first (n : Nat) (cs : List Char) :
    readMembers (n + 1) true (l.gap level ++ '"' :: cs) = readMember n cs := by
  rw [readMembers, skipBlanks_append (l.gap_blank level)]
  rfl

/-- Another key is read behind its comma. -/
theorem readMembers_next (n : Nat) (cs : List Char) :
    readMembers (n + 1) false (',' :: (l.gap level ++ '"' :: cs)) = readMember n cs := by
  rw [readMembers, show skipBlanks (',' :: (l.gap level ++ '"' :: cs)) =
    ',' :: (l.gap level ++ '"' :: cs) from rfl]
  simp only [skipBlanks_append (l.gap_blank level)]
  rfl

/-- An object ends with its brace. -/
theorem readMembers_closed (start : Bool) (n : Nat) (cs : List Char) :
    readMembers (n + 1) start (l.gap level ++ '\x7d' :: cs) = (.closed, some cs) := by
  rw [readMembers, skipBlanks_append (l.gap_blank level)]
  rfl

/-- A member is its key, its value and the members after it. -/
theorem readMember_of_read {k : String} {v : Node} {ms : Members} {cs mid rest : List Char}
    {n : Nat} (value : readValue n cs = (v, some mid))
    (members : readMembers n false mid = (ms, some rest)) :
    readMember (n + 1) (k.toList.flatMap escape ++ '"' :: ':' :: (l.space ++ cs)) =
      (.member (.ok k) v ms, some rest) := by
  rw [readMember, readText_escape]
  simp [skipBlanks, isBlank, readValue_append l.space_blank, value, members]

/-- An item is its value and the items after it. -/
theorem readItem_of_read {v : Node} {vs : Items} {cs mid rest : List Char}
    {n : Nat} (value : readValue n cs = (v, some mid))
    (items : readItems n false mid = (vs, some rest)) :
    readItem (n + 1) cs = (.item v vs, some rest) := by
  rw [readItem]
  simp [value, items]

/-- A number is read up to its last digit. -/
theorem readValue_nat (n fuel : Nat) {rest : List Char} (stop : EndsNumber rest) :
    readValue (fuel + 1) (Nat.toDigits 10 n ++ rest) = ((Value.nat n).toNode, some rest) := by
  have number := lexNumber_toDigits n stop
  obtain ⟨d, ds, written, digit⟩ := toDigits_start n
  have noBlank : isBlank d = false := isBlank_of_isDigit digit
  have noLetter : d ≠ '[' ∧ d ≠ '\x7b' ∧ d ≠ '"' ∧ d ≠ 'n' ∧ d ≠ 't' ∧ d ≠ 'f' := by
    refine ⟨?_, ?_, ?_, ?_, ?_, ?_⟩ <;> rintro rfl <;> simp at digit
  rw [written, List.cons_append] at number ⊢
  simp [readValue, skipBlanks, noBlank, readScalar, noLetter, digit, number, Value.toNode, written]

/-- A string is read up to its closing quote. -/
theorem readValue_string (s : String) (fuel : Nat) (rest : List Char) :
    readValue (fuel + 1) (quoteChars s.toList ++ rest) = ((Value.string s).toNode, some rest) := by
  rw [readValue, quoteChars, List.cons_append, List.append_assoc, List.singleton_append]
  simp [skipBlanks, isBlank, readScalar, readText_escape, Value.toNode]

/-- Neither a comma nor a blank nor a bracket continues a number. -/
theorem endsNumber_gap {c : Char} {rest : List Char} (h : EndsNumber [c]) :
    EndsNumber (l.gap level ++ c :: rest) := by
  cases blanks : l.gap level with
  | nil => exact fun d hd => h d hd
  | cons b bs =>
    have blank : isBlank b := l.gap_blank level b (by simp [blanks])
    intro d hd
    obtain rfl : b = d := by simpa using hd
    obtain ((rfl | rfl) | rfl) | rfl : ((b = ' ' ∨ b = '\n') ∨ b = '\t') ∨ b = '\r' := by
      simpa [isBlank] using blank
    all_goals decide

theorem endsNumber_itemChars (vs : List Value) (rest : List Char) :
    EndsNumber (Value.itemChars l level vs ++ rest) := by
  cases vs with
  | nil => simpa [Value.itemChars] using endsNumber_gap (by simp [EndsNumber])
  | cons v vs => simp [Value.itemChars, EndsNumber]

theorem endsNumber_memberChars (ms : List (String × Value)) (rest : List Char) :
    EndsNumber (Value.memberChars l level ms ++ rest) := by
  cases ms with
  | nil => simpa [Value.memberChars] using endsNumber_gap (by simp [EndsNumber])
  | cons m ms => simp [Value.memberChars, EndsNumber]

/-! The three readers call one another, so what they read is shown together, by recursion on the
value. An item costs three steps: one to reach it, one to begin it and one to read it. It is written
with at least one character besides those of its value, so three steps for each character suffice. -/

mutual

/-- A written value is read as its tree, and the text after it is left. -/
theorem readValue_chars : ∀ (v : Value) (level fuel : Nat) (rest : List Char),
    3 * (v.chars l level).length ≤ fuel → EndsNumber rest →
    readValue fuel (v.chars l level ++ rest) = (v.toNode, some rest)
  | v, level, 0, rest, h, _ => by
    -- No value is written with no characters, so there is a step for it.
    obtain ⟨c, cs, start, -⟩ := v.chars_start l level
    simp [start] at h
  | .null, _, _ + 1, _, _, _ => rfl
  | .bool true, _, _ + 1, _, _, _ => rfl
  | .bool false, _, _ + 1, _, _, _ => rfl
  | .nat n, _, fuel + 1, _, _, stop => readValue_nat n fuel stop
  | .string s, _, fuel + 1, rest, _, _ => readValue_string s fuel rest
  | .array [], _, fuel + 1, _, h, _ => by
    obtain ⟨n, rfl⟩ : ∃ n, fuel = n + 1 := ⟨fuel - 1, by simp [Value.chars] at h; omega⟩
    rfl
  | .array (v :: vs), level, fuel + 1, rest, h, _ => by
    simp only [Value.chars, List.length_cons, List.length_append] at h
    obtain ⟨n, rfl⟩ : ∃ n, fuel = n + 1 + 1 := ⟨fuel - 2, by omega⟩
    have value := readValue_chars v (level + 1) n (Value.itemChars l level vs ++ rest) (by omega)
      (endsNumber_itemChars vs rest)
    have items := readItems_chars vs level n rest (by omega)
    rw [Value.chars, List.cons_append, List.append_assoc, List.append_assoc, readValue_bracket,
      readItems_first, readItem_of_read value items]
    rfl
  | .object [], _, fuel + 1, _, h, _ => by
    obtain ⟨n, rfl⟩ : ∃ n, fuel = n + 1 := ⟨fuel - 1, by simp [Value.chars] at h; omega⟩
    rfl
  | .object ((k, v) :: ms), level, fuel + 1, rest, h, _ => by
    simp only [Value.chars, List.length_cons, List.length_append] at h
    obtain ⟨n, rfl⟩ : ∃ n, fuel = n + 1 + 1 := ⟨fuel - 2, by omega⟩
    have value := readValue_chars v (level + 1) n (Value.memberChars l level ms ++ rest) (by omega)
      (endsNumber_memberChars ms rest)
    have members := readMembers_chars ms level n rest (by omega)
    simp only [Value.chars, quoteChars, List.cons_append, List.append_assoc, List.nil_append]
    rw [readValue_brace, readMembers_first, readMember_of_read value members]
    rfl

/-- The written items after the first are read up to the closing bracket. -/
theorem readItems_chars : ∀ (vs : List Value) (level fuel : Nat) (rest : List Char),
    3 * (Value.itemChars l level vs).length ≤ fuel →
    readItems fuel false (Value.itemChars l level vs ++ rest) = (Value.toItems vs, some rest)
  | [], level, fuel, rest, h => by
    simp only [Value.itemChars, List.length_append, List.length_singleton] at h
    obtain ⟨n, rfl⟩ : ∃ n, fuel = n + 1 := ⟨fuel - 1, by omega⟩
    rw [Value.itemChars, List.append_assoc]
    exact readItems_closed false n rest
  | v :: vs, level, fuel, rest, h => by
    simp only [Value.itemChars, List.length_cons, List.length_append] at h
    obtain ⟨n, rfl⟩ : ∃ n, fuel = n + 1 + 1 := ⟨fuel - 2, by omega⟩
    have value := readValue_chars v (level + 1) n (Value.itemChars l level vs ++ rest) (by omega)
      (endsNumber_itemChars vs rest)
    have items := readItems_chars vs level n rest (by omega)
    rw [Value.itemChars, List.cons_append, List.append_assoc, List.append_assoc, readItems_next,
      readItem_of_read value items, Value.toItems]

/-- The written members after the first are read up to the closing brace. -/
theorem readMembers_chars : ∀ (ms : List (String × Value)) (level fuel : Nat) (rest : List Char),
    3 * (Value.memberChars l level ms).length ≤ fuel →
    readMembers fuel false (Value.memberChars l level ms ++ rest) = (Value.toMembers ms, some rest)
  | [], level, fuel, rest, h => by
    simp only [Value.memberChars, List.length_append, List.length_singleton] at h
    obtain ⟨n, rfl⟩ : ∃ n, fuel = n + 1 := ⟨fuel - 1, by omega⟩
    rw [Value.memberChars, List.append_assoc]
    exact readMembers_closed false n rest
  | (k, v) :: ms, level, fuel, rest, h => by
    simp only [Value.memberChars, List.length_cons, List.length_append] at h
    obtain ⟨n, rfl⟩ : ∃ n, fuel = n + 1 + 1 := ⟨fuel - 2, by omega⟩
    have value := readValue_chars v (level + 1) n (Value.memberChars l level ms ++ rest) (by omega)
      (endsNumber_memberChars ms rest)
    have members := readMembers_chars ms level n rest (by omega)
    simp only [Value.memberChars, quoteChars, List.cons_append, List.append_assoc, List.nil_append]
    rw [readMembers_next, readMember_of_read value members, Value.toMembers]

end

/-- A document that was written is read as the tree of its value, and nothing follows it. -/
theorem Document.read_chars (l : Layout) (v : Value) :
    Document.read (String.ofList (v.chars l 0)) = ⟨v.toNode, false⟩ := by
  have value : readValue (3 * ((v.chars l 0).length + 1)) (v.chars l 0) = (v.toNode, some []) := by
    simpa using readValue_chars v 0 (3 * ((v.chars l 0).length + 1)) [] (by omega)
      (by simp [EndsNumber])
  simp [Document.read, String.toList_ofList, value, skipBlanks]

/-- The compact text of a value is read as its tree. -/
theorem Document.read_compact (v : Value) : Document.read v.compact = ⟨v.toNode, false⟩ := by
  rw [Value.compact, ← Value.chars_compact 0 v, Document.read_chars]

/-- The indented text of a value is read as its tree. -/
theorem Document.read_pretty (v : Value) : Document.read v.pretty = ⟨v.toNode, false⟩ := by
  rw [Value.pretty, ← Value.chars_pretty 0 v, Document.read_chars]

namespace Value

mutual

/-- A tree tells which value was written. -/
theorem toNode_injective : ∀ {v w : Value}, v.toNode = w.toNode → v = w := by
  intro v w h
  cases v <;> cases w <;> simp only [toNode, reduceCtorEq] at h
  case null.null => rfl
  case bool.bool => exact congrArg bool (Node.bool.inj h)
  case nat.nat m n =>
    have hdigits : Nat.toDigits 10 m = Nat.toDigits 10 n := congrArg Number.whole (Node.number.inj h)
    rw [← Nat.ofDigitChars_ten_toDigits (n := m), hdigits, Nat.ofDigitChars_ten_toDigits]
  case string.string => exact congrArg string (Except.ok.inj (Node.string.inj h))
  case array.array => exact congrArg array (toItems_injective (Node.array.inj h))
  case object.object => exact congrArg object (toMembers_injective (Node.object.inj h))

/-- The items of a tree tell which list was written. -/
theorem toItems_injective : ∀ {vs ws : List Value}, toItems vs = toItems ws → vs = ws
  | [], [], _ => rfl
  | [], _ :: _, h => nomatch h
  | _ :: _, [], h => nomatch h
  | v :: vs, w :: ws, h => by
    obtain ⟨hfirst, hrest⟩ := Items.item.inj h
    rw [toNode_injective hfirst, toItems_injective hrest]

/-- The members of a tree tell which members were written. -/
theorem toMembers_injective : ∀ {ms ns : List (String × Value)}, toMembers ms = toMembers ns → ms = ns
  | [], [], _ => rfl
  | [], _ :: _, h => nomatch h
  | _ :: _, [], h => nomatch h
  | (k, v) :: ms, (l, w) :: ns, h => by
    obtain ⟨hkey, hvalue, hrest⟩ := Members.member.inj h
    rw [Except.ok.inj hkey, toNode_injective hvalue, toMembers_injective hrest]

end

/-- Different values are written differently. -/
theorem pretty_injective {v w : Value} (h : v.pretty = w.pretty) : v = w := by
  have hroot : (Document.read v.pretty).root = (Document.read w.pretty).root := by rw [h]
  rw [Document.read_pretty, Document.read_pretty] at hroot
  exact toNode_injective hroot

end Value

/-- The texts that are written for a value, one in each layout in use. -/
def Value.texts (v : Value) : List String := [v.compact, v.pretty]

/-- Whichever text is written for a value, it is read as its tree. -/
theorem Document.read_of_mem_texts {v : Value} {text : String} (h : text ∈ v.texts) :
    Document.read text = ⟨v.toNode, false⟩ := by
  simp only [Value.texts, List.mem_cons, List.not_mem_nil, or_false] at h
  obtain rfl | rfl := h
  · exact read_compact v
  · exact read_pretty v

/-! ## Values that are read whole -/

namespace Value

mutual

/-- Lists and objects are nested no deeper than there is room, and numbers fit 64 bits. -/
def Fits (room : Nat) : Value → Prop
  | null => True
  | bool _ => True
  | nat n => n ≤ maxNatural
  | string _ => True
  | array vs => 0 < room ∧ ItemsFit (room - 1) vs
  | object ms => 0 < room ∧ MembersFit (room - 1) ms

/-- All items fit the room. -/
def ItemsFit (room : Nat) : List Value → Prop
  | [] => True
  | v :: vs => Fits room v ∧ ItemsFit room vs

/-- All members fit the room. -/
def MembersFit (room : Nat) : List (String × Value) → Prop
  | [] => True
  | (_, v) :: ms => Fits room v ∧ MembersFit room ms

end

theorem itemsFit_iff {room : Nat} {vs : List Value} :
    ItemsFit room vs ↔ ∀ v ∈ vs, v.Fits room := by
  induction vs with
  | nil => simp [ItemsFit]
  | cons v vs ih => simp [ItemsFit, ih]

mutual

/-- A value that fits the room is read whole without a complaint. -/
theorem readFault?_toNode : ∀ {room : Nat} {v : Value}, v.Fits room →
    v.toNode.readFault? room = none
  | _, null, _ => rfl
  | _, bool _, _ => rfl
  | _, nat n, h => by
    rw [Fits] at h
    simp [toNode, Node.readFault?, numeric_toDigits h]
  | _, string _, _ => rfl
  | room, array vs, h => by
    rw [Fits] at h
    rw [toNode, Node.readFault?, if_neg (by omega), readFault?_toItems h.2]
  | room, object ms, h => by
    rw [Fits] at h
    rw [toNode, Node.readFault?, if_neg (by omega), readFault?_toMembers h.2]

theorem readFault?_toItems : ∀ {room : Nat} {vs : List Value}, ItemsFit room vs →
    (toItems vs).readFault? room = none
  | _, [], _ => rfl
  | _, v :: vs, h => by
    rw [ItemsFit] at h
    simp [toItems, Items.readFault?, readFault?_toNode h.1, readFault?_toItems h.2]

theorem readFault?_toMembers : ∀ {room : Nat} {ms : List (String × Value)}, MembersFit room ms →
    (toMembers ms).readFault? room = none
  | _, [], _ => rfl
  | _, (k, v) :: ms, h => by
    rw [MembersFit] at h
    simp [toMembers, Members.readFault?, textFault?, readFault?_toNode h.1,
      readFault?_toMembers h.2]

end

end Value

end VersionBump.Json
