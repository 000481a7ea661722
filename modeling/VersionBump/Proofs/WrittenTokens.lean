import VersionBump.Json.Document
import VersionBump.Json.Value

/-!
# Reading written tokens

Strings and numbers are read as they were written, whatever text follows them. A string is written
with escapes for the characters that may not stand in it, and each escape is read as the one
character it stands for. A number has no end of its own: it is read to the first character that
cannot be part of it.

* `Json.readText_escape` reads a written string, `Json.lexNumber_toDigits` a written number.
* `Json.numeric_toDigits` gives the value of a written number that fits 64 bits.
-/

namespace VersionBump.Json

/-! ## Strings -/

/-- The characters that are escaped by a single letter. -/
def lettered : List Char := ['"', '\\', '\x08', '\x0c', '\n', '\r', '\t']

/-- The letter of an escape leads back to the character. -/
theorem escape_lettered {c : Char} (h : c ∈ lettered) :
    ∃ d, escape c = ['\\', d] ∧ shortEscape? d = some c := by
  simp only [lettered, List.mem_cons, List.not_mem_nil, or_false] at h
  rcases h with rfl | rfl | rfl | rfl | rfl | rfl | rfl <;> exact ⟨_, rfl, rfl⟩

/-- Other characters stand for themselves unless they are control characters. -/
theorem escape_unlettered {c : Char} (h : c ∉ lettered) :
    escape c =
      if c.toNat < 0x20 then
        ['\\', 'u', '0', '0', Nat.digitChar (c.toNat / 16), Nat.digitChar (c.toNat % 16)]
      else [c] := by
  simp only [lettered, List.mem_cons, List.not_mem_nil, or_false, not_or] at h
  simp only [escape, beq_iff_eq, h, if_false]

/-- The digits of the escape of a control character are read as one number. -/
theorem hexEscape_control {n : Nat} (h : n < 0x20) (cs : List Char) :
    hexEscape (['0', '0', Nat.digitChar (n / 16), Nat.digitChar (n % 16)] ++ cs) = .ok (n, cs) := by
  have fourBytes : ∀ m < 0x20, ¬ (String.ofList
      ['0', '0', Nat.digitChar (m / 16), Nat.digitChar (m % 16)]).utf8ByteSize < 4 := by decide
  have digits : ∀ m < 0x20, ['0', '0', Nat.digitChar (m / 16), Nat.digitChar (m % 16)].mapM
      Text.hexValue? = some [0, 0, m / 16, m % 16] := by decide
  have value : Text.ofDigits 16 [0, 0, n / 16, n % 16] = n := by
    simp only [Text.ofDigits, List.foldl]
    omega
  unfold hexEscape
  rw [show (['0', '0', Nat.digitChar (n / 16), Nat.digitChar (n % 16)] ++ cs).take 4 =
    ['0', '0', Nat.digitChar (n / 16), Nat.digitChar (n % 16)] from rfl]
  rw [if_neg (fourBytes n h), digits n h]
  simp [value]

/-- What is written for a character: the character itself, which is then none of those that end or
break a string, or an escape that is read back as the character. -/
theorem escape_cases (c : Char) :
    (escape c = [c] ∧ c ≠ '"' ∧ c ≠ '\\' ∧ ¬ c.toNat < 0x20) ∨
    ∃ es, escape c = '\\' :: es ∧
      ∀ cs, readEscape (es ++ cs) = .ok (c, cs) ∧ skipEscape (es ++ cs) = .ok cs := by
  by_cases short : c ∈ lettered
  · obtain ⟨d, written, back⟩ := escape_lettered short
    exact .inr ⟨[d], written, fun cs => by simp [readEscape, skipEscape, back]⟩
  · rw [escape_unlettered short]
    by_cases control : c.toNat < 0x20
    · refine .inr ⟨_, if_pos control, fun cs => ?_⟩
      have digits := hexEscape_control control cs
      -- Control characters lie far below the surrogates, so the escape stands on its own.
      have noSurrogate : ¬ 0xDC00 ≤ c.toNat ∧ ¬ 0xD800 ≤ c.toNat := by omega
      simp only [List.cons_append, List.nil_append] at digits ⊢
      constructor
      · simp [readEscape, show shortEscape? 'u' = none from rfl, digits, noSurrogate,
          Char.ofNat_toNat, bind, Except.bind, pure, Except.pure]
      · simp [skipEscape, show shortEscape? 'u' = none from rfl, digits, Except.map]
    · refine .inl ⟨if_neg control, ?_, ?_, control⟩ <;> rintro rfl <;> exact short (by decide)

/-- A written string is read back, whatever follows its closing quote. -/
theorem readStringFrom_escape (s rest : List Char) (fuel : Nat)
    (h : (s.flatMap escape).length < fuel) :
    readStringFrom fuel (s.flatMap escape ++ '"' :: rest) = .ok (s, rest) := by
  induction s generalizing fuel with
  | nil =>
    obtain ⟨n, rfl⟩ : ∃ n, fuel = n + 1 := ⟨fuel - 1, by omega⟩
    simp [readStringFrom]
  | cons c s ih =>
    obtain ⟨n, rfl⟩ : ∃ n, fuel = n + 1 := ⟨fuel - 1, by omega⟩
    rw [List.flatMap_cons, List.length_append] at h
    rw [List.flatMap_cons, List.append_assoc]
    -- One step reads either the character itself or the whole escape for it.
    obtain ⟨plain, noQuote, noSlash, noControl⟩ | ⟨es, written, back⟩ := escape_cases c
    · rw [plain] at h ⊢
      have := ih n (by rw [List.length_cons] at h; omega)
      simp [readStringFrom, noQuote, noSlash, noControl, this, bind, Except.bind, pure, Except.pure]
    · rw [written] at h ⊢
      have := ih n (by rw [List.length_cons] at h; omega)
      simp [readStringFrom, (back _).1, this, bind, Except.bind, pure, Except.pure]

/-- A written string is skipped up to its closing quote. -/
theorem skipStringFrom_escape (s rest : List Char) (fuel : Nat)
    (h : (s.flatMap escape).length < fuel) :
    skipStringFrom fuel (s.flatMap escape ++ '"' :: rest) = .ok rest := by
  induction s generalizing fuel with
  | nil =>
    obtain ⟨n, rfl⟩ : ∃ n, fuel = n + 1 := ⟨fuel - 1, by omega⟩
    simp [skipStringFrom]
  | cons c s ih =>
    obtain ⟨n, rfl⟩ : ∃ n, fuel = n + 1 := ⟨fuel - 1, by omega⟩
    rw [List.flatMap_cons, List.length_append] at h
    rw [List.flatMap_cons, List.append_assoc]
    obtain ⟨plain, noQuote, noSlash, noControl⟩ | ⟨es, written, back⟩ := escape_cases c
    · rw [plain] at h ⊢
      have := ih n (by rw [List.length_cons] at h; omega)
      simpa [skipStringFrom, noQuote, noSlash, noControl] using this
    · rw [written] at h ⊢
      have := ih n (by rw [List.length_cons] at h; omega)
      simpa [skipStringFrom, (back _).2, bind, Except.bind] using this

/-- What is read behind the opening quote of a written string. -/
theorem readText_escape (s : String) (rest : List Char) :
    readText (s.toList.flatMap escape ++ '"' :: rest) = .ok (.ok s, rest) := by
  have enough : (s.toList.flatMap escape).length <
      (s.toList.flatMap escape ++ '"' :: rest).length + 1 := by
    rw [List.length_append]
    omega
  rw [readText, skipString, readString, skipStringFrom_escape _ _ _ enough,
    readStringFrom_escape _ _ _ enough]
  simp [Except.map]

/-! ## Numbers -/

/-- Whether a number that is written in front of the text ends there. -/
def EndsNumber (rest : List Char) : Prop :=
  ∀ c ∈ rest.head?, c.isDigit = false ∧ c ≠ '.' ∧ c ≠ 'e' ∧ c ≠ 'E'

/-- A digit is no blank. -/
theorem isBlank_of_isDigit {c : Char} (h : c.isDigit) : isBlank c = false := by
  have : c ≠ ' ' ∧ c ≠ '\n' ∧ c ≠ '\t' ∧ c ≠ '\r' := by
    refine ⟨?_, ?_, ?_, ?_⟩ <;> rintro rfl <;> simp at h
  simp [isBlank, this]

/-- A written number starts with a digit. -/
theorem toDigits_start (n : Nat) : ∃ d ds, Nat.toDigits 10 n = d :: ds ∧ d.isDigit := by
  cases written : Nat.toDigits 10 n with
  | nil => exact absurd written Nat.toDigits_ne_nil
  | cons d ds =>
    have mem : d ∈ Nat.toDigits 10 n := by simp [written]
    exact ⟨d, ds, rfl, Nat.isDigit_of_mem_toDigits (by decide) (by decide) mem⟩

/-- Only zero is written with a leading zero. -/
theorem head?_toDigits {n : Nat} (h : 0 < n) : (Nat.toDigits 10 n).head? ≠ some '0' := by
  induction n using Nat.strongRecOn with
  | ind n ih =>
    by_cases one : n < 10
    · have : ∀ m < 10, 0 < m → (Nat.toDigits 10 m).head? ≠ some '0' := by decide
      exact this n one h
    · -- All digits but the last one are those of a tenth, which is no zero either.
      have tenth := ih (n / 10) (by omega) (by omega)
      rw [Nat.toDigits_of_base_le (by decide) (by omega)]
      obtain ⟨d, ds, written, -⟩ := toDigits_start (n / 10)
      simpa [written] using tenth

/-- All digits in front of a text that starts with none are taken. -/
theorem lexDigits_append {digits rest : List Char} (all : ∀ c ∈ digits, c.isDigit)
    (some : digits ≠ []) (stop : EndsNumber rest) :
    lexDigits (digits ++ rest) = .ok (digits, rest) := by
  have taken : rest.takeWhile Char.isDigit = [] := by
    cases rest with
    | nil => rfl
    | cons c cs => simp [(stop c rfl).1]
  have left : rest.dropWhile Char.isDigit = rest := by
    cases rest with
    | nil => rfl
    | cons c cs => simp [(stop c rfl).1]
  simp [lexDigits, List.takeWhile_append_of_pos all, List.dropWhile_append_of_pos all, taken, left,
    some]

/-- A written number is read up to its last digit. -/
theorem lexNumber_toDigits (n : Nat) {rest : List Char} (stop : EndsNumber rest) :
    lexNumber (Nat.toDigits 10 n ++ rest) =
      .ok (⟨false, Nat.toDigits 10 n, none, none⟩, rest) := by
  have all : ∀ c ∈ Nat.toDigits 10 n, c.isDigit := fun c hc =>
    Nat.isDigit_of_mem_toDigits (by decide) (by decide) hc
  have noZero : ¬ ((Nat.toDigits 10 n).head? = some '0' ∧ 1 < (Nat.toDigits 10 n).length) := by
    by_cases zero : n = 0
    · subst zero; decide
    · exact fun h => head?_toDigits (by omega) h.1
  have noFraction : lexFraction rest = .ok (none, rest) := by
    cases rest with
    | nil => rfl
    | cons c cs => simp [lexFraction, (stop c rfl).2.1]
  have noExponent : lexExponent rest = .ok (none, rest) := by
    cases rest with
    | nil => rfl
    | cons c cs => simp [lexExponent, (stop c rfl).2.2]
  have unsigned : lexUnsigned false (Nat.toDigits 10 n ++ rest) =
      .ok (⟨false, Nat.toDigits 10 n, none, none⟩, rest) := by
    simp [lexUnsigned, lexDigits_append all Nat.toDigits_ne_nil stop, noZero, noFraction,
      noExponent, bind, Except.bind, pure, Except.pure]
  obtain ⟨d, ds, written, digit⟩ := toDigits_start n
  have noMinus : d ≠ '-' := by
    rintro rfl
    simp at digit
  simpa [lexNumber, noMinus, written] using unsigned

/-- The value of a written number that fits 64 bits. -/
theorem numeric_toDigits {n : Nat} (h : n ≤ maxNatural) :
    Number.numeric ⟨false, Nat.toDigits 10 n, none, none⟩ = .ok (.natural n) := by
  have value : digitsValue (Nat.toDigits 10 n) = n := by
    have := Nat.ofDigitChars_ten_toDigits (n := n)
    rw [Nat.ofDigitChars_eq_foldl] at this
    simpa [digitsValue, Nat.mul_comm] using this
  simp [Number.numeric, value, Nat.not_lt.mpr h]

end VersionBump.Json
