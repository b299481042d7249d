import Mathlib.Data.List.Basic

/-!
# Decimal numbers in text

`std::stoi` and `std::to_string` of the C++ library, for base ten and a 32-bit `int`. `stoi`
skips spaces, takes one sign, and reads digits up to the first character that is none: what
follows the digits does not matter.

* `stoi_to_string` — a number that fits is read back;
* `to_string_inj` — different numbers have different texts.
-/

namespace Decimal

/-- What `std::stoi` throws. -/
inductive StoiError where
  | invalid_argument
  | out_of_range
  deriving DecidableEq, Repr

def intMin : Int := -0x80000000
def intMax : Int := 0x7FFFFFFF

/-- `isspace` in the C locale. -/
def isSpace (c : Char) : Bool := c = ' ' || ('\t' ≤ c && c ≤ '\r')

/-- The sign in front of the digits, and the rest. -/
def takeSign : List Char → Bool × List Char
  | [] => (false, [])
  | c :: rest =>
    if c = '-' then (true, rest) else if c = '+' then (false, rest) else (false, c :: rest)

/-- `std::stoi(text, nullptr, 10)`. -/
def stoi (text : List Char) : Except StoiError Int :=
  let signed := takeSign (text.dropWhile isSpace)
  let digits := signed.2.takeWhile Char.isDigit
  let magnitude : Int := Nat.ofDigitChars 10 digits 0
  let value := if signed.1 then -magnitude else magnitude
  if digits = [] then .error .invalid_argument
  else if value < intMin ∨ intMax < value then .error .out_of_range
  else .ok value

/-- `std::to_string`. -/
def to_string (n : Nat) : List Char := Nat.toDigits 10 n

variable {n : Nat}

theorem isDigit_to_string {c : Char} (hc : c ∈ to_string n) : c.isDigit = true :=
  Nat.isDigit_of_mem_toDigits (by decide) (by decide) hc

theorem to_string_ne_nil : to_string n ≠ [] := Nat.toDigits_ne_nil

theorem ofDigitChars_to_string : Nat.ofDigitChars 10 (to_string n) 0 = n :=
  Nat.ofDigitChars_ten_toDigits

/-- **Different numbers have different texts.** -/
theorem to_string_inj {m : Nat} : to_string m = to_string n ↔ m = n := by
  constructor
  · intro h
    rw [← ofDigitChars_to_string (n := m), h, ofDigitChars_to_string]
  · intro h
    rw [h]

/-- A digit is neither a space nor a sign. -/
theorem not_isSpace_of_isDigit {c : Char} (hc : c.isDigit = true) :
    isSpace c = false ∧ c ≠ '-' ∧ c ≠ '+' := by
  have hdigit : 48 ≤ c.toNat ∧ c.toNat ≤ 57 := by
    simpa [Char.isDigit, UInt32.le_iff_toNat_le] using hc
  refine ⟨?_, ?_, ?_⟩
  · have hblank : c ≠ ' ' := by
      rintro rfl
      exact absurd hdigit (by decide)
    have hcontrol : ¬ c ≤ '\r' := by
      intro hle
      have : c.toNat ≤ 13 := UInt32.le_iff_toNat_le.mp hle
      omega
    simp [isSpace, hblank, hcontrol]
  · rintro rfl
    exact absurd hdigit (by decide)
  · rintro rfl
    exact absurd hdigit (by decide)

/-- **A number is read back.** -/
theorem stoi_to_string (hfits : (n : Int) ≤ intMax) : stoi (to_string n) = .ok n := by
  obtain ⟨c, rest, htext⟩ := List.exists_cons_of_ne_nil (to_string_ne_nil (n := n))
  have hdigits : ∀ d ∈ c :: rest, d.isDigit = true := by
    intro d hd
    rw [← htext] at hd
    exact isDigit_to_string hd
  obtain ⟨hspace, hminus, hplus⟩ := not_isSpace_of_isDigit (hdigits c (List.mem_cons_self))
  have hread : takeSign ((c :: rest).dropWhile isSpace) = (false, c :: rest) := by
    rw [List.dropWhile_cons_of_neg (by simp [hspace])]
    simp only [takeSign, hminus, hplus, if_false]
  have htake : (c :: rest).takeWhile Char.isDigit = c :: rest := by
    rw [← List.append_nil (c :: rest), List.takeWhile_append_of_pos hdigits, List.takeWhile_nil]
  have hvalue : (Nat.ofDigitChars 10 (c :: rest) 0 : Int) = n := by
    rw [← htext, ofDigitChars_to_string]
  rw [htext]
  simp only [stoi, hread, htake, hvalue]
  rw [if_neg (List.cons_ne_nil c rest), if_neg]
  · simp
  · simp only [intMin]
    simp only [Bool.false_eq_true, if_false]
    omega

end Decimal
