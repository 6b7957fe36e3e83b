import Mathlib.Data.List.DropRight
import OperateBench.Foundation.Decimal

/-! # Decimals and their texts

A decimal with the sign that its zero may have, the fixed-point text that it is written as, and the
decimal that a text is read as.
-/

namespace Foundation

structure SignedDecimal where
  negative : Bool
  coefficient : ℕ
  exponent : ℤ
deriving DecidableEq, Repr

/-- What the constructor makes of a text. -/
inductive Constructed
  | finite (x : SignedDecimal)
  | infinite
  | nan
deriving DecidableEq

namespace SignedDecimal

def toDecimal (x : SignedDecimal) : Decimal :=
  ⟨if x.negative then -(x.coefficient : ℤ) else x.coefficient, x.exponent⟩

def value (x : SignedDecimal) : ℚ := x.toDecimal.value

/-- `Decimal(n)` -/
def ofInt (n : ℤ) : SignedDecimal := ⟨n < 0, n.natAbs, 0⟩

section Format

def signText (x : SignedDecimal) : List Char := if x.negative then ['-'] else []

def places (x : SignedDecimal) : ℕ := (-x.exponent).toNat

/-- The digits, with zeros in front up to the one before the point. -/
def padded (x : SignedDecimal) : List Char :=
  let digits := Nat.toDigits 10 x.coefficient
  List.replicate (x.places + 1 - digits.length) '0' ++ digits

/-- `format(x, "f")`: a zero loses the zeros that its exponent stands for. -/
def formatFixed (x : SignedDecimal) : List Char :=
  if 0 ≤ x.exponent then
    x.signText ++ (Nat.toDigits 10 x.coefficient ++
      List.replicate (if x.coefficient = 0 then 0 else x.exponent.toNat) '0')
  else
    x.signText ++ (x.padded.take (x.padded.length - x.places) ++
      '.' :: x.padded.drop (x.padded.length - x.places))

end Format

section Parse

def exponentOf : List Char → Option ℤ
  | [] => some 0
  | mark :: rest =>
    let digits := if rest.head? = some '-' ∨ rest.head? = some '+' then rest.tail else rest
    if (mark = 'e' ∨ mark = 'E') ∧ digits ≠ [] ∧ digits.all Char.isDigit then
      let magnitude : ℤ := Nat.ofDigitChars 10 digits 0
      some (if rest.head? = some '-' then -magnitude else magnitude)
    else none

def special (text : List Char) : Option Constructed :=
  let lower := text.map Char.toLower
  if lower = "inf".toList ∨ lower = "infinity".toList then some .infinite
  else
    let quiet := if lower.head? = some 's' then lower.tail else lower
    if quiet.take 3 = "nan".toList ∧ (quiet.drop 3).all Char.isDigit then some .nan else none

def ofUnsigned (negative : Bool) (text : List Char) : Option Constructed :=
  let int := text.takeWhile Char.isDigit
  let rest := text.dropWhile Char.isDigit
  let pointed : Bool := rest.head? = some '.'
  let behind := if pointed then rest.tail else []
  let fraction := behind.takeWhile Char.isDigit
  let tail := if pointed then behind.dropWhile Char.isDigit else rest
  if int = [] ∧ fraction = [] then special text
  else (exponentOf tail).map fun exponent => .finite
    { negative
      coefficient := Nat.ofDigitChars 10 (int ++ fraction) 0
      exponent := exponent - fraction.length }

/-- `Decimal(text)`; none where the syntax is invalid. -/
def ofText (text : List Char) : Option Constructed :=
  let stripped := (text.dropWhile Char.isWhitespace).rdropWhile Char.isWhitespace
  let plain := stripped.filter (· ≠ '_')
  if plain.head? = some '-' then ofUnsigned true plain.tail
  else if plain.head? = some '+' then ofUnsigned false plain.tail
  else ofUnsigned false plain

end Parse

section Parts

variable {x : SignedDecimal}

/-- The digits in front of the point. -/
def wholeText (x : SignedDecimal) : List Char :=
  if 0 ≤ x.exponent then Nat.toDigits 10 x.coefficient ++
    List.replicate (if x.coefficient = 0 then 0 else x.exponent.toNat) '0'
  else x.padded.take (x.padded.length - x.places)

/-- The digits behind the point. -/
def fractionText (x : SignedDecimal) : List Char :=
  if 0 ≤ x.exponent then [] else x.padded.drop (x.padded.length - x.places)

theorem formatFixed_eq : x.formatFixed =
    x.signText ++ (x.wholeText ++ if 0 ≤ x.exponent then [] else '.' :: x.fractionText) := by
  rw [formatFixed, wholeText, fractionText]
  split
  · rw [List.append_nil]
  · rfl

theorem places_lt_padded : x.places < x.padded.length := by
  rw [padded, List.length_append, List.length_replicate]
  have := @Nat.length_toDigits_pos 10 x.coefficient
  omega

theorem isDigit_padded {c : Char} (h : c ∈ x.padded) : c.isDigit := by
  rw [padded, List.mem_append] at h
  rcases h with h | h
  · rw [List.eq_of_mem_replicate h]
    rfl
  · exact Nat.isDigit_of_mem_toDigits (by decide) (by decide) h

theorem isDigit_wholeText {c : Char} (h : c ∈ x.wholeText) : c.isDigit := by
  rw [wholeText] at h
  split at h
  · rcases List.mem_append.mp h with h | h
    · exact Nat.isDigit_of_mem_toDigits (by decide) (by decide) h
    · rw [List.eq_of_mem_replicate h]
      rfl
  · exact isDigit_padded (List.mem_of_mem_take h)

theorem isDigit_fractionText {c : Char} (h : c ∈ x.fractionText) : c.isDigit := by
  rw [fractionText] at h
  split at h
  · cases h
  · exact isDigit_padded (List.mem_of_mem_drop h)

theorem wholeText_ne_nil : x.wholeText ≠ [] := by
  rw [wholeText]
  split
  · exact List.append_ne_nil_of_left_ne_nil Nat.toDigits_ne_nil _
  · have := @places_lt_padded x
    rw [← List.length_pos_iff, List.length_take]
    omega

theorem length_fractionText : x.fractionText.length = x.places := by
  have := @places_lt_padded x
  rw [fractionText]
  split
  · rw [places]
    simp
    omega
  · rw [List.length_drop]
    omega

/-- All digits together are the coefficient, with the zeros of a positive exponent. -/
theorem ofDigitChars_parts : Nat.ofDigitChars 10 (x.wholeText ++ x.fractionText) 0 =
    x.coefficient * 10 ^ x.exponent.toNat := by
  rw [wholeText, fractionText]
  split
  · rw [List.append_nil, Nat.ofDigitChars_append, Nat.ofDigitChars_ten_toDigits,
      Nat.ofDigitChars_replicate_zero]
    split
    · rename_i h0
      simp [h0]
    · exact Nat.mul_comm _ _
  · rename_i hneg
    rw [List.take_append_drop, padded, Nat.ofDigitChars_append, Nat.ofDigitChars_replicate_zero,
      Nat.mul_zero, Nat.ofDigitChars_ten_toDigits, Int.toNat_of_nonpos (by omega), pow_zero,
      Nat.mul_one]

/-- The same amount with one more zero. -/
def rescaled (x : SignedDecimal) : SignedDecimal :=
  ⟨x.negative, x.coefficient * 10, x.exponent - 1⟩

theorem toDigits_mul_ten {c : ℕ} (hc : c ≠ 0) :
    Nat.toDigits 10 (c * 10) = Nat.toDigits 10 c ++ ['0'] := by
  have happend := Nat.toDigits_append_toDigits (by decide : 1 < 10) (Nat.pos_of_ne_zero hc)
    (by decide : 0 < 10)
  rw [Nat.mul_comm c 10]
  exact happend.symm

theorem padded_rescaled (hc : x.coefficient ≠ 0) (he : x.exponent ≤ 0) :
    x.rescaled.padded = x.padded ++ ['0'] := by
  have hplaces : x.rescaled.places = x.places + 1 := by
    simp only [places, rescaled]
    omega
  have hdigits : Nat.toDigits 10 x.rescaled.coefficient = Nat.toDigits 10 x.coefficient ++ ['0'] :=
    toDigits_mul_ten hc
  simp only [padded]
  rw [hplaces, hdigits, List.length_append, List.length_singleton, ← List.append_assoc]
  congr 3
  omega

theorem parts_of_nonpos (he : x.exponent ≤ 0) :
    x.wholeText = x.padded.take (x.padded.length - x.places) ∧
      x.fractionText = x.padded.drop (x.padded.length - x.places) := by
  rw [wholeText, fractionText]
  split
  · have hzero : x.exponent = 0 := by omega
    have hplaces : x.places = 0 := by
      rw [places, hzero]
      rfl
    have hdigits := @Nat.length_toDigits_pos 10 x.coefficient
    have hpadded : x.padded = Nat.toDigits 10 x.coefficient := by
      rw [padded, hplaces, show 0 + 1 - (Nat.toDigits 10 x.coefficient).length = 0 by omega]
      rfl
    rw [hpadded, hplaces, hzero, Nat.sub_zero, List.take_length, List.drop_length]
    simp
  · exact ⟨rfl, rfl⟩

theorem parts_rescaled (hc : x.coefficient ≠ 0) : x.rescaled.wholeText = x.wholeText ∧
    (x.rescaled.fractionText = x.fractionText ∨
      x.rescaled.fractionText = x.fractionText ++ ['0']) := by
  by_cases hpos : 1 ≤ x.exponent
  · have h0 : 0 ≤ x.exponent := by omega
    have h1 : 0 ≤ x.rescaled.exponent := Int.sub_nonneg_of_le hpos
    have hc' : x.rescaled.coefficient ≠ 0 := Nat.mul_ne_zero hc (by decide)
    have hsucc : x.exponent.toNat = x.rescaled.exponent.toNat + 1 := by
      simp only [rescaled]
      omega
    constructor
    · rw [wholeText, wholeText, if_pos h0, if_pos h1, if_neg hc, if_neg hc', hsucc,
        List.replicate_succ, rescaled, toDigits_mul_ten hc, List.append_assoc]
      rfl
    · rw [fractionText, fractionText, if_pos h0, if_pos h1]
      exact .inl rfl
  · have he : x.exponent ≤ 0 := by omega
    have he' : x.rescaled.exponent ≤ 0 := by
      simp only [rescaled]
      omega
    have hplaces : x.rescaled.places = x.places + 1 := by
      simp only [places, rescaled]
      omega
    have hlength : x.padded.length + 1 - (x.places + 1) = x.padded.length - x.places := by omega
    have hle : x.padded.length - x.places ≤ x.padded.length := Nat.sub_le _ _
    obtain ⟨hw, hf⟩ := parts_of_nonpos he
    obtain ⟨hw', hf'⟩ := parts_of_nonpos he'
    rw [hw, hf, hw', hf', padded_rescaled hc he, hplaces, List.length_append, List.length_singleton,
      hlength, List.take_append_of_le_length hle, List.drop_append_of_le_length hle]
    exact ⟨rfl, .inr rfl⟩

end Parts

section Values

variable {x y : SignedDecimal}

theorem abs_value (x : SignedDecimal) : |x.value| = x.coefficient * 10 ^ x.exponent := by
  rw [value, Decimal.value, abs_mul, abs_of_pos (Decimal.scale_pos _), toDecimal]
  congr 1
  cases x.negative
  · simp
  · simp

theorem value_eq_zero : x.value = 0 ↔ x.coefficient = 0 := by
  rw [← abs_eq_zero, abs_value, mul_eq_zero, or_iff_left (Decimal.scale_pos _).ne', Nat.cast_eq_zero]

/-- Equal amounts of one sign differ by zeros at the end only. -/
theorem eq_scaled (h : x.value = y.value) (hs : x.negative = y.negative)
    (he : y.exponent ≤ x.exponent) : y =
      ⟨x.negative, x.coefficient * 10 ^ (x.exponent - y.exponent).toNat,
        x.exponent - (x.exponent - y.exponent).toNat⟩ := by
  have habs : (x.coefficient : ℚ) * 10 ^ x.exponent = y.coefficient * 10 ^ y.exponent := by
    rw [← abs_value, ← abs_value, h]
  have hsplit : x.exponent = ((x.exponent - y.exponent).toNat : ℤ) + y.exponent := by omega
  have hc : y.coefficient = x.coefficient * 10 ^ (x.exponent - y.exponent).toNat := by
    rw [hsplit, zpow_add₀ (by norm_num), ← mul_assoc, zpow_natCast] at habs
    have := mul_right_cancel₀ (Decimal.scale_pos y.exponent).ne' habs
    exact_mod_cast this.symm
  obtain ⟨n, c, e⟩ := y
  simp only [SignedDecimal.mk.injEq]
  refine ⟨hs.symm, hc, ?_⟩
  simp only at hsplit he
  omega

end Values

end SignedDecimal

end Foundation
