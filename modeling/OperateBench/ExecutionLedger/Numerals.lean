import Mathlib.Data.List.TakeWhile
import OperateBench.ExecutionLedger.Tail

/-! # The number scan and the grammar

Each part of the scan reads one part of a number and hands over to the next. What it returns is
related to the texts that are that part, the parts behind it, and then anything that may follow a
number.
-/

namespace OperateBench.ExecutionLedger.Tail

open Foundation Foundation.Json

variable {K L : Text → Prop} {w rest : Text} {c : CodePoint}

def Ascii (w : Text) : Prop := ∀ c ∈ w, c < 0x80

theorem Ascii.nil : Ascii [] := nofun

theorem ascii_cons {c : CodePoint} {w : Text} : Ascii (c :: w) ↔ c < 0x80 ∧ Ascii w :=
  List.forall_mem_cons

theorem Ascii.append {a b : Text} (ha : Ascii a) (hb : Ascii b) : Ascii (a ++ b) := by
  intro c hc
  rcases List.mem_append.mp hc with hc | hc
  · exact ha c hc
  · exact hb c hc

def Delimiter (c : CodePoint) : Prop :=
  Space c ∨ c = valueSeparator ∨ c = endArray ∨ c = endObject

section Parts

def DigitsThen (L : Text → Prop) (w : Text) : Prop := ∃ d b, w = d ++ b ∧ Digits d ∧ L b

def ExponentThen (K : Text → Prop) (w : Text) : Prop :=
  ∃ e b, w = e ++ b ∧ (e = [] ∨ Exponent e) ∧ K b

def FractionThen (K : Text → Prop) (w : Text) : Prop :=
  ∃ f b, w = f ++ b ∧ (f = [] ∨ Fraction f) ∧ ExponentThen K b

def IntegralThen (K : Text → Prop) (w : Text) : Prop :=
  ∃ i b, w = i ++ b ∧ Integral i ∧ FractionThen K b

def NumeralThen (K : Text → Prop) (w : Text) : Prop := ∃ n b, w = n ++ b ∧ Numeral n ∧ K b

/-- The texts are not empty and begin with what may follow a number. -/
def Delimited (K : Text → Prop) : Prop := ∀ w, K w → ∃ c r, w = c :: r ∧ Delimiter c

/-- No text begins with a digit. -/
def NoDigit (L : Text → Prop) : Prop := ∀ c w, L (c :: w) → ¬Digit c

theorem digit_lt (h : Digit c) : c < 0x80 :=
  Nat.lt_of_le_of_lt h.2 (by decide : (0x39 : CodePoint) < 0x80)

theorem delimiter_not_digit (h : Delimiter c) : ¬Digit c := by
  rcases h with (rfl | rfl | rfl | rfl) | rfl | rfl | rfl <;> decide

theorem Delimited.noDigit (h : Delimited K) : NoDigit K := by
  intro c w hk
  obtain ⟨d, r, hd, hdelim⟩ := h _ hk
  rw [(List.cons.inj hd).1]
  exact delimiter_not_digit hdelim

theorem exponentMark_not_digit (h : ExponentMark c) : ¬Digit c := by
  rcases h with rfl | rfl <;> decide

theorem NoDigit.exponent (h : NoDigit K) : NoDigit (ExponentThen K) := by
  rintro c w ⟨e, b, hw, rfl | ⟨m, sign, digits, rfl, hm, -⟩, hb⟩
  · exact h c w (hw ▸ hb)
  · rw [(List.cons.inj hw).1]
    exact exponentMark_not_digit hm

theorem NoDigit.fraction (h : NoDigit K) : NoDigit (FractionThen K) := by
  rintro c w ⟨f, b, hw, rfl | ⟨digits, rfl, -⟩, hb⟩
  · exact h.exponent c w (hw ▸ hb)
  · rw [(List.cons.inj hw).1]
    decide

theorem dropWhile_digits {d b : Text} (hd : ∀ c ∈ d, Digit c)
    (hb : ∀ c r, b = c :: r → ¬Digit c) : (d ++ b).dropWhile (fun c => Digit c) = b := by
  rw [List.dropWhile_append_of_pos (by simpa using hd)]
  cases b with
  | nil => rfl
  | cons c r => rw [List.dropWhile_cons_of_neg (by simpa using hb c r rfl)]

theorem takeWhile_digits (w : Text) : ∀ c ∈ w.takeWhile (fun c => Digit c), Digit c := by
  intro c hc
  simpa using List.mem_takeWhile_imp hc

theorem digitsThen_cons (hL : NoDigit L) :
    DigitsThen L (c :: w) ↔ Digit c ∧ L (w.dropWhile fun d => Digit d) := by
  constructor
  · rintro ⟨d, b, hw, ⟨hne, hd⟩, hb⟩
    cases d with
    | nil => exact absurd rfl hne
    | cons x d =>
      rw [List.cons_append, List.cons.injEq] at hw
      obtain ⟨rfl, rfl⟩ := hw
      refine ⟨hd c List.mem_cons_self, ?_⟩
      rw [dropWhile_digits (fun y hy => hd y (List.mem_cons_of_mem _ hy))
        (fun y r hr => hL y r (hr ▸ hb))]
      exact hb
  · rintro ⟨hc, hb⟩
    refine ⟨c :: w.takeWhile (fun d => Digit d), w.dropWhile fun d => Digit d, ?_, ?_, hb⟩
    · rw [List.cons_append, List.takeWhile_append_dropWhile]
    · constructor
      · exact List.cons_ne_nil _ _
      · intro x hx
        rcases List.mem_cons.mp hx with rfl | hx
        · exact hc
        · exact takeWhile_digits w x hx

theorem exponentThen_mark (hK : Delimited K) (hc : ExponentMark c) :
    ExponentThen K (c :: w) ↔ ∃ sign b, w = sign ++ b ∧
      (sign = [] ∨ sign = [minus] ∨ sign = [plus]) ∧ DigitsThen K b := by
  constructor
  · rintro ⟨e, b, hw, rfl | ⟨m, sign, digits, rfl, -, hs, hd⟩, hb⟩
    · obtain ⟨d, r, hd, hdelim⟩ := hK b hb
      rw [List.nil_append, hd] at hw
      obtain ⟨rfl, -⟩ := List.cons.inj hw
      rcases hc with rfl | rfl <;> exact absurd hdelim (by unfold Delimiter; decide)
    · obtain ⟨-, rfl⟩ := List.cons.inj hw
      exact ⟨sign, digits ++ b, by simp, hs, digits, b, rfl, hd, hb⟩
  · rintro ⟨sign, b, rfl, hs, digits, b, rfl, hd, hb⟩
    exact ⟨c :: (sign ++ digits), b, by simp, .inr ⟨c, sign, digits, rfl, hc, hs, hd⟩, hb⟩

theorem exponentThen_other (hc : ¬ExponentMark c) : ExponentThen K (c :: w) ↔ K (c :: w) := by
  constructor
  · rintro ⟨e, b, hw, rfl | ⟨m, sign, digits, rfl, hm, -⟩, hb⟩
    · exact hw ▸ hb
    · obtain ⟨rfl, -⟩ := List.cons.inj hw
      exact absurd hm hc
  · intro h
    exact ⟨[], _, rfl, .inl rfl, h⟩

theorem fractionThen_point (hK : Delimited K) :
    FractionThen K (decimalPoint :: w) ↔ DigitsThen (ExponentThen K) w := by
  constructor
  · rintro ⟨f, b, hw, rfl | ⟨digits, rfl, hd⟩, hb⟩
    · rw [List.nil_append] at hw
      rw [← hw, exponentThen_other (by decide)] at hb
      obtain ⟨d, r, hd, hdelim⟩ := hK _ hb
      rw [← (List.cons.inj hd).1] at hdelim
      exact absurd hdelim (by unfold Delimiter; decide)
    · obtain ⟨-, rfl⟩ := List.cons.inj hw
      exact ⟨digits, b, rfl, hd, hb⟩
  · rintro ⟨digits, b, rfl, hd, hb⟩
    exact ⟨decimalPoint :: digits, b, rfl, .inr ⟨digits, rfl, hd⟩, hb⟩

theorem fractionThen_other (hc : c ≠ decimalPoint) :
    FractionThen K (c :: w) ↔ ExponentThen K (c :: w) := by
  constructor
  · rintro ⟨f, b, hw, rfl | ⟨digits, rfl, -⟩, hb⟩
    · exact hw ▸ hb
    · exact absurd (List.cons.inj hw).1 hc
  · intro h
    exact ⟨[], _, rfl, .inl rfl, h⟩

theorem integralThen_zero : IntegralThen K (zero :: w) ↔ FractionThen K w := by
  constructor
  · rintro ⟨i, b, hw, rfl | ⟨d, digits, rfl, hd, -⟩, hb⟩
    · exact (List.cons.inj hw).2 ▸ hb
    · rw [← (List.cons.inj hw).1] at hd
      exact absurd hd (by decide)
  · intro h
    exact ⟨[zero], w, rfl, .inl rfl, h⟩

theorem integralThen_digit (hK : NoDigit K) (hc : DigitOneNine c) :
    IntegralThen K (c :: w) ↔ FractionThen K (w.dropWhile fun d => Digit d) := by
  constructor
  · rintro ⟨i, b, hw, rfl | ⟨d, digits, rfl, -, hd⟩, hb⟩
    · rw [(List.cons.inj hw).1] at hc
      exact absurd hc (by decide)
    · rw [List.cons_append, List.cons.injEq] at hw
      obtain ⟨-, rfl⟩ := hw
      rw [dropWhile_digits hd (fun y r hr => hK.fraction y r (hr ▸ hb))]
      exact hb
  · intro h
    refine ⟨c :: w.takeWhile (fun d => Digit d), _, ?_, .inr ⟨c, _, rfl, hc, takeWhile_digits w⟩, h⟩
    rw [List.cons_append, List.takeWhile_append_dropWhile]

theorem integralThen_other (hz : c ≠ zero) (hc : ¬DigitOneNine c) :
    ¬IntegralThen K (c :: w) := by
  rintro ⟨i, b, hw, rfl | ⟨d, digits, rfl, hd, -⟩, -⟩
  · exact hz (List.cons.inj hw).1
  · rw [← (List.cons.inj hw).1] at hd
    exact hc hd

theorem numeralThen_iff : NumeralThen K w ↔
    ∃ sign b, w = sign ++ b ∧ (sign = [] ∨ sign = [minus]) ∧ IntegralThen K b := by
  constructor
  · rintro ⟨n, b, rfl, ⟨sign, int, frac, exp, rfl, hs, hi, hf, he⟩, hb⟩
    exact ⟨sign, _, by simp only [List.append_assoc], hs, int, _, rfl, hi, frac, _, rfl, hf, exp,
      b, rfl, he, hb⟩
  · rintro ⟨sign, b, rfl, hs, int, b, rfl, hi, frac, b, rfl, hf, exp, b, rfl, he, hb⟩
    exact ⟨_, b, by simp only [List.append_assoc], ⟨sign, int, frac, exp, rfl, hs, hi, hf, he⟩, hb⟩

theorem numeralThen_minus : NumeralThen K (minus :: w) ↔ IntegralThen K w := by
  rw [numeralThen_iff]
  constructor
  · rintro ⟨sign, b, hw, rfl | rfl, hb⟩
    · rw [List.nil_append] at hw
      exact absurd (hw ▸ hb) (integralThen_other (by decide) (by decide))
    · exact (List.cons.inj hw).2 ▸ hb
  · intro h
    exact ⟨[minus], w, rfl, .inr rfl, h⟩

theorem numeralThen_other (hc : c ≠ minus) :
    NumeralThen K (c :: w) ↔ IntegralThen K (c :: w) := by
  rw [numeralThen_iff]
  constructor
  · rintro ⟨sign, b, hw, rfl | rfl, hb⟩
    · exact hw ▸ hb
    · exact absurd (List.cons.inj hw).1 hc
  · intro h
    exact ⟨[], _, rfl, .inl rfl, h⟩

end Parts

section Scanning

/-- What a scan returns says of the texts that begin with what it read. `L` is read by the scan
and `K` follows the number. -/
def Scans (K L : Text → Prop) (w : Text) : NumberScan → Prop
  | .refused => ∀ s, ¬L (w ++ s)
  | .cut => ∃ d, Ascii d ∧ ∀ b, K b → L (w ++ (d ++ b))
  | .ended rest => (∀ s, K (rest ++ s) → L (w ++ s)) ∧
      (rest ≠ [] → ∀ s, L (w ++ s) → K (rest ++ s))

theorem ascii_singleton (h : c < 0x80) : Ascii [c] := ascii_cons.mpr ⟨h, nofun⟩

theorem Scans.ended (w : Text) : Scans K K w (.ended w) := ⟨fun _ h => h, fun _ _ h => h⟩

theorem afterNumber_scans (hK : Delimited K) : Scans K K w (afterNumber w) := by
  cases w with
  | nil => exact Scans.ended []
  | cons c w =>
    rw [afterNumber]
    split
    · exact Scans.ended (c :: w)
    · rename_i hc
      intro s hs
      obtain ⟨d, r, hd, hdelim⟩ := hK _ hs
      rw [List.cons_append, List.cons.injEq] at hd
      exact hc (hd.1 ▸ hdelim)

theorem dropWhile_head (w : Text) (h : w.dropWhile (fun d => Digit d) = c :: rest) : ¬Digit c := by
  have hhead := List.head_dropWhile_not (fun d => decide (Digit d)) (l := w) (by simp [h])
  simpa [h] using hhead

/-- A scan behind digits that were read already. -/
theorem digits_scans {next : Text → NumberScan} (hL : NoDigit L)
    (hnext : ∀ v, (∀ c r, v = c :: r → ¬Digit c) → Scans K L v (next v))
    (hlength : ∀ v rest, next v = .ended rest → rest.length ≤ v.length) :
    Scans K (fun u => L (u.dropWhile fun d => Digit d)) w
      (next (w.dropWhile fun d => Digit d)) := by
  have hscans := hnext _ (fun c r => dropWhile_head w)
  have hshorter := hlength (w.dropWhile fun d => Digit d)
  generalize hv : w.dropWhile (fun d => Digit d) = v at hscans hshorter
  have happend (s : Text) : (w ++ s).dropWhile (fun d => Digit d) =
      if v = [] then s.dropWhile (fun d => Digit d) else v ++ s := by
    rw [List.dropWhile_append, hv]
    simp only [List.isEmpty_iff]
  -- digits behind the end of the text belong to the digits before it
  have hdrop (s : Text) (h : L (v ++ s)) : L ((w ++ s).dropWhile fun d => Digit d) := by
    rw [happend]
    split
    · rename_i hnil
      rw [hnil, List.nil_append] at h
      cases s with
      | nil => exact h
      | cons c s => rwa [List.dropWhile_cons_of_neg (by simpa using hL c s h)]
    · exact h
  generalize next v = r at hscans hshorter
  cases r with
  | refused =>
    intro s hs
    rw [happend] at hs
    split at hs
    · rename_i hnil
      subst hnil
      exact hscans _ hs
    · exact hscans s hs
  | cut =>
    obtain ⟨d, hd, hcut⟩ := hscans
    exact ⟨d, hd, fun b hb => hdrop (d ++ b) (hcut b hb)⟩
  | ended rest =>
    constructor
    · intro s hs
      exact hdrop s (hscans.1 s hs)
    · intro hrest s hs
      have hne : v ≠ [] := by
        rintro rfl
        exact hrest (List.length_eq_zero_iff.mp (Nat.le_zero.mp (hshorter rest rfl)))
      rw [happend, if_neg hne] at hs
      exact hscans.2 hrest s hs

/-- What a scan says carries over to texts with more before them. -/
theorem Scans.cons {K' : Text → Prop} {scanned : NumberScan} (h : Scans K L w scanned)
    (hL : ∀ s, K' (c :: (w ++ s)) ↔ L (w ++ s)) : Scans K K' (c :: w) scanned := by
  cases scanned with
  | refused =>
    intro s hs
    exact h s ((hL s).mp hs)
  | cut =>
    obtain ⟨d, hd, hcut⟩ := h
    exact ⟨d, hd, fun b hb => (hL _).mpr (hcut b hb)⟩
  | ended rest =>
    constructor
    · intro s hs
      exact (hL s).mpr (h.1 s hs)
    · intro hrest s hs
      exact h.2 hrest s ((hL s).mp hs)

theorem scanDigits_scans {next : Text → NumberScan} (hL : NoDigit L)
    (hnext : ∀ v, (∀ c r, v = c :: r → ¬Digit c) → Scans K L v (next v))
    (hlength : ∀ v rest, next v = .ended rest → rest.length ≤ v.length)
    (hcut : ∃ d, Ascii d ∧ ∀ b, K b → L (d ++ b)) :
    Scans K (DigitsThen L) w (scanDigits next w) := by
  cases w with
  | nil =>
    obtain ⟨d, hd, hb⟩ := hcut
    refine ⟨zero :: d, ascii_cons.mpr ⟨by decide, hd⟩, ?_⟩
    · intro b hK
      refine ⟨[zero], d ++ b, rfl, ⟨List.cons_ne_nil _ _, ?_⟩, hb b hK⟩
      intro c hc
      rw [List.mem_singleton.mp hc]
      decide
  | cons c w =>
    rw [scanDigits]
    split
    · rename_i hc
      apply (digits_scans hL hnext hlength).cons
      intro s
      rw [digitsThen_cons hL, and_iff_right hc]
    · rename_i hc
      intro s hs
      rw [List.cons_append, digitsThen_cons hL] at hs
      exact hc hs.1

theorem exponentThen_of (h : K w) : ExponentThen K w := ⟨[], w, rfl, .inl rfl, h⟩

theorem fractionThen_of (h : K w) : FractionThen K w := ⟨[], w, rfl, .inl rfl, exponentThen_of h⟩

/-- A scan of what is not an exponent or a fraction is a scan of what follows. -/
theorem Scans.weaken {K' : Text → Prop} {scanned : NumberScan} (h : Scans K L w scanned)
    (hL : ∀ s, K' (w ++ s) ↔ L (w ++ s)) : Scans K K' w scanned := by
  cases scanned with
  | refused =>
    intro s hs
    exact h s ((hL s).mp hs)
  | cut =>
    obtain ⟨d, hd, hcut⟩ := h
    exact ⟨d, hd, fun b hb => (hL _).mpr (hcut b hb)⟩
  | ended rest =>
    constructor
    · intro s hs
      exact (hL s).mpr (h.1 s hs)
    · intro hrest s hs
      exact h.2 hrest s ((hL s).mp hs)

theorem afterDigits_scans (hK : Delimited K) : Scans K (DigitsThen K) w (scanDigits afterNumber w) := by
  apply scanDigits_scans hK.noDigit
  · intro v _
    exact afterNumber_scans hK
  · intro v rest h
    rw [afterNumber_length h]
  · exact ⟨[], nofun, fun b hb => hb⟩

theorem scanExponent_scans (hK : Delimited K) : Scans K (ExponentThen K) w (scanExponent w) := by
  cases w with
  | nil => exact ⟨fun s hs => exponentThen_of hs, fun h => absurd rfl h⟩
  | cons c w =>
    by_cases hc : ExponentMark c
    · cases w with
      | nil =>
        have hscan : scanExponent [c] = .cut := by simp only [scanExponent, if_pos hc]
        rw [hscan]
        refine ⟨[zero], ascii_singleton (by decide), ?_⟩
        intro b hb
        refine (exponentThen_mark hK hc).mpr ⟨[], [zero] ++ b, rfl, .inl rfl, [zero], b, rfl, ?_, hb⟩
        refine ⟨List.cons_ne_nil _ _, ?_⟩
        intro d hd
        rw [List.mem_singleton.mp hd]
        decide
      | cons sign digits =>
        have hscan : scanExponent (c :: sign :: digits) =
            if sign = plus ∨ sign = minus then scanDigits afterNumber digits
            else scanDigits afterNumber (sign :: digits) := by
          simp only [scanExponent, if_pos hc]
        rw [hscan]
        split
        · rename_i hs
          have hsigned : Scans K (fun u => ExponentThen K (c :: u)) (sign :: digits)
              (scanDigits afterNumber digits) := by
            apply (afterDigits_scans hK).cons
            intro s
            rw [exponentThen_mark hK hc]
            constructor
            · rintro ⟨sign', b, hw, rfl | rfl | rfl, hb⟩
              · rw [List.nil_append] at hw
                rw [← hw, digitsThen_cons hK.noDigit] at hb
                rcases hs with rfl | rfl <;> exact absurd hb.1 (by decide)
              · exact (List.cons.inj hw).2 ▸ hb
              · exact (List.cons.inj hw).2 ▸ hb
            · intro hb
              rcases hs with rfl | rfl
              · exact ⟨[plus], _, rfl, .inr (.inr rfl), hb⟩
              · exact ⟨[minus], _, rfl, .inr (.inl rfl), hb⟩
          apply hsigned.cons
          intro s
          rfl
        · rename_i hs
          apply (afterDigits_scans hK).cons
          intro s
          rw [exponentThen_mark hK hc]
          constructor
          · rintro ⟨sign', b, hw, rfl | rfl | rfl, hb⟩
            · exact hw ▸ hb
            · exact absurd (.inr (List.cons.inj hw).1) hs
            · exact absurd (.inl (List.cons.inj hw).1) hs
          · intro hb
            exact ⟨[], _, rfl, .inl rfl, hb⟩
    · have hscan : scanExponent (c :: w) = afterNumber (c :: w) := by
        simp only [scanExponent, if_neg hc]
      rw [hscan]
      apply (afterNumber_scans hK).weaken
      intro s
      exact exponentThen_other hc

theorem scanFraction_scans (hK : Delimited K) : Scans K (FractionThen K) w (scanFraction w) := by
  cases w with
  | nil => exact ⟨fun s hs => fractionThen_of hs, fun h => absurd rfl h⟩
  | cons c w =>
    rw [scanFraction]
    split
    · rename_i hc
      subst hc
      have hdigits : Scans K (DigitsThen (ExponentThen K)) w (scanDigits scanExponent w) := by
        apply scanDigits_scans hK.noDigit.exponent
        · intro v _
          exact scanExponent_scans hK
        · intro v rest
          exact scanExponent_length
        · exact ⟨[], by rintro _ ⟨⟩, fun b hb => exponentThen_of hb⟩
      apply hdigits.cons
      intro s
      exact fractionThen_point hK
    · rename_i hc
      apply (scanExponent_scans hK).weaken
      intro s
      exact fractionThen_other hc

theorem scanIntegral_scans (hK : Delimited K) : Scans K (IntegralThen K) w (scanIntegral w) := by
  cases w with
  | nil =>
    exact ⟨[zero], ascii_singleton (by decide), fun b hb => integralThen_zero.mpr (fractionThen_of hb)⟩
  | cons c w =>
    rw [scanIntegral]
    split
    · rename_i hc
      subst hc
      split
      · rename_i hdigit
        intro s hs
        cases w with
        | nil => cases hdigit
        | cons d w =>
          have hd : Digit d := by simpa using hdigit
          exact hK.noDigit.fraction d (w ++ s) (integralThen_zero.mp hs) hd
      · apply (scanFraction_scans hK).cons
        intro s
        exact integralThen_zero
    · rename_i hz
      split
      · rename_i hc
        have hdigits : Scans K (fun u => FractionThen K (u.dropWhile fun d => Digit d)) w
            (scanFraction (w.dropWhile fun d => Digit d)) := by
          apply digits_scans hK.noDigit.fraction
          · intro v _
            exact scanFraction_scans hK
          · intro v rest
            exact scanFraction_length
        apply hdigits.cons
        intro s
        exact integralThen_digit hK.noDigit hc
      · rename_i hc
        intro s
        exact integralThen_other hz hc

/-- The number scan reads the number that the grammar reads. -/
theorem scanNumber_scans (hK : Delimited K) : Scans K (NumeralThen K) w (scanNumber w) := by
  cases w with
  | nil =>
    obtain ⟨d, hd, hcut⟩ := scanIntegral_scans (w := []) hK
    refine ⟨d, hd, ?_⟩
    intro b hb
    exact numeralThen_iff.mpr ⟨[], _, rfl, .inl rfl, hcut b hb⟩
  | cons c w =>
    rw [scanNumber]
    split
    · rename_i hc
      subst hc
      apply (scanIntegral_scans hK).cons
      intro s
      exact numeralThen_minus
    · rename_i hc
      apply (scanIntegral_scans hK).weaken
      intro s
      exact numeralThen_other hc

end Scanning

end OperateBench.ExecutionLedger.Tail
