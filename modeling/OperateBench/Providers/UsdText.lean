import OperateBench.Foundation.SignedDecimal
import OperateBench.Providers.Telemetry

/-! # The text of an amount

Every amount is reported by one rendering: fixed point, without the zeros at the end of the
fraction. Two amounts have the same text exactly when they are the same number with the same sign.
-/

namespace OperateBench.Providers

open Foundation

namespace SignedAmount

/-- The rendering, of decimals that may be a negative zero. -/
def usdText (amount : SignedDecimal) : List Char :=
  let text := amount.formatFixed
  let text :=
    if '.' ∈ text then (text.rdropWhile (· = '0')).rdropWhile (· = '.') else text
  if text = [] then ['0'] else text

/-- The fraction without the zeros at its end. -/
def shortFraction (x : SignedDecimal) : List Char := x.fractionText.rdropWhile (· = '0')

/-- A fraction behind its point. -/
def pointed (fraction : List Char) : List Char := if fraction = [] then [] else '.' :: fraction

section Canonical

variable {x y : SignedDecimal}

theorem not_point_of_isDigit {c : Char} (h : c.isDigit) : c ≠ '.' := by
  rintro rfl
  exact absurd h (by decide)

/-- Zeros are dropped behind the point only. -/
theorem rdropWhile_pointed (l r : List Char) :
    (l ++ '.' :: r).rdropWhile (· = '0') = l ++ '.' :: r.rdropWhile (· = '0') := by
  induction r using List.reverseRecOn with
  | nil =>
    rw [List.rdropWhile_nil, List.rdropWhile_concat_neg _ _ _ (by decide)]
  | append_singleton r c ih =>
    rw [← List.cons_append, ← List.append_assoc]
    by_cases hc : c = '0'
    · rw [List.rdropWhile_concat_pos _ _ _ (by simpa using hc),
        List.rdropWhile_concat_pos _ _ _ (by simpa using hc), ih]
    · rw [List.rdropWhile_concat_neg _ _ _ (by simpa using hc),
        List.rdropWhile_concat_neg _ _ _ (by simpa using hc), List.append_assoc]
      rfl

theorem rdropWhile_digits (l : List Char) {r : List Char} (hne : r ≠ [])
    (hr : ∀ c ∈ r, c.isDigit) : (l ++ r).rdropWhile (· = '.') = l ++ r := by
  obtain ⟨r, c, rfl⟩ := List.eq_nil_or_concat r |>.resolve_left hne
  rw [List.concat_eq_append, ← List.append_assoc]
  apply List.rdropWhile_concat_neg
  simpa using not_point_of_isDigit (hr c (by simp))

theorem isDigit_shortFraction {c : Char} (h : c ∈ shortFraction x) : c.isDigit :=
  SignedDecimal.isDigit_fractionText ((List.rdropWhile_prefix _ _).subset h)

theorem usdText_eq :
    usdText x = x.signText ++ (x.wholeText ++ pointed (shortFraction x)) := by
  have hwhole := @SignedDecimal.wholeText_ne_nil x
  have hdigits : ∀ c ∈ x.wholeText, c.isDigit := fun _ => SignedDecimal.isDigit_wholeText
  have hnonempty : ¬x.signText ++ (x.wholeText ++ pointed (shortFraction x)) = [] := by
    simp [hwhole]
  rw [usdText, SignedDecimal.formatFixed_eq]
  split
  · rename_i h0
    have hshort : shortFraction x = [] := by
      rw [shortFraction, SignedDecimal.fractionText, if_pos h0]
      rfl
    have hpoint : '.' ∉ x.signText ++ (x.wholeText ++ []) := by
      rw [List.append_nil, List.mem_append, not_or]
      constructor
      · rw [SignedDecimal.signText]
        split <;> decide
      · exact fun h => not_point_of_isDigit (hdigits _ h) rfl
    rw [hshort] at hnonempty ⊢
    simp only [if_neg hpoint]
    exact if_neg hnonempty
  · have hpoint : '.' ∈ x.signText ++ (x.wholeText ++ '.' :: x.fractionText) := by simp
    have hdrop : ((x.signText ++ (x.wholeText ++ '.' :: x.fractionText)).rdropWhile
        (· = '0')).rdropWhile (· = '.') =
        x.signText ++ (x.wholeText ++ pointed (shortFraction x)) := by
      rw [← List.append_assoc, rdropWhile_pointed, ← List.append_assoc]
      change (x.signText ++ x.wholeText ++ '.' :: shortFraction x).rdropWhile (· = '.') = _
      by_cases hshort : shortFraction x = []
      · rw [hshort, pointed, if_pos rfl, List.append_nil,
          List.rdropWhile_concat_pos _ _ _ (by decide)]
        exact rdropWhile_digits _ hwhole hdigits
      · have hrest := rdropWhile_digits (x.signText ++ x.wholeText ++ ['.']) hshort
          fun c => isDigit_shortFraction
        rw [List.append_assoc, List.singleton_append] at hrest
        rw [hrest, pointed, if_neg hshort]
    simp only [if_pos hpoint, hdrop]
    exact if_neg hnonempty

theorem usdText_rescaled (hc : x.coefficient ≠ 0) : usdText x.rescaled = usdText x := by
  obtain ⟨hw, hf⟩ := SignedDecimal.parts_rescaled hc
  have hshort : shortFraction x.rescaled = shortFraction x := by
    rw [shortFraction, shortFraction]
    rcases hf with hf | hf
    · rw [hf]
    · rw [hf, List.rdropWhile_concat_pos _ _ _ (by decide)]
  rw [usdText_eq, usdText_eq, hw, hshort]
  rfl

theorem usdText_scaled (hc : x.coefficient ≠ 0) (k : ℕ) :
    usdText ⟨x.negative, x.coefficient * 10 ^ k, x.exponent - k⟩ = usdText x := by
  induction k with
  | zero =>
    rw [pow_zero, Nat.mul_one, Int.natCast_zero, Int.sub_zero]
  | succ k ih =>
    have hc' : x.coefficient * 10 ^ k ≠ 0 := Nat.mul_ne_zero hc (by positivity)
    have hnext := @usdText_rescaled ⟨x.negative, x.coefficient * 10 ^ k, x.exponent - k⟩ hc'
    rw [SignedDecimal.rescaled] at hnext
    rw [pow_succ, ← Nat.mul_assoc, ← ih, ← hnext]
    congr 2
    push_cast
    omega

theorem padded_zero (h : x.coefficient = 0) : x.padded = List.replicate (x.places + 1) '0' := by
  have hdigits : Nat.toDigits 10 x.coefficient = ['0'] := by
    rw [h]
    exact Nat.toDigits_zero 10
  simp only [SignedDecimal.padded, hdigits]
  exact List.replicate_succ'.symm

theorem usdText_zero (h : x.coefficient = 0) : usdText x = x.signText ++ ['0'] := by
  have hwhole : x.wholeText = ['0'] := by
    rw [SignedDecimal.wholeText]
    split
    · rw [h]
      rfl
    · rw [padded_zero h, List.length_replicate, Nat.add_sub_cancel_left]
      rfl
  have hshort : shortFraction x = [] := by
    rw [shortFraction, List.rdropWhile_eq_nil_iff]
    intro c hc
    rw [SignedDecimal.fractionText] at hc
    split at hc
    · cases hc
    · rw [padded_zero h] at hc
      exact decide_eq_true (List.eq_of_mem_replicate (List.mem_of_mem_drop hc))
  rw [usdText_eq, hwhole, hshort]
  rfl

theorem usdText_of_le (hs : x.negative = y.negative) (h : x.value = y.value)
    (he : y.exponent ≤ x.exponent) : usdText x = usdText y := by
  by_cases hc : x.coefficient = 0
  · have hc' : y.coefficient = 0 := by
      rw [← SignedDecimal.value_eq_zero] at hc ⊢
      rw [← h, hc]
    rw [usdText_zero hc, usdText_zero hc', SignedDecimal.signText, SignedDecimal.signText, hs]
  · rw [SignedDecimal.eq_scaled h hs he, usdText_scaled hc]

/-- Equal amounts of one sign have one text. -/
theorem usdText_congr (hs : x.negative = y.negative) (h : x.value = y.value) :
    usdText x = usdText y := by
  rcases le_total y.exponent x.exponent with he | he
  · exact usdText_of_le hs h he
  · exact (usdText_of_le hs.symm h.symm he).symm

end Canonical

section Unsigned

/-- A decimal whose zero has no sign. -/
def ofDecimal (d : Decimal) : SignedDecimal := ⟨d.coefficient < 0, d.coefficient.natAbs, d.exponent⟩

/-- Both renderings agree. -/
theorem usdText_ofDecimal (d : Decimal) :
    Providers.usdText d = String.ofList (usdText (ofDecimal d)) := by
  have hsign : (if d.coefficient < 0 then ['-'] else []) = (ofDecimal d).signText := by
    rw [SignedDecimal.signText, ofDecimal]
    simp
  have hdigits : (toString d.coefficient.natAbs).toList = Nat.toDigits 10 d.coefficient.natAbs :=
    Nat.toList_repr
  have hpadded : List.replicate ((-d.exponent).toNat + 1 -
      (Nat.toDigits 10 d.coefficient.natAbs).length) '0' ++
      Nat.toDigits 10 d.coefficient.natAbs = (ofDecimal d).padded := rfl
  have hshort : (((ofDecimal d).padded.drop ((ofDecimal d).padded.length -
      (-d.exponent).toNat)).reverse.dropWhile (· = '0')).reverse = shortFraction (ofDecimal d) := by
    by_cases he : d.exponent ≤ 0
    · rw [shortFraction, (SignedDecimal.parts_of_nonpos he).2]
      rfl
    · have hnonneg : 0 ≤ (ofDecimal d).exponent := by
        simp only [ofDecimal]
        omega
      rw [shortFraction, SignedDecimal.fractionText, if_pos hnonneg, Int.toNat_of_nonpos (by omega),
        Nat.sub_zero, List.drop_length]
      rfl
  unfold Providers.usdText
  dsimp only
  rw [hdigits, hpadded, hsign, hshort, usdText_eq, List.append_assoc]
  congr 2
  change _ ++ pointed (shortFraction (ofDecimal d)) = _
  congr 1
  by_cases he : d.exponent ≤ 0
  · rw [(SignedDecimal.parts_of_nonpos he).1, Int.toNat_of_nonpos he]
    simp [SignedDecimal.places, ofDecimal]
  · have hnonneg : 0 ≤ (ofDecimal d).exponent := by
      simp only [ofDecimal]
      omega
    have hplaces : (ofDecimal d).places = 0 := by
      simp only [SignedDecimal.places, ofDecimal]
      omega
    have hlength := @Nat.length_toDigits_pos 10 (ofDecimal d).coefficient
    have hwhole : (ofDecimal d).padded = Nat.toDigits 10 (ofDecimal d).coefficient := by
      rw [SignedDecimal.padded, hplaces,
        show 0 + 1 - (Nat.toDigits 10 (ofDecimal d).coefficient).length = 0 by omega]
      rfl
    rw [Int.toNat_of_nonpos (by omega : -d.exponent ≤ 0), Nat.sub_zero, List.take_length, hwhole,
      SignedDecimal.wholeText, if_pos hnonneg]
    simp only [ofDecimal, Int.natAbs_eq_zero]
    split
    · rw [List.replicate_zero, List.append_nil]
    · rfl

end Unsigned

section RoundTrip

variable {x y : SignedDecimal}

/-- The decimal that the text of an amount states. -/
def stated (x : SignedDecimal) : SignedDecimal :=
  ⟨x.negative, Nat.ofDigitChars 10 (x.wholeText ++ shortFraction x) 0,
    -(shortFraction x).length⟩

theorem exists_zeros (x : SignedDecimal) :
    ∃ k, x.fractionText = shortFraction x ++ List.replicate k '0' := by
  refine ⟨(x.fractionText.rtakeWhile (· = '0')).length, ?_⟩
  have hzeros : x.fractionText.rtakeWhile (· = '0') =
      List.replicate (x.fractionText.rtakeWhile (· = '0')).length '0' := by
    rw [List.eq_replicate_length]
    intro c hc
    have hzero := List.mem_rtakeWhile_imp (p := fun c => decide (c = '0')) hc
    exact of_decide_eq_true hzero
  rw [← hzeros]
  exact List.rdropWhile_append_rtakeWhile.symm

theorem stated_value : (stated x).value = x.value := by
  obtain ⟨k, hk⟩ := exists_zeros x
  have hparts := @SignedDecimal.ofDigitChars_parts x
  have hlength := @SignedDecimal.length_fractionText x
  rw [hk, ← List.append_assoc, Nat.ofDigitChars_append, Nat.ofDigitChars_replicate_zero] at hparts
  rw [hk, List.length_append, List.length_replicate, SignedDecimal.places] at hlength
  have hmagnitude : ((stated x).coefficient : ℚ) * 10 ^ (stated x).exponent =
      x.coefficient * 10 ^ x.exponent := by
    have hexp : x.exponent = (x.exponent.toNat : ℤ) + -((k : ℤ) + (shortFraction x).length) := by
      omega
    have hcast : (x.coefficient : ℚ) * 10 ^ x.exponent.toNat =
        10 ^ k * (stated x).coefficient := by exact_mod_cast hparts.symm
    have hten : (10 : ℚ) ^ (k : ℤ) ≠ 0 := (Decimal.scale_pos _).ne'
    rw [hexp, zpow_add₀ (by norm_num), zpow_natCast, ← mul_assoc, hcast, neg_add,
      zpow_add₀ (by norm_num), zpow_neg, zpow_natCast, stated]
    field_simp
  rw [SignedDecimal.value, SignedDecimal.value, Decimal.value, Decimal.value]
  simp only [SignedDecimal.toDecimal]
  change ((if x.negative then _ else _ : ℤ) : ℚ) * _ = _
  split
  · push_cast
    rw [neg_mul, neg_mul, hmagnitude]
  · exact_mod_cast hmagnitude

/-- No character of the text is stripped. -/
theorem mem_body {c : Char} (h : c ∈ x.wholeText ++ pointed (shortFraction x)) :
    c.isDigit ∨ c = '.' := by
  rcases List.mem_append.mp h with h | h
  · exact .inl (SignedDecimal.isDigit_wholeText h)
  · rw [pointed] at h
    split at h
    · cases h
    · rcases List.mem_cons.mp h with rfl | h
      · exact .inr rfl
      · exact .inl (isDigit_shortFraction h)

theorem plain_of_isDigit {c : Char} (h : c = '-' ∨ c.isDigit ∨ c = '.') :
    c.isWhitespace = false ∧ c ≠ '_' := by
  constructor
  · rw [← Bool.not_eq_true]
    intro hw
    simp only [Char.isWhitespace, Bool.or_eq_true, decide_eq_true_eq] at hw
    rcases hw with ((rfl | rfl) | rfl) | rfl <;> exact absurd h (by decide)
  · rintro rfl
    exact absurd h (by decide)

theorem takeWhile_digits {l r : List Char} (hl : ∀ c ∈ l, c.isDigit)
    (hr : ∀ c, r.head? = some c → ¬c.isDigit) :
    (l ++ r).takeWhile Char.isDigit = l ∧ (l ++ r).dropWhile Char.isDigit = r := by
  rw [List.takeWhile_append_of_pos hl, List.dropWhile_append_of_pos hl]
  cases r with
  | nil => simp
  | cons c r => simp [hr c rfl]

theorem ofUnsigned_body (negative : Bool) :
    SignedDecimal.ofUnsigned negative (x.wholeText ++ pointed (shortFraction x)) =
      some (.finite ⟨negative, Nat.ofDigitChars 10 (x.wholeText ++ shortFraction x) 0,
        -(shortFraction x).length⟩) := by
  have hhead : ∀ c, (pointed (shortFraction x)).head? = some c → ¬c.isDigit := by
    intro c hc
    rw [pointed] at hc
    split at hc
    · cases hc
    · obtain rfl := Option.some.inj hc
      decide
  obtain ⟨htake, hdrop⟩ :=
    takeWhile_digits (fun c hc => SignedDecimal.isDigit_wholeText hc) hhead
  have hne := @SignedDecimal.wholeText_ne_nil x
  unfold SignedDecimal.ofUnsigned
  dsimp only
  rw [htake, hdrop]
  by_cases hshort : shortFraction x = []
  · simp [hshort, hne, pointed, SignedDecimal.exponentOf]
  · obtain ⟨hshortTake, hshortDrop⟩ := takeWhile_digits (r := [])
      (fun c hc => isDigit_shortFraction (x := x) hc) nofun
    rw [List.append_nil] at hshortTake hshortDrop
    have hpointed : pointed (shortFraction x) = '.' :: shortFraction x := if_neg hshort
    simp only [hpointed, List.head?_cons, List.tail_cons, decide_true, if_true, hshortTake,
      hshortDrop, hne, false_and, if_false, SignedDecimal.exponentOf, Option.map_some, zero_sub]

/-- The text is read back as the decimal that it states. -/
theorem ofText_usdText : SignedDecimal.ofText (usdText x) = some (.finite (stated x)) := by
  have hplain : ∀ c ∈ usdText x, c.isWhitespace = false ∧ c ≠ '_' := by
    intro c hc
    rw [usdText_eq] at hc
    apply plain_of_isDigit
    rcases List.mem_append.mp hc with hc | hc
    · rw [SignedDecimal.signText] at hc
      split at hc
      · exact .inl (List.mem_singleton.mp hc)
      · cases hc
    · exact .inr (mem_body hc)
  have hfilter : (usdText x).filter (· ≠ '_') = usdText x :=
    List.filter_eq_self.mpr fun c hc => decide_eq_true (hplain c hc).2
  have hstrip : ((usdText x).dropWhile Char.isWhitespace).rdropWhile Char.isWhitespace =
      usdText x := by
    have hdrop : (usdText x).dropWhile Char.isWhitespace = usdText x := by
      rw [List.dropWhile_eq_self_iff]
      intro hpos
      rw [(hplain _ (List.getElem_mem _)).1]
      decide
    rw [hdrop, List.rdropWhile_eq_self_iff]
    intro hne
    rw [(hplain _ (List.getLast_mem hne)).1]
    decide
  unfold SignedDecimal.ofText
  dsimp only
  rw [hstrip, hfilter, usdText_eq, SignedDecimal.signText]
  cases hsign : x.negative with
  | true =>
    rw [if_pos rfl, List.singleton_append, List.head?_cons, if_pos rfl, List.tail_cons,
      ofUnsigned_body, stated, hsign]
  | false =>
    obtain ⟨c, r, hc⟩ := List.exists_cons_of_ne_nil (@SignedDecimal.wholeText_ne_nil x)
    have hdigit : c.isDigit := SignedDecimal.isDigit_wholeText (x := x) (hc ▸ List.mem_cons_self)
    have hhead : (x.wholeText ++ pointed (shortFraction x)).head? = some c := by rw [hc]; rfl
    have hminus : ¬(some c = some '-') := by
      rintro ⟨⟩
      exact absurd hdigit (by decide)
    have hplus : ¬(some c = some '+') := by
      rintro ⟨⟩
      exact absurd hdigit (by decide)
    have hfalse : ¬(false = true) := Bool.false_ne_true
    rw [if_neg hfalse, List.nil_append, hhead, if_neg hminus, if_neg hplus, ofUnsigned_body,
      stated, hsign]

theorem usdText_stated : usdText (stated x) = usdText x := usdText_congr rfl stated_value

end RoundTrip

end SignedAmount

end OperateBench.Providers
