import Mathlib.Data.List.TakeWhile
import OperateBench.Foundation.JsonContinuations
import OperateBench.Foundation.JsonLoaded
import OperateBench.Foundation.Naming
import OperateBench.Foundation.Readings

/-! # The text of a JSON value

Python's encoder without spaces: a value is written as one text of the grammar, and a text is
written for one value only. A float is known by the text of its `repr`.
-/

namespace Foundation.Json

section Values

/-- The `repr` of a finite float: a numeral with a fraction or an exponent. -/
def FloatText (w : Text) : Prop := Numeral w ∧ ∃ c ∈ w, c = decimalPoint ∨ ExponentMark c

inductive PyFloat
  | finite (repr : Text) (h : FloatText repr)
  | inf (negative : Bool)
  | nan

/-- A value out of dictionaries, lists and scalars, or another object. -/
inductive JsonValue
  | none
  | bool (value : Bool)
  | int (value : ℤ)
  | float (value : PyFloat)
  | str (value : Text)
  | list (items : List JsonValue)
  | dict (entries : List (Text × JsonValue))
  | other (typeName : Text)

namespace JsonValue

mutual

/-- Every scalar is one that JSON carries. -/
def IsJson : JsonValue → Prop
  | .none | .bool _ | .int _ | .str _ | .float (.finite _ _) => True
  | .float (.inf _) | .float .nan | .other _ => False
  | .list items => ItemsJson items
  | .dict entries => EntriesJson entries

def ItemsJson : List JsonValue → Prop
  | [] => True
  | x :: xs => IsJson x ∧ ItemsJson xs

def EntriesJson : List (Text × JsonValue) → Prop
  | [] => True
  | (_, x) :: es => IsJson x ∧ EntriesJson es

end

theorem itemsJson_iff {xs : List JsonValue} : ItemsJson xs ↔ ∀ x ∈ xs, IsJson x := by
  induction xs with
  | nil => simp [ItemsJson]
  | cons x xs ih => simp [ItemsJson, ih]

theorem entriesJson_iff {es : List (Text × JsonValue)} : EntriesJson es ↔ ∀ e ∈ es, IsJson e.2 := by
  induction es with
  | nil => simp [EntriesJson]
  | cons e es ih => simp [EntriesJson, ih]

end JsonValue

end Values

section Encoder

def intText (n : ℤ) : Text := Text.ofString (toString n)

def lowerHex (n : ℕ) : CodePoint := Fin.ofNat 0x110000 (if n < 10 then 0x30 + n else 0x57 + n)

/-- What stands for a character inside of a string. -/
def escapeChar (c : CodePoint) : Text :=
  if c = quotationMark ∨ c = escape then [escape, c]
  else if c = 0x0A then [escape, 0x6E]
  else if c = 0x0D then [escape, 0x72]
  else if c = 0x09 then [escape, 0x74]
  else if c = 0x0C then [escape, 0x66]
  else if c = 0x08 then [escape, 0x62]
  else if c < 0x20 then
    [escape, unicodeEscape, 0x30, 0x30, lowerHex (c.val / 16), lowerHex (c.val % 16)]
  else [c]

def escaped (t : Text) : Text := t.flatMap escapeChar

/-- `encode_basestring(t)` -/
def encodeString (t : Text) : Text := quoted (escaped t)

def encodeArray (items : List Text) : Text :=
  beginArray :: (separated [valueSeparator] id items ++ [endArray])

def encodeMember (member : Text × Text) : Text :=
  encodeString member.1 ++ ([nameSeparator] ++ member.2)

def encodeObject (members : List (Text × Text)) : Text :=
  beginObject :: (separated [valueSeparator] encodeMember members ++ [endObject])

mutual

/-- The compact text of a JSON value, members in the order of the entries. -/
def render : JsonValue → Text
  | .none => nullText
  | .bool value => if value then trueText else falseText
  | .int value => intText value
  | .float (.finite repr _) => repr
  | .float (.inf _) | .float .nan | .other _ => []
  | .str value => encodeString value
  | .list items => encodeArray (renderItems items)
  | .dict entries => encodeObject (renderEntries entries)

def renderItems : List JsonValue → List Text
  | [] => []
  | x :: xs => render x :: renderItems xs

def renderEntries : List (Text × JsonValue) → List (Text × Text)
  | [] => []
  | (name, x) :: es => (name, render x) :: renderEntries es

end

theorem renderItems_eq (xs : List JsonValue) : renderItems xs = xs.map render := by
  induction xs with
  | nil => rfl
  | cons x xs ih => rw [renderItems, ih, List.map_cons]

theorem renderEntries_eq (es : List (Text × JsonValue)) :
    renderEntries es = es.map fun e => (e.1, render e.2) := by
  induction es with
  | nil => rfl
  | cons e es ih => rw [renderEntries, ih, List.map_cons]

theorem separated_map {α β σ : Type*} {sep : List σ} {f : β → List σ} {g : α → β} {as : List α} :
    separated sep f (as.map g) = separated sep (f ∘ g) as := by
  cases as with
  | nil => rfl
  | cons a as => simp [separated, List.flatMap_map]

theorem render_list (xs : List JsonValue) :
    render (.list xs) = beginArray :: (separated [valueSeparator] render xs ++ [endArray]) := by
  rw [render, encodeArray, renderItems_eq, separated_map]
  rfl

def renderEntry (e : Text × JsonValue) : Text := encodeString e.1 ++ ([nameSeparator] ++ render e.2)

theorem render_dict (es : List (Text × JsonValue)) : render (.dict es) =
    beginObject :: (separated [valueSeparator] renderEntry es ++ [endObject]) := by
  rw [render, encodeObject, renderEntries_eq, separated_map]
  rfl

end Encoder

section Numbers

variable {w : Text} {c : CodePoint}

def NumeralChar (c : CodePoint) : Prop :=
  Digit c ∨ c = minus ∨ c = plus ∨ c = decimalPoint ∨ ExponentMark c

instance : DecidablePred NumeralChar := fun _ => inferInstanceAs (Decidable (_ ∨ _))

theorem digits_chars (h : Digits w) : ∀ c ∈ w, NumeralChar c := fun c hc => .inl (h.2 c hc)

theorem numeral_chars (h : Numeral w) : ∀ c ∈ w, NumeralChar c := by
  obtain ⟨sign, int, frac, exp, rfl, hsign, hint, hfrac, hexp⟩ := h
  simp only [List.forall_mem_append]
  refine ⟨?_, ?_, ?_, ?_⟩
  · rcases hsign with rfl | rfl
    · nofun
    · rw [List.forall_mem_singleton]
      exact .inr (.inl rfl)
  · rcases hint with rfl | ⟨c, digits, rfl, hc, hdigits⟩
    · rw [List.forall_mem_singleton]
      exact .inl (by decide)
    · rw [List.forall_mem_cons]
      refine ⟨.inl ⟨Nat.le_trans (by decide) hc.1, hc.2⟩, ?_⟩
      exact fun d hd => .inl (hdigits d hd)
  · rcases hfrac with rfl | ⟨digits, rfl, hdigits⟩
    · nofun
    · rw [List.forall_mem_cons]
      exact ⟨.inr (.inr (.inr (.inl rfl))), digits_chars hdigits⟩
  · rcases hexp with rfl | ⟨c, sign, digits, rfl, hc, hsign, hdigits⟩
    · nofun
    · rw [List.forall_mem_cons, List.forall_mem_append]
      refine ⟨.inr (.inr (.inr (.inr hc))), ?_, digits_chars hdigits⟩
      rcases hsign with rfl | rfl | rfl
      · nofun
      · rw [List.forall_mem_singleton]
        exact .inr (.inl rfl)
      · rw [List.forall_mem_singleton]
        exact .inr (.inr (.inl rfl))

theorem val_ofChar (c : Char) : (CodePoint.ofChar c).val = c.toNat := by
  have hlt : c.toNat < 0x110000 := by
    rcases c.valid with h | h
    · exact h.trans (by decide)
    · exact h.2
  exact Nat.mod_eq_of_lt hlt

theorem digit_ofChar {c : Char} (h : c.isDigit) : Digit (CodePoint.ofChar c) := by
  obtain ⟨hlow, hhigh⟩ := Char.isDigit_iff_toNat.mp h
  constructor
  · show 0x30 ≤ (CodePoint.ofChar c).val
    rw [val_ofChar]
    exact hlow
  · show (CodePoint.ofChar c).val ≤ 0x39
    rw [val_ofChar]
    exact hhigh

def natText (n : ℕ) : Text := (Nat.toDigits 10 n).map CodePoint.ofChar

theorem intText_cases (n : ℤ) :
    intText n = (if n < 0 then [minus] else []) ++ natText n.natAbs := by
  rw [intText, Text.ofString, toList_intText]
  cases n with
  | ofNat m =>
    rw [if_neg (by simp)]
    exact congrArg (List.map CodePoint.ofChar) Nat.toList_repr
  | negSucc m =>
    rw [if_pos (Int.negSucc_lt_zero m)]
    show CodePoint.ofChar '-' :: (toString (m + 1)).toList.map CodePoint.ofChar = _
    rw [show (toString (m + 1)).toList = Nat.toDigits 10 (m + 1) from Nat.toList_repr]
    rfl

theorem natText_digits (n : ℕ) : ∀ c ∈ natText n, Digit c := by
  intro c hc
  obtain ⟨d, hd, rfl⟩ := List.mem_map.mp hc
  exact digit_ofChar (Nat.isDigit_of_mem_toDigits (by decide) (by decide) hd)

theorem natText_lead (n : ℕ) (hn : 0 < n) :
    ∃ c digits, natText n = c :: digits ∧ DigitOneNine c ∧ ∀ d ∈ digits, Digit d := by
  induction n using Nat.strongRecOn with
  | ind n ih =>
    by_cases hlt : n < 10
    · refine ⟨CodePoint.ofChar (Nat.digitChar n), [], ?_, ?_, nofun⟩
      · rw [natText, Nat.toDigits_of_lt_base hlt]
        rfl
      · have hall : ∀ m < 10, 0 < m → DigitOneNine (CodePoint.ofChar (Nat.digitChar m)) := by
          unfold DigitOneNine
          decide
        exact hall n hlt hn
    · obtain ⟨c, digits, heq, hc, hdigits⟩ := ih (n / 10) (by omega) (by omega)
      refine ⟨c, digits ++ [CodePoint.ofChar (Nat.digitChar (n % 10))], ?_, hc, ?_⟩
      · rw [natText, Nat.toDigits_of_base_le (by decide) (by omega), List.map_append]
        show natText (n / 10) ++ _ = _
        rw [heq]
        rfl
      · rw [List.forall_mem_append, List.forall_mem_singleton]
        have hall : ∀ m < 10, Digit (CodePoint.ofChar (Nat.digitChar m)) := by decide
        exact ⟨hdigits, hall _ (Nat.mod_lt n (by decide))⟩

theorem integral_natText (n : ℕ) : Integral (natText n) := by
  rcases Nat.eq_zero_or_pos n with rfl | hn
  · exact .inl rfl
  · exact .inr (natText_lead n hn)

theorem numeral_intText (n : ℤ) : Numeral (intText n) := by
  refine ⟨if n < 0 then [minus] else [], natText n.natAbs, [], [], ?_, ?_,
    integral_natText _, .inl rfl, .inl rfl⟩
  · rw [intText_cases, List.append_nil, List.append_nil]
  · split
    · exact .inr rfl
    · exact .inl rfl

theorem digitsValue_natText (n : ℕ) : digitsValue (natText n) = n := by
  have hfold (cs : List Char) (k : ℕ) : ((cs.map CodePoint.ofChar).map Fin.val).foldl
      (fun n c => n * 10 + (c - 0x30)) k = Nat.ofDigitChars 10 cs k := by
    induction cs generalizing k with
    | nil => rfl
    | cons c cs ih =>
      rw [List.map_cons, List.map_cons, List.foldl_cons, ih, Nat.ofDigitChars_cons, val_ofChar,
        Nat.mul_comm]
      rfl
  have hvalue : digitsValue (natText n) =
      ((natText n).map Fin.val).foldl (fun n c => n * 10 + (c - 0x30)) 0 :=
    congrArg (List.foldl _ 0) (List.flatMap_pure_eq_map Fin.val (natText n))
  rw [hvalue, natText, hfold, Nat.ofDigitChars_ten_toDigits]

theorem not_digit_minus : ¬Digit minus := by decide

/-- An integer of at most so many digits is read back. -/
theorem loadNumber_intText {n : ℤ} {maxStrDigits : ℕ} (hmax : 0 < maxStrDigits)
    (hn : n.natAbs < 10 ^ maxStrDigits) :
    loadNumber maxStrDigits (intText n) = some (.int n) := by
  have hdigits : ∀ c ∈ natText n.natAbs, Digit c := natText_digits _
  have htake : (natText n.natAbs).takeWhile (fun c => Digit c) = natText n.natAbs :=
    List.takeWhile_eq_self_iff.mpr fun c hc => decide_eq_true (hdigits c hc)
  have hdrop : (natText n.natAbs).dropWhile (fun c => Digit c) = [] :=
    List.dropWhile_eq_nil_iff.mpr fun c hc => decide_eq_true (hdigits c hc)
  have hlength : ¬maxStrDigits < (natText n.natAbs).length := by
    rw [natText, List.length_map, Nat.not_lt]
    exact (Nat.length_toDigits_le_iff (by decide) hmax).mpr hn
  have hint (negative : Bool) : loadInt maxStrDigits negative (natText n.natAbs) =
      some (.int (if negative then -(n.natAbs : ℤ) else n.natAbs)) := by
    rw [loadInt, if_neg fun h => hlength h.2, digitsValue_natText]
  rw [intText_cases, loadNumber]
  by_cases hneg : n < 0
  · rw [if_pos hneg]
    simp only [List.singleton_append, List.head?_cons, List.tail_cons, decide_true, if_true, htake,
      hdrop, hint]
    congr 2
    omega
  · obtain ⟨c, r, heq, hc⟩ : ∃ c r, natText n.natAbs = c :: r ∧ c ≠ minus := by
      cases heq : natText n.natAbs with
      | nil => exact absurd (List.map_eq_nil_iff.mp heq) Nat.toDigits_ne_nil
      | cons c r =>
        refine ⟨c, r, rfl, ?_⟩
        rintro rfl
        exact not_digit_minus (hdigits minus (heq ▸ List.mem_cons_self))
    have hhead : ((natText n.natAbs).head? = some minus) = False := by
      rw [heq]
      simpa using hc
    rw [if_neg hneg, List.nil_append]
    simp only [hhead, decide_false, Bool.false_eq_true, if_false, htake, hdrop, hint, if_true]
    congr 2
    omega

/-- The decimal that a float is rounded from, where it is read. -/
def decimalOf (literal : Text) : FloatLiteral :=
  let negative : Bool := literal.head? = some minus
  let unsigned := if negative then literal.tail else literal
  loadFloat negative (unsigned.takeWhile fun c => Digit c) (unsigned.dropWhile fun c => Digit c)

theorem loadNumber_float {maxStrDigits : ℕ} (h : FloatText w) :
    loadNumber maxStrDigits w = some (.float (decimalOf w)) := by
  obtain ⟨-, c, hc, hmark⟩ := h
  have hdigit : ¬Digit c := by
    rcases hmark with rfl | rfl | rfl <;> decide
  have hminus : c ≠ minus := by
    rcases hmark with rfl | rfl | rfl <;> decide
  have hrest (u : Text) (hmem : c ∈ u) : u.dropWhile (fun c => Digit c) ≠ [] := by
    intro hnil
    exact hdigit (of_decide_eq_true (List.dropWhile_eq_nil_iff.mp hnil c hmem))
  have htail : c ∈ (if (w.head? = some minus : Bool) then w.tail else w) := by
    split
    · rename_i hhead
      obtain ⟨r, rfl⟩ := List.head?_eq_some_iff.mp (of_decide_eq_true hhead)
      exact (List.mem_cons.mp hc).resolve_left hminus
    · exact hc
  simp only [loadNumber, if_neg (hrest _ htail)]
  rfl

end Numbers

section Strings

theorem lowerHex_digit : ∀ n < 16, HexDigit (lowerHex n) ∧ hexDigit (lowerHex n) = n := by decide

/-- The two cases of a control character that has no escape of its own. -/
theorem control_digits {c : CodePoint} (h : c < 0x20) :
    fourDigits 0x30 0x30 (lowerHex (c.val / 16)) (lowerHex (c.val % 16)) = c.val := by
  have hlt : c.val < 0x20 := h
  rw [fourDigits, (lowerHex_digit (c.val / 16) (by omega)).2,
    (lowerHex_digit (c.val % 16) (by omega)).2]
  have hzero : hexDigit 0x30 = 0 := by decide
  rw [hzero]
  omega

theorem unescape_control {c : CodePoint} (h : c < 0x20) (w : Text) :
    unescape ([escape, unicodeEscape, 0x30, 0x30, lowerHex (c.val / 16),
      lowerHex (c.val % 16)] ++ w) = c :: unescape w := by
  have hlt : c.val < 0x20 := h
  have hhigh : ¬0xD800 ≤ c.val := by omega
  have hchar : Fin.ofNat 0x110000 c.val = c := Fin.ofNat_val_eq_self c
  simp only [List.cons_append, List.nil_append]
  rw [unescape.eq_def]
  simp only [if_true, control_digits h, hhigh, false_and, if_false, hchar]
  split <;> rfl

theorem unescape_escapeChar (c : CodePoint) (w : Text) :
    unescape (escapeChar c ++ w) = c :: unescape w := by
  unfold escapeChar
  split
  · rename_i h
    rcases h with rfl | rfl
    · rw [unescape.eq_def]; rfl
    · rw [unescape.eq_def]; rfl
  · rename_i hplain
    rw [not_or] at hplain
    split
    · subst_vars; rw [unescape.eq_def]; rfl
    · split
      · subst_vars; rw [unescape.eq_def]; rfl
      · split
        · subst_vars; rw [unescape.eq_def]; rfl
        · split
          · subst_vars; rw [unescape.eq_def]; rfl
          · split
            · subst_vars; rw [unescape.eq_def]; rfl
            · split
              · exact unescape_control ‹_› w
              · rw [List.singleton_append, unescape.eq_def]
                simp only [if_neg hplain.2]

/-- Python's reader undoes what its encoder escapes. -/
theorem unescape_escaped (t : Text) : unescape (escaped t) = t := by
  induction t with
  | nil => rw [escaped, List.flatMap_nil, unescape.eq_def]
  | cons c t ih =>
    rw [escaped, List.flatMap_cons, unescape_escapeChar]
    exact congrArg (c :: ·) ih

theorem chars_escapeChar {w : Text} (c : CodePoint) (h : Chars w) : Chars (escapeChar c ++ w) := by
  unfold escapeChar
  split
  · rename_i hc
    apply Chars.escaped _ h
    rcases hc with rfl | rfl <;> decide
  · rename_i hplain
    rw [not_or] at hplain
    split
    · exact .escaped (by decide) h
    · split
      · exact .escaped (by decide) h
      · split
        · exact .escaped (by decide) h
        · split
          · exact .escaped (by decide) h
          · split
            · exact .escaped (by decide) h
            · split
              · rename_i hcontrol
                have hlt : c.val < 0x20 := hcontrol
                exact .unicode (by decide) (by decide) (lowerHex_digit _ (by omega)).1
                  (lowerHex_digit _ (by omega)).1 h
              · rename_i hcontrol
                exact .unescaped ⟨Nat.not_lt.mp hcontrol, hplain⟩ h

theorem chars_escaped (t : Text) : Chars (escaped t) := by
  induction t with
  | nil => exact .nil
  | cons c t ih =>
    rw [escaped, List.flatMap_cons]
    exact chars_escapeChar c ih

end Strings

end Foundation.Json
