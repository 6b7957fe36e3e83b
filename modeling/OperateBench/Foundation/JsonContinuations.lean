import OperateBench.Foundation.JsonTails

/-! # Completions one character at a time

The texts that complete an open container, followed by anything, by their first character: what
the character has to be there, and what the rest has to complete.
-/

namespace Foundation.Json

section Continuations

variable {K : Text → Prop} {c : CodePoint} {w : Text} {p : Position}

/-- A completion followed by a text of `K`. -/
def Ends (p : Position) (K : Text → Prop) (w : Text) : Prop :=
  ∃ a b, w = a ++ b ∧ Completes p a ∧ K b

/-- The rest of a string followed by a text of `K`. -/
def InString (K : Text → Prop) (w : Text) : Prop :=
  ∃ body r, w = body ++ quotationMark :: r ∧ Chars body ∧ K r

/-- So many hexadecimal digits, and then the rest of the string. -/
def InHex : ℕ → (Text → Prop) → Text → Prop
  | 0, K, w => InString K w
  | _ + 1, _, [] => False
  | n + 1, K, c :: w => HexDigit c ∧ InHex n K w

/-- What is behind the escape, and then the rest of the string. -/
def InEscape (K : Text → Prop) : Text → Prop
  | [] => False
  | c :: w => (Escapable c ∧ InString K w) ∨ (c = unicodeEscape ∧ InHex 4 K w)

theorem inHex_four : InHex 4 K w ↔ ∃ a b c d r, w = a :: b :: c :: d :: r ∧
    HexDigit a ∧ HexDigit b ∧ HexDigit c ∧ HexDigit d ∧ InString K r := by
  constructor
  · intro h
    match w, h with
    | a :: b :: c :: d :: r, ⟨ha, hb, hc, hd, h⟩ => exact ⟨a, b, c, d, r, rfl, ha, hb, hc, hd, h⟩
  · rintro ⟨a, b, c, d, r, rfl, ha, hb, hc, hd, h⟩
    exact ⟨ha, hb, hc, hd, h⟩

theorem unescaped_not_escape (h : Unescaped c) : c ≠ Json.escape := h.2.2

theorem inString_quotationMark : InString K (quotationMark :: w) ↔ K w := by
  constructor
  · rintro ⟨body, r, hw, hb, hr⟩
    cases hb with
    | nil => exact (List.cons.inj hw).2 ▸ hr
    | unescaped hc _ =>
      rw [← (List.cons.inj hw).1] at hc
      exact absurd rfl hc.2.1
    | escaped => exact absurd (List.cons.inj hw).1 (by decide)
    | unicode => exact absurd (List.cons.inj hw).1 (by decide)
  · intro h
    exact ⟨[], w, rfl, .nil, h⟩

theorem inString_escape : InString K (Json.escape :: w) ↔ InEscape K w := by
  constructor
  · rintro ⟨body, r, hw, hb, hr⟩
    cases hb with
    | nil => exact absurd (List.cons.inj hw).1 (by decide)
    | unescaped hc _ =>
      rw [← (List.cons.inj hw).1] at hc
      exact absurd rfl hc.2.2
    | escaped hc hbody =>
      obtain ⟨-, rfl⟩ := List.cons.inj hw
      exact .inl ⟨hc, _, r, rfl, hbody, hr⟩
    | unicode ha hb hc hd hbody =>
      obtain ⟨-, rfl⟩ := List.cons.inj hw
      exact .inr ⟨rfl, ha, hb, hc, hd, _, r, rfl, hbody, hr⟩
  · intro h
    cases w with
    | nil => exact h.elim
    | cons c w =>
      rcases h with ⟨hc, body, r, rfl, hb, hr⟩ | ⟨rfl, h⟩
      · exact ⟨Json.escape :: c :: body, r, rfl, .escaped hc hb, hr⟩
      · obtain ⟨a, b, c, d, w, rfl, ha, hb, hc, hd, body, r, rfl, hbody, hr⟩ := inHex_four.mp h
        exact ⟨_, r, rfl, .unicode ha hb hc hd hbody, hr⟩

theorem inString_other (hq : c ≠ quotationMark) (he : c ≠ Json.escape) :
    InString K (c :: w) ↔ 0x20 ≤ c ∧ InString K w := by
  constructor
  · rintro ⟨body, r, hw, hb, hr⟩
    cases hb with
    | nil => exact absurd (List.cons.inj hw).1 hq
    | unescaped hc hbody =>
      obtain ⟨rfl, rfl⟩ := List.cons.inj hw
      exact ⟨hc.1, _, r, rfl, hbody, hr⟩
    | escaped => exact absurd (List.cons.inj hw).1 he
    | unicode => exact absurd (List.cons.inj hw).1 he
  · rintro ⟨hc, body, r, rfl, hb, hr⟩
    exact ⟨c :: body, r, rfl, .unescaped ⟨hc, hq, he⟩ hb, hr⟩

theorem numeral_head {n : Text} (h : Numeral n) : ∃ c r, n = c :: r ∧ (c = minus ∨ Digit c) := by
  obtain ⟨sign, int, frac, exp, rfl, rfl | rfl, hi, -, -⟩ := h
  · rcases hi with rfl | ⟨c, digits, rfl, hc, -⟩
    · exact ⟨zero, _, rfl, .inr (by decide)⟩
    · exact ⟨c, _, rfl, .inr ⟨Nat.le_trans (by decide) hc.1, hc.2⟩⟩
  · exact ⟨minus, _, rfl, .inl rfl⟩

theorem digit_not_space (h : Digit c) : ¬Space c := by
  rintro (rfl | rfl | rfl | rfl) <;> exact absurd h (by decide)

/-- A value does not begin with space. -/
theorem Completes.value_head (h : Completes .value w) : ∃ c r, w = c :: r ∧ ¬Space c := by
  cases h with
  | literal h =>
    rcases h with rfl | rfl | rfl
    · exact ⟨_, _, rfl, by decide⟩
    · exact ⟨_, _, rfl, by decide⟩
    · exact ⟨_, _, rfl, by decide⟩
  | number h =>
    obtain ⟨c, r, rfl, rfl | hc⟩ := numeral_head h
    · exact ⟨minus, r, rfl, by decide⟩
    · exact ⟨c, r, rfl, digit_not_space hc⟩
  | string => exact ⟨quotationMark, _, rfl, by decide⟩
  | object => exact ⟨beginObject, _, rfl, by decide⟩
  | array => exact ⟨beginArray, _, rfl, by decide⟩
  | space hp => exact absurd rfl hp

/-- A completion that begins with space goes on without it. -/
theorem Completes.of_space (hc : Space c) (hp : p ≠ .value) (h : Completes p (c :: w)) :
    Completes p w := by
  generalize hu : c :: w = u at h
  induction h with
  | literal | number | string | object | array => exact absurd rfl hp
  | space _ _ h => exact (List.cons.inj hu).2 ▸ h
  | firstMember _ ih => exact .firstMember (ih (by nofun) hu)
  | firstElement _ ih => exact .firstElement (ih (by nofun) hu)
  | memberValue hv | element hv =>
    obtain ⟨d, r, rfl, hspace⟩ := hv.value_head
    exact absurd ((List.cons.inj hu).1 ▸ hc) hspace
  | _ =>
    rw [(List.cons.inj hu).1] at hc
    exact absurd hc (by decide)

theorem Completes.ne_nil (h : Completes p w) : w ≠ [] := by
  induction h with
  | literal h =>
    obtain ⟨c, r, rfl, -⟩ := (Completes.literal h).value_head
    exact List.cons_ne_nil c r
  | number h =>
    obtain ⟨c, r, rfl, -⟩ := numeral_head h
    exact List.cons_ne_nil c r
  | firstMember _ ih | firstElement _ ih => exact ih
  | memberValue _ _ ih | element _ _ ih => exact List.append_ne_nil_of_left_ne_nil ih _
  | _ => exact List.cons_ne_nil _ _

/-- A completion followed by more is a character and then the rest. -/
theorem ends_cons : Ends p K (c :: w) ↔ ∃ a b, w = a ++ b ∧ Completes p (c :: a) ∧ K b := by
  constructor
  · rintro ⟨a, b, hw, ha, hb⟩
    cases a with
    | nil => exact absurd rfl ha.ne_nil
    | cons d a =>
      rw [List.cons_append, List.cons.injEq] at hw
      obtain ⟨rfl, rfl⟩ := hw
      exact ⟨a, b, rfl, ha, hb⟩
  · rintro ⟨a, b, rfl, ha, hb⟩
    exact ⟨c :: a, b, rfl, ha, hb⟩

theorem ends_space (hc : Space c) (hp : p ≠ .value) : Ends p K (c :: w) ↔ Ends p K w := by
  rw [ends_cons]
  constructor
  · rintro ⟨a, b, rfl, ha, hb⟩
    exact ⟨a, b, rfl, ha.of_space hc hp, hb⟩
  · rintro ⟨a, b, rfl, ha, hb⟩
    exact ⟨a, b, rfl, .space hp hc ha, hb⟩

theorem ends_colon (hc : ¬Space c) :
    Ends .colon K (c :: w) ↔ c = nameSeparator ∧ Ends .memberValue K w := by
  rw [ends_cons]
  constructor
  · rintro ⟨a, b, rfl, ha, hb⟩
    cases ha with
    | space _ hs => exact absurd hs hc
    | colon h => exact ⟨rfl, a, b, rfl, h, hb⟩
  · rintro ⟨rfl, a, b, rfl, ha, hb⟩
    exact ⟨a, b, rfl, .colon ha, hb⟩

theorem ends_memberTail (hc : ¬Space c) : Ends .memberTail K (c :: w) ↔
    (c = valueSeparator ∧ Ends .member K w) ∨ (c = endObject ∧ K w) := by
  rw [ends_cons]
  constructor
  · rintro ⟨a, b, rfl, ha, hb⟩
    cases ha with
    | space _ hs => exact absurd hs hc
    | nextMember h => exact .inl ⟨rfl, a, b, rfl, h, hb⟩
    | endObject => exact .inr ⟨rfl, hb⟩
  · rintro (⟨rfl, a, b, rfl, ha, hb⟩ | ⟨rfl, hb⟩)
    · exact ⟨a, b, rfl, .nextMember ha, hb⟩
    · exact ⟨[], w, rfl, .endObject, hb⟩

theorem ends_elementTail (hc : ¬Space c) : Ends .elementTail K (c :: w) ↔
    (c = valueSeparator ∧ Ends .element K w) ∨ (c = endArray ∧ K w) := by
  rw [ends_cons]
  constructor
  · rintro ⟨a, b, rfl, ha, hb⟩
    cases ha with
    | space _ hs => exact absurd hs hc
    | nextElement h => exact .inl ⟨rfl, a, b, rfl, h, hb⟩
    | endArray => exact .inr ⟨rfl, hb⟩
  · rintro (⟨rfl, a, b, rfl, ha, hb⟩ | ⟨rfl, hb⟩)
    · exact ⟨a, b, rfl, .nextElement ha, hb⟩
    · exact ⟨[], w, rfl, .endArray, hb⟩

theorem ends_member (hc : ¬Space c) :
    Ends .member K (c :: w) ↔ c = quotationMark ∧ InString (Ends .colon K) w := by
  constructor
  · rintro ⟨a, b, hw, ha, hb⟩
    cases ha with
    | space _ hs =>
      rw [List.cons_append, List.cons.injEq] at hw
      exact absurd (hw.1 ▸ hs) hc
    | key hk h =>
      simp only [quoted, List.cons_append, List.append_assoc, List.cons.injEq] at hw
      exact ⟨hw.1, _, _, hw.2, hk, _, b, rfl, h, hb⟩
  · rintro ⟨rfl, body, r, rfl, hbody, a, b, rfl, ha, hb⟩
    exact ⟨quoted body ++ a, b, by simp [quoted], .key hbody ha, hb⟩

theorem ends_membersOrEnd (hc : ¬Space c) : Ends .membersOrEnd K (c :: w) ↔
    (c = endObject ∧ K w) ∨ Ends .member K (c :: w) := by
  constructor
  · rintro ⟨a, b, hw, ha, hb⟩
    cases ha with
    | space _ hs =>
      rw [List.cons_append, List.cons.injEq] at hw
      exact absurd (hw.1 ▸ hs) hc
    | noMembers =>
      rw [List.cons_append, List.cons.injEq, List.nil_append] at hw
      exact .inl ⟨hw.1, hw.2 ▸ hb⟩
    | firstMember h => exact .inr ⟨a, b, hw, h, hb⟩
  · rintro (⟨rfl, hb⟩ | ⟨a, b, hw, ha, hb⟩)
    · exact ⟨[endObject], w, rfl, .noMembers, hb⟩
    · exact ⟨a, b, hw, .firstMember ha, hb⟩

theorem ends_elementsOrEnd (hc : ¬Space c) : Ends .elementsOrEnd K (c :: w) ↔
    (c = endArray ∧ K w) ∨ Ends .element K (c :: w) := by
  constructor
  · rintro ⟨a, b, hw, ha, hb⟩
    cases ha with
    | space _ hs =>
      rw [List.cons_append, List.cons.injEq] at hw
      exact absurd (hw.1 ▸ hs) hc
    | noElements =>
      rw [List.cons_append, List.cons.injEq, List.nil_append] at hw
      exact .inl ⟨hw.1, hw.2 ▸ hb⟩
    | firstElement h => exact .inr ⟨a, b, hw, h, hb⟩
  · rintro (⟨rfl, hb⟩ | ⟨a, b, hw, ha, hb⟩)
    · exact ⟨[endArray], w, rfl, .noElements, hb⟩
    · exact ⟨a, b, hw, .firstElement ha, hb⟩

theorem ends_memberValue (hc : ¬Space c) :
    Ends .memberValue K (c :: w) ↔ Ends .value (Ends .memberTail K) (c :: w) := by
  constructor
  · rintro ⟨a, b, hw, ha, hb⟩
    cases ha with
    | space _ hs =>
      rw [List.cons_append, List.cons.injEq] at hw
      exact absurd (hw.1 ▸ hs) hc
    | memberValue hv h =>
      rw [List.append_assoc] at hw
      exact ⟨_, _, hw, hv, _, b, rfl, h, hb⟩
  · rintro ⟨v, r, hw, hv, a, b, rfl, ha, hb⟩
    exact ⟨v ++ a, b, by rw [hw, List.append_assoc], .memberValue hv ha, hb⟩

theorem ends_element (hc : ¬Space c) :
    Ends .element K (c :: w) ↔ Ends .value (Ends .elementTail K) (c :: w) := by
  constructor
  · rintro ⟨a, b, hw, ha, hb⟩
    cases ha with
    | space _ hs =>
      rw [List.cons_append, List.cons.injEq] at hw
      exact absurd (hw.1 ▸ hs) hc
    | element hv h =>
      rw [List.append_assoc] at hw
      exact ⟨_, _, hw, hv, _, b, rfl, h, hb⟩
  · rintro ⟨v, r, hw, hv, a, b, rfl, ha, hb⟩
    exact ⟨v ++ a, b, by rw [hw, List.append_assoc], .element hv ha, hb⟩

/-- The kinds of values, by their first character. -/
theorem ends_value : Ends .value K (c :: w) ↔
    (c = quotationMark ∧ InString K w) ∨ (c = beginObject ∧ Ends .membersOrEnd K w) ∨
      (c = beginArray ∧ Ends .elementsOrEnd K w) ∨
      (∃ target, (target = nullText ∨ target = trueText ∨ target = falseText) ∧
        ∃ b, c :: w = target ++ b ∧ K b) ∨
      ∃ n b, c :: w = n ++ b ∧ Numeral n ∧ K b := by
  constructor
  · rintro ⟨a, b, hw, ha, hb⟩
    cases ha with
    | literal h => exact .inr (.inr (.inr (.inl ⟨a, h, b, hw, hb⟩)))
    | number h => exact .inr (.inr (.inr (.inr ⟨a, b, hw, h, hb⟩)))
    | string h =>
      simp only [quoted, List.cons_append, List.append_assoc, List.cons.injEq] at hw
      exact .inl ⟨hw.1, _, b, hw.2, h, hb⟩
    | object h =>
      rw [List.cons_append, List.cons.injEq] at hw
      exact .inr (.inl ⟨hw.1, _, b, hw.2, h, hb⟩)
    | array h =>
      rw [List.cons_append, List.cons.injEq] at hw
      exact .inr (.inr (.inl ⟨hw.1, _, b, hw.2, h, hb⟩))
    | space hp => exact absurd rfl hp
  · rintro (⟨rfl, body, r, rfl, hbody, hr⟩ | ⟨rfl, a, b, rfl, ha, hb⟩ | ⟨rfl, a, b, rfl, ha, hb⟩ |
      ⟨target, ht, b, hw, hb⟩ | ⟨n, b, hw, hn, hb⟩)
    · exact ⟨quoted body, r, by simp [quoted], .string hbody, hr⟩
    · exact ⟨beginObject :: a, b, rfl, .object ha, hb⟩
    · exact ⟨beginArray :: a, b, rfl, .array ha, hb⟩
    · exact ⟨target, b, hw, .literal ht, hb⟩
    · exact ⟨n, b, hw, .number hn, hb⟩

/-- A literal is continued by the rest of it. -/
theorem literal_cons {target : Text} {d : CodePoint} :
    (∃ b, c :: w = (d :: target) ++ b ∧ K b) ↔ c = d ∧ ∃ b, w = target ++ b ∧ K b := by
  constructor
  · rintro ⟨b, hw, hb⟩
    rw [List.cons_append, List.cons.injEq] at hw
    exact ⟨hw.1, b, hw.2, hb⟩
  · rintro ⟨rfl, b, rfl, hb⟩
    exact ⟨b, rfl, hb⟩

theorem numeral_first (h : ∃ n b, c :: w = n ++ b ∧ Numeral n ∧ K b) : c = minus ∨ Digit c := by
  obtain ⟨n, b, hw, hn, -⟩ := h
  obtain ⟨d, r, rfl, hd⟩ := numeral_head hn
  rw [List.cons_append, List.cons.injEq] at hw
  exact hw.1 ▸ hd

/-- The kinds of values, with the literals apart. -/
theorem ends_value_cases : Ends .value K (c :: w) ↔
    (c = quotationMark ∧ InString K w) ∨ (c = beginObject ∧ Ends .membersOrEnd K w) ∨
      (c = beginArray ∧ Ends .elementsOrEnd K w) ∨
      (c = 0x74 ∧ ∃ b, w = trueText.drop 1 ++ b ∧ K b) ∨
      (c = 0x66 ∧ ∃ b, w = falseText.drop 1 ++ b ∧ K b) ∨
      (c = 0x6E ∧ ∃ b, w = nullText.drop 1 ++ b ∧ K b) ∨
      ((c = minus ∨ Digit c) ∧ ∃ n b, c :: w = n ++ b ∧ Numeral n ∧ K b) := by
  rw [ends_value]
  constructor
  · rintro (h | h | h | ⟨target, rfl | rfl | rfl, h⟩ | h)
    · exact .inl h
    · exact .inr (.inl h)
    · exact .inr (.inr (.inl h))
    · exact .inr (.inr (.inr (.inr (.inr (.inl (literal_cons.mp h))))))
    · exact .inr (.inr (.inr (.inl (literal_cons.mp h))))
    · exact .inr (.inr (.inr (.inr (.inl (literal_cons.mp h)))))
    · exact .inr (.inr (.inr (.inr (.inr (.inr ⟨numeral_first h, h⟩)))))
  · rintro (h | h | h | h | h | h | ⟨-, h⟩)
    · exact .inl h
    · exact .inr (.inl h)
    · exact .inr (.inr (.inl h))
    · exact .inr (.inr (.inr (.inl ⟨_, .inr (.inl rfl), literal_cons.mpr h⟩)))
    · exact .inr (.inr (.inr (.inl ⟨_, .inr (.inr rfl), literal_cons.mpr h⟩)))
    · exact .inr (.inr (.inr (.inl ⟨_, .inl rfl, literal_cons.mpr h⟩)))
    · exact .inr (.inr (.inr (.inr h)))

theorem ends_value_string : Ends .value K (quotationMark :: w) ↔ InString K w := by
  rw [ends_value_cases]
  simp +decide only [true_and, false_and, or_false]

theorem ends_value_object :
    Ends .value K (beginObject :: w) ↔ Ends .membersOrEnd K w := by
  rw [ends_value_cases]
  simp +decide only [true_and, false_and, or_false, false_or]

theorem ends_value_array : Ends .value K (beginArray :: w) ↔ Ends .elementsOrEnd K w := by
  rw [ends_value_cases]
  simp +decide only [true_and, false_and, or_false, false_or]

theorem ends_value_true :
    Ends .value K (0x74 :: w) ↔ ∃ b, w = trueText.drop 1 ++ b ∧ K b := by
  rw [ends_value_cases]
  simp +decide only [true_and, false_and, or_false, false_or]

theorem ends_value_false :
    Ends .value K (0x66 :: w) ↔ ∃ b, w = falseText.drop 1 ++ b ∧ K b := by
  rw [ends_value_cases]
  simp +decide only [true_and, false_and, or_false, false_or]

theorem ends_value_null :
    Ends .value K (0x6E :: w) ↔ ∃ b, w = nullText.drop 1 ++ b ∧ K b := by
  rw [ends_value_cases]
  simp +decide only [true_and, false_and, or_false, false_or]

theorem ends_value_number (hc : c = minus ∨ Digit c) :
    Ends .value K (c :: w) ↔ ∃ n b, c :: w = n ++ b ∧ Numeral n ∧ K b := by
  rw [ends_value_cases]
  constructor
  · rintro (⟨rfl, -⟩ | ⟨rfl, -⟩ | ⟨rfl, -⟩ | ⟨rfl, -⟩ | ⟨rfl, -⟩ | ⟨rfl, -⟩ | ⟨-, h⟩)
    · exact absurd hc (by decide)
    · exact absurd hc (by decide)
    · exact absurd hc (by decide)
    · exact absurd hc (by decide)
    · exact absurd hc (by decide)
    · exact absurd hc (by decide)
    · exact h
  · intro h
    exact .inr (.inr (.inr (.inr (.inr (.inr ⟨hc, h⟩)))))

end Continuations

end Foundation.Json
