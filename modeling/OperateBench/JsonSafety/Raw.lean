import OperateBench.Foundation.JsonLoaded

/-! # The depth of a text before it is read

A scan over the characters that counts the open containers. It takes no part in the reading: all
that it knows of the grammar is where a string ends.
-/

namespace OperateBench.JsonSafety

open Foundation Foundation.Json

inductive JsonSafetyError
  | textEncoding (message : Text)
  | nestingDepth (message : Text)
  | nonJsonValue (message : Text)
  | unrenderableValue (message : Text)
deriving DecidableEq

def renderInt (n : ℤ) : Text := Text.ofString (toString n)

section Scan

variable (context : Text) (maxDepth : ℤ)

structure RawScan where
  depth : ℕ := 0
  inString : Bool := false
  escaped : Bool := false

def tooDeepToRead : JsonSafetyError :=
  .nestingDepth (context ++ Text.ofString
    " is nested too deeply to read; maximum JSON nesting depth is " ++ renderInt maxDepth)

def rawStep (s : RawScan) (character : CodePoint) : Except JsonSafetyError RawScan :=
  if s.inString then
    if s.escaped then .ok { s with escaped := false }
    else if character = escape then .ok { s with escaped := true }
    else if character = quotationMark then .ok { s with inString := false }
    else .ok s
  else if character = quotationMark then .ok { s with inString := true }
  else if character = beginArray ∨ character = beginObject then
    if maxDepth < s.depth + 1 then .error (tooDeepToRead context maxDepth)
    else .ok { s with depth := s.depth + 1 }
  else if (character = endArray ∨ character = endObject) ∧ s.depth ≠ 0 then
    .ok { s with depth := s.depth - 1 }
  else .ok s

def rawScan (text : Text) (s : RawScan) : Except JsonSafetyError RawScan :=
  text.foldlM (rawStep context maxDepth) s

def ensureRawJsonDepth (text : Text) : Except JsonSafetyError Text := do
  let _ ← rawScan context maxDepth text {}
  return text

end Scan

section Grammar

variable {context : Text} {maxDepth : ℤ} {a b w : Text} {c : CodePoint} {d j k : ℕ}

/-- Containers to the depth `k` have room inside of `d` open ones. -/
def Fits (maxDepth : ℤ) (d k : ℕ) : Prop := k = 0 ∨ (d + k : ℤ) ≤ maxDepth

instance : Decidable (Fits maxDepth d k) := inferInstanceAs (Decidable (_ ∨ _))

/-- Outside of strings, the text opens containers to the depth `k` and closes them again. -/
structure Balanced (context : Text) (maxDepth : ℤ) (w : Text) (k : ℕ) : Prop where
  passes : ∀ {d : ℕ}, Fits maxDepth d k → rawScan context maxDepth w { depth := d } =
    .ok { depth := d }
  refuses : ∀ {d : ℕ}, ¬Fits maxDepth d k → rawScan context maxDepth w { depth := d } =
    .error (tooDeepToRead context maxDepth)

theorem rawScan_append (s : RawScan) : rawScan context maxDepth (a ++ b) s =
    rawScan context maxDepth a s >>= rawScan context maxDepth b :=
  List.foldlM_append

theorem fits_max : Fits maxDepth d (max j k) ↔ Fits maxDepth d j ∧ Fits maxDepth d k := by
  unfold Fits
  omega

theorem Balanced.append (ha : Balanced context maxDepth a j)
    (hb : Balanced context maxDepth b k) : Balanced context maxDepth (a ++ b) (max j k) := by
  constructor
  · intro d h
    obtain ⟨hj, hk⟩ := fits_max.mp h
    rw [rawScan_append, ha.passes hj]
    exact hb.passes hk
  · intro d h
    rw [fits_max, not_and] at h
    rw [rawScan_append]
    by_cases hj : Fits maxDepth d j
    · rw [ha.passes hj]
      exact hb.refuses (h hj)
    · rw [ha.refuses hj]
      rfl

/-- A character that the scan passes over. -/
def Plain (c : CodePoint) : Prop :=
  c ≠ quotationMark ∧ c ≠ beginArray ∧ c ≠ beginObject ∧ c ≠ endArray ∧ c ≠ endObject

instance : DecidablePred Plain := fun _ => inferInstanceAs (Decidable (_ ∧ _))

theorem rawStep_plain {s : RawScan} (hs : s.inString = false) (hc : Plain c) :
    rawStep context maxDepth s c = .ok s := by
  obtain ⟨hq, hba, hbo, hea, heo⟩ := hc
  simp [rawStep, hs, hq, hba, hbo, hea, heo]

theorem balanced_plain (h : ∀ c ∈ w, Plain c) : Balanced context maxDepth w 0 := by
  have hpasses (d : ℕ) : rawScan context maxDepth w { depth := d } = .ok { depth := d } := by
    induction w with
    | nil => rfl
    | cons c w ih =>
      rw [rawScan, List.foldlM_cons, rawStep_plain rfl (h c List.mem_cons_self)]
      exact ih fun c hc => h c (List.mem_cons_of_mem _ hc)
  exact ⟨fun _ => hpasses _, fun h => absurd (.inl rfl) h⟩

theorem plain_space (h : Space c) : Plain c := by
  rcases h with rfl | rfl | rfl | rfl <;> decide

theorem plain_digit (h : Digit c) : Plain c := by
  have hlow : 0x30 ≤ c.val := h.1
  have hhigh : c.val ≤ 0x39 := h.2
  refine ⟨?_, ?_, ?_, ?_, ?_⟩ <;> rintro rfl <;> revert hlow hhigh <;> decide

theorem balanced_blank (h : Blank w) : Balanced context maxDepth w 0 :=
  balanced_plain fun c hc => plain_space (h c hc)

/-- A separator is passed over with the space around it. -/
theorem balanced_separator (hc : Plain c) (h : Structural c w) : Balanced context maxDepth w 0 := by
  obtain ⟨a, b, ha, hb, rfl⟩ := h
  apply balanced_plain
  intro x hx
  rw [List.mem_append, List.mem_cons] at hx
  rcases hx with hx | rfl | hx
  · exact plain_space (ha x hx)
  · exact hc
  · exact plain_space (hb x hx)

theorem balanced_literal (h : w = nullText ∨ w = trueText ∨ w = falseText) :
    Balanced context maxDepth w 0 := by
  apply balanced_plain
  have hall : (w.all fun c => Plain c) = true := by
    rcases h with rfl | rfl | rfl <;> rfl
  intro c hc
  exact of_decide_eq_true (List.all_eq_true.mp hall c hc)

theorem plain_integral (h : Integral w) : ∀ c ∈ w, Plain c := by
  rcases h with rfl | ⟨x, digits, rfl, hx, hdigits⟩
  · intro c hc
    rw [List.mem_singleton.mp hc]
    decide
  · intro c hc
    rcases List.mem_cons.mp hc with rfl | hc
    · have hlow : 0x31 ≤ c.val := hx.1
      have hzero : 0x30 ≤ c.val := by omega
      exact plain_digit ⟨hzero, hx.2⟩
    · exact plain_digit (hdigits c hc)

theorem plain_fraction (h : Fraction w) : ∀ c ∈ w, Plain c := by
  obtain ⟨digits, rfl, -, hdigits⟩ := h
  intro c hc
  rcases List.mem_cons.mp hc with rfl | hc
  · decide
  · exact plain_digit (hdigits c hc)

theorem plain_exponent (h : Exponent w) : ∀ c ∈ w, Plain c := by
  obtain ⟨mark, sign, digits, rfl, hmark, hsign, -, hdigits⟩ := h
  intro c hc
  rw [List.mem_cons, List.mem_append] at hc
  rcases hc with rfl | hc | hc
  · rcases hmark with rfl | rfl <;> decide
  · rcases hsign with rfl | rfl | rfl
    · cases hc
    · rw [List.mem_singleton.mp hc]
      decide
    · rw [List.mem_singleton.mp hc]
      decide
  · exact plain_digit (hdigits c hc)

theorem balanced_numeral (h : Numeral w) : Balanced context maxDepth w 0 := by
  obtain ⟨sign, int, frac, exp, rfl, hsign, hint, hfrac, hexp⟩ := h
  apply balanced_plain
  intro c hc
  simp only [List.mem_append] at hc
  rcases hc with hc | hc | hc | hc
  · rcases hsign with rfl | rfl
    · cases hc
    · rw [List.mem_singleton.mp hc]
      decide
  · exact plain_integral hint c hc
  · rcases hfrac with rfl | hfrac
    · cases hc
    · exact plain_fraction hfrac c hc
  · rcases hexp with rfl | hexp
    · cases hc
    · exact plain_exponent hexp c hc

end Grammar

section Strings

variable {context : Text} {maxDepth : ℤ} {body w : Text} {c : CodePoint} {d : ℕ}

theorem rawScan_cons (s : RawScan) : rawScan context maxDepth (c :: w) s =
    rawStep context maxDepth s c >>= rawScan context maxDepth w :=
  List.foldlM_cons

theorem rawScan_unescaped (hq : c ≠ quotationMark) (he : c ≠ escape) :
    rawScan context maxDepth (c :: w) { depth := d, inString := true } =
      rawScan context maxDepth w { depth := d, inString := true } := by
  rw [rawScan_cons]
  simp only [rawStep, if_neg hq, if_neg he]
  rfl

theorem rawScan_escaped :
    rawScan context maxDepth (escape :: c :: w) { depth := d, inString := true } =
      rawScan context maxDepth w { depth := d, inString := true } := by
  rw [rawScan_cons, show rawStep context maxDepth { depth := d, inString := true } escape =
    .ok { depth := d, inString := true, escaped := true } from rfl]
  rfl

theorem hexDigit_plain (h : HexDigit c) : c ≠ quotationMark ∧ c ≠ escape := by
  have hrange : (0x30 ≤ c.val ∧ c.val ≤ 0x39) ∨ (0x41 ≤ c.val ∧ c.val ≤ 0x46) ∨
      (0x61 ≤ c.val ∧ c.val ≤ 0x66) := h
  constructor <;> rintro rfl <;> revert hrange <;> decide

/-- Nothing inside of a string is seen, and the string ends where it is closed. -/
theorem rawScan_chars (h : Chars body) :
    rawScan context maxDepth (body ++ [quotationMark]) { depth := d, inString := true } =
      .ok { depth := d } := by
  induction h with
  | nil => rfl
  | unescaped hc _ ih =>
    rw [List.cons_append, rawScan_unescaped hc.2.1 hc.2.2]
    exact ih
  | escaped hc _ ih =>
    rw [List.cons_append, List.cons_append, rawScan_escaped]
    exact ih
  | unicode ha hb hc hd _ ih =>
    obtain ⟨ha, ha'⟩ := hexDigit_plain ha
    obtain ⟨hb, hb'⟩ := hexDigit_plain hb
    obtain ⟨hc, hc'⟩ := hexDigit_plain hc
    obtain ⟨hd, hd'⟩ := hexDigit_plain hd
    simp only [List.cons_append]
    rw [rawScan_escaped, rawScan_unescaped ha ha', rawScan_unescaped hb hb',
      rawScan_unescaped hc hc', rawScan_unescaped hd hd']
    exact ih

theorem balanced_quoted (h : Chars body) : Balanced context maxDepth (quoted body) 0 := by
  constructor
  · intro d _
    rw [quoted, rawScan_cons]
    exact rawScan_chars h
  · intro d hnot
    exact absurd (.inl rfl) hnot

end Strings

section Values

variable {context : Text} {maxDepth : ℤ} {a b w : Text} {k : ℕ} {v : Json} {s : Symbol}

/-- A container is one deeper than what it holds. -/
theorem balanced_container {opening closing : CodePoint}
    (hopening : opening = beginArray ∨ opening = beginObject)
    (hclosing : closing = endArray ∨ closing = endObject) (ha : Structural opening a)
    (hb : Structural closing b) (hw : Balanced context maxDepth w k) :
    Balanced context maxDepth (a ++ (w ++ b)) (k + 1) := by
  obtain ⟨l, r, hl, hr, rfl⟩ := ha
  obtain ⟨l', r', hl', hr', rfl⟩ := hb
  have hblank {u : Text} (hu : Blank u) (d : ℕ) :
      rawScan context maxDepth u { depth := d } = .ok { depth := d } :=
    (balanced_blank hu).passes (.inl rfl)
  have hsplit (d : ℕ) : rawScan context maxDepth
      ((l ++ opening :: r) ++ (w ++ (l' ++ closing :: r'))) { depth := d } =
      rawStep context maxDepth { depth := d } opening >>=
        rawScan context maxDepth (r ++ (w ++ (l' ++ closing :: r'))) := by
    rw [List.append_assoc, rawScan_append, hblank hl, List.cons_append]
    exact rawScan_cons _
  have hend (d : ℕ) : rawScan context maxDepth (r ++ (w ++ (l' ++ closing :: r')))
      { depth := d + 1 } = rawScan context maxDepth w { depth := d + 1 } >>= fun s =>
        rawScan context maxDepth (l' ++ closing :: r') s := by
    rw [rawScan_append, hblank hr]
    exact rawScan_append _
  have hclose (d : ℕ) :
      rawScan context maxDepth (l' ++ closing :: r') { depth := d + 1 } = .ok { depth := d } := by
    rw [rawScan_append, hblank hl']
    change rawScan context maxDepth (closing :: r') { depth := d + 1 } = _
    rw [rawScan_cons]
    have hstep : rawStep context maxDepth { depth := d + 1 } closing = .ok { depth := d } := by
      rcases hclosing with rfl | rfl <;> rfl
    rw [hstep]
    exact hblank hr' d
  have hopen (d : ℕ) : rawStep context maxDepth { depth := d } opening =
      if maxDepth < d + 1 then .error (tooDeepToRead context maxDepth)
      else .ok { depth := d + 1 } := by
    rcases hopening with rfl | rfl <;> rfl
  constructor
  · intro d h
    have hroom : ¬maxDepth < d + 1 := by
      unfold Fits at h
      omega
    have hinner : Fits maxDepth (d + 1) k := by
      unfold Fits at h ⊢
      omega
    rw [hsplit, hopen, if_neg hroom]
    change rawScan context maxDepth (r ++ (w ++ (l' ++ closing :: r'))) { depth := d + 1 } = _
    rw [hend, hw.passes hinner]
    exact hclose d
  · intro d h
    rw [hsplit, hopen]
    split
    · rfl
    · rename_i hroom
      have hinner : ¬Fits maxDepth (d + 1) k := by
        unfold Fits at h ⊢
        omega
      change rawScan context maxDepth (r ++ (w ++ (l' ++ closing :: r'))) { depth := d + 1 } = _
      rw [hend, hw.refuses hinner]
      rfl

/-- What stands inside of the containers of a symbol. -/
def inside : Symbol → Json → ℕ
  | .member, .object ms | .members, .object ms => depthMembers ms
  | .elements, .array vs => depthElements vs
  | _, v => depth v

theorem balanced_empty {opening closing : CodePoint}
    (hopening : opening = beginArray ∨ opening = beginObject)
    (hclosing : closing = endArray ∨ closing = endObject) (ha : Structural opening a)
    (hb : Structural closing b) : Balanced context maxDepth (a ++ b) 1 :=
  balanced_container hopening hclosing ha hb (balanced_blank (w := []) nofun)

theorem member_object (h : Derives .member v w) : ∃ ms, v = .object ms := by
  cases h
  exact ⟨_, rfl⟩

theorem members_object (h : Derives .members v w) : ∃ ms, v = .object ms := by
  cases h with
  | lastMember h => exact member_object h
  | moreMembers => exact ⟨_, rfl⟩

theorem elements_array (h : Derives .elements v w) : ∃ vs, v = .array vs := by
  cases h <;> exact ⟨_, rfl⟩

/-- The scan counts the containers of a text that the grammar derives. -/
theorem balanced_of_derives (h : Derives s v w) : Balanced context maxDepth w (inside s v) := by
  induction h with
  | null => exact balanced_literal (.inl rfl)
  | true => exact balanced_literal (.inr (.inl rfl))
  | false => exact balanced_literal (.inr (.inr rfl))
  | number h => exact balanced_numeral h
  | string h => exact balanced_quoted h
  | ofObject _ ih => exact ih
  | ofArray _ ih => exact ih
  | emptyObject ha hb => exact balanced_empty (.inr rfl) (.inr rfl) ha hb
  | object ha h hb ih =>
    obtain ⟨ms, rfl⟩ := members_object h
    exact balanced_container (.inr rfl) (.inr rfl) ha hb ih
  | member hk hs _ ih =>
    have hname := (balanced_quoted hk).append ((balanced_separator (by decide) hs).append ih)
    simpa [inside, depthMembers] using hname
  | @lastMember v _ _ ih => cases v <;> exact ih
  | moreMembers _ hs _ ih ih' =>
    have hmore := ih.append ((balanced_separator (by decide) hs).append ih')
    simpa [inside, depthMembers] using hmore
  | emptyArray ha hb => exact balanced_empty (.inl rfl) (.inl rfl) ha hb
  | array ha h hb ih =>
    obtain ⟨vs, rfl⟩ := elements_array h
    exact balanced_container (.inl rfl) (.inl rfl) ha hb ih
  | lastElement _ ih => simpa [inside, depthElements] using ih
  | moreElements _ hs _ ih ih' =>
    have hmore := ih.append ((balanced_separator (by decide) hs).append ih')
    simpa [inside, depthElements] using hmore

/-- The scan accepts a text by the depth of its tree. -/
theorem ensureRawJsonDepth_iff (h : Denotes w v) :
    ensureRawJsonDepth context maxDepth w = .ok w ↔ Fits maxDepth 0 (depth v) := by
  obtain ⟨a, x, b, rfl, ha, hb, hx⟩ := h
  have hbalanced : Balanced context maxDepth (a ++ (x ++ b)) (depth v) := by
    have hvalue : Balanced context maxDepth x (depth v) := balanced_of_derives hx
    have hall := (balanced_blank ha).append (hvalue.append (balanced_blank hb))
    rwa [Nat.max_zero, Nat.zero_max] at hall
  rw [ensureRawJsonDepth]
  by_cases hfits : Fits maxDepth 0 (depth v)
  · rw [hbalanced.passes hfits]
    exact iff_of_true rfl hfits
  · rw [hbalanced.refuses hfits]
    exact iff_of_false nofun hfits

end Values

end OperateBench.JsonSafety
