import Mathlib.Order.Fin.Basic
import OperateBench.Foundation.Utf8Decode
import OperateBench.ExecutionLedger.Fragments

/-! # The bytes of a torn row

The last row may also be cut inside of a code point. Such a fragment is accepted when the scan
accepts U+0080 in the place of the code point: what is not in ASCII stands inside of a string only,
where all of it may stand.
-/

namespace OperateBench.ExecutionLedger.Tail

open Foundation Foundation.Json Foundation.Utf8

section Functions

/-- How long a sequence is by its lead, and the bounds of its second byte. -/
def sequenceBounds (lead : Byte) : Option (ℕ × Byte × Byte) :=
  if 0xC2 ≤ lead ∧ lead ≤ 0xDF then some (2, 0x80, 0xBF)
  else if 0xE0 ≤ lead ∧ lead ≤ 0xEF then
    some (3, if lead = 0xE0 then 0xA0 else 0x80, if lead = 0xED then 0x9F else 0xBF)
  else if 0xF0 ≤ lead ∧ lead ≤ 0xF4 then
    some (4, if lead = 0xF0 then 0x90 else 0x80, if lead = 0xF4 then 0x8F else 0xBF)
  else none

/-- Is the error only a valid code point that is cut short at the end? -/
def incompleteUtf8Suffix (exc : UnicodeDecodeError) : Bool :=
  if exc.stop ≠ exc.object.length ∨ exc.reason ≠ .unexpectedEnd then false
  else
    match (exc.object.take exc.stop).drop exc.start with
    | [] => false
    | lead :: suffix =>
      match sequenceBounds lead with
      | none => false
      | some (width, secondLow, secondHigh) =>
        if width ≤ suffix.length + 1 then false
        else if suffix.head?.any fun second => ¬(secondLow ≤ second ∧ second ≤ secondHigh) then
          false
        else suffix.tail.all fun byte => 0x80 ≤ byte ∧ byte ≤ 0xBF

/-- Can the bytes be extended into exactly one object? -/
def isRecoverableJsonObjectPrefix (fragment : List Byte) : Except UnicodeDecodeError Bool :=
  match decode fragment with
  | .ok text => .ok (isRecoverableJsonObjectTextPrefix text)
  | .error exc =>
    if ¬incompleteUtf8Suffix exc then .ok false
    else do
      let decoded ← decode (fragment.take exc.start)
      return isRecoverableJsonObjectTextPrefix (decoded ++ [0x80])

end Functions

section NonAscii

variable {m m' : Machine} {c d : CodePoint} {w s : Text}

theorem ascii_digits (h : ∀ c ∈ w, Digit c) : Ascii w := fun c hc => digit_lt (h c hc)

theorem ascii_integral (h : Integral w) : Ascii w := by
  rcases h with rfl | ⟨c, digits, rfl, hc, hdigits⟩
  · exact ascii_singleton (by decide)
  · have hlt : c < 0x80 := lt_of_le_of_lt hc.2 (by decide)
    exact ascii_cons.mpr ⟨hlt, ascii_digits hdigits⟩

theorem ascii_fraction (h : Fraction w) : Ascii w := by
  obtain ⟨digits, rfl, -, hdigits⟩ := h
  exact ascii_cons.mpr ⟨by decide, ascii_digits hdigits⟩

theorem ascii_exponent (h : Exponent w) : Ascii w := by
  obtain ⟨c, sign, digits, rfl, hc, hsign, -, hdigits⟩ := h
  have hmark : c < 0x80 := by
    rcases hc with rfl | rfl <;> decide
  have hs : Ascii sign := by
    rcases hsign with rfl | rfl | rfl
    · exact Ascii.nil
    · exact ascii_singleton (by decide)
    · exact ascii_singleton (by decide)
  exact ascii_cons.mpr ⟨hmark, hs.append (ascii_digits hdigits)⟩

theorem ascii_numeral (h : Numeral w) : Ascii w := by
  obtain ⟨sign, int, frac, exp, rfl, hsign, hint, hfrac, hexp⟩ := h
  have hs : Ascii sign := by
    rcases hsign with rfl | rfl
    · exact Ascii.nil
    · exact ascii_singleton (by decide)
  have hf : Ascii frac := by
    rcases hfrac with rfl | hfrac
    · exact Ascii.nil
    · exact ascii_fraction hfrac
  have he : Ascii exp := by
    rcases hexp with rfl | hexp
    · exact Ascii.nil
    · exact ascii_exponent hexp
  exact hs.append ((ascii_integral hint).append (hf.append he))

theorem ne_of_not_ascii {k : CodePoint} (hc : 0x80 ≤ c) (hk : k < 0x80) : c ≠ k :=
  (lt_of_lt_of_le hk hc).ne'

theorem not_digit (hc : 0x80 ≤ c) : ¬Digit c := fun h => absurd (digit_lt h) (not_lt.mpr hc)

theorem not_space (hc : 0x80 ≤ c) : ¬Space c := by
  rintro (h | h | h | h) <;> exact absurd h (ne_of_not_ascii hc (by decide))

theorem not_hexDigit (hc : 0x80 ≤ c) : ¬HexDigit c := by
  rintro (h | ⟨-, h⟩ | ⟨-, h⟩)
  · exact not_digit hc h
  · exact absurd (hc.trans h) (by decide : ¬(0x80 : CodePoint) ≤ _)
  · exact absurd (hc.trans h) (by decide : ¬(0x80 : CodePoint) ≤ _)

theorem not_escapable (hc : 0x80 ≤ c) : ¬Escapable c := by
  rintro (h | h | h | h | h | h | h | h) <;> exact absurd h (ne_of_not_ascii hc (by decide))

theorem beginValue_not_ascii (hc : 0x80 ≤ c) : m.beginValue c = none := by
  have hne {k : CodePoint} (hk : k < 0x80) : c ≠ k := ne_of_not_ascii hc hk
  have hnumber : ¬(c = minus ∨ Digit c) := not_or.mpr ⟨hne (by decide), not_digit hc⟩
  rw [Machine.beginValue, if_neg (hne (by decide)), if_neg (hne (by decide)),
    if_neg (hne (by decide)), if_neg (hne (by decide)), if_neg (hne (by decide)),
    if_neg (hne (by decide)), if_neg hnumber]

theorem structural_not_ascii (hc : 0x80 ≤ c) : m.structural c = none := by
  have hquote : c ≠ quotationMark := ne_of_not_ascii hc (by decide)
  have hobject : c ≠ endObject := ne_of_not_ascii hc (by decide)
  have harray : c ≠ endArray := ne_of_not_ascii hc (by decide)
  have hname : c ≠ nameSeparator := ne_of_not_ascii hc (by decide)
  have hvalue : c ≠ valueSeparator := ne_of_not_ascii hc (by decide)
  unfold Machine.structural
  split
  · rfl
  · split <;> simp [hquote, hobject, hname, hvalue, beginValue_not_ascii hc]
  · split <;> simp [harray, hvalue, beginValue_not_ascii hc]

/-- Outside of ASCII a step is taken inside of a string only. -/
theorem step_not_ascii (hs : m.Sound) (hc : 0x80 ≤ c) (h : m.step c = some m') :
    m.lexical = some .string := by
  unfold Machine.step at h
  split at h
  · assumption
  · have hne : c ≠ unicodeEscape := ne_of_not_ascii hc (by decide)
    simp [hne, not_escapable hc] at h
  · simp [not_hexDigit hc] at h
  · rename_i target position hl
    obtain ⟨-, -, hascii⟩ := hs.inside _ hl
    split at h
    · cases h
    · rename_i hget
      exact absurd (hascii c (List.mem_of_getElem? (not_not.mp hget))) (not_lt.mpr hc)
  · cases h
  · split at h
    · cases h
    · simp [not_space hc, structural_not_ascii hc] at h

theorem step_string (hl : m.lexical = some .string) (hc : 0x80 ≤ c) : m.step c = some m := by
  have hquote : c ≠ quotationMark := ne_of_not_ascii hc (by decide)
  have hescape : c ≠ Json.escape := ne_of_not_ascii hc (by decide)
  have hcontrol : ¬c < 0x20 := not_lt.mpr (le_trans (by decide) hc)
  unfold Machine.step
  rw [hl]
  simp only [if_neg hquote, if_neg hescape, if_neg hcontrol]

/-- A numeral ends in front of what is not in ASCII. -/
theorem numeral_stops {first : CodePoint} {n b : Text} (hc : 0x80 ≤ c) (hn : Numeral n)
    (h : (first :: w) ++ c :: s = n ++ b) :
    ∃ mid, b = mid ++ c :: s ∧ first :: w = n ++ mid := by
  rcases List.append_eq_append_iff.mp h with ⟨mid, rfl, hmid⟩ | ⟨mid, hw, rfl⟩
  · cases mid with
    | nil => exact ⟨[], hmid.symm, by rw [List.append_nil, List.append_nil]⟩
    | cons y mid =>
      obtain ⟨rfl, -⟩ := List.cons.inj hmid
      exact absurd (ascii_numeral hn c (by simp)) (not_lt.mpr hc)
  · exact ⟨mid, rfl, hw⟩

/-- The digits of a number are being read. -/
def numbering : Option Lexical → Bool
  | some (.number _) => true
  | _ => false

/-- What completes a machine stays so when one character outside of ASCII takes the place of
another. The two stand in no number, so that the number in front of them ends before. -/
theorem completed_swap {m : Machine} {w : Text} (hs : m.Sound) (hc : 0x80 ≤ c) (hd : 0x80 ≤ d)
    (h : m.Completed (w ++ c :: s)) : m.Completed (w ++ d :: s) := by
  by_cases hn : ∃ first, m.lexical = some (.number first)
  · obtain ⟨first, hl⟩ := hn
    rw [Machine.Completed, hl] at h ⊢
    obtain ⟨n, b, hw, hnumeral, hb⟩ := h
    rw [← List.cons_append] at hw
    obtain ⟨mid, hmid, hw⟩ := numeral_stops hc hnumeral hw
    have hshorter : mid.length ≤ w.length := by
      obtain ⟨x, r, rfl, -⟩ := numeral_head hnumeral
      have hlength := congrArg List.length (List.cons.inj hw).2
      rw [hlength]
      simp
    rw [hmid] at hb
    have hb : Machine.Completed { m with lexical := none } (mid ++ c :: s) := hb
    have hrest := completed_swap hs.finish hc hd hb
    exact ⟨n, mid ++ d :: s, by rw [← List.cons_append, hw, List.append_assoc], hnumeral, hrest⟩
  · have hnot (first : CodePoint) : m.lexical ≠ some (.number first) := fun hl => hn ⟨first, hl⟩
    cases w with
    | nil =>
      cases hstep : m.step c with
      | none => exact absurd h (Machine.step_none hs hnot hstep)
      | some m' =>
        have hl := step_not_ascii hs hc hstep
        have hrest := ((Machine.step_steps hs hnot (step_string hl hc)).completed s).mp h
        exact ((Machine.step_steps hs hnot (step_string hl hd)).completed s).mpr hrest
    | cons x w =>
      cases hstep : m.step x with
      | none => exact absurd h (Machine.step_none hs hnot hstep)
      | some m' =>
        obtain ⟨hsound, hcompleted⟩ := Machine.step_steps hs hnot hstep
        exact (hcompleted _).mpr (completed_swap hsound hc hd ((hcompleted _).mp h))
termination_by 2 * w.length + if numbering m.lexical then 1 else 0
decreasing_by
  · simp only [numbering, hl, reduceIte, Bool.false_eq_true]
    omega
  · subst_vars
    simp only [List.length_cons]
    split <;> split <;> omega

theorem isObject_swap (hc : 0x80 ≤ c) (hd : 0x80 ≤ d) (h : IsObject (w ++ c :: s)) :
    IsObject (w ++ d :: s) := by
  obtain ⟨r, hr, hcompletes⟩ := isObject_iff.mp h
  cases w with
  | nil =>
    obtain ⟨rfl, -⟩ := List.cons.inj hr
    exact absurd hc (by decide)
  | cons x w =>
    obtain ⟨rfl, rfl⟩ := List.cons.inj hr
    have hswap := completed_swap start_sound hc hd (completed_start.mpr hcompletes)
    exact isObject_iff.mpr ⟨w ++ d :: s, rfl, completed_start.mp hswap⟩

/-- An object does not end outside of ASCII. -/
theorem isObject_goes_on (hc : 0x80 ≤ c) (h : IsObject (w ++ c :: s)) : s ≠ [] := by
  rintro rfl
  have hlast := h.2.2
  rw [List.getLast?_concat] at hlast
  obtain rfl := Option.some.inj hlast
  exact absurd hc (by decide)

end NonAscii

section Bytes

variable {bytes read rest : List Byte} {lead : Byte} {c : CodePoint}

theorem sequenceBounds_two (hlow : 0xC2 ≤ lead.val) (hhigh : lead.val < 0xE0) :
    sequenceBounds lead = some (2, 0x80, 0xBF) :=
  if_pos ⟨hlow, Nat.le_of_lt_succ hhigh⟩

theorem sequenceBounds_three (hlow : 0xE0 ≤ lead.val) (hhigh : lead.val < 0xF0) :
    sequenceBounds lead = some
      (3, if lead = 0xE0 then 0xA0 else 0x80, if lead = 0xED then 0x9F else 0xBF) := by
  have hnot : ¬(0xC2 ≤ lead ∧ lead ≤ 0xDF) := by
    rintro ⟨-, hle⟩
    have hle : lead.val ≤ 0xDF := hle
    omega
  rw [sequenceBounds, if_neg hnot]
  exact if_pos ⟨hlow, Nat.le_of_lt_succ hhigh⟩

theorem sequenceBounds_four (hlow : 0xF0 ≤ lead.val) (hhigh : lead.val < 0xF5) :
    sequenceBounds lead = some
      (4, if lead = 0xF0 then 0x90 else 0x80, if lead = 0xF4 then 0x8F else 0xBF) := by
  have hnot : ¬(0xC2 ≤ lead ∧ lead ≤ 0xDF) := by
    rintro ⟨-, hle⟩
    have hle : lead.val ≤ 0xDF := hle
    omega
  have hnot' : ¬(0xE0 ≤ lead ∧ lead ≤ 0xEF) := by
    rintro ⟨-, hle⟩
    have hle : lead.val ≤ 0xEF := hle
    omega
  rw [sequenceBounds, if_neg hnot, if_neg hnot']
  exact if_pos ⟨hlow, Nat.le_of_lt_succ hhigh⟩

theorem secondOf_bounds {second : Byte} (h : SecondOf lead second) :
    (if lead = 0xE0 then 0xA0 else 0x80) ≤ second ∧
      second ≤ (if lead = 0xED then 0x9F else 0xBF) := by
  obtain ⟨⟨hlow, hhigh⟩, he0, hed, -, -⟩ := h
  constructor
  · split
    · exact he0 ‹_›
    · exact hlow
  · split
    · exact Nat.le_of_lt_succ (hed ‹_›)
    · exact hhigh

theorem secondOf_bounds' {second : Byte} (h : SecondOf lead second) :
    (if lead = 0xF0 then 0x90 else 0x80) ≤ second ∧
      second ≤ (if lead = 0xF4 then 0x8F else 0xBF) := by
  obtain ⟨⟨hlow, hhigh⟩, -, -, hf0, hf4⟩ := h
  constructor
  · split
    · exact hf0 ‹_›
    · exact hlow
  · split
    · exact Nat.le_of_lt_succ (hf4 ‹_›)
    · exact hhigh

/-- The shape of a sequence of several bytes, as its lead tells it. -/
theorem sequence_bounds {second : Byte} (h : Sequence (lead :: second :: rest) c) :
    ∃ width low high, sequenceBounds lead = some (width, low, high) ∧ rest.length + 2 = width ∧
      (low ≤ second ∧ second ≤ high) ∧ ∀ b ∈ rest, Continuation b := by
  cases h with
  | two hlow hhigh hs => exact ⟨_, _, _, sequenceBounds_two hlow hhigh, rfl, hs, nofun⟩
  | three hlow hhigh hs ht =>
    exact ⟨_, _, _, sequenceBounds_three hlow hhigh, rfl, secondOf_bounds hs, by simpa using ht⟩
  | four hlow hhigh hs ht hf =>
    exact ⟨_, _, _, sequenceBounds_four hlow hhigh, rfl, secondOf_bounds' hs, by simp [ht, hf]⟩

/-- What the decoder calls an unexpected end is a valid code point cut short. -/
theorem incomplete_of_cut {exc : UnicodeDecodeError} (hreason : exc.reason = .unexpectedEnd)
    (hobject : exc.object = read ++ rest) (hstart : exc.start = read.length)
    (hstop : exc.stop = (read ++ rest).length) (hcut : Cut rest) :
    incompleteUtf8Suffix exc = true := by
  obtain ⟨hne, more, c, hmore, hs⟩ := hcut
  have hwhole : ¬(exc.stop ≠ exc.object.length ∨ exc.reason ≠ .unexpectedEnd) := by
    rw [hobject, hstop, hreason]
    simp
  rw [incompleteUtf8Suffix, if_neg hwhole, hobject, hstop, hstart, List.take_length,
    List.drop_left]
  match rest, hne with
  | [lead], _ =>
    obtain ⟨second, more, rfl⟩ := List.exists_cons_of_ne_nil hmore
    obtain ⟨width, low, high, hbounds, hwidth, -, -⟩ := sequence_bounds hs
    have hshort : ¬width ≤ 1 := by omega
    simp [hbounds, hshort]
  | lead :: second :: rest, _ =>
    have hs : Sequence (lead :: second :: (rest ++ more)) c := hs
    obtain ⟨width, low, high, hbounds, hwidth, hsecond, hrest⟩ := sequence_bounds hs
    have hpos := List.length_pos_iff.mpr hmore
    rw [List.length_append] at hwidth
    have hshort : ¬width ≤ rest.length + 1 + 1 := by omega
    have hall (b : Byte) (hb : b ∈ rest) : 0x80 ≤ b ∧ b ≤ 0xBF :=
      hrest b (List.mem_append_left more hb)
    simp only [hbounds, List.length_cons, if_neg hshort, List.head?_cons, Option.any_some, hsecond,
      List.tail_cons]
    simpa using hall

theorem unexpectedEnd_of_incomplete {exc : UnicodeDecodeError}
    (h : incompleteUtf8Suffix exc = true) : exc.reason = .unexpectedEnd := by
  by_contra hreason
  rw [incompleteUtf8Suffix, if_pos (.inr hreason)] at h
  cases h

/-- The bytes go on to the encoding of an object. -/
def Extends (bytes : List Byte) : Prop :=
  ∃ w encoded, IsObject w ∧ encode w = some encoded ∧ bytes <+: encoded ∧
    bytes.length < encoded.length

theorem encode_ne_nil {t : Text} (ht : t ≠ []) (h : encode t = some bytes) : bytes ≠ [] := by
  rintro rfl
  have hdecode := decode_encode h
  rw [decode, decodeFrom] at hdecode
  exact ht (Except.ok.inj hdecode).symm

theorem extends_of {t s : Text} (ht : encode t = some bytes) (hs : s ≠ []) (ha : Ascii s)
    (hobject : IsObject (t ++ s)) : Extends bytes := by
  obtain ⟨more, hmore⟩ := encode_ascii ha
  have hpos := List.length_pos_iff.mpr (encode_ne_nil hs hmore)
  refine ⟨t ++ s, bytes ++ more, hobject, encode_append ht hmore, List.prefix_append _ _, ?_⟩
  rw [List.length_append]
  omega

theorem isObject_empty : IsObject [beginObject, endObject] :=
  isObject_iff.mpr ⟨[endObject], rfl, .noMembers⟩

/-- An accepted text goes on in ASCII, whether it is empty or not. -/
theorem extends_of_text {t : Text} (ht : encode t = some bytes)
    (h : isRecoverableJsonObjectTextPrefix t = true) : Extends bytes := by
  by_cases hnil : t = []
  · subst hnil
    exact extends_of ht (List.cons_ne_nil _ _) (ascii_cons.mpr ⟨by decide, ascii_singleton
      (by decide)⟩) isObject_empty
  · obtain ⟨s, hs, ha, hobject⟩ := recoverable_extends hnil h
    exact extends_of ht hs ha hobject

/-- An accepted fragment goes on with the rest of the cut code point, and then in ASCII. -/
theorem extends_of_cut {t : Text} (ht : encode t = some read) (hcut : Cut rest)
    (h : isRecoverableJsonObjectTextPrefix (t ++ [0x80]) = true) : Extends (read ++ rest) := by
  obtain ⟨hne, more, c, hmore, hs⟩ := hcut
  obtain ⟨s, -, ha, hobject⟩ := recoverable_extends (by simp) h
  rw [List.append_assoc, List.singleton_append] at hobject
  have hswap := isObject_swap (by decide) (hs.not_ascii hne hmore) hobject
  obtain ⟨behind, hbehind⟩ := encode_ascii ha
  have hencoded := encode_append ht (encode_cons (encode_iff.mpr hs) hbehind)
  have hpos := List.length_pos_iff.mpr hmore
  refine ⟨_, _, hswap, hencoded, ⟨more ++ behind, by simp⟩, ?_⟩
  simp only [List.length_append]
  omega

theorem prefix_of_extends (h : Extends bytes) : isRecoverableJsonObjectPrefix bytes = .ok true := by
  obtain ⟨w, encoded, hobject, hw, ⟨more, rfl⟩, hlength⟩ := h
  have hmore : more ≠ [] := by
    rintro rfl
    rw [List.append_nil] at hlength
    omega
  rcases prefix_cases hw with
    ⟨t, u, rfl, ht, hu⟩ | ⟨t, c, u, read, rest, cut, rfl, rfl, ht, hrest, hcut, hs⟩
  · have hne : u ≠ [] := by
      rintro rfl
      exact hmore (Option.some.inj hu).symm
    rw [isRecoverableJsonObjectPrefix, decode_encode ht]
    exact congrArg Except.ok (recoverable_of_object hne hobject)
  · have hc := hs.not_ascii hrest hcut
    have hgoes := isObject_goes_on hc hobject
    have hswap : IsObject ((t ++ [0x80]) ++ u) := by
      rw [List.append_assoc, List.singleton_append]
      exact isObject_swap hc (by decide) hobject
    have hdecode := decode_cut ht ⟨hrest, cut, c, hcut, hs⟩
    have hincomplete : incompleteUtf8Suffix
        { object := read ++ rest
          start := read.length
          stop := (read ++ rest).length
          reason := .unexpectedEnd } = true :=
      incomplete_of_cut rfl rfl rfl rfl ⟨hrest, cut, c, hcut, hs⟩
    rw [isRecoverableJsonObjectPrefix, hdecode]
    simp only [hincomplete, not_true_eq_false, if_false, List.take_left, decode_encode ht]
    exact congrArg Except.ok (recoverable_of_object hgoes hswap)

theorem prefix_cases_of (bytes : List Byte) :
    ∃ accepted, isRecoverableJsonObjectPrefix bytes = .ok accepted ∧
      (accepted = true → Extends bytes) := by
  rw [isRecoverableJsonObjectPrefix]
  cases hdecode : decode bytes with
  | ok t => exact ⟨_, rfl, extends_of_text (encode_of_decode hdecode)⟩
  | error exc =>
    obtain ⟨t, read, rest, rfl, ht, hobject, hstart, hend⟩ := cut_of_decode hdecode
    by_cases hincomplete : incompleteUtf8Suffix exc = true
    · obtain ⟨-, hcut⟩ := hend (unexpectedEnd_of_incomplete hincomplete)
      simp only [hincomplete, not_true_eq_false, if_false, hstart, List.take_left,
        decode_encode ht]
      exact ⟨_, rfl, extends_of_cut ht hcut⟩
    · exact ⟨false, if_pos hincomplete, nofun⟩

/-- The scan accepts the proper prefixes of objects and nothing else, as text and as bytes, and it
raises on none. -/
theorem prefixes_of_objects :
    (∀ w, isRecoverableJsonObjectTextPrefix w = true ↔
      w = [] ∨ ∃ s, s ≠ [] ∧ IsObject (w ++ s)) ∧
    ∀ bytes, ∃ accepted, isRecoverableJsonObjectPrefix bytes = .ok accepted ∧
      (accepted = true ↔ ∃ w encoded, IsObject w ∧ encode w = some encoded ∧ bytes <+: encoded ∧
        bytes.length < encoded.length) := by
  constructor
  · intro w
    exact recoverable_iff
  · intro bytes
    obtain ⟨accepted, haccepted, hextends⟩ := prefix_cases_of bytes
    refine ⟨accepted, haccepted, hextends, ?_⟩
    intro h
    rw [prefix_of_extends h] at haccepted
    exact (Except.ok.inj haccepted).symm

end Bytes

end OperateBench.ExecutionLedger.Tail
