import OperateBench.Foundation.Json

/-! # UTF-8

The encoding of code points other than surrogates, and a decoder that says where the first
sequence that it cannot read begins and ends, and why.
-/

namespace Foundation

abbrev Byte := Fin 256

instance neZeroBytes : NeZero 256 := ⟨by decide⟩

namespace Utf8

section Encoding

def byte (n : ℕ) : Byte := Fin.ofNat 256 n

def Surrogate (c : CodePoint) : Prop := 0xD800 ≤ c ∧ c ≤ 0xDFFF

instance : DecidablePred Surrogate := fun _ => inferInstanceAs (Decidable (_ ∧ _))

def encodeScalar (c : CodePoint) : Option (List Byte) :=
  if c < 0x80 then some [byte c]
  else if c < 0x800 then some [byte (0xC0 + c / 64), byte (0x80 + c % 64)]
  else if Surrogate c then none
  else if c < 0x10000 then
    some [byte (0xE0 + c / 4096), byte (0x80 + c / 64 % 64), byte (0x80 + c % 64)]
  else
    some [byte (0xF0 + c / 262144), byte (0x80 + c / 4096 % 64), byte (0x80 + c / 64 % 64),
      byte (0x80 + c % 64)]

def encode : Text → Option (List Byte)
  | [] => some []
  | c :: w => do
    let bytes ← encodeScalar c
    let rest ← encode w
    return bytes ++ rest

end Encoding

section Decoding

inductive DecodeReason
  | unexpectedEnd
  | invalidStart
  | invalidContinuation
deriving DecidableEq

/-- The sequence that cannot be read, by its place in the bytes. -/
structure UnicodeDecodeError where
  object : List Byte
  start : ℕ
  stop : ℕ
  reason : DecodeReason

/-- The first sequence: a code point and what is behind it, or so many bytes that are none. -/
inductive Next
  | scalar (c : CodePoint) (rest : List Byte)
  | bad (reason : DecodeReason) (width : ℕ)

def Continuation (b : Byte) : Prop := 0x80 ≤ b ∧ b ≤ 0xBF

instance : DecidablePred Continuation := fun _ => inferInstanceAs (Decidable (_ ∧ _))

/-- The six bits of each byte behind the bits of the lead. -/
def assemble (lead : ℕ) (bytes : List Byte) : CodePoint :=
  Fin.ofNat 0x110000 (bytes.foldl (fun n b => n * 64 + (b.val - 0x80)) lead)

def decodeTwo (lead : Byte) : List Byte → Next
  | [] => .bad .unexpectedEnd 1
  | second :: rest =>
    if Continuation second then .scalar (assemble (lead - 0xC0) [second]) rest
    else .bad .invalidContinuation 1

/-- The second byte has its own range behind the leads that end the range of the encoding. -/
def SecondOf (lead second : Byte) : Prop :=
  Continuation second ∧ (lead = 0xE0 → 0xA0 ≤ second) ∧ (lead = 0xED → second < 0xA0) ∧
    (lead = 0xF0 → 0x90 ≤ second) ∧ (lead = 0xF4 → second < 0x90)

instance (lead second : Byte) : Decidable (SecondOf lead second) :=
  inferInstanceAs (Decidable (_ ∧ _))

def decodeThree (lead : Byte) : List Byte → Next
  | [] => .bad .unexpectedEnd 1
  | second :: rest =>
    if SecondOf lead second then
      match rest with
      | [] => .bad .unexpectedEnd 2
      | third :: rest =>
        if Continuation third then .scalar (assemble (lead - 0xE0) [second, third]) rest
        else .bad .invalidContinuation 2
    else .bad .invalidContinuation 1

def decodeFour (lead : Byte) : List Byte → Next
  | [] => .bad .unexpectedEnd 1
  | second :: rest =>
    if SecondOf lead second then
      match rest with
      | [] => .bad .unexpectedEnd 2
      | third :: rest =>
        if Continuation third then
          match rest with
          | [] => .bad .unexpectedEnd 3
          | fourth :: rest =>
            if Continuation fourth then
              .scalar (assemble (lead - 0xF0) [second, third, fourth]) rest
            else .bad .invalidContinuation 3
        else .bad .invalidContinuation 2
    else .bad .invalidContinuation 1

def decodeNext (lead : Byte) (rest : List Byte) : Next :=
  if lead < 0x80 then .scalar (assemble lead []) rest
  else if lead < 0xC2 then .bad .invalidStart 1
  else if lead < 0xE0 then decodeTwo lead rest
  else if lead < 0xF0 then decodeThree lead rest
  else if lead < 0xF5 then decodeFour lead rest
  else .bad .invalidStart 1

end Decoding

section Sequences

variable {c : CodePoint} {lead : Byte} {bytes rest : List Byte} {reason : DecodeReason} {width : ℕ}

theorem val_byte {n : ℕ} (h : n < 256) : (byte n).val = n := Nat.mod_eq_of_lt h

theorem byte_eq {n : ℕ} {b : Byte} (h : n = b.val) : byte n = b := by
  rw [h]
  exact Fin.ofNat_val_eq_self b

theorem val_assemble {lead : ℕ} {bytes : List Byte} {n : ℕ}
    (h : bytes.foldl (fun n b => n * 64 + (b.val - 0x80)) lead = n) (hn : n < 0x110000) :
    (assemble lead bytes).val = n := by
  rw [assemble, h]
  exact Nat.mod_eq_of_lt hn

theorem encode_two {second : Byte} (hlow : 0xC2 ≤ lead.val) (hhigh : lead.val < 0xE0)
    (hs : Continuation second) :
    encodeScalar (assemble (lead.val - 0xC0) [second]) = some [lead, second] := by
  have hlo : 0x80 ≤ second.val := hs.1
  have hhi : second.val ≤ 0xBF := hs.2
  have hval : (assemble (lead.val - 0xC0) [second]).val =
      (lead.val - 0xC0) * 64 + (second.val - 0x80) := val_assemble rfl (by omega)
  generalize assemble (lead.val - 0xC0) [second] = c at hval
  have hnot : ¬c < 0x80 := by
    change ¬c.val < 0x80
    omega
  have hlt : c < 0x800 := by
    change c.val < 0x800
    omega
  rw [encodeScalar, if_neg hnot, if_pos hlt]
  rw [byte_eq (b := lead) (by omega), byte_eq (b := second) (by omega)]

theorem SecondOf.val {second : Byte} (h : SecondOf lead second) :
    0x80 ≤ second.val ∧ second.val ≤ 0xBF ∧ (lead.val = 0xE0 → 0xA0 ≤ second.val) ∧
      (lead.val = 0xED → second.val < 0xA0) ∧ (lead.val = 0xF0 → 0x90 ≤ second.val) ∧
      (lead.val = 0xF4 → second.val < 0x90) := by
  obtain ⟨⟨hlo, hhi⟩, he0, hed, hf0, hf4⟩ := h
  exact ⟨hlo, hhi, fun h => he0 (Fin.ext h), fun h => hed (Fin.ext h), fun h => hf0 (Fin.ext h),
    fun h => hf4 (Fin.ext h)⟩

theorem encode_three {second third : Byte} (hlow : 0xE0 ≤ lead.val) (hhigh : lead.val < 0xF0)
    (hs : SecondOf lead second) (ht : Continuation third) :
    encodeScalar (assemble (lead.val - 0xE0) [second, third]) = some [lead, second, third] := by
  obtain ⟨hlo, hhi, he0, hed, -, -⟩ := hs.val
  have htlo : 0x80 ≤ third.val := ht.1
  have hthi : third.val ≤ 0xBF := ht.2
  have hval : (assemble (lead.val - 0xE0) [second, third]).val =
      ((lead.val - 0xE0) * 64 + (second.val - 0x80)) * 64 + (third.val - 0x80) :=
    val_assemble rfl (by omega)
  generalize assemble (lead.val - 0xE0) [second, third] = c at hval
  have hnot : ¬c < 0x80 := by
    change ¬c.val < 0x80
    omega
  have hnot' : ¬c < 0x800 := by
    change ¬c.val < 0x800
    omega
  have hsurrogate : ¬Surrogate c := by
    change ¬(0xD800 ≤ c.val ∧ c.val ≤ 0xDFFF)
    omega
  have hlt : c < 0x10000 := by
    change c.val < 0x10000
    omega
  rw [encodeScalar, if_neg hnot, if_neg hnot', if_neg hsurrogate, if_pos hlt]
  rw [byte_eq (b := lead) (by omega), byte_eq (b := second) (by omega),
    byte_eq (b := third) (by omega)]

theorem encode_four {second third fourth : Byte} (hlow : 0xF0 ≤ lead.val)
    (hhigh : lead.val < 0xF5) (hs : SecondOf lead second) (ht : Continuation third)
    (hf : Continuation fourth) :
    encodeScalar (assemble (lead.val - 0xF0) [second, third, fourth]) =
      some [lead, second, third, fourth] := by
  obtain ⟨hlo, hhi, -, -, hf0, hf4⟩ := hs.val
  have htlo : 0x80 ≤ third.val := ht.1
  have hthi : third.val ≤ 0xBF := ht.2
  have hflo : 0x80 ≤ fourth.val := hf.1
  have hfhi : fourth.val ≤ 0xBF := hf.2
  have hval : (assemble (lead.val - 0xF0) [second, third, fourth]).val =
      (((lead.val - 0xF0) * 64 + (second.val - 0x80)) * 64 + (third.val - 0x80)) * 64 +
        (fourth.val - 0x80) :=
    val_assemble rfl (by omega)
  generalize assemble (lead.val - 0xF0) [second, third, fourth] = c at hval
  have hnot : ¬c < 0x80 := by
    change ¬c.val < 0x80
    omega
  have hnot' : ¬c < 0x800 := by
    change ¬c.val < 0x800
    omega
  have hsurrogate : ¬Surrogate c := by
    change ¬(0xD800 ≤ c.val ∧ c.val ≤ 0xDFFF)
    omega
  have hlt : ¬c < 0x10000 := by
    change ¬c.val < 0x10000
    omega
  rw [encodeScalar, if_neg hnot, if_neg hnot', if_neg hsurrogate, if_neg hlt]
  rw [byte_eq (b := lead) (by omega), byte_eq (b := second) (by omega),
    byte_eq (b := third) (by omega), byte_eq (b := fourth) (by omega)]

/-- What the first sequence is when it is read. -/
inductive Sequence : List Byte → CodePoint → Prop
  | one {lead : Byte} (h : lead.val < 0x80) : Sequence [lead] (assemble lead [])
  | two {lead second : Byte} (hlow : 0xC2 ≤ lead.val) (hhigh : lead.val < 0xE0)
      (hs : Continuation second) : Sequence [lead, second] (assemble (lead.val - 0xC0) [second])
  | three {lead second third : Byte} (hlow : 0xE0 ≤ lead.val) (hhigh : lead.val < 0xF0)
      (hs : SecondOf lead second) (ht : Continuation third) :
      Sequence [lead, second, third] (assemble (lead.val - 0xE0) [second, third])
  | four {lead second third fourth : Byte} (hlow : 0xF0 ≤ lead.val) (hhigh : lead.val < 0xF5)
      (hs : SecondOf lead second) (ht : Continuation third) (hf : Continuation fourth) :
      Sequence [lead, second, third, fourth] (assemble (lead.val - 0xF0) [second, third, fourth])

/-- A sequence is cut when it goes on to one. -/
def Cut (bytes : List Byte) : Prop :=
  bytes ≠ [] ∧ ∃ more c, more ≠ [] ∧ Sequence (bytes ++ more) c

theorem Sequence.encode (h : Sequence bytes c) : encodeScalar c = some bytes := by
  cases h with
  | one h =>
    rename_i lead
    have hval : (assemble lead []).val = lead.val := val_assemble rfl (by omega)
    have hlt : assemble lead [] < 0x80 := by
      change (assemble lead []).val < 0x80
      omega
    rw [encodeScalar, if_pos hlt, byte_eq hval]
  | two hlow hhigh hs => exact encode_two hlow hhigh hs
  | three hlow hhigh hs ht => exact encode_three hlow hhigh hs ht
  | four hlow hhigh hs ht hf => exact encode_four hlow hhigh hs ht hf

theorem continuation_byte {n : ℕ} (h : n < 64) : Continuation (byte (0x80 + n)) := by
  have hval : (byte (0x80 + n)).val = 0x80 + n := val_byte (by omega)
  constructor
  · change 0x80 ≤ (byte (0x80 + n)).val
    omega
  · change (byte (0x80 + n)).val ≤ 0xBF
    omega

/-- The second byte by its six bits. -/
theorem secondOf_byte {l n : ℕ} (hl : l < 256) (h : n < 64) (he0 : l = 0xE0 → 32 ≤ n)
    (hed : l = 0xED → n < 32) (hf0 : l = 0xF0 → 16 ≤ n) (hf4 : l = 0xF4 → n < 16) :
    SecondOf (byte l) (byte (0x80 + n)) := by
  have hval : (byte (0x80 + n)).val = 0x80 + n := val_byte (by omega)
  have hlead (b : Byte) (hb : byte l = b) : l = b.val := by
    rw [← hb, val_byte hl]
  refine ⟨continuation_byte h, fun hb => ?_, fun hb => ?_, fun hb => ?_, fun hb => ?_⟩
  · have := he0 (hlead _ hb)
    change 0xA0 ≤ (byte (0x80 + n)).val
    omega
  · have := hed (hlead _ hb)
    change (byte (0x80 + n)).val < 0xA0
    omega
  · have := hf0 (hlead _ hb)
    change 0x90 ≤ (byte (0x80 + n)).val
    omega
  · have := hf4 (hlead _ hb)
    change (byte (0x80 + n)).val < 0x90
    omega

theorem assemble_eq {lead : ℕ} {bytes : List Byte}
    (h : bytes.foldl (fun n b => n * 64 + (b.val - 0x80)) lead = c.val) :
    assemble lead bytes = c := Fin.ext (val_assemble h c.isLt)

/-- A code point is encoded as a sequence that is read as it. -/
theorem sequence_of_encode (h : encodeScalar c = some bytes) : Sequence bytes c := by
  have hc := c.isLt
  rw [encodeScalar] at h
  split at h
  · rename_i hlt
    have hlt : c.val < 0x80 := hlt
    cases h
    have hlead : (byte c.val).val = c.val := val_byte (by omega)
    have hone := @Sequence.one (byte c.val) (by omega)
    rwa [@assemble_eq c _ [] hlead] at hone
  split at h
  · rename_i hnot hlt
    have hnot : ¬c.val < 0x80 := hnot
    have hlt : c.val < 0x800 := hlt
    cases h
    have hlead : (byte (0xC0 + c.val / 64)).val = 0xC0 + c.val / 64 := val_byte (by omega)
    have hsecond : (byte (0x80 + c.val % 64)).val = 0x80 + c.val % 64 := val_byte (by omega)
    have htwo := @Sequence.two (byte (0xC0 + c.val / 64)) _ (by omega) (by omega)
      (continuation_byte (n := c.val % 64) (by omega))
    rwa [assemble_eq (c := c)] at htwo
    simp only [List.foldl, hlead, hsecond]
    omega
  split at h
  · cases h
  split at h
  · rename_i hnot hnot' hsurrogate hlt
    have hnot' : ¬c.val < 0x800 := hnot'
    have hlt : c.val < 0x10000 := hlt
    have hsurrogate : ¬(0xD800 ≤ c.val ∧ c.val ≤ 0xDFFF) := hsurrogate
    cases h
    have hlead : (byte (0xE0 + c.val / 4096)).val = 0xE0 + c.val / 4096 := val_byte (by omega)
    have hsecond : (byte (0x80 + c.val / 64 % 64)).val = 0x80 + c.val / 64 % 64 :=
      val_byte (by omega)
    have hthird : (byte (0x80 + c.val % 64)).val = 0x80 + c.val % 64 := val_byte (by omega)
    have hthree := @Sequence.three (byte (0xE0 + c.val / 4096)) _ _ (by omega) (by omega)
      (secondOf_byte (n := c.val / 64 % 64) (by omega) (by omega) (by omega) (by omega) (by omega)
        (by omega))
      (continuation_byte (n := c.val % 64) (by omega))
    rwa [assemble_eq (c := c)] at hthree
    simp only [List.foldl, hlead, hsecond, hthird]
    omega
  · rename_i hnot hnot' hsurrogate hlt
    have hlt : ¬c.val < 0x10000 := hlt
    cases h
    have hlead : (byte (0xF0 + c.val / 262144)).val = 0xF0 + c.val / 262144 := val_byte (by omega)
    have hsecond : (byte (0x80 + c.val / 4096 % 64)).val = 0x80 + c.val / 4096 % 64 :=
      val_byte (by omega)
    have hthird : (byte (0x80 + c.val / 64 % 64)).val = 0x80 + c.val / 64 % 64 :=
      val_byte (by omega)
    have hfourth : (byte (0x80 + c.val % 64)).val = 0x80 + c.val % 64 := val_byte (by omega)
    have hfour := @Sequence.four (byte (0xF0 + c.val / 262144)) _ _ _ (by omega) (by omega)
      (secondOf_byte (n := c.val / 4096 % 64) (by omega) (by omega) (by omega) (by omega)
        (by omega) (by omega))
      (continuation_byte (n := c.val / 64 % 64) (by omega))
      (continuation_byte (n := c.val % 64) (by omega))
    rwa [assemble_eq (c := c)] at hfour
    simp only [List.foldl, hlead, hsecond, hthird, hfourth]
    omega

theorem encode_iff : encodeScalar c = some bytes ↔ Sequence bytes c :=
  ⟨sequence_of_encode, Sequence.encode⟩

/-- A sequence is read from the front of what begins with it. -/
theorem Sequence.next {read : List Byte} (h : Sequence (lead :: read) c) :
    decodeNext lead (read ++ rest) = .scalar c rest := by
  rw [decodeNext]
  cases h with
  | one h =>
    have hlt : lead < 0x80 := h
    rw [if_pos hlt]
    rfl
  | two hlow hhigh hs =>
    have h₁ : ¬lead < 0x80 := Nat.not_lt.mpr (Nat.le_trans (by decide) hlow)
    have h₂ : ¬lead < 0xC2 := Nat.not_lt.mpr hlow
    have h₃ : lead < 0xE0 := hhigh
    rw [if_neg h₁, if_neg h₂, if_pos h₃, List.singleton_append, decodeTwo, if_pos hs]
  | three hlow hhigh hs ht =>
    have h₁ : ¬lead < 0x80 := Nat.not_lt.mpr (Nat.le_trans (by decide) hlow)
    have h₂ : ¬lead < 0xC2 := Nat.not_lt.mpr (Nat.le_trans (by decide) hlow)
    have h₃ : ¬lead < 0xE0 := Nat.not_lt.mpr hlow
    have h₄ : lead < 0xF0 := hhigh
    rw [if_neg h₁, if_neg h₂, if_neg h₃, if_pos h₄]
    simp only [List.cons_append, List.nil_append, decodeThree, if_pos hs, if_pos ht]
  | four hlow hhigh hs ht hf =>
    have h₁ : ¬lead < 0x80 := Nat.not_lt.mpr (Nat.le_trans (by decide) hlow)
    have h₂ : ¬lead < 0xC2 := Nat.not_lt.mpr (Nat.le_trans (by decide) hlow)
    have h₃ : ¬lead < 0xE0 := Nat.not_lt.mpr (Nat.le_trans (by decide) hlow)
    have h₄ : ¬lead < 0xF0 := Nat.not_lt.mpr hlow
    have h₅ : lead < 0xF5 := hhigh
    rw [if_neg h₁, if_neg h₂, if_neg h₃, if_neg h₄, if_pos h₅]
    simp only [List.cons_append, List.nil_append, decodeFour, if_pos hs, if_pos ht, if_pos hf]

theorem decodeTwo_scalar (hlow : 0xC2 ≤ lead.val) (hhigh : lead.val < 0xE0)
    (h : decodeTwo lead rest = .scalar c bytes) :
    ∃ read, Sequence (lead :: read) c ∧ rest = read ++ bytes := by
  cases rest with
  | nil => cases h
  | cons second rest =>
    rw [decodeTwo] at h
    split at h
    · rename_i hs
      obtain ⟨hc, hrest⟩ := Next.scalar.inj h
      rw [← hc, ← hrest]
      exact ⟨[second], .two hlow hhigh hs, rfl⟩
    · cases h

theorem decodeThree_scalar (hlow : 0xE0 ≤ lead.val) (hhigh : lead.val < 0xF0)
    (h : decodeThree lead rest = .scalar c bytes) :
    ∃ read, Sequence (lead :: read) c ∧ rest = read ++ bytes := by
  match rest, h with
  | [], h => cases h
  | [second], h =>
    simp only [decodeThree] at h
    split at h <;> cases h
  | second :: third :: rest, h =>
    simp only [decodeThree] at h
    split at h
    · rename_i hs
      split at h
      · rename_i ht
        obtain ⟨hc, hrest⟩ := Next.scalar.inj h
        rw [← hc, ← hrest]
        exact ⟨[second, third], .three hlow hhigh hs ht, rfl⟩
      · cases h
    · cases h

theorem decodeFour_scalar (hlow : 0xF0 ≤ lead.val) (hhigh : lead.val < 0xF5)
    (h : decodeFour lead rest = .scalar c bytes) :
    ∃ read, Sequence (lead :: read) c ∧ rest = read ++ bytes := by
  match rest, h with
  | [], h => cases h
  | [second], h =>
    simp only [decodeFour] at h
    split at h <;> cases h
  | [second, third], h =>
    simp only [decodeFour] at h
    split at h
    · split at h <;> cases h
    · cases h
  | second :: third :: fourth :: rest, h =>
    simp only [decodeFour] at h
    split at h
    · rename_i hs
      split at h
      · rename_i ht
        split at h
        · rename_i hf
          obtain ⟨hc, hrest⟩ := Next.scalar.inj h
          rw [← hc, ← hrest]
          exact ⟨[second, third, fourth], .four hlow hhigh hs ht hf, rfl⟩
        · cases h
      · cases h
    · cases h

/-- What is read is a sequence. -/
theorem next_scalar (h : decodeNext lead rest = .scalar c bytes) :
    ∃ read, Sequence (lead :: read) c ∧ rest = read ++ bytes := by
  rw [decodeNext] at h
  split at h
  · rename_i hone
    cases h
    exact ⟨[], .one hone, rfl⟩
  split at h
  · cases h
  · rename_i hlow
    split at h
    · rename_i hhigh
      exact decodeTwo_scalar (Nat.not_lt.mp hlow) hhigh h
    · rename_i hthree
      split at h
      · rename_i hhigh
        exact decodeThree_scalar (Nat.not_lt.mp hthree) hhigh h
      · rename_i hfour
        split at h
        · rename_i hhigh
          exact decodeFour_scalar (Nat.not_lt.mp hfour) hhigh h
        · cases h

/-- A lead of three or four bytes has a second byte. -/
theorem exists_secondOf (lead : Byte) : ∃ second, SecondOf lead second := by
  by_cases h : lead = 0xED ∨ lead = 0xF4
  · refine ⟨0x80, by decide, ?_, fun _ => by decide, ?_, fun _ => by decide⟩
    · rintro rfl
      exact absurd h (by decide)
    · rintro rfl
      exact absurd h (by decide)
  · rw [not_or] at h
    exact ⟨0xBF, by decide, fun _ => by decide, fun hed => absurd hed h.1, fun _ => by decide,
      fun hf4 => absurd hf4 h.2⟩

theorem decodeTwo_cut (hlow : 0xC2 ≤ lead.val) (hhigh : lead.val < 0xE0)
    (h : decodeTwo lead rest = .bad .unexpectedEnd width) :
    width = rest.length + 1 ∧ Cut (lead :: rest) := by
  cases rest with
  | nil =>
    cases h
    exact ⟨rfl, List.cons_ne_nil _ _, [0x80], _, List.cons_ne_nil _ _,
      .two hlow hhigh (by decide)⟩
  | cons second rest =>
    rw [decodeTwo] at h
    split at h <;> cases h

theorem decodeThree_cut (hlow : 0xE0 ≤ lead.val) (hhigh : lead.val < 0xF0)
    (h : decodeThree lead rest = .bad .unexpectedEnd width) :
    width = rest.length + 1 ∧ Cut (lead :: rest) := by
  match rest, h with
  | [], h =>
    cases h
    obtain ⟨second, hs⟩ := exists_secondOf lead
    exact ⟨rfl, List.cons_ne_nil _ _, [second, 0x80], _, List.cons_ne_nil _ _,
      .three hlow hhigh hs (by decide)⟩
  | [second], h =>
    simp only [decodeThree] at h
    split at h
    · rename_i hs
      cases h
      exact ⟨rfl, List.cons_ne_nil _ _, [0x80], _, List.cons_ne_nil _ _,
        .three hlow hhigh hs (by decide)⟩
    · cases h
  | second :: third :: rest, h =>
    simp only [decodeThree] at h
    split at h
    · split at h <;> cases h
    · cases h

theorem decodeFour_cut (hlow : 0xF0 ≤ lead.val) (hhigh : lead.val < 0xF5)
    (h : decodeFour lead rest = .bad .unexpectedEnd width) :
    width = rest.length + 1 ∧ Cut (lead :: rest) := by
  match rest, h with
  | [], h =>
    cases h
    obtain ⟨second, hs⟩ := exists_secondOf lead
    exact ⟨rfl, List.cons_ne_nil _ _, [second, 0x80, 0x80], _, List.cons_ne_nil _ _,
      .four hlow hhigh hs (by decide) (by decide)⟩
  | [second], h =>
    simp only [decodeFour] at h
    split at h
    · rename_i hs
      cases h
      exact ⟨rfl, List.cons_ne_nil _ _, [0x80, 0x80], _, List.cons_ne_nil _ _,
        .four hlow hhigh hs (by decide) (by decide)⟩
    · cases h
  | [second, third], h =>
    simp only [decodeFour] at h
    split at h
    · rename_i hs
      split at h
      · rename_i ht
        cases h
        exact ⟨rfl, List.cons_ne_nil _ _, [0x80], _, List.cons_ne_nil _ _,
          .four hlow hhigh hs ht (by decide)⟩
      · cases h
    · cases h
  | second :: third :: fourth :: rest, h =>
    simp only [decodeFour] at h
    split at h
    · split at h
      · split at h <;> cases h
      · cases h
    · cases h

/-- The bytes end inside of a sequence where the decoder says so. -/
theorem next_cut (h : decodeNext lead rest = .bad .unexpectedEnd width) :
    width = rest.length + 1 ∧ Cut (lead :: rest) := by
  rw [decodeNext] at h
  split at h
  · cases h
  split at h
  · cases h
  · rename_i hlow
    split at h
    · rename_i hhigh
      exact decodeTwo_cut (Nat.not_lt.mp hlow) hhigh h
    · rename_i hthree
      split at h
      · rename_i hhigh
        exact decodeThree_cut (Nat.not_lt.mp hthree) hhigh h
      · rename_i hfour
        split at h
        · rename_i hhigh
          exact decodeFour_cut (Nat.not_lt.mp hfour) hhigh h
        · cases h

theorem Cut.next (h : Cut (lead :: rest)) :
    decodeNext lead rest = .bad .unexpectedEnd (rest.length + 1) := by
  obtain ⟨-, more, c, hmore, hs⟩ := h
  generalize hb : lead :: rest ++ more = b at hs
  rw [decodeNext]
  cases hs with
  | one h =>
    obtain ⟨-, hnil⟩ := List.cons.inj hb
    exact absurd (List.append_eq_nil_iff.mp hnil).2 hmore
  | two hlow hhigh hs =>
    obtain ⟨rfl, hread⟩ := List.cons.inj hb
    have h₁ : ¬lead < 0x80 := Nat.not_lt.mpr (Nat.le_trans (by decide) hlow)
    have h₂ : ¬lead < 0xC2 := Nat.not_lt.mpr hlow
    have h₃ : lead < 0xE0 := hhigh
    rw [if_neg h₁, if_neg h₂, if_pos h₃]
    match rest, hread with
    | [], _ => rfl
    | [second], hread => exact absurd (List.cons.inj hread).2 hmore
  | three hlow hhigh hs ht =>
    obtain ⟨rfl, hread⟩ := List.cons.inj hb
    have h₁ : ¬lead < 0x80 := Nat.not_lt.mpr (Nat.le_trans (by decide) hlow)
    have h₂ : ¬lead < 0xC2 := Nat.not_lt.mpr (Nat.le_trans (by decide) hlow)
    have h₃ : ¬lead < 0xE0 := Nat.not_lt.mpr hlow
    have h₄ : lead < 0xF0 := hhigh
    rw [if_neg h₁, if_neg h₂, if_neg h₃, if_pos h₄]
    match rest, hread with
    | [], _ => rfl
    | [second], hread =>
      obtain ⟨rfl, -⟩ := List.cons.inj hread
      simp only [decodeThree, if_pos hs, List.length_singleton]
    | [second, third], hread =>
      exact absurd (List.cons.inj (List.cons.inj hread).2).2 hmore
  | four hlow hhigh hs ht hf =>
    obtain ⟨rfl, hread⟩ := List.cons.inj hb
    have h₁ : ¬lead < 0x80 := Nat.not_lt.mpr (Nat.le_trans (by decide) hlow)
    have h₂ : ¬lead < 0xC2 := Nat.not_lt.mpr (Nat.le_trans (by decide) hlow)
    have h₃ : ¬lead < 0xE0 := Nat.not_lt.mpr (Nat.le_trans (by decide) hlow)
    have h₄ : ¬lead < 0xF0 := Nat.not_lt.mpr hlow
    have h₅ : lead < 0xF5 := hhigh
    rw [if_neg h₁, if_neg h₂, if_neg h₃, if_neg h₄, if_pos h₅]
    match rest, hread with
    | [], _ => rfl
    | [second], hread =>
      obtain ⟨rfl, -⟩ := List.cons.inj hread
      simp only [decodeFour, if_pos hs, List.length_singleton]
    | [second, third], hread =>
      obtain ⟨rfl, hthird⟩ := List.cons.inj hread
      obtain ⟨rfl, -⟩ := List.cons.inj hthird
      simp only [decodeFour, if_pos hs, if_pos ht, List.length_cons, List.length_nil]
    | [second, third, fourth], hread =>
      exact absurd (List.cons.inj (List.cons.inj (List.cons.inj hread).2).2).2 hmore

end Sequences

end Utf8

end Foundation
