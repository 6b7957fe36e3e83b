import OperateBench.Foundation.Utf8

/-! # Decoding UTF-8

The strict decoder of whole byte strings. It gives a text exactly on its encoding, and it reports
an unexpected end exactly where an encoding was cut inside of a sequence.
-/

namespace Foundation

namespace Utf8

variable {c : CodePoint} {lead : Byte} {bytes rest object : List Byte} {t : Text}

theorem next_length (h : decodeNext lead rest = .scalar c bytes) : bytes.length ≤ rest.length := by
  obtain ⟨read, -, rfl⟩ := next_scalar h
  simp

def decodeFrom (object : List Byte) : List Byte → Except UnicodeDecodeError Text
  | [] => .ok []
  | lead :: rest =>
    match _hnext : decodeNext lead rest with
    | .scalar c behind => (c :: ·) <$> decodeFrom object behind
    | .bad reason width =>
      let start := object.length - (lead :: rest).length
      .error { object, start, stop := start + width, reason }
termination_by bytes => bytes.length
decreasing_by
  have hlength := next_length _hnext
  rw [List.length_cons]
  omega

def decode (object : List Byte) : Except UnicodeDecodeError Text := decodeFrom object object

theorem decodeFrom_scalar (h : decodeNext lead rest = .scalar c bytes) :
    decodeFrom object (lead :: rest) = (c :: ·) <$> decodeFrom object bytes := by
  rw [decodeFrom]
  split
  · rename_i hnext
    rw [h] at hnext
    obtain ⟨rfl, rfl⟩ := Next.scalar.inj hnext
    rfl
  · rename_i hnext
    rw [h] at hnext
    cases hnext

theorem decodeFrom_bad {reason : DecodeReason} {width : ℕ}
    (h : decodeNext lead rest = .bad reason width) :
    decodeFrom object (lead :: rest) = .error
      { object
        start := object.length - (lead :: rest).length
        stop := object.length - (lead :: rest).length + width
        reason } := by
  rw [decodeFrom]
  split
  · rename_i hnext
    rw [h] at hnext
    cases hnext
  · rename_i hnext
    rw [h] at hnext
    obtain ⟨rfl, rfl⟩ := Next.bad.inj hnext
    rfl

theorem encode_cons {read : List Byte} (hc : encodeScalar c = some read)
    (ht : encode t = some bytes) : encode (c :: t) = some (read ++ bytes) := by
  rw [encode, hc, ht]
  rfl

theorem encode_cons_inv (h : encode (c :: t) = some bytes) :
    ∃ read rest, encodeScalar c = some read ∧ encode t = some rest ∧ bytes = read ++ rest := by
  rw [encode] at h
  cases hc : encodeScalar c with
  | none =>
    rw [hc] at h
    cases h
  | some read =>
    cases ht : encode t with
    | none =>
      rw [hc, ht] at h
      cases h
    | some rest =>
      rw [hc, ht] at h
      exact ⟨read, rest, rfl, rfl, (Option.some.inj h).symm⟩

theorem encode_append {u : Text} {more : List Byte} (ht : encode t = some bytes)
    (hu : encode u = some more) : encode (t ++ u) = some (bytes ++ more) := by
  induction t generalizing bytes with
  | nil =>
    cases ht
    exact hu
  | cons c t ih =>
    obtain ⟨read, rest, hc, hrest, rfl⟩ := encode_cons_inv ht
    rw [List.append_assoc]
    exact encode_cons hc (ih hrest)

theorem Sequence.ne_nil (h : Sequence bytes c) : bytes ≠ [] := by
  cases h <;> exact List.cons_ne_nil _ _

/-- The encoding of a text is read before what is behind it. -/
theorem decodeFrom_append (h : encode t = some bytes) :
    decodeFrom object (bytes ++ rest) = (t ++ ·) <$> decodeFrom object rest := by
  induction t generalizing bytes with
  | nil =>
    cases h
    exact (id_map _).symm
  | cons c t ih =>
    obtain ⟨read, behind, hc, ht, rfl⟩ := encode_cons_inv h
    have hs := encode_iff.mp hc
    match read, hs with
    | [], hs => exact absurd rfl hs.ne_nil
    | lead :: read, hs =>
      rw [List.append_assoc, List.cons_append, decodeFrom_scalar hs.next, ih ht, Functor.map_map]
      rfl

/-- What is decoded is the encoding of the text. -/
theorem encode_of_decode (h : decodeFrom object bytes = .ok t) : encode t = some bytes := by
  fun_induction decodeFrom object bytes generalizing t with
  | case1 =>
    cases h
    rfl
  | case2 lead rest c behind hnext ih =>
    cases hbehind : decodeFrom object behind with
    | error e =>
      rw [hbehind] at h
      cases h
    | ok u =>
      rw [hbehind] at h
      cases h
      obtain ⟨read, hs, rfl⟩ := next_scalar hnext
      exact encode_cons (encode_iff.mpr hs) (ih hbehind)
  | case3 => cases h

/-- Where the decoder stops, an encoding is read and the next sequence is bad. -/
theorem decodeFrom_error {e : UnicodeDecodeError} (h : decodeFrom object bytes = .error e) :
    ∃ t read lead rest width, bytes = read ++ lead :: rest ∧ encode t = some read ∧
      decodeNext lead rest = .bad e.reason width ∧ e.object = object ∧
      e.start = object.length - (lead :: rest).length ∧ e.stop = e.start + width := by
  fun_induction decodeFrom object bytes with
  | case1 => cases h
  | case2 lead rest c behind hnext ih =>
    cases hbehind : decodeFrom object behind with
    | ok u =>
      rw [hbehind] at h
      cases h
    | error e' =>
      rw [hbehind] at h
      cases h
      obtain ⟨t, read, lead', rest', width, rfl, ht, hbad, hobject⟩ := ih hbehind
      obtain ⟨first, hs, rfl⟩ := next_scalar hnext
      exact ⟨c :: t, lead :: first ++ read, lead', rest', width, by simp,
        encode_cons (encode_iff.mpr hs) ht, hbad, hobject⟩
  | case3 lead rest reason width hnext start =>
    cases h
    exact ⟨[], [], lead, rest, width, rfl, rfl, hnext, rfl, rfl, rfl⟩

theorem decode_encode (h : encode t = some bytes) : decode bytes = .ok t := by
  have hall := @decodeFrom_append bytes [] bytes t h
  rw [List.append_nil, decodeFrom] at hall
  rw [decode, hall]
  exact congrArg _ (List.append_nil t)

/-- An encoding that was cut inside of a sequence. -/
theorem decode_cut {read : List Byte} (ht : encode t = some read) (hcut : Cut rest) :
    decode (read ++ rest) = .error
      { object := read ++ rest
        start := read.length
        stop := (read ++ rest).length
        reason := .unexpectedEnd } := by
  rw [decode, decodeFrom_append ht]
  match rest, hcut with
  | [], hcut => exact absurd rfl hcut.1
  | lead :: rest, hcut =>
    rw [decodeFrom_bad hcut.next]
    have hstart : (read ++ lead :: rest).length - (lead :: rest).length = read.length := by
      rw [List.length_append, Nat.add_sub_cancel]
    simp only [hstart]
    rw [List.length_append, List.length_cons]
    rfl

/-- The converse: an unexpected end is that of a sequence behind an encoding. -/
theorem cut_of_decode {e : UnicodeDecodeError} (h : decode bytes = .error e) :
    ∃ t read rest, bytes = read ++ rest ∧ encode t = some read ∧ e.object = bytes ∧
      e.start = read.length ∧ (e.reason = .unexpectedEnd → e.stop = bytes.length ∧ Cut rest) := by
  obtain ⟨t, read, lead, rest, width, hbytes, ht, hbad, hobject, hstart, hstop⟩ :=
    decodeFrom_error h
  have hlength : bytes.length = read.length + (lead :: rest).length := by
    rw [hbytes, List.length_append]
  have hread : e.start = read.length := by omega
  refine ⟨t, read, lead :: rest, hbytes, ht, hobject, hread, ?_⟩
  intro hreason
  rw [hreason] at hbad
  obtain ⟨rfl, hcut⟩ := next_cut hbad
  rw [List.length_cons] at hlength
  exact ⟨by omega, hcut⟩

/-- The front of an encoding encodes the front of the text, up to a cut sequence. -/
theorem prefix_cases {w : Text} {more : List Byte} (h : encode w = some (bytes ++ more)) :
    (∃ t u, w = t ++ u ∧ encode t = some bytes ∧ encode u = some more) ∨
    ∃ t c u read rest cut, w = t ++ c :: u ∧ bytes = read ++ rest ∧ encode t = some read ∧
      rest ≠ [] ∧ cut ≠ [] ∧ Sequence (rest ++ cut) c := by
  induction w generalizing bytes with
  | nil =>
    have hnil := List.append_eq_nil_iff.mp (Option.some.inj h).symm
    exact .inl ⟨[], [], rfl, by rw [hnil.1]; rfl, by rw [hnil.2]; rfl⟩
  | cons c w ih =>
    obtain ⟨first, behind, hc, hw, hbytes⟩ := encode_cons_inv h
    rcases List.append_eq_append_iff.mp hbytes with ⟨cut, rfl, rfl⟩ | ⟨read, rfl, rfl⟩
    · cases bytes with
      | nil => exact .inl ⟨[], c :: w, rfl, rfl, h⟩
      | cons b bytes =>
        cases cut with
        | nil =>
          rw [List.append_nil] at hc
          rw [List.nil_append]
          exact .inl ⟨[c], w, rfl, by rw [encode_cons hc rfl, List.append_nil], hw⟩
        | cons d cut =>
          exact .inr ⟨[], c, w, [], b :: bytes, d :: cut, rfl, rfl, rfl, List.cons_ne_nil _ _,
            List.cons_ne_nil _ _, encode_iff.mp hc⟩
    · rcases ih hw with ⟨t, u, rfl, ht, hu⟩ | ⟨t, d, u, read, rest, cut, rfl, rfl, ht, hcut⟩
      · exact .inl ⟨c :: t, u, rfl, encode_cons hc ht, hu⟩
      · exact .inr ⟨c :: t, d, u, first ++ read, rest, cut, rfl, (List.append_assoc _ _ _).symm,
          encode_cons hc ht, hcut⟩

/-- A sequence that can be cut is not in ASCII. -/
theorem Sequence.not_ascii {cut : List Byte} (hrest : rest ≠ []) (hcut : cut ≠ [])
    (h : Sequence (rest ++ cut) c) : 0x80 ≤ c := by
  by_contra hle
  have hlt : c < 0x80 := Nat.not_le.mp hle
  have hencode := encode_iff.mpr h
  rw [encodeScalar, if_pos hlt] at hencode
  have hlength := congrArg List.length (Option.some.inj hencode)
  rw [List.length_append, List.length_singleton] at hlength
  have hpos := List.length_pos_iff.mpr hrest
  have hcutpos := List.length_pos_iff.mpr hcut
  omega

theorem encode_ascii (h : ∀ c ∈ t, c < 0x80) : ∃ bytes, encode t = some bytes := by
  induction t with
  | nil => exact ⟨[], rfl⟩
  | cons c t ih =>
    obtain ⟨bytes, hbytes⟩ := ih fun d hd => h d (List.mem_cons_of_mem c hd)
    have hc : encodeScalar c = some [byte c] := by
      rw [encodeScalar, if_pos (h c List.mem_cons_self)]
    exact ⟨_, encode_cons hc hbytes⟩

end Utf8

end Foundation
