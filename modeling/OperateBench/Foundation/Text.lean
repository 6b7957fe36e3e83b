import Mathlib.Data.List.Basic

/-! # Texts as bytes

The order of two ASCII texts is that of their bytes. Deciding it there spares an
evaluation the decoding of both texts.
-/

namespace Foundation

def asciiChars? (s : String) : Option (List Char) :=
  let bytes := s.toByteArray.data.toList
  if bytes.all (· ≤ 127) then some (bytes.map Char.ofUInt8) else none

theorem utf8EncodeChar_ofUInt8 {b : UInt8} (h : b ≤ 127) :
    String.utf8EncodeChar (Char.ofUInt8 b) = [b] := by
  have hb : (Char.ofUInt8 b).val.toNat = b.toNat := UInt8.toNat_toUInt32 b
  have hle : b.toNat ≤ 127 := UInt8.le_iff_toNat_le.mp h
  simp [String.utf8EncodeChar, hb, hle]

theorem flatMap_utf8EncodeChar {bytes : List UInt8} (h : ∀ b ∈ bytes, b ≤ 127) :
    (bytes.map Char.ofUInt8).flatMap String.utf8EncodeChar = bytes := by
  induction bytes with
  | nil => rfl
  | cons b bytes ih =>
    rw [List.map_cons, List.flatMap_cons, utf8EncodeChar_ofUInt8 (h b List.mem_cons_self),
      ih fun c hc => h c (List.mem_cons_of_mem _ hc)]
    rfl

theorem toList_of_asciiChars? {s : String} {cs : List Char} (h : asciiChars? s = some cs) :
    s.toList = cs := by
  obtain ⟨hb, hcs⟩ := Option.ite_none_right_eq_some.mp h
  obtain rfl := Option.some.inj hcs
  have hs : String.ofList (s.toByteArray.data.toList.map Char.ofUInt8) = s := by
    apply String.toByteArray_inj.mp
    rw [String.toByteArray_ofList, List.utf8Encode,
      flatMap_utf8EncodeChar fun b hm => of_decide_eq_true (List.all_eq_true.mp hb b hm)]
    exact ByteArray.ext (by simp)
  exact (congrArg String.toList hs).symm.trans String.toList_ofList

/-- The characters of a text. -/
def chars (s : String) : List Char := (asciiChars? s).getD s.toList

@[simp] theorem chars_eq (s : String) : chars s = s.toList := by
  unfold chars
  cases h : asciiChars? s with
  | none => rfl
  | some cs => exact (toList_of_asciiChars? h).symm

instance decidableTextLE (a b : String) : Decidable (a ≤ b) :=
  match ha : asciiChars? a, hb : asciiChars? b with
  | some as, some bs => decidable_of_iff (¬bs < as) <| by
      rw [← toList_of_asciiChars? ha, ← toList_of_asciiChars? hb]
      rfl
  | _, _ => String.decLE a b

/-- What the interpreter strips from the ends of a text. -/
def isSpace (c : Char) : Bool :=
  let n := c.toNat
  (9 ≤ n && n ≤ 13) || (28 ≤ n && n ≤ 32) || (0x2000 ≤ n && n ≤ 0x200a) ||
    n ∈ [0x85, 0xa0, 0x1680, 0x2028, 0x2029, 0x202f, 0x205f, 0x3000]

/-- Nothing is left of the text once it is stripped. -/
def isBlank (s : String) : Bool := s.toList.all isSpace

end Foundation
