import OperateBench.Foundation.Readings
import OperateBench.Foundation.Utf8Decode

/-! # Frames

Digits of a fixed number, and sequences of byte strings in which each stands behind its length. A
frame is the frame of no other sequence.
-/

namespace Foundation

/-- Lists whose members a function tells apart are told apart by their images. -/
theorem map_inj_of_inj_on {α β : Type*} {f : α → β} {as bs : List α}
    (hf : ∀ a ∈ as, ∀ b ∈ bs, f a = f b → a = b) (h : as.map f = bs.map f) : as = bs := by
  induction as generalizing bs with
  | nil => exact (List.map_eq_nil_iff.mp h.symm).symm
  | cons a as ih => cases bs with
    | nil => cases h
    | cons b bs =>
      obtain ⟨hhead, htail⟩ := List.cons.inj h
      rw [hf a List.mem_cons_self b List.mem_cons_self hhead, ih _ htail]
      intro a ha b hb
      exact hf a (List.mem_cons_of_mem _ ha) b (List.mem_cons_of_mem _ hb)

section Digits

/-- So many digits of a number, the last ones of it. -/
def fixedDigits (base : ℕ) : ℕ → ℕ → List ℕ
  | 0, _ => []
  | width + 1, n => fixedDigits base width (n / base) ++ [n % base]

theorem length_fixedDigits (base width n : ℕ) : (fixedDigits base width n).length = width := by
  induction width generalizing n with
  | zero => rfl
  | succ width ih => rw [fixedDigits, List.length_append, ih, List.length_singleton]

theorem mem_fixedDigits {base width n d : ℕ} (hbase : 0 < base)
    (h : d ∈ fixedDigits base width n) : d < base := by
  induction width generalizing n with
  | zero => cases h
  | succ width ih =>
    rw [fixedDigits, List.mem_append, List.mem_singleton] at h
    rcases h with h | rfl
    · exact ih h
    · exact Nat.mod_lt n hbase

theorem fixedDigits_injective {base width m n : ℕ} (hm : m < base ^ width) (hn : n < base ^ width)
    (h : fixedDigits base width m = fixedDigits base width n) : m = n := by
  induction width generalizing m n with
  | zero => rw [Nat.lt_one_iff.mp hm, Nat.lt_one_iff.mp hn]
  | succ width ih =>
    have hdiv {k : ℕ} (hk : k < base ^ (width + 1)) : k / base < base ^ width := by
      rw [Nat.pow_succ] at hk
      exact Nat.div_lt_of_lt_mul (by rwa [Nat.mul_comm] at hk)
    obtain ⟨hhigh, hlow⟩ := List.append_inj' h rfl
    have hquot := ih (hdiv hm) (hdiv hn) hhigh
    have hrem := List.singleton_inj.mp hlow
    rw [← Nat.div_add_mod m base, ← Nat.div_add_mod n base, hquot, hrem]

end Digits

section Frames

variable {p q : List Byte} {ps qs : List (List Byte)}

/-- A length in eight bytes, the most significant one first. -/
def lengthBytes (n : ℕ) : List Byte := (fixedDigits 256 8 n).map (Fin.ofNat 256)

theorem lengthBytes_injective {m n : ℕ} (hm : m < 256 ^ 8) (hn : n < 256 ^ 8)
    (h : lengthBytes m = lengthBytes n) : m = n := by
  have hval (k : ℕ) : (lengthBytes k).map Fin.val = fixedDigits 256 8 k := by
    rw [lengthBytes, List.map_map]
    conv_rhs => rw [← List.map_id (fixedDigits 256 8 k)]
    apply List.map_congr_left
    intro d hd
    exact Nat.mod_eq_of_lt (mem_fixedDigits (by decide) hd)
  apply fixedDigits_injective hm hn
  rw [← hval m, ← hval n, h]

/-- A part behind its length. -/
def counted (p : List Byte) : List Byte := lengthBytes p.length ++ p

/-- The parts of a frame are short enough for their lengths to be written. -/
def Countable (p : List Byte) : Prop := p.length < 256 ^ 8

instance : DecidablePred Countable := fun _ => inferInstanceAs (Decidable (_ < _))

theorem reads_counted (hp : Countable p) : Reads counted (fun _ => True) Countable p := by
  intro q hq s t _ _ h
  have hlength (n : ℕ) : (lengthBytes n).length = 8 := by
    rw [lengthBytes, List.length_map, length_fixedDigits]
  simp only [counted, List.append_assoc] at h
  obtain ⟨hcount, hrest⟩ := List.append_inj h (by rw [hlength, hlength])
  exact List.append_inj hrest (lengthBytes_injective hp hq hcount)

def frame (tag : Byte) (parts : List (List Byte)) : Option (List Byte) :=
  if ∀ p ∈ parts, Countable p then some (tag :: parts.flatMap counted) else none

theorem frame_eq_some {tag : Byte} {bytes : List Byte} (h : frame tag ps = some bytes) :
    (∀ p ∈ ps, Countable p) ∧ bytes = tag :: ps.flatMap counted := by
  unfold frame at h
  split at h
  case isTrue hps => exact ⟨hps, (Option.some.inj h).symm⟩
  case isFalse => cases h

/-- A frame has one tag and one sequence of parts. -/
theorem frame_injective {tag tag' : Byte} {bytes : List Byte} (h : frame tag ps = some bytes)
    (h' : frame tag' qs = some bytes) : tag = tag' ∧ ps = qs := by
  obtain ⟨hps, rfl⟩ := frame_eq_some h
  obtain ⟨hqs, heq⟩ := frame_eq_some h'
  obtain ⟨htag, hparts⟩ := List.cons.inj heq
  refine ⟨htag, reads_all (fun p hp => reads_counted (hps p hp)) ?_ hps hqs hparts⟩
  intro p hp
  rw [counted, lengthBytes]
  simp [fixedDigits]

end Frames

end Foundation
