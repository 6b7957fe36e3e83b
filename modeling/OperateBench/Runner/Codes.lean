import OperateBench.Runner.Fresh
import OperateBench.Foundation.Fallible

/-! # Codes of fresh values

The bounds of a traversal only refuse: what it returns is the code of the value. A double has one
text, and the code of a value begins with the tag of its kind.
-/

namespace OperateBench

open Foundation Utf8

namespace Double

theorem exponentText_injective {m n : Int} (h : exponentText m = exponentText n) : m = n := by
  cases m with
  | ofNat m => cases n with
    | ofNat n => rw [natText_injective (String.toList_injective (List.cons.inj h).2)]
    | negSucc n => exact absurd (List.cons.inj h).1 (by decide)
  | negSucc m => cases n with
    | ofNat n => exact absurd (List.cons.inj h).1 (by decide)
    | negSucc n =>
      have hsucc := natText_injective (String.toList_injective (List.cons.inj h).2)
      rw [Nat.succ.inj hsucc]

theorem hexDigits_injective {m n : ℕ} (hm : m < 16 ^ 13) (hn : n < 16 ^ 13)
    (h : (fixedDigits 16 13 m).map Nat.digitChar = (fixedDigits 16 13 n).map Nat.digitChar) :
    m = n := by
  apply fixedDigits_injective hm hn
  apply map_inj_of_inj_on _ h
  have hdigits : ∀ a < 16, ∀ b < 16, Nat.digitChar a = Nat.digitChar b → a = b := by decide
  intro a ha b hb
  exact hdigits a (mem_fixedDigits (by decide) ha) b (mem_fixedDigits (by decide) hb)

theorem magnitudeText_injective {e e' : Fin 2047} {f f' : Fin (2 ^ 52)}
    (h : magnitudeText e f = magnitudeText e' f') : e = e' ∧ f = f' := by
  have hlong {e : Fin 2047} {f : Fin (2 ^ 52)} (hne : ¬(e = 0 ∧ f = 0)) :
      6 < (magnitudeText e f).length := by
    simp only [magnitudeText, if_neg hne, List.length_cons, List.length_append, List.length_map,
      length_fixedDigits]
    omega
  have hshort {e : Fin 2047} {f : Fin (2 ^ 52)} (heq : e = 0 ∧ f = 0) :
      (magnitudeText e f).length = 6 := by
    rw [magnitudeText, if_pos heq]
    rfl
  by_cases hzero : e = 0 ∧ f = 0
  · by_cases hzero' : e' = 0 ∧ f' = 0
    · exact ⟨hzero.1.trans hzero'.1.symm, hzero.2.trans hzero'.2.symm⟩
    · have hlt := hlong hzero'
      rw [← h, hshort hzero] at hlt
      exact absurd hlt (lt_irrefl 6)
  · by_cases hzero' : e' = 0 ∧ f' = 0
    · have hlt := hlong hzero
      rw [h, hshort hzero'] at hlt
      exact absurd hlt (lt_irrefl 6)
    · rw [magnitudeText, magnitudeText, if_neg hzero, if_neg hzero'] at h
      obtain ⟨hlead, h⟩ := List.cons.inj h
      obtain ⟨hdigits, h⟩ := List.append_inj (List.cons.inj h).2
        (by simp [length_fixedDigits])
      have hexponent := exponentText_injective (List.cons.inj h).2
      constructor
      · by_cases he : e = 0
        · by_cases he' : e' = 0
          · rw [he, he']
          · rw [if_pos he, if_neg he'] at hlead
            exact absurd hlead (by decide)
        · by_cases he' : e' = 0
          · rw [if_neg he, if_pos he'] at hlead
            exact absurd hlead (by decide)
          · rw [if_neg he, if_neg he'] at hexponent
            exact Fin.ext (by omega)
      · exact Fin.ext (hexDigits_injective f.isLt f'.isLt hdigits)

theorem head_ne {r : List Char} {k : Char} (h : (r.head?.all (· != k)) = true) :
    ∀ c ∈ r.head?, c ≠ k := by
  intro c hc
  rw [hc] at h
  exact bne_iff_ne.mp h

/-- The sign that a text begins with can be taken off it. -/
theorem signText_inj {a b : Bool} {x y : List Char} (hx : ∀ c ∈ x.head?, c ≠ '-')
    (hy : ∀ c ∈ y.head?, c ≠ '-') (h : signText a ++ x = signText b ++ y) : a = b ∧ x = y := by
  cases a with
  | false => cases b with
    | false => exact ⟨rfl, h⟩
    | true =>
      obtain rfl : x = '-' :: y := h
      exact absurd rfl (hx '-' rfl)
  | true => cases b with
    | false =>
      obtain rfl : '-' :: x = y := h
      exact absurd rfl (hy '-' rfl)
    | true => exact ⟨rfl, (List.cons.inj h).2⟩

theorem hex_injective {x y : Double} (h : x.hex = y.hex) : x = y := by
  have hnan (a : Bool) {r : List Char} (hr : ∀ c ∈ r.head?, c ≠ 'n') :
      hex nan ≠ signText a ++ r := by
    intro h
    cases a with
    | false =>
      obtain rfl : "nan".toList = r := h
      exact hr 'n' rfl rfl
    | true => exact absurd (List.cons.inj h).1 (by decide +kernel)
  have hinf (k : Char) (hk : ("inf".toList.head?.all (· != k)) = true) :
      ∀ c ∈ "inf".toList.head?, c ≠ k := head_ne hk
  cases x with
  | nan => cases y with
    | nan => rfl
    | infinite b => exact absurd h (hnan b (hinf 'n' (by decide +kernel)))
    | finite b e f => exact absurd h (hnan b (head_ne rfl))
  | infinite a => cases y with
    | nan => exact absurd h.symm (hnan a (hinf 'n' (by decide +kernel)))
    | infinite b => rw [(signText_inj (hinf '-' (by decide +kernel)) (hinf '-' (by decide +kernel)) h).1]
    | finite b e f =>
      have htail := (signText_inj (hinf '-' (by decide +kernel)) (head_ne rfl) h).2
      exact absurd (List.cons.inj htail).1 (by decide +kernel)
  | finite a e f => cases y with
    | nan => exact absurd h.symm (hnan a (head_ne rfl))
    | infinite b =>
      have htail := (signText_inj (head_ne rfl) (hinf '-' (by decide +kernel)) h).2
      exact absurd (List.cons.inj htail).1 (by decide +kernel)
    | finite b e' f' =>
      obtain ⟨rfl, htail⟩ := signText_inj (head_ne rfl) (head_ne rfl) h
      obtain ⟨rfl, rfl⟩ := magnitudeText_injective (List.cons.inj (List.cons.inj htail).2).2
      rfl

end Double

namespace FreshValue

mutual

/-- The values have the same types and the same structure, with the members of mappings and sets
in any order. -/
def Same : FreshValue → FreshValue → Prop
  | .none, .none => True
  | .bool b, .bool c => b = c
  | .int m, .int n => m = n
  | .float x, .float y => x = y
  | .str s, .str t => s = t
  | .bytes bs, .bytes cs => bs = cs
  | .list vs, .list ws | .tuple vs, .tuple ws => SameItems vs ws
  | .dict es, .dict fs | .proxy es, .proxy fs => SameEntries es fs
  | .set vs, .set ws | .frozenset vs, .frozenset ws => SameMembers vs ws
  | .record cls vs, .record cls' ws => cls = cls' ∧ SameItems vs ws
  | _, _ => False

def SameItems : List FreshValue → List FreshValue → Prop
  | [], [] => True
  | v :: vs, w :: ws => Same v w ∧ SameItems vs ws
  | _, _ => False

def SameMembers : List FreshValue → List FreshValue → Prop
  | [], ws => ws = []
  | v :: vs, ws => ∃ before w after, ws = before ++ w :: after ∧ Same v w ∧
      SameMembers vs (before ++ after)

def SameEntries : List (FreshValue × FreshValue) → List (FreshValue × FreshValue) → Prop
  | [], fs => fs = []
  | (k, v) :: es, fs => ∃ before f after, fs = before ++ f :: after ∧ Same k f.1 ∧ Same v f.2 ∧
      SameEntries es (before ++ after)

end

end FreshValue

namespace Fresh

open FreshValue

section Codes

mutual

/-- The fingerprint of a value without the bounds of its traversal. -/
def code : FreshValue → Option (List Byte)
  | .none => some [tag 'n']
  | .bool b => some [tag 'b', tag (if b then '1' else '0')]
  | .int n => some (tag 'i' :: ascii (toString n).toList)
  | .float x => some (tag 'f' :: ascii x.hex)
  | .str s => (encode s).map (tag 's' :: ·)
  | .bytes bs => some (tag 'y' :: bs)
  | .list items => (codes items).bind (frame (tag 'l'))
  | .tuple items => (codes items).bind (frame (tag 't'))
  | .dict entries => (pairCodes entries).bind fun pairs => frame (tag 'm') (sortBytes pairs)
  | .proxy entries => (pairCodes entries).bind fun pairs => frame (tag 'r') (sortBytes pairs)
  | .set members => (codes members).bind fun parts => frame (tag 'e') (sortBytes parts)
  | .frozenset members => (codes members).bind fun parts => frame (tag 'z') (sortBytes parts)
  | .record cls values => (codes values).bind fun parts =>
    if parts.length ≠ cls.fields.length then none else frame (tag 'd') (recordParts cls parts)
  | .other _ => none

def codes : List FreshValue → Option (List (List Byte))
  | [] => some []
  | v :: vs => (code v).bind fun part => (codes vs).map (part :: ·)

def pairCodes : List (FreshValue × FreshValue) → Option (List (List Byte))
  | [] => some []
  | (key, item) :: entries => (code key).bind fun keyPart => (code item).bind fun itemPart =>
    (frame (tag 'p') [keyPart, itemPart]).bind fun pair => (pairCodes entries).map (pair :: ·)

end

/-- Behind the bounds a step of the traversal ends as the whole does. -/
theorem fresh_bind {α β : Type} {x : FreshM α} {f : α → FreshM β} {s t : FreshState} {b : β}
    (h : (x >>= f) s = .ok (b, t)) : ∃ a s', x s = .ok (a, s') ∧ f a s' = .ok (b, t) := by
  obtain ⟨⟨a, s'⟩, hx, hf⟩ := bind_ok h
  exact ⟨a, s', hx, hf⟩

theorem framed_ok {c : Byte} {parts : List (List Byte)} {s t : FreshState} {b : List Byte}
    (h : framed c parts s = .ok (b, t)) : frame c parts = some b := by
  unfold framed at h
  cases hframe : frame c parts with
  | none =>
    rw [hframe] at h
    cases h
  | some bytes =>
    rw [hframe] at h
    rw [(Prod.mk.inj (Except.ok.inj h)).1]

theorem scalar_ok {c : Char} {encoded b : List Byte} {s t : FreshState}
    (h : scalar c encoded s = .ok (b, t)) : tag c :: encoded = b := by
  obtain ⟨_, s', _, h⟩ := fresh_bind h
  exact (Prod.mk.inj (Except.ok.inj h)).1

theorem container_ok {α : Type} {depth size : ℕ} {c : Byte} {x : FreshM α}
    {parts : α → List (List Byte)} {s t : FreshState} {b : List Byte}
    (h : (do
      takeNode
      enter depth
      takeBytes size
      let members ← x
      framed c (parts members)) s = .ok (b, t)) :
    ∃ members s₁ s₂, x s₁ = .ok (members, s₂) ∧ frame c (parts members) = some b := by
  obtain ⟨_, _, _, h⟩ := fresh_bind h
  obtain ⟨_, _, _, h⟩ := fresh_bind h
  obtain ⟨_, s₁, _, h⟩ := fresh_bind h
  obtain ⟨members, s₂, hmembers, h⟩ := fresh_bind h
  exact ⟨members, s₁, s₂, hmembers, framed_ok h⟩

mutual

/-- The bounds only refuse. -/
theorem code_of_fingerprint {depth : ℕ} {s t : FreshState} (v : FreshValue) {b : List Byte}
    (h : fingerprint depth v s = .ok (b, t)) : code v = some b := by
  cases v with
  | none =>
    obtain ⟨_, _, _, h⟩ := fresh_bind h
    obtain ⟨_, _, _, h⟩ := fresh_bind h
    exact congrArg some (Prod.mk.inj (Except.ok.inj h)).1
  | bool c =>
    obtain ⟨_, _, _, h⟩ := fresh_bind h
    obtain ⟨_, _, _, h⟩ := fresh_bind h
    exact congrArg some (Prod.mk.inj (Except.ok.inj h)).1
  | int n =>
    obtain ⟨_, _, _, h⟩ := fresh_bind h
    unfold intFingerprint at h
    split at h
    · cases h
    · split at h
      · cases h
      · exact congrArg some (scalar_ok h)
  | float x =>
    obtain ⟨_, _, _, h⟩ := fresh_bind h
    exact congrArg some (scalar_ok h)
  | str w =>
    obtain ⟨_, _, _, h⟩ := fresh_bind h
    rw [code]
    unfold strFingerprint at h
    cases hencode : encode w with
    | none =>
      rw [hencode] at h
      cases h
    | some encoded =>
      rw [hencode] at h
      exact congrArg some (scalar_ok h)
  | bytes bs =>
    obtain ⟨_, _, _, h⟩ := fresh_bind h
    exact congrArg some (scalar_ok h)
  | list vs | tuple vs =>
    rw [fingerprint] at h
    obtain ⟨parts, _, _, hparts, hframe⟩ := @container_ok _ _ _ _ _ id _ _ _ h
    rw [code, codes_of_fingerprints vs hparts]
    exact hframe
  | dict es | proxy es =>
    rw [fingerprint] at h
    obtain ⟨parts, _, _, hparts, hframe⟩ := container_ok h
    rw [code, pairCodes_of_fingerprints es hparts]
    exact hframe
  | set vs | frozenset vs =>
    rw [fingerprint] at h
    obtain ⟨parts, _, _, hparts, hframe⟩ := container_ok h
    rw [code, codes_of_fingerprints vs hparts]
    exact hframe
  | record cls vs =>
    rw [fingerprint] at h
    obtain ⟨_, _, _, h⟩ := fresh_bind h
    obtain ⟨_, _, _, h⟩ := fresh_bind h
    obtain ⟨_, _, _, h⟩ := fresh_bind h
    obtain ⟨parts, _, hparts, h⟩ := fresh_bind h
    rw [code, codes_of_fingerprints vs hparts, Option.bind_some]
    split at h
    case isTrue => cases h
    case isFalse hlength =>
      rw [if_neg hlength]
      exact framed_ok h
  | other typeName =>
    obtain ⟨_, _, _, h⟩ := fresh_bind h
    cases h

theorem codes_of_fingerprints {depth : ℕ} {s t : FreshState} (vs : List FreshValue)
    {bs : List (List Byte)} (h : fingerprints depth vs s = .ok (bs, t)) : codes vs = some bs := by
  cases vs with
  | nil => rw [codes, (Prod.mk.inj (Except.ok.inj h)).1]
  | cons v vs =>
    rw [fingerprints] at h
    obtain ⟨part, s₁, hpart, h⟩ := fresh_bind h
    obtain ⟨parts, s₂, hparts, h⟩ := fresh_bind h
    rw [codes, code_of_fingerprint v hpart, codes_of_fingerprints vs hparts,
      ← (Prod.mk.inj (Except.ok.inj h)).1]
    rfl

theorem pairCodes_of_fingerprints {depth : ℕ} {s t : FreshState}
    (es : List (FreshValue × FreshValue)) {bs : List (List Byte)}
    (h : pairFingerprints depth es s = .ok (bs, t)) : pairCodes es = some bs := by
  cases es with
  | nil => rw [pairCodes, (Prod.mk.inj (Except.ok.inj h)).1]
  | cons e es =>
    obtain ⟨k, v⟩ := e
    rw [pairFingerprints] at h
    obtain ⟨keyPart, s₁, hkey, h⟩ := fresh_bind h
    obtain ⟨itemPart, s₂, hitem, h⟩ := fresh_bind h
    obtain ⟨pair, s₃, hpair, h⟩ := fresh_bind h
    obtain ⟨pairs, s₄, hpairs, h⟩ := fresh_bind h
    rw [pairCodes, code_of_fingerprint k hkey, code_of_fingerprint v hitem,
      Option.bind_some, Option.bind_some, framed_ok hpair, pairCodes_of_fingerprints es hpairs,
      ← (Prod.mk.inj (Except.ok.inj h)).1]
    rfl

end

end Codes

section Kinds

inductive Kind
  | none | bool | int | float | str | bytes | list | tuple | dict | proxy | set | frozenset
  | record | other
deriving DecidableEq

def kind : FreshValue → Kind
  | .none => .none
  | .bool _ => .bool
  | .int _ => .int
  | .float _ => .float
  | .str _ => .str
  | .bytes _ => .bytes
  | .list _ => .list
  | .tuple _ => .tuple
  | .dict _ => .dict
  | .proxy _ => .proxy
  | .set _ => .set
  | .frozenset _ => .frozenset
  | .record _ _ => .record
  | .other _ => .other

def Kind.tag : Kind → Byte
  | none => Fresh.tag 'n'
  | bool => Fresh.tag 'b'
  | int => Fresh.tag 'i'
  | float => Fresh.tag 'f'
  | str => Fresh.tag 's'
  | bytes => Fresh.tag 'y'
  | list => Fresh.tag 'l'
  | tuple => Fresh.tag 't'
  | dict => Fresh.tag 'm'
  | proxy => Fresh.tag 'r'
  | set => Fresh.tag 'e'
  | frozenset => Fresh.tag 'z'
  | record => Fresh.tag 'd'
  | other => 0

theorem Kind.tag_injective {a b : Kind} (h : a.tag = b.tag) : a = b := by
  cases a <;> cases b <;> first | rfl | exact absurd h (by decide)

theorem frame_head {c : Byte} {parts : List (List Byte)} {b : List Byte}
    (h : frame c parts = some b) : b.head? = some c := by
  rw [(frame_eq_some h).2]
  rfl

/-- The code of a value begins with the tag of its kind. -/
theorem code_head {v : FreshValue} {b : List Byte} (h : code v = some b) :
    b.head? = some (kind v).tag := by
  cases v with
  | none | bool _ | int _ | float _ | bytes _ =>
    obtain rfl := Option.some.inj h
    rfl
  | str s =>
    obtain ⟨encoded, -, rfl⟩ := Option.map_eq_some_iff.mp h
    rfl
  | list vs | tuple vs | dict es | proxy es | set vs | frozenset vs =>
    obtain ⟨parts, -, h⟩ := Option.bind_eq_some_iff.mp h
    exact frame_head h
  | record cls vs =>
    obtain ⟨parts, -, h⟩ := Option.bind_eq_some_iff.mp h
    split at h
    · cases h
    · exact frame_head h
  | other _ => cases h

theorem kind_eq {v w : FreshValue} {b : List Byte} (hv : code v = some b) (hw : code w = some b) :
    kind v = kind w :=
  Kind.tag_injective (Option.some.inj ((code_head hv).symm.trans (code_head hw)))

end Kinds

end Fresh

end OperateBench
