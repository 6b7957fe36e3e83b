import Mathlib.Algebra.Ring.Nat
import Mathlib.Data.Fin.Basic
import Mathlib.Tactic.Common

/-! # JSON texts

The grammar of RFC 8259 over code points, with the tree that each text denotes. A tree keeps the
literal of a number and the body of a string as they are written, and an object all of its members.
-/

namespace Foundation

/-- A code point, surrogates included. -/
abbrev CodePoint := Fin 0x110000

instance neZeroCodePoints : NeZero 0x110000 := ⟨by decide⟩

abbrev Text := List CodePoint

/-- The code point of a character. -/
def CodePoint.ofChar (c : Char) : CodePoint := Fin.ofNat 0x110000 c.toNat

/-- The code points of a string. -/
def Text.ofString (s : String) : Text := s.toList.map CodePoint.ofChar

/-- A value as it is written. -/
inductive Json
  | null
  | bool (value : Bool)
  | number (literal : Text)
  | string (body : Text)
  | array (elements : List Json)
  | object (members : List (Text × Json))

namespace Json

section Terminals

def beginArray : CodePoint := 0x5B
def beginObject : CodePoint := 0x7B
def endArray : CodePoint := 0x5D
def endObject : CodePoint := 0x7D
def nameSeparator : CodePoint := 0x3A
def valueSeparator : CodePoint := 0x2C
def quotationMark : CodePoint := 0x22
def escape : CodePoint := 0x5C
def unicodeEscape : CodePoint := 0x75
def decimalPoint : CodePoint := 0x2E
def minus : CodePoint := 0x2D
def plus : CodePoint := 0x2B
def zero : CodePoint := 0x30

def Space (c : CodePoint) : Prop := c = 0x20 ∨ c = 0x09 ∨ c = 0x0A ∨ c = 0x0D

def Digit (c : CodePoint) : Prop := 0x30 ≤ c ∧ c ≤ 0x39

def DigitOneNine (c : CodePoint) : Prop := 0x31 ≤ c ∧ c ≤ 0x39

def HexDigit (c : CodePoint) : Prop :=
  Digit c ∨ (0x41 ≤ c ∧ c ≤ 0x46) ∨ (0x61 ≤ c ∧ c ≤ 0x66)

def ExponentMark (c : CodePoint) : Prop := c = 0x65 ∨ c = 0x45

/-- What may follow an escape, other than the mark of four digits. -/
def Escapable (c : CodePoint) : Prop :=
  c = quotationMark ∨ c = escape ∨ c = 0x2F ∨ c = 0x62 ∨ c = 0x66 ∨ c = 0x6E ∨ c = 0x72 ∨ c = 0x74

def Unescaped (c : CodePoint) : Prop := 0x20 ≤ c ∧ c ≠ quotationMark ∧ c ≠ escape

instance : DecidablePred Space := fun _ => inferInstanceAs (Decidable (_ ∨ _))
instance : DecidablePred Digit := fun _ => inferInstanceAs (Decidable (_ ∧ _))
instance : DecidablePred DigitOneNine := fun _ => inferInstanceAs (Decidable (_ ∧ _))
instance : DecidablePred HexDigit := fun _ => inferInstanceAs (Decidable (_ ∨ _))
instance : DecidablePred ExponentMark := fun _ => inferInstanceAs (Decidable (_ ∨ _))
instance : DecidablePred Escapable := fun _ => inferInstanceAs (Decidable (_ ∨ _))
instance : DecidablePred Unescaped := fun _ => inferInstanceAs (Decidable (_ ∧ _))

def nullText : Text := [0x6E, 0x75, 0x6C, 0x6C]
def trueText : Text := [0x74, 0x72, 0x75, 0x65]
def falseText : Text := [0x66, 0x61, 0x6C, 0x73, 0x65]

def Blank (w : Text) : Prop := ∀ c ∈ w, Space c

/-- A structural character, with the space that is allowed around it. -/
def Structural (c : CodePoint) (w : Text) : Prop := ∃ a b, Blank a ∧ Blank b ∧ w = a ++ c :: b

end Terminals

section Lexemes

def Digits (w : Text) : Prop := w ≠ [] ∧ ∀ c ∈ w, Digit c

def Integral (w : Text) : Prop :=
  w = [zero] ∨ ∃ c digits, w = c :: digits ∧ DigitOneNine c ∧ ∀ d ∈ digits, Digit d

def Fraction (w : Text) : Prop := ∃ digits, w = decimalPoint :: digits ∧ Digits digits

def Exponent (w : Text) : Prop :=
  ∃ c sign digits, w = c :: (sign ++ digits) ∧ ExponentMark c ∧
    (sign = [] ∨ sign = [minus] ∨ sign = [plus]) ∧ Digits digits

/-- `[ minus ] int [ frac ] [ exp ]` -/
def Numeral (w : Text) : Prop :=
  ∃ sign int frac exp, w = sign ++ (int ++ (frac ++ exp)) ∧ (sign = [] ∨ sign = [minus]) ∧
    Integral int ∧ (frac = [] ∨ Fraction frac) ∧ (exp = [] ∨ Exponent exp)

/-- `*char`, the inside of a string. -/
inductive Chars : Text → Prop
  | nil : Chars []
  | unescaped {c : CodePoint} {w : Text} (hc : Unescaped c) (h : Chars w) : Chars (c :: w)
  | escaped {c : CodePoint} {w : Text} (hc : Escapable c) (h : Chars w) :
      Chars (escape :: c :: w)
  | unicode {a b c d : CodePoint} {w : Text} (ha : HexDigit a) (hb : HexDigit b)
      (hc : HexDigit c) (hd : HexDigit d) (h : Chars w) :
      Chars (escape :: unicodeEscape :: a :: b :: c :: d :: w)

def quoted (body : Text) : Text := quotationMark :: (body ++ [quotationMark])

end Lexemes

/-- The nonterminals that refer to values. -/
inductive Symbol
  | value
  | object
  | member
  | members
  | array
  | elements

/-- The productions, each with the tree that its text denotes. -/
inductive Derives : Symbol → Json → Text → Prop
  | null : Derives .value .null nullText
  | true : Derives .value (.bool Bool.true) trueText
  | false : Derives .value (.bool Bool.false) falseText
  | number {w : Text} (h : Numeral w) : Derives .value (.number w) w
  | string {body : Text} (h : Chars body) : Derives .value (.string body) (quoted body)
  | ofObject {v : Json} {w : Text} (h : Derives .object v w) : Derives .value v w
  | ofArray {v : Json} {w : Text} (h : Derives .array v w) : Derives .value v w
  | emptyObject {a b : Text} (ha : Structural beginObject a) (hb : Structural endObject b) :
      Derives .object (.object []) (a ++ b)
  | object {v : Json} {a w b : Text} (ha : Structural beginObject a) (h : Derives .members v w)
      (hb : Structural endObject b) : Derives .object v (a ++ (w ++ b))
  | member {key s w : Text} {v : Json} (hk : Chars key) (hs : Structural nameSeparator s)
      (h : Derives .value v w) : Derives .member (.object [(key, v)]) (quoted key ++ (s ++ w))
  | lastMember {v : Json} {w : Text} (h : Derives .member v w) : Derives .members v w
  | moreMembers {m : Text × Json} {ms : List (Text × Json)} {w s w' : Text}
      (h : Derives .member (.object [m]) w) (hs : Structural valueSeparator s)
      (h' : Derives .members (.object ms) w') :
      Derives .members (.object (m :: ms)) (w ++ (s ++ w'))
  | emptyArray {a b : Text} (ha : Structural beginArray a) (hb : Structural endArray b) :
      Derives .array (.array []) (a ++ b)
  | array {v : Json} {a w b : Text} (ha : Structural beginArray a) (h : Derives .elements v w)
      (hb : Structural endArray b) : Derives .array v (a ++ (w ++ b))
  | lastElement {v : Json} {w : Text} (h : Derives .value v w) :
      Derives .elements (.array [v]) w
  | moreElements {v : Json} {vs : List Json} {w s w' : Text} (h : Derives .value v w)
      (hs : Structural valueSeparator s) (h' : Derives .elements (.array vs) w') :
      Derives .elements (.array (v :: vs)) (w ++ (s ++ w'))

/-- A text that is one value with the space around it. -/
def Denotes (w : Text) (v : Json) : Prop :=
  ∃ a x b, w = a ++ (x ++ b) ∧ Blank a ∧ Blank b ∧ Derives .value v x

end Json

end Foundation
