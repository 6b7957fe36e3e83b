import OperateBench.Core.Value
import OperateBench.Foundation.Naming
import OperateBench.Foundation.Readings

/-! # What `repr` shows of a JSON value

A JSON value is shown as no other one is, also at the front of a longer text, as long as a comma, a
colon or a closing bracket follows. Two JSON objects whose members are nested in another order
are shown differently.
-/

namespace OperateBench

open Foundation

namespace Value

section Characters

/-- The character that a string literal begins with, and what is behind it. -/
def readChar : List Char → Option (Char × List Char)
  | '\\' :: 'x' :: a :: b :: s =>
    let digit (d : Char) : ℕ := if d.isDigit then d.toNat - 48 else d.toNat - 87
    some (Char.ofNat (16 * digit a + digit b), s)
  | '\\' :: 'n' :: s => some ('\n', s)
  | '\\' :: 'r' :: s => some ('\r', s)
  | '\\' :: 't' :: s => some ('\t', s)
  | '\\' :: c :: s => some (c, s)
  | c :: s => some (c, s)
  | [] => Option.none

theorem readChar_reprChar {quote : Char} (hquote : quote = '\'' ∨ quote = '"') (c : Char)
    (s : List Char) : readChar (reprChar quote c ++ s) = some (c, s) := by
  have hcontrol : ∀ n < 128,
      readChar (['\\', 'x', Nat.digitChar (n / 16), Nat.digitChar (n % 16)] ++ s) =
        some (Char.ofNat n, s) := by
    have hdigits : ∀ n < 128,
        16 * (if (Nat.digitChar (n / 16)).isDigit then (Nat.digitChar (n / 16)).toNat - 48
          else (Nat.digitChar (n / 16)).toNat - 87) +
        (if (Nat.digitChar (n % 16)).isDigit then (Nat.digitChar (n % 16)).toNat - 48
          else (Nat.digitChar (n % 16)).toNat - 87) = n := by decide
    intro n hn
    show some (Char.ofNat _, s) = _
    rw [hdigits n hn]
  unfold reprChar
  split
  · rename_i h
    rcases h with rfl | rfl
    · rcases hquote with rfl | rfl <;> rfl
    · rfl
  · rename_i hplain
    split
    · subst_vars; rfl
    · split
      · subst_vars; rfl
      · split
        · subst_vars; rfl
        · split
          · rename_i h
            rw [hcontrol c.toNat (by omega), Char.ofNat_toNat]
          · have hc : c ≠ '\\' := fun h => hplain (.inr h)
            simp [readChar, hc]

theorem reads_reprChar {quote : Char} (hquote : quote = '\'' ∨ quote = '"') (c : Char) :
    Reads (reprChar quote) (fun _ => True) (fun _ => True) c := by
  intro d _ s t _ _ h
  have hread := congrArg readChar h
  rw [readChar_reprChar hquote, readChar_reprChar hquote] at hread
  exact Prod.mk.inj (Option.some.inj hread)

theorem opens_reprChar {quote : Char} (hquote : quote = '\'' ∨ quote = '"') (c : Char) :
    Opens quote (reprChar quote c) := by
  have hback : '\\' ≠ quote := by rcases hquote with rfl | rfl <;> decide
  unfold reprChar
  split
  · exact ⟨_, _, rfl, hback⟩
  · rename_i hplain
    repeat' split
    all_goals first
      | exact ⟨_, _, rfl, hback⟩
      | exact ⟨_, _, rfl, fun h => hplain (.inl h)⟩

theorem reads_text {quote : Char} (hquote : quote = '\'' ∨ quote = '"') (cs : List Char) :
    Reads (fun cs => cs.flatMap (reprChar quote) ++ [quote]) (fun _ => True) (fun _ => True)
      cs := by
  intro ds _ s t _ _ h
  exact reads_run (fun c _ => reads_reprChar hquote c) (fun c _ => opens_reprChar hquote c)
    (fun _ _ => trivial) (fun _ _ _ => trivial) (fun _ => trivial) ds (fun _ _ => trivial) s t
    trivial trivial h

end Characters

section Values

/-- The characters of numbers. -/
def isNumeral (c : Char) : Bool := c.isDigit || c = '-' || c = '+' || c = '.' || c = 'e'

/-- A finite float is shown with a point or an exponent. -/
def isFloatText (text : String) : Bool :=
  text.toList.all isNumeral && text.toList.any (fun c => c = '.' || c = 'e') &&
    text.toList.head?.any fun c => c.isDigit || c = '-'

mutual

/-- Whether the value is one that JSON carries: lists, objects and JSON's scalars. -/
def isJson : Value → Bool
  | none | bool _ | str _ => true
  | int i => i.natAbs < maxJsonInteger
  | float text => isFloatText text
  | list items => itemsJson items
  | dict entries => entriesJson entries
  | tuple _ | other _ => false

def itemsJson : List Value → Bool
  | [] => true
  | v :: vs => v.isJson && itemsJson vs

def entriesJson : List (Value × Value) → Bool
  | [] => true
  | (k, v) :: es => k.asStr?.isSome && v.isJson && entriesJson es

end

theorem itemsJson_iff {vs : List Value} : itemsJson vs ↔ ∀ v ∈ vs, v.isJson := by
  induction vs with
  | nil => simp [itemsJson]
  | cons v vs ih => simp [itemsJson, ih]

theorem entriesJson_iff {es : List (Value × Value)} :
    entriesJson es ↔ ∀ e ∈ es, e.1.asStr?.isSome ∧ e.2.isJson := by
  induction es with
  | nil => simp [entriesJson]
  | cons e es ih => simp [entriesJson, ih, and_assoc]

/-- The kinds of values that their first character tells apart. -/
inductive Kind
  | null
  | truth (b : Bool)
  | number
  | text
  | array
  | object
  | none

def kind : Value → Kind
  | none => .null
  | bool b => .truth b
  | int _ | float _ => .number
  | str _ => .text
  | list _ => .array
  | dict _ => .object
  | tuple _ | other _ => .none

def kindOf (c : Char) : Kind :=
  if c = 'N' then .null
  else if c = 'T' then .truth true
  else if c = 'F' then .truth false
  else if c = '\'' ∨ c = '"' then .text
  else if c = '[' then .array
  else if c = '\x7b' then .object
  else .number

theorem kindOf_number {c : Char} (h : c.isDigit ∨ c = '-') : kindOf c = .number := by
  have hnot (d : Char) (hd : d.isDigit = false ∧ d ≠ '-') : c ≠ d := by
    rintro rfl
    rcases h with h | h
    · rw [hd.1] at h; cases h
    · exact hd.2 h
  simp [kindOf, hnot 'N' (by decide), hnot 'T' (by decide), hnot 'F' (by decide),
    hnot '\'' (by decide), hnot '"' (by decide), hnot '[' (by decide), hnot '\x7b' (by decide)]

/-- The characters that `repr` shows. -/
def shown (v : Value) : List Char := v.repr.toList

def shownEntry (e : Value × Value) : List Char := shown e.1 ++ ([':', ' '] ++ shown e.2)

theorem toList_commaSeparated {α : Type} (f : α → String) (as : List α) :
    (commaSeparated (as.map f)).toList = separated [',', ' '] (fun a => (f a).toList) as := by
  cases as with
  | nil => rfl
  | cons a as =>
    rw [separated]
    induction as generalizing a with
    | nil => simp [commaSeparated]
    | cons b as ih =>
      rw [List.map_cons, List.map_cons, commaSeparated, ← List.map_cons, String.toList_append, ih]
      · simp
      · simp

theorem reprItems_eq (vs : List Value) : reprItems vs = vs.map repr := by
  induction vs with
  | nil => rfl
  | cons v vs ih => rw [reprItems, ih, List.map_cons]

theorem reprEntries_eq (es : List (Value × Value)) :
    reprEntries es = es.map fun e => e.1.repr ++ ": " ++ e.2.repr := by
  induction es with
  | nil => rfl
  | cons e es ih => rw [reprEntries, ih, List.map_cons]

theorem shown_list (items : List Value) :
    shown (list items) = '[' :: (separated [',', ' '] shown items ++ [']']) := by
  rw [shown, repr, reprItems_eq, String.toList_append, String.toList_append, toList_commaSeparated]
  rfl

theorem shown_dict (entries : List (Value × Value)) :
    shown (dict entries) = '\x7b' :: (separated [',', ' '] shownEntry entries ++ ['\x7d']) := by
  have hentry : (fun e : Value × Value => (e.1.repr ++ ": " ++ e.2.repr).toList) = shownEntry := by
    funext e
    rw [String.toList_append, String.toList_append, List.append_assoc]
    rfl
  rw [shown, repr, reprEntries_eq, String.toList_append, String.toList_append,
    toList_commaSeparated, hentry]
  rfl

/-- The quotation mark of a string literal. -/
def quoteOf (s : String) : Char := if '\'' ∈ s.toList ∧ '"' ∉ s.toList then '"' else '\''

theorem quoteOf_cases (s : String) : quoteOf s = '\'' ∨ quoteOf s = '"' := by
  unfold quoteOf
  split
  · exact .inr rfl
  · exact .inl rfl

theorem shown_str (s : String) : shown (str s) =
    quoteOf s :: (s.toList.flatMap (reprChar (quoteOf s)) ++ [quoteOf s]) := by
  rw [shown, repr, pyRepr]
  exact String.toList_ofList

theorem shown_opens {v : Value} (hv : v.isJson) : ∃ c r, shown v = c :: r ∧ kindOf c = v.kind := by
  cases v with
  | none => exact ⟨'N', "one".toList, rfl, rfl⟩
  | bool b => cases b with
    | false => exact ⟨'F', "alse".toList, rfl, rfl⟩
    | true => exact ⟨'T', "rue".toList, rfl, rfl⟩
  | int i =>
    obtain ⟨c, r, h⟩ : ∃ c r, (toString i).toList = c :: r := by
      rw [toList_intText]
      cases i with
      | ofNat m =>
        apply List.exists_cons_of_ne_nil
        show (Nat.repr m).toList ≠ []
        rw [Nat.toList_repr]
        exact Nat.toDigits_ne_nil
      | negSucc m => exact ⟨_, _, rfl⟩
    exact ⟨c, r, h, kindOf_number (intText_chars i c (h ▸ List.mem_cons_self))⟩
  | float text =>
    rw [isJson, isFloatText, Bool.and_eq_true] at hv
    cases h : text.toList with
    | nil => rw [h] at hv; cases hv.2
    | cons c r =>
      rw [h] at hv
      exact ⟨c, r, h, kindOf_number (by simpa using hv.2)⟩
  | str s =>
    refine ⟨_, _, shown_str s, ?_⟩
    rcases quoteOf_cases s with h | h <;> rw [h] <;> rfl
  | list items => exact ⟨_, _, shown_list items, rfl⟩
  | dict entries => exact ⟨_, _, shown_dict entries, rfl⟩
  | tuple _ | other _ => cases hv

/-- What may stand behind a value. -/
def Stops (s : List Char) : Prop := ∀ c ∈ s.head?, c = ',' ∨ c = ':' ∨ c = ']' ∨ c = '\x7d'

theorem Stops.numeral {s : List Char} (h : Stops s) : ∀ c ∈ s.head?, ¬isNumeral c := by
  intro c hc
  rcases h c hc with rfl | rfl | rfl | rfl <;> decide

theorem isNumeral_int (i : Int) : ∀ c ∈ (toString i).toList, isNumeral c := by
  intro c hc
  rcases intText_chars i c hc with h | rfl
  · simp [isNumeral, h]
  · rfl

theorem int_ne_float {i : Int} {text : String} (h : isFloatText text) : toString i ≠ text := by
  rintro rfl
  rw [isFloatText, Bool.and_eq_true, Bool.and_eq_true, List.any_eq_true] at h
  obtain ⟨⟨-, c, hc, hmark⟩, -⟩ := h
  rw [Bool.or_eq_true, decide_eq_true_eq, decide_eq_true_eq] at hmark
  rcases intText_chars i c hc with hdigit | rfl
  · rcases hmark with rfl | rfl <;> cases hdigit
  · rcases hmark with h | h <;> cases h

theorem shown_number {v w : Value} (hv : v.isJson) (hw : w.isJson) (hkind : v.kind = .number)
    (hkind' : w.kind = .number) :
    (∀ c ∈ shown v, isNumeral c) ∧ (shown v = shown w → v = w) := by
  have hfloat {text : String} (h : isFloatText text) : ∀ c ∈ text.toList, isNumeral c := by
    rw [isFloatText, Bool.and_eq_true, Bool.and_eq_true, List.all_eq_true] at h
    exact h.1.1
  cases v with
  | int i =>
    refine ⟨isNumeral_int i, ?_⟩
    intro h
    cases w with
    | int j => exact congrArg int (intText_injective (String.toList_injective h))
    | float text => exact absurd (String.toList_injective h) (int_ne_float hw)
    | _ => cases hkind'
  | float text =>
    refine ⟨hfloat hv, ?_⟩
    intro h
    cases w with
    | int j => exact absurd (String.toList_injective h).symm (int_ne_float hv)
    | float text' => exact congrArg float (String.toList_injective h)
    | _ => cases hkind'
  | _ => cases hkind

theorem opens_shown {c : Char} (hc : c = ']' ∨ c = '\x7d') {v : Value} (hv : v.isJson) :
    Opens c (shown v) := by
  obtain ⟨d, r, hd, hkind⟩ := shown_opens hv
  refine ⟨d, r, hd, ?_⟩
  rintro rfl
  have hnumber : v.kind = .number := by
    rw [← hkind]
    rcases hc with rfl | rfl <;> rfl
  have hnumeral := (shown_number hv hv hnumber hnumber).1 d (hd ▸ List.mem_cons_self)
  rcases hc with rfl | rfl <;> cases hnumeral

theorem kind_eq {v w : Value} (hv : v.isJson) (hw : w.isJson) {s t : List Char}
    (h : shown v ++ s = shown w ++ t) : v.kind = w.kind := by
  obtain ⟨c, x, hc, hkind⟩ := shown_opens hv
  obtain ⟨d, y, hd, hkind'⟩ := shown_opens hw
  rw [hc, hd, List.cons_append, List.cons_append] at h
  rw [← hkind, ← hkind', (List.cons.inj h).1]

theorem isJson_of_asStr {v : Value} (h : v.asStr?.isSome) : v.isJson := by
  cases v with
  | str s => rfl
  | _ => cases h

theorem stops_separator (s : List Char) : Stops ([',', ' '] ++ s) := by
  rintro c ⟨⟩
  exact .inl rfl

mutual

theorem reads_shown (v : Value) (hv : v.isJson) :
    Reads shown Stops (fun w => w.isJson = true) v := by
  intro w hw s t hs ht h
  have hkind := kind_eq hv hw h
  cases v with
  | none => cases w with
    | none => exact ⟨rfl, List.append_cancel_left h⟩
    | _ => cases hkind
  | bool b => cases w with
    | bool c =>
      obtain rfl : b = c := by cases hkind; rfl
      exact ⟨rfl, List.append_cancel_left h⟩
    | _ => cases hkind
  | int _ | float _ =>
    obtain ⟨hchars, hinj⟩ := shown_number hv hw rfl hkind.symm
    obtain ⟨hchars', -⟩ := shown_number hw hw hkind.symm hkind.symm
    obtain ⟨heq, rfl⟩ := append_inj_of_class hchars hchars' hs.numeral ht.numeral h
    exact ⟨hinj heq, rfl⟩
  | str x => cases w with
    | str y =>
      rw [shown_str, shown_str, List.cons_append, List.cons_append] at h
      obtain ⟨hquote, hrest⟩ := List.cons.inj h
      rw [← hquote] at hrest
      obtain ⟨heq, rfl⟩ := reads_text (quoteOf_cases x) _ _ trivial s t trivial trivial hrest
      exact ⟨congrArg str (String.toList_injective heq), rfl⟩
    | _ => cases hkind
  | list vs => cases w with
    | list ws =>
      rw [shown_list, shown_list, List.cons_append, List.cons_append] at h
      have hitems := itemsJson_iff.mp hv
      obtain ⟨rfl, rfl⟩ := reads_separated (reads_items vs hv) hitems
        (fun u hu => opens_shown (.inl rfl) hu) ⟨_, _, rfl, by decide⟩ stops_separator
        (by rintro _ c ⟨⟩; exact .inr (.inr (.inl rfl))) ws (itemsJson_iff.mp hw) s t trivial
        trivial (List.cons.inj h).2
      exact ⟨rfl, rfl⟩
    | _ => cases hkind
  | dict es => cases w with
    | dict fs =>
      rw [shown_dict, shown_dict, List.cons_append, List.cons_append] at h
      have hentries {gs : List (Value × Value)} (hgs : entriesJson gs) :
          ∀ e ∈ gs, e.1.isJson = true ∧ e.2.isJson = true :=
        fun e he => ((entriesJson_iff.mp hgs) e he).imp_left isJson_of_asStr
      have hopens (e : Value × Value) (he : e.1.isJson = true ∧ e.2.isJson = true) :
          Opens '\x7d' (shownEntry e) := by
        obtain ⟨c, r, hc, hne⟩ := opens_shown (.inr rfl) he.1
        exact ⟨c, r ++ ([':', ' '] ++ shown e.2), by rw [shownEntry, hc]; rfl, hne⟩
      obtain ⟨rfl, rfl⟩ := reads_separated (reads_entries es hv) (hentries hv) hopens
        ⟨_, _, rfl, by decide⟩ stops_separator
        (by rintro _ c ⟨⟩; exact .inr (.inr (.inr rfl))) fs (hentries hw) s t trivial trivial
        (List.cons.inj h).2
      exact ⟨rfl, rfl⟩
    | _ => cases hkind
  | tuple _ | other _ => cases hv

theorem reads_items (vs : List Value) (hvs : itemsJson vs) :
    ∀ v ∈ vs, Reads shown Stops (fun w => w.isJson = true) v := by
  cases vs with
  | nil => nofun
  | cons v vs =>
    rw [itemsJson, Bool.and_eq_true] at hvs
    rw [List.forall_mem_cons]
    exact ⟨reads_shown v hvs.1, reads_items vs hvs.2⟩

theorem reads_entries (es : List (Value × Value)) (hes : entriesJson es) :
    ∀ e ∈ es, Reads shownEntry Stops (fun e => e.1.isJson = true ∧ e.2.isJson = true) e := by
  cases es with
  | nil => nofun
  | cons e es =>
    obtain ⟨k, v⟩ := e
    rw [entriesJson, Bool.and_eq_true, Bool.and_eq_true] at hes
    rw [List.forall_mem_cons]
    constructor
    · apply (reads_shown k (isJson_of_asStr hes.1.1)).pair (reads_shown v hes.1.2)
      rintro w s c ⟨⟩
      exact .inr (.inl rfl)
    · exact reads_entries es hes.2

end

/-- A JSON value is the only one that is shown as it is. -/
theorem repr_injective {v w : Value} (hv : v.isJson) (hw : w.isJson) (h : v.repr = w.repr) :
    v = w := by
  refine (reads_shown v hv w hw [] [] nofun nofun ?_).1
  rw [shown, shown, h]

end Values

end Value

end OperateBench
