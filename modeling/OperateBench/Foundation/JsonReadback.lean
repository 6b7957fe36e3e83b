import OperateBench.Foundation.JsonEncoding

/-! # Reading a written text back

The text of a value is a text of the grammar, and the reader makes the value of it again. No other
value is written as the same text.
-/

namespace Foundation.Json

section Trees

mutual

/-- The tree of the text that is written for a value. -/
def tree : JsonValue → Json
  | .bool value => .bool value
  | .int value => .number (intText value)
  | .float (.finite repr _) => .number repr
  | .str value => .string (escaped value)
  | .list items => .array (treeItems items)
  | .dict entries => .object (treeEntries entries)
  | .none | .float (.inf _) | .float .nan | .other _ => .null

def treeItems : List JsonValue → List Json
  | [] => []
  | x :: xs => tree x :: treeItems xs

def treeEntries : List (Text × JsonValue) → List (Text × Json)
  | [] => []
  | (name, x) :: es => (escaped name, tree x) :: treeEntries es

end

theorem Structural.self (c : CodePoint) : Structural c [c] := ⟨[], [], nofun, nofun, rfl⟩

theorem separated_cons_cons {α σ : Type*} {sep : List σ} {f : α → List σ} {a b : α}
    {as : List α} : separated sep f (a :: b :: as) =
      f a ++ (sep ++ separated sep f (b :: as)) := by
  simp [separated]

mutual

theorem derives_render (x : JsonValue) (h : x.IsJson) : Derives .value (tree x) (render x) := by
  cases x with
  | none => exact .null
  | bool value => cases value with
    | false => exact .false
    | true => exact .true
  | int value => exact .number (numeral_intText value)
  | float value => cases value with
    | finite repr hrepr => exact .number hrepr.1
    | inf | nan => cases h
  | str value => exact .string (chars_escaped value)
  | list items =>
    rw [render_list]
    cases items with
    | nil => exact .ofArray (.emptyArray (.self _) (.self _))
    | cons x xs =>
      exact .ofArray
        (.array (.self _) (derives_elements (x :: xs) h (List.cons_ne_nil _ _)) (.self _))
  | dict entries =>
    rw [render_dict]
    cases entries with
    | nil => exact .ofObject (.emptyObject (.self _) (.self _))
    | cons e es =>
      exact .ofObject
        (.object (.self _) (derives_members (e :: es) h (List.cons_ne_nil _ _)) (.self _))
  | other => cases h
termination_by structural x

theorem derives_elements (items : List JsonValue) (h : JsonValue.ItemsJson items)
    (hne : items ≠ []) :
    Derives .elements (.array (treeItems items)) (separated [valueSeparator] render items) := by
  match items with
  | [] => exact absurd rfl hne
  | [x] =>
    rw [separated, List.flatMap_nil, List.append_nil]
    exact .lastElement (derives_render x h.1)
  | x :: y :: xs =>
    rw [separated_cons_cons]
    exact .moreElements (derives_render x h.1) (.self _)
      (derives_elements (y :: xs) h.2 (List.cons_ne_nil _ _))
termination_by structural items

theorem derives_members (entries : List (Text × JsonValue)) (h : JsonValue.EntriesJson entries)
    (hne : entries ≠ []) : Derives .members (.object (treeEntries entries))
      (separated [valueSeparator] renderEntry entries) := by
  match entries with
  | [] => exact absurd rfl hne
  | [(name, x)] =>
    rw [separated, List.flatMap_nil, List.append_nil]
    exact .lastMember (.member (chars_escaped name) (.self _) (derives_render x h.1))
  | (name, x) :: e :: es =>
    rw [separated_cons_cons]
    exact .moreMembers (.member (chars_escaped name) (.self _) (derives_render x h.1)) (.self _)
      (derives_members (e :: es) h.2 (List.cons_ne_nil _ _))
termination_by structural entries

end

theorem denotes_render {x : JsonValue} (h : x.IsJson) : Denotes (render x) (tree x) :=
  ⟨[], render x, [], (List.append_nil _).symm, nofun, nofun, derives_render x h⟩

end Trees

section Reading

namespace JsonValue

mutual

/-- No dictionary holds a name twice. -/
def KeyedOnce : JsonValue → Prop
  | .list items => ItemsKeyedOnce items
  | .dict entries => (entries.map Prod.fst).Nodup ∧ EntriesKeyedOnce entries
  | .none | .bool _ | .int _ | .float _ | .str _ | .other _ => True

def ItemsKeyedOnce : List JsonValue → Prop
  | [] => True
  | x :: xs => KeyedOnce x ∧ ItemsKeyedOnce xs

def EntriesKeyedOnce : List (Text × JsonValue) → Prop
  | [] => True
  | (_, x) :: es => KeyedOnce x ∧ EntriesKeyedOnce es

end

mutual

/-- Every integer has at most so many digits. -/
def Short (maxDigits : ℕ) : JsonValue → Prop
  | .int value => value.natAbs < 10 ^ maxDigits
  | .list items => ItemsShort maxDigits items
  | .dict entries => EntriesShort maxDigits entries
  | .none | .bool _ | .float _ | .str _ | .other _ => True

def ItemsShort (maxDigits : ℕ) : List JsonValue → Prop
  | [] => True
  | x :: xs => Short maxDigits x ∧ ItemsShort maxDigits xs

def EntriesShort (maxDigits : ℕ) : List (Text × JsonValue) → Prop
  | [] => True
  | (_, x) :: es => Short maxDigits x ∧ EntriesShort maxDigits es

end

mutual

/-- The value with each float as the decimal of its `repr`, which it is rounded from. -/
def decimals : JsonValue → Loaded
  | .bool value => .bool value
  | .int value => .int value
  | .float (.finite repr _) => .float (decimalOf repr)
  | .str value => .str value
  | .list items => .list (decimalItems items)
  | .dict entries => .dict (decimalEntries entries)
  | .none | .float (.inf _) | .float .nan | .other _ => .none

def decimalItems : List JsonValue → List Loaded
  | [] => []
  | x :: xs => decimals x :: decimalItems xs

def decimalEntries : List (Text × JsonValue) → List (Text × Loaded)
  | [] => []
  | (name, x) :: es => (name, decimals x) :: decimalEntries es

end

theorem decimalEntries_keys (es : List (Text × JsonValue)) :
    (decimalEntries es).map Prod.fst = es.map Prod.fst := by
  induction es with
  | nil => rfl
  | cons e es ih => rw [decimalEntries, List.map_cons, List.map_cons, ih]

end JsonValue

open JsonValue

variable {maxDigits : ℕ}

mutual

/-- The tree of the text is read as the value it was written for. -/
theorem load_tree (hmax : 0 < maxDigits) (x : JsonValue) (hjson : x.IsJson) (hkeys : x.KeyedOnce)
    (hshort : x.Short maxDigits) : load maxDigits (tree x) = some x.decimals := by
  cases x with
  | none | bool => rfl
  | int value => exact loadNumber_intText hmax hshort
  | float value => cases value with
    | finite repr hrepr => exact loadNumber_float hrepr
    | inf | nan => cases hjson
  | str value =>
    rw [tree, load, unescape_escaped]
    rfl
  | list items =>
    rw [tree, load, loadElements_trees hmax items hjson hkeys hshort]
    rfl
  | dict entries =>
    have hpairs : dictOf (decimalEntries entries) = decimalEntries entries := by
      refine foldl_put_fresh ?_
      rw [List.map_nil, List.nil_append, decimalEntries_keys]
      exact hkeys.1
    rw [tree, load, loadMembers_trees hmax entries hjson hkeys.2 hshort, Option.map_some, hpairs]
    rfl
  | other => cases hjson
termination_by structural x

theorem loadElements_trees (hmax : 0 < maxDigits) (items : List JsonValue) (hjson : ItemsJson items)
    (hkeys : ItemsKeyedOnce items) (hshort : ItemsShort maxDigits items) :
    loadElements maxDigits (treeItems items) = some (decimalItems items) := by
  match items with
  | [] => rfl
  | x :: xs =>
    rw [treeItems, loadElements, load_tree hmax x hjson.1 hkeys.1 hshort.1,
      loadElements_trees hmax xs hjson.2 hkeys.2 hshort.2]
    rfl
termination_by structural items

theorem loadMembers_trees (hmax : 0 < maxDigits) (entries : List (Text × JsonValue))
    (hjson : EntriesJson entries) (hkeys : EntriesKeyedOnce entries)
    (hshort : EntriesShort maxDigits entries) :
    loadMembers maxDigits (treeEntries entries) = some (decimalEntries entries) := by
  match entries with
  | [] => rfl
  | (name, x) :: es =>
    rw [treeEntries, loadMembers, load_tree hmax x hjson.1 hkeys.1 hshort.1,
      loadMembers_trees hmax es hjson.2 hkeys.2 hshort.2, unescape_escaped]
    rfl
termination_by structural entries

end

end Reading

section Readback

theorem ofChar_injective : Function.Injective CodePoint.ofChar := by
  intro a b h
  have hval := congrArg Fin.val h
  rw [val_ofChar, val_ofChar] at hval
  exact Char.toNat_inj.mp hval

theorem ofString_injective : Function.Injective Text.ofString := by
  intro s t h
  exact String.toList_injective (ofChar_injective.list_map h)

theorem reads_escapeChar (c : CodePoint) :
    Reads escapeChar (fun _ => True) (fun _ => True) c := by
  intro d _ s t _ _ h
  have hread := congrArg unescape h
  rw [unescape_escapeChar, unescape_escapeChar] at hread
  obtain ⟨rfl, -⟩ := List.cons.inj hread
  exact ⟨rfl, List.append_cancel_left h⟩

theorem opens_escapeChar (c : CodePoint) : Opens quotationMark (escapeChar c) := by
  unfold escapeChar
  split
  · exact ⟨escape, _, rfl, by decide⟩
  · rename_i hplain
    rw [not_or] at hplain
    repeat' split
    all_goals first
      | exact ⟨escape, _, rfl, by decide⟩
      | exact ⟨c, [], rfl, hplain.1⟩

theorem reads_encodeString (t : Text) :
    Reads encodeString (fun _ => True) (fun _ => True) t := by
  intro u _ r s _ _ h
  simp only [encodeString, quoted, escaped, List.cons_append] at h
  obtain ⟨rfl, rfl⟩ := reads_run (fun c _ => reads_escapeChar c)
    (fun c _ => opens_escapeChar c) (fun _ _ => trivial) (fun _ _ _ => trivial)
    (fun _ => trivial) u (fun _ _ => trivial) r s trivial trivial (List.cons.inj h).2
  exact ⟨rfl, rfl⟩

/-- The kinds of values that their first character tells apart. -/
inductive Kind
  | null
  | truth (b : Bool)
  | number
  | text
  | array
  | object

def JsonValue.kind : JsonValue → Kind
  | .none | .other _ => .null
  | .bool b => .truth b
  | .int _ | .float _ => .number
  | .str _ => .text
  | .list _ => .array
  | .dict _ => .object

def kindOf (c : CodePoint) : Kind :=
  if c = 0x6E then .null
  else if c = 0x74 then .truth true
  else if c = 0x66 then .truth false
  else if c = quotationMark then .text
  else if c = beginArray then .array
  else if c = beginObject then .object
  else .number

theorem kindOf_number {c : CodePoint} (h : c = minus ∨ Digit c) : kindOf c = .number := by
  have hnot (d : CodePoint) (hd : d ≠ minus ∧ ¬Digit d) : c ≠ d := by
    rintro rfl
    exact h.elim hd.1 hd.2
  simp [kindOf, hnot 0x6E (by decide), hnot 0x74 (by decide), hnot 0x66 (by decide),
    hnot quotationMark (by decide), hnot beginArray (by decide), hnot beginObject (by decide)]

theorem render_opens {x : JsonValue} (h : x.IsJson) :
    ∃ c r, render x = c :: r ∧ kindOf c = x.kind := by
  cases x with
  | none => exact ⟨_, _, rfl, rfl⟩
  | bool b => cases b <;> exact ⟨_, _, rfl, rfl⟩
  | int n =>
    obtain ⟨c, r, heq, hc⟩ := numeral_head (numeral_intText n)
    exact ⟨c, r, heq, kindOf_number hc⟩
  | float value => cases value with
    | finite repr hrepr =>
      obtain ⟨c, r, heq, hc⟩ := numeral_head hrepr.1
      exact ⟨c, r, heq, kindOf_number hc⟩
    | inf | nan => cases h
  | str t => exact ⟨_, _, rfl, rfl⟩
  | list items => exact ⟨_, _, render_list items, rfl⟩
  | dict entries => exact ⟨_, _, render_dict entries, rfl⟩
  | other => cases h

/-- What may stand behind a value. -/
def Stops (s : Text) : Prop :=
  ∀ c ∈ s.head?, c = valueSeparator ∨ c = nameSeparator ∨ c = endArray ∨ c = endObject

theorem Stops.numeral {s : Text} (h : Stops s) : ∀ c ∈ s.head?, ¬NumeralChar c := by
  intro c hc
  rcases h c hc with rfl | rfl | rfl | rfl <;> decide

theorem intText_no_mark {n : ℤ} {c : CodePoint} (h : c ∈ intText n) :
    ¬(c = decimalPoint ∨ ExponentMark c) := by
  have hdigit : c = minus ∨ Digit c := by
    rw [intText_cases, List.mem_append] at h
    rcases h with h | h
    · split at h
      · exact .inl (List.mem_singleton.mp h)
      · cases h
    · exact .inr (natText_digits _ c h)
  rintro (rfl | rfl | rfl) <;> exact absurd hdigit (by decide)

theorem render_number {x y : JsonValue} (hx : x.IsJson) (hy : y.IsJson) (hkind : x.kind = .number)
    (hkind' : y.kind = .number) :
    (∀ c ∈ render x, NumeralChar c) ∧ (render x = render y → x = y) := by
  cases x with
  | int n =>
    refine ⟨numeral_chars (numeral_intText n), ?_⟩
    intro h
    cases y with
    | int m => exact congrArg JsonValue.int (intText_injective (ofString_injective h))
    | float value => cases value with
      | finite repr hrepr =>
        obtain ⟨c, hc, hmark⟩ := hrepr.2
        have heq : intText n = repr := h
        exact absurd hmark (intText_no_mark (heq ▸ hc))
      | inf | nan => cases hy
    | _ => cases hkind'
  | float value => cases value with
    | finite repr hrepr =>
      refine ⟨numeral_chars hrepr.1, ?_⟩
      intro h
      cases y with
      | int m =>
        obtain ⟨c, hc, hmark⟩ := hrepr.2
        have heq : repr = intText m := h
        exact absurd hmark (intText_no_mark (heq ▸ hc))
      | float value' => cases value' with
        | finite repr' hrepr' =>
          obtain rfl : repr = repr' := h
          rfl
        | inf | nan => cases hy
      | _ => cases hkind'
    | inf | nan => cases hx
  | _ => cases hkind

theorem opens_render {c : CodePoint} (hc : c = endArray ∨ c = endObject) {x : JsonValue}
    (h : x.IsJson) : Opens c (render x) := by
  obtain ⟨d, r, hd, hkind⟩ := render_opens h
  refine ⟨d, r, hd, ?_⟩
  rintro rfl
  have hnumber : x.kind = .number := by
    rw [← hkind]
    rcases hc with rfl | rfl <;> rfl
  have hnumeral := (render_number h h hnumber hnumber).1 d (hd ▸ List.mem_cons_self)
  rcases hc with rfl | rfl <;> exact absurd hnumeral (by decide)

theorem kind_eq {x y : JsonValue} (hx : x.IsJson) (hy : y.IsJson) {s t : Text}
    (h : render x ++ s = render y ++ t) : x.kind = y.kind := by
  obtain ⟨c, r, hc, hkind⟩ := render_opens hx
  obtain ⟨d, r', hd, hkind'⟩ := render_opens hy
  rw [hc, hd, List.cons_append, List.cons_append] at h
  rw [← hkind, ← hkind', (List.cons.inj h).1]

theorem stops_separator (s : Text) : Stops ([valueSeparator] ++ s) := by
  rintro c ⟨⟩
  exact .inl rfl

mutual

theorem reads_render (x : JsonValue) (hx : x.IsJson) : Reads render Stops JsonValue.IsJson x := by
  intro y hy s t hs ht h
  have hkind := kind_eq hx hy h
  cases x with
  | none => cases y with
    | none => exact ⟨rfl, List.append_cancel_left h⟩
    | other => cases hy
    | _ => cases hkind
  | bool b => cases y with
    | bool c =>
      obtain rfl : b = c := by cases hkind; rfl
      exact ⟨rfl, List.append_cancel_left h⟩
    | _ => cases hkind
  | int _ | float _ =>
    obtain ⟨hchars, hinj⟩ := render_number hx hy rfl hkind.symm
    obtain ⟨hchars', -⟩ := render_number hy hy hkind.symm hkind.symm
    obtain ⟨heq, rfl⟩ := append_inj_of_class hchars hchars' hs.numeral ht.numeral h
    exact ⟨hinj heq, rfl⟩
  | str u => cases y with
    | str v =>
      obtain ⟨rfl, rfl⟩ := reads_encodeString u v trivial s t trivial trivial h
      exact ⟨rfl, rfl⟩
    | _ => cases hkind
  | list xs => cases y with
    | list ys =>
      rw [render_list, render_list, List.cons_append, List.cons_append] at h
      obtain ⟨rfl, rfl⟩ := reads_separated (reads_renderItems xs hx) (JsonValue.itemsJson_iff.mp hx)
        (fun z hz => opens_render (.inl rfl) hz) ⟨_, _, rfl, by decide⟩ stops_separator
        (by rintro _ c ⟨⟩; exact .inr (.inr (.inl rfl))) ys (JsonValue.itemsJson_iff.mp hy) s t
        trivial trivial (List.cons.inj h).2
      exact ⟨rfl, rfl⟩
    | _ => cases hkind
  | dict es => cases y with
    | dict fs =>
      rw [render_dict, render_dict, List.cons_append, List.cons_append] at h
      have hopens (e : Text × JsonValue) (_ : e.2.IsJson) : Opens endObject (renderEntry e) :=
        ⟨quotationMark, _, rfl, by decide⟩
      obtain ⟨rfl, rfl⟩ := reads_separated (reads_renderEntries es hx)
        (JsonValue.entriesJson_iff.mp hx) hopens ⟨_, _, rfl, by decide⟩ stops_separator
        (by rintro _ c ⟨⟩; exact .inr (.inr (.inr rfl))) fs (JsonValue.entriesJson_iff.mp hy) s t
        trivial trivial (List.cons.inj h).2
      exact ⟨rfl, rfl⟩
    | _ => cases hkind
  | other => cases hx

theorem reads_renderItems (xs : List JsonValue) (hxs : JsonValue.ItemsJson xs) :
    ∀ x ∈ xs, Reads render Stops JsonValue.IsJson x := by
  cases xs with
  | nil => nofun
  | cons x xs =>
    rw [List.forall_mem_cons]
    exact ⟨reads_render x hxs.1, reads_renderItems xs hxs.2⟩

theorem reads_renderEntries (es : List (Text × JsonValue)) (hes : JsonValue.EntriesJson es) :
    ∀ e ∈ es, Reads renderEntry Stops (fun e => e.2.IsJson) e := by
  match es with
  | [] => nofun
  | (name, x) :: es =>
    rw [List.forall_mem_cons]
    constructor
    · rintro ⟨name', y⟩ hy s t hs ht h
      obtain ⟨heq, hst⟩ := (reads_encodeString name).pair (reads_render x hes.1)
        (fun _ _ => trivial) (name', y) ⟨trivial, hy⟩ s t hs ht h
      exact ⟨heq, hst⟩
    · exact reads_renderEntries es hes.2

end

/-- A text is written for one value only. -/
theorem render_injective {x y : JsonValue} (hx : x.IsJson) (hy : y.IsJson)
    (h : render x = render y) : x = y := by
  refine (reads_render x hx y hy [] [] nofun nofun ?_).1
  rw [h]

end Readback

end Foundation.Json
