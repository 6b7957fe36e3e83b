import OperateBench.Foundation.Fallible
import OperateBench.JsonSafety.Payloads

/-! # What the canonical text stands for

A payload that the walk accepts has a canonical text when the encoder knows the classes of its
containers, and a projection when no mapping in it repeats a name. The text is then read as the
projection, and no other projection has it.
-/

namespace OperateBench.JsonSafety.Payload

open Foundation Foundation.Json

variable {repr : Text → Text}

section Shapes

mutual

/-- Every container is of a class that the encoder knows. -/
def BuiltIn : Payload → Prop
  | .mapping cls items => cls = .dict ∧ MembersBuiltIn items
  | .sequence cls items => (cls = .list ∨ cls = .tuple) ∧ ItemsBuiltIn items
  | .other _ => False
  | .none | .bool _ | .str _ | .int _ | .float _ => True

def MembersBuiltIn : List (Key × Payload) → Prop
  | [] => True
  | (_, item) :: items => BuiltIn item ∧ MembersBuiltIn items

def ItemsBuiltIn : List Payload → Prop
  | [] => True
  | item :: items => BuiltIn item ∧ ItemsBuiltIn items

end

mutual

/-- No mapping has two keys of one text. -/
def DistinctKeys : Payload → Prop
  | .mapping _ items => (items.map fun e => e.1.text).Nodup ∧ MembersDistinct items
  | .sequence _ items => ItemsDistinct items
  | .none | .bool _ | .str _ | .int _ | .float _ | .other _ => True

def MembersDistinct : List (Key × Payload) → Prop
  | [] => True
  | (_, item) :: items => DistinctKeys item ∧ MembersDistinct items

def ItemsDistinct : List Payload → Prop
  | [] => True
  | item :: items => DistinctKeys item ∧ ItemsDistinct items

end

mutual

/-- The payload out of dictionaries and lists, repeated names included. -/
def plain : Payload → JsonValue
  | .none => .none
  | .bool value => .bool value
  | .str value => .str value
  | .int value => .int value
  | .float value => .float value
  | .mapping _ items => .dict (plainMembers items)
  | .sequence _ items => .list (plainItems items)
  | .other typeName => .other typeName

def plainMembers : List (Key × Payload) → List (Text × JsonValue)
  | [] => []
  | (key, item) :: items => (key.text, plain item) :: plainMembers items

def plainItems : List Payload → List JsonValue
  | [] => []
  | item :: items => plain item :: plainItems items

end

theorem plainMembers_keys (items : List (Key × Payload)) :
    (plainMembers items).map Prod.fst = items.map fun e => e.1.text := by
  induction items with
  | nil => rfl
  | cons e items ih => rw [plainMembers, List.map_cons, List.map_cons, ih]

mutual

theorem keyedOnce_plain (v : Payload) : v.plain.KeyedOnce ↔ v.DistinctKeys := by
  cases v with
  | mapping cls items =>
    rw [plain, JsonValue.KeyedOnce, DistinctKeys, plainMembers_keys, keyedOnce_plainMembers items]
  | sequence cls items => rw [plain, JsonValue.KeyedOnce, DistinctKeys, keyedOnce_plainItems items]
  | _ => exact Iff.rfl
termination_by structural v

theorem keyedOnce_plainMembers (items : List (Key × Payload)) :
    JsonValue.EntriesKeyedOnce (plainMembers items) ↔ MembersDistinct items := by
  match items with
  | [] => exact Iff.rfl
  | (key, item) :: items =>
    rw [plainMembers, JsonValue.EntriesKeyedOnce, MembersDistinct, keyedOnce_plain item,
      keyedOnce_plainMembers items]
termination_by structural items

theorem keyedOnce_plainItems (items : List Payload) :
    JsonValue.ItemsKeyedOnce (plainItems items) ↔ ItemsDistinct items := by
  match items with
  | [] => exact Iff.rfl
  | item :: items =>
    rw [plainItems, JsonValue.ItemsKeyedOnce, ItemsDistinct, keyedOnce_plain item,
      keyedOnce_plainItems items]
termination_by structural items

end

end Shapes

section Accepted

theorem natAbs_lt_of_renders {value : ℤ} (h : rendersAsDecimalText value = true) :
    value.natAbs < maxJsonIntegerMagnitude := by
  unfold rendersAsDecimalText at h
  dsimp only at h
  split at h
  · rename_i hbits
    by_contra hle
    exact absurd (Nat.size_le_size (Nat.not_lt.mp hle)) (Nat.not_le.mpr hbits)
  · rwa [decide_eq_true_eq] at h

theorem checkInteger_ok {value : ℤ} {context : Text} (h : checkInteger value context = .ok ()) :
    value.natAbs < maxJsonIntegerMagnitude := by
  rw [checkInteger] at h
  split at h
  · rename_i hrenders
    exact natAbs_lt_of_renders hrenders
  · cases h

theorem checkKey_ok {key : Key} {context name : Text} (h : checkKey repr key context = .ok name) :
    key = .str name := by
  cases key with
  | str value =>
    rw [checkKey, checkText] at h
    split at h
    · exact congrArg Key.str (Except.ok.inj h)
    · cases h
  | other shown typeName => cases h

mutual

/-- What the walk lets pass at the depth `d`: texts for keys, scalars of JSON, and no container
beyond the limit. -/
def Passed (d : ℕ) : Payload → Prop
  | .int value => value.natAbs < maxJsonIntegerMagnitude
  | .float value => ∃ shown h, value = .finite shown h
  | .mapping _ items => (d + 1 : ℤ) ≤ maxJsonDepth ∧ MembersPassed (d + 1) items
  | .sequence _ items => (d + 1 : ℤ) ≤ maxJsonDepth ∧ ItemsPassed (d + 1) items
  | .other _ => False
  | .none | .bool _ | .str _ => True

def MembersPassed (d : ℕ) : List (Key × Payload) → Prop
  | [] => True
  | (key, item) :: items => (∃ name, key = .str name) ∧ Passed d item ∧ MembersPassed d items

def ItemsPassed (d : ℕ) : List Payload → Prop
  | [] => True
  | item :: items => Passed d item ∧ ItemsPassed d items

end

mutual

theorem passed_of_walk (context : Text) (d : ℕ) (v : Payload)
    (h : walk repr maxJsonDepth context d v = .ok ()) : Passed d v := by
  cases v with
  | none | bool | str => trivial
  | int value => exact checkInteger_ok h
  | float value => cases value with
    | finite shown hshown => exact ⟨shown, hshown, rfl⟩
    | inf | nan => cases h
  | mapping cls items =>
    rw [walk] at h
    split at h
    · cases h
    · exact ⟨Int.not_lt.mp ‹_›, passed_of_walkMembers context (d + 1) items h⟩
  | sequence cls items =>
    rw [walk] at h
    split at h
    · cases h
    · exact ⟨Int.not_lt.mp ‹_›, passed_of_walkItems context (d + 1) 0 items h⟩
  | other => cases h
termination_by structural v

theorem passed_of_walkMembers (context : Text) (d : ℕ) (items : List (Key × Payload))
    (h : walkMembers repr maxJsonDepth context d items = .ok ()) : MembersPassed d items := by
  match items with
  | [] => trivial
  | (key, item) :: items =>
    obtain ⟨name, hname, h⟩ := bind_ok h
    obtain ⟨_, hitem, h⟩ := bind_ok h
    exact ⟨⟨name, checkKey_ok hname⟩, passed_of_walk _ d item hitem,
      passed_of_walkMembers context d items h⟩
termination_by structural items

theorem passed_of_walkItems (context : Text) (d index : ℕ) (items : List Payload)
    (h : walkItems repr maxJsonDepth context d index items = .ok ()) : ItemsPassed d items := by
  match items with
  | [] => trivial
  | item :: items =>
    obtain ⟨_, hitem, h⟩ := bind_ok h
    exact ⟨passed_of_walk _ d item hitem, passed_of_walkItems context d (index + 1) items h⟩
termination_by structural items

end

theorem passed_of_ensureJsonSafe {v w : Payload} {context : Text}
    (h : ensureJsonSafe repr maxJsonDepth context v = .ok w) : Passed 0 v := by
  obtain ⟨_, hwalk, -⟩ := bind_ok h
  exact passed_of_walk context 0 v hwalk

mutual

theorem isJson_plain (d : ℕ) (v : Payload) (h : Passed d v) :
    v.plain.IsJson ∧ v.plain.Short maxJsonIntegerDigits := by
  cases v with
  | none | bool | str => exact ⟨trivial, trivial⟩
  | int value => exact ⟨trivial, h⟩
  | float value =>
    obtain ⟨shown, hshown, rfl⟩ := h
    exact ⟨trivial, trivial⟩
  | mapping cls items => exact isJson_plainMembers (d + 1) items h.2
  | sequence cls items => exact isJson_plainItems (d + 1) items h.2
  | other => exact h.elim
termination_by structural v

theorem isJson_plainMembers (d : ℕ) (items : List (Key × Payload)) (h : MembersPassed d items) :
    JsonValue.EntriesJson (plainMembers items) ∧
      JsonValue.EntriesShort maxJsonIntegerDigits (plainMembers items) := by
  match items with
  | [] => exact ⟨trivial, trivial⟩
  | (key, item) :: items =>
    obtain ⟨hjson, hshort⟩ := isJson_plain d item h.2.1
    obtain ⟨hrest, hrest'⟩ := isJson_plainMembers d items h.2.2
    exact ⟨⟨hjson, hrest⟩, hshort, hrest'⟩
termination_by structural items

theorem isJson_plainItems (d : ℕ) (items : List Payload) (h : ItemsPassed d items) :
    JsonValue.ItemsJson (plainItems items) ∧
      JsonValue.ItemsShort maxJsonIntegerDigits (plainItems items) := by
  match items with
  | [] => exact ⟨trivial, trivial⟩
  | item :: items =>
    obtain ⟨hjson, hshort⟩ := isJson_plain d item h.1
    obtain ⟨hrest, hrest'⟩ := isJson_plainItems d items h.2
    exact ⟨⟨hjson, hrest⟩, hshort, hrest'⟩
termination_by structural items

end

end Accepted

section Projection

theorem projectedKey_ok {projected : List (Text × JsonValue)} {key : Key} {path name : Text}
    (h : projectedKey repr projected key path = .ok name) :
    key = .str name ∧ name ∉ projected.map Prod.fst := by
  cases key with
  | str value =>
    rw [projectedKey] at h
    split at h
    · cases h
    · rename_i hfresh
      obtain rfl := Except.ok.inj h
      exact ⟨rfl, hfresh⟩
  | other shown typeName => cases h

mutual

theorem project_ok (path : Text) (d : ℕ) (v : Payload) {x : JsonValue}
    (h : project repr path d v = .ok x) : x = v.plain ∧ v.DistinctKeys := by
  cases v with
  | mapping cls items =>
    rw [project] at h
    split at h
    · cases h
    · obtain ⟨entries, hentries, h⟩ := bind_ok h
      obtain rfl := pure_ok h
      obtain ⟨rfl, hnodup, hmembers⟩ := projectMapping_ok path (d + 1) [] items hentries
      rw [List.nil_append, plainMembers_keys] at hnodup
      exact ⟨rfl, hnodup List.nodup_nil, hmembers⟩
  | sequence cls items =>
    rw [project] at h
    split at h
    · cases h
    · obtain ⟨values, hvalues, h⟩ := bind_ok h
      obtain rfl := pure_ok h
      obtain ⟨rfl, hitems⟩ := projectItems_ok path (d + 1) 0 items hvalues
      exact ⟨rfl, hitems⟩
  | _ => exact ⟨(Except.ok.inj h).symm, trivial⟩
termination_by structural v

theorem projectMapping_ok (path : Text) (d : ℕ) (projected : List (Text × JsonValue))
    (items : List (Key × Payload)) {entries : List (Text × JsonValue)}
    (h : projectMapping repr path d projected items = .ok entries) :
    entries = projected ++ plainMembers items ∧
      ((projected.map Prod.fst).Nodup → ((projected ++ plainMembers items).map Prod.fst).Nodup) ∧
      MembersDistinct items := by
  match items with
  | [] =>
    obtain rfl := Except.ok.inj h
    rw [plainMembers, List.append_nil]
    exact ⟨rfl, id, trivial⟩
  | (key, item) :: items =>
    obtain ⟨name, hname, h⟩ := bind_ok h
    obtain ⟨value, hvalue, h⟩ := bind_ok h
    obtain ⟨rfl, hfresh⟩ := projectedKey_ok hname
    obtain ⟨rfl, hdistinct⟩ := project_ok _ d item hvalue
    obtain ⟨rfl, hnodup, hrest⟩ := projectMapping_ok path d _ items h
    rw [List.append_assoc, List.singleton_append] at hnodup ⊢
    refine ⟨rfl, ?_, hdistinct, hrest⟩
    intro hprojected
    apply hnodup
    rw [List.map_append, List.map_singleton]
    exact hprojected.append (List.nodup_singleton name) (List.disjoint_singleton.mpr hfresh)
termination_by structural items

theorem projectItems_ok (path : Text) (d index : ℕ) (items : List Payload) {xs : List JsonValue}
    (h : projectItems repr path d index items = .ok xs) :
    xs = plainItems items ∧ ItemsDistinct items := by
  match items with
  | [] => exact ⟨(Except.ok.inj h).symm, trivial⟩
  | item :: items =>
    obtain ⟨value, hvalue, h⟩ := bind_ok h
    obtain ⟨values, hvalues, h⟩ := bind_ok h
    obtain rfl := pure_ok h
    obtain ⟨rfl, hdistinct⟩ := project_ok _ d item hvalue
    obtain ⟨rfl, hrest⟩ := projectItems_ok path d (index + 1) items hvalues
    exact ⟨rfl, hdistinct, hrest⟩
termination_by structural items

end

mutual

theorem project_passed (path : Text) (d : ℕ) (v : Payload) (h : Passed d v)
    (hkeys : v.DistinctKeys) : project repr path d v = .ok v.plain := by
  cases v with
  | mapping cls items =>
    have hentries := projectMapping_passed path (d + 1) [] items h.2 hkeys.1 hkeys.2
    rw [project, if_neg (Int.not_lt.mpr h.1), hentries]
    rfl
  | sequence cls items =>
    have hitems := projectItems_passed path (d + 1) 0 items h.2 hkeys
    rw [project, if_neg (Int.not_lt.mpr h.1), hitems]
    rfl
  | _ => rfl
termination_by structural v

theorem projectMapping_passed (path : Text) (d : ℕ) (projected : List (Text × JsonValue))
    (items : List (Key × Payload)) (h : MembersPassed d items)
    (hnodup : (projected.map Prod.fst ++ items.map fun e => e.1.text).Nodup)
    (hkeys : MembersDistinct items) :
    projectMapping repr path d projected items = .ok (projected ++ plainMembers items) := by
  match items with
  | [] => rw [projectMapping, plainMembers, List.append_nil]
  | (key, item) :: items =>
    obtain ⟨⟨name, rfl⟩, hitem, hrest⟩ := h
    have hfresh : name ∉ projected.map Prod.fst := by
      intro hmem
      exact (List.nodup_append.mp hnodup).2.2 _ hmem name List.mem_cons_self rfl
    have hnext := projectMapping_passed path d (projected ++ [(name, item.plain)]) items hrest
      (by simpa [Key.text] using hnodup) hkeys.2
    rw [projectMapping, projectedKey, if_neg hfresh, ok_bind,
      project_passed _ d item hitem hkeys.1, ok_bind, hnext, List.append_assoc]
    rfl
termination_by structural items

theorem projectItems_passed (path : Text) (d index : ℕ) (items : List Payload)
    (h : ItemsPassed d items) (hkeys : ItemsDistinct items) :
    projectItems repr path d index items = .ok (plainItems items) := by
  match items with
  | [] => rfl
  | item :: items =>
    rw [projectItems, project_passed _ d item h.1 hkeys.1, ok_bind,
      projectItems_passed path d (index + 1) items h.2 hkeys.2]
    rfl
termination_by structural items

end

/-- What the walk accepts is projected unless a mapping repeats a name. -/
theorem toJson_iff {v : Payload} (h : Passed 0 v) {x : JsonValue} :
    toJson repr v = .ok x ↔ x = v.plain ∧ v.DistinctKeys := by
  constructor
  · exact project_ok _ 0 v
  · rintro ⟨rfl, hkeys⟩
    exact project_passed _ 0 v h hkeys

end Projection

section Encoding

mutual

theorem builtIn_of_dumps (v : Payload) {text : Text} (h : dumps v = .ok text) : v.BuiltIn := by
  cases v with
  | mapping cls items => cases cls with
    | dict =>
      obtain ⟨members, hmembers, -⟩ := bind_ok h
      exact ⟨rfl, builtIn_of_dumpsMembers items hmembers⟩
    | other => cases h
  | sequence cls items => cases cls with
    | list =>
      obtain ⟨texts, htexts, -⟩ := bind_ok h
      exact ⟨.inl rfl, builtIn_of_dumpsItems items htexts⟩
    | tuple =>
      obtain ⟨texts, htexts, -⟩ := bind_ok h
      exact ⟨.inr rfl, builtIn_of_dumpsItems items htexts⟩
    | other => cases h
  | other => cases h
  | _ => trivial
termination_by structural v

theorem builtIn_of_dumpsMembers (items : List (Key × Payload)) {members : List (Text × Text)}
    (h : dumpsMembers items = .ok members) : MembersBuiltIn items := by
  match items with
  | [] => trivial
  | (.other _ _, _) :: _ => cases h
  | (.str name, item) :: items =>
    obtain ⟨text, htext, h⟩ := bind_ok h
    obtain ⟨rest, hrest, -⟩ := bind_ok h
    exact ⟨builtIn_of_dumps item htext, builtIn_of_dumpsMembers items hrest⟩
termination_by structural items

theorem builtIn_of_dumpsItems (items : List Payload) {texts : List Text}
    (h : dumpsItems items = .ok texts) : ItemsBuiltIn items := by
  match items with
  | [] => trivial
  | item :: items =>
    obtain ⟨text, htext, h⟩ := bind_ok h
    obtain ⟨rest, hrest, -⟩ := bind_ok h
    exact ⟨builtIn_of_dumps item htext, builtIn_of_dumpsItems items hrest⟩
termination_by structural items

end

theorem renderEntries_sort (es : List (Text × JsonValue)) :
    renderEntries (sortEntries es) = sortEntries (renderEntries es) := by
  rw [renderEntries_eq, renderEntries_eq]
  exact List.map_insertionSort _ _ _ es fun a _ b _ => Iff.rfl

mutual

theorem dumps_passed (d : ℕ) (v : Payload) (h : Passed d v) (hbuilt : v.BuiltIn) :
    dumps v = .ok (render v.plain.sorted) := by
  cases v with
  | none | bool | str => rfl
  | int value =>
    rw [Passed] at h
    rw [dumps, if_pos h]
    rfl
  | float value =>
    obtain ⟨shown, hshown, rfl⟩ := h
    rfl
  | mapping cls items =>
    obtain ⟨rfl, hmembers⟩ := hbuilt
    have hdumps := dumpsMembers_passed (d + 1) items h.2 hmembers
    rw [dumps, hdumps, ok_bind, plain, JsonValue.sorted, render, renderEntries_sort]
    rfl
  | sequence cls items =>
    have hdumps := dumpsItems_passed (d + 1) items h.2 hbuilt.2
    rcases hbuilt.1 with rfl | rfl
    · rw [dumps, hdumps]
      rfl
    · rw [dumps, hdumps]
      rfl
  | other => exact h.elim
termination_by structural v

theorem dumpsMembers_passed (d : ℕ) (items : List (Key × Payload)) (h : MembersPassed d items)
    (hbuilt : MembersBuiltIn items) : dumpsMembers items =
      .ok (renderEntries (JsonValue.sortedEntries (plainMembers items))) := by
  match items with
  | [] => rfl
  | (key, item) :: items =>
    obtain ⟨⟨name, rfl⟩, hitem, hrest⟩ := h
    rw [dumpsMembers, dumps_passed d item hitem hbuilt.1, ok_bind,
      dumpsMembers_passed d items hrest hbuilt.2]
    rfl
termination_by structural items

theorem dumpsItems_passed (d : ℕ) (items : List Payload) (h : ItemsPassed d items)
    (hbuilt : ItemsBuiltIn items) :
    dumpsItems items = .ok (renderItems (JsonValue.sortedItems (plainItems items))) := by
  match items with
  | [] => rfl
  | item :: items =>
    rw [dumpsItems, dumps_passed d item h.1 hbuilt.1, ok_bind,
      dumpsItems_passed d items h.2 hbuilt.2]
    rfl
termination_by structural items

end

/-- The canonical text is that of the sorted projection, and there is none of another class. -/
theorem canonicalJsonText_iff {v : Payload} {context text : Text} :
    canonicalJsonText repr v context = .ok text ↔
      ensureJsonSafe repr maxJsonDepth context v = .ok v ∧ v.BuiltIn ∧
        text = render v.plain.sorted := by
  rw [canonicalJsonText]
  cases hsafe : ensureJsonSafe repr maxJsonDepth context v with
  | error e => simp
  | ok w =>
    obtain rfl : w = v := by
      obtain ⟨_, -, h⟩ := bind_ok hsafe
      exact (pure_ok h).symm
    have hpassed := passed_of_ensureJsonSafe hsafe
    constructor
    · intro h
      cases hdumps : dumps w with
      | ok t =>
        have hbuilt := builtIn_of_dumps w hdumps
        rw [dumps_passed 0 w hpassed hbuilt] at hdumps h
        exact ⟨rfl, hbuilt, (Except.ok.inj h).symm⟩
      | error e =>
        rw [hdumps] at h
        cases e <;> cases h
    · rintro ⟨-, hbuilt, rfl⟩
      rw [dumps_passed 0 w hpassed hbuilt]

end Encoding

variable {repr : Text → Text} {context : Text} {v : Payload}

section Canonical

/-- The payload has a text, which is read as its projection, and it has the text of another payload
exactly when their projections are the same value. -/
def Canonical (repr : Text → Text) (context : Text) (v : Payload) : Prop :=
  ∃ text x, canonicalJsonText repr v context = .ok text ∧ toJson repr v = .ok x ∧
    (∃ (tree : Json) (y : JsonValue), Denotes text tree ∧
      load maxJsonIntegerDigits tree = some y.decimals ∧ y.Same x) ∧
    ∀ w context' text', canonicalJsonText repr w context' = .ok text' →
      (text = text' ↔ ∃ y, toJson repr w = .ok y ∧ x.Same y)

theorem render_sorted_iff {x y : JsonValue} (hx : x.IsJson) (hy : y.IsJson) (hkeys : x.KeyedOnce) :
    render x.sorted = render y.sorted ↔ y.KeyedOnce ∧ x.Same y := by
  constructor
  · intro h
    have hsorted : x.sorted = y.sorted := render_injective
      ((JsonValue.isJson_sorted x).mpr hx) ((JsonValue.isJson_sorted y).mpr hy) h
    have hkeys' : y.KeyedOnce := by
      rw [← JsonValue.keyedOnce_sorted, ← hsorted, JsonValue.keyedOnce_sorted]
      exact hkeys
    exact ⟨hkeys', (JsonValue.same_iff x hkeys hkeys').mpr hsorted⟩
  · rintro ⟨hkeys', hsame⟩
    rw [(JsonValue.same_iff x hkeys hkeys').mp hsame]

/-- Exactly the payloads in built-in containers without repeated names are encoded as they are
taken to be. -/
theorem canonical_iff (repr : Text → Text) (context : Text) (v : Payload)
    (haccepted : ensureJsonSafe repr maxJsonDepth context v = .ok v) :
    Canonical repr context v ↔ v.BuiltIn ∧ v.DistinctKeys := by
  have hpassed := passed_of_ensureJsonSafe haccepted
  constructor
  · rintro ⟨text, x, htext, hx, -, -⟩
    exact ⟨(canonicalJsonText_iff.mp htext).2.1, ((toJson_iff hpassed).mp hx).2⟩
  · rintro ⟨hbuilt, hdistinct⟩
    obtain ⟨hjson, hshort⟩ := isJson_plain 0 v hpassed
    have hkeys : v.plain.KeyedOnce := (keyedOnce_plain v).mpr hdistinct
    refine ⟨render v.plain.sorted, v.plain, canonicalJsonText_iff.mpr ⟨haccepted, hbuilt, rfl⟩,
      (toJson_iff hpassed).mpr ⟨rfl, hdistinct⟩, ?_, ?_⟩
    · refine ⟨tree v.plain.sorted, v.plain.sorted,
        denotes_render ((JsonValue.isJson_sorted _).mpr hjson), ?_, JsonValue.same_sorted hkeys⟩
      exact load_tree (by decide) _ ((JsonValue.isJson_sorted _).mpr hjson)
        ((JsonValue.keyedOnce_sorted _).mpr hkeys) ((JsonValue.short_sorted _).mpr hshort)
    · intro w context' text' hw
      obtain ⟨hsafe, hbuilt', rfl⟩ := canonicalJsonText_iff.mp hw
      have hpassed' := passed_of_ensureJsonSafe hsafe
      rw [render_sorted_iff hjson (isJson_plain 0 w hpassed').1 hkeys]
      constructor
      · rintro ⟨hkeys', hsame⟩
        exact ⟨w.plain, (toJson_iff hpassed').mpr ⟨rfl, (keyedOnce_plain w).mp hkeys'⟩, hsame⟩
      · rintro ⟨y, hy, hsame⟩
        obtain ⟨rfl, hdistinct'⟩ := (toJson_iff hpassed').mp hy
        exact ⟨(keyedOnce_plain w).mpr hdistinct', hsame⟩

/-- A list of a dictionary. -/
def listed : Payload := .sequence .list [.mapping .dict [(.str [0x61], .none)]]

theorem listed_accepted : ensureJsonSafe id maxJsonDepth [] listed = .ok listed := rfl

theorem listed_canonical : Canonical id [] listed ↔ listed.BuiltIn ∧ listed.DistinctKeys :=
  canonical_iff id [] listed listed_accepted

/-- A read-only view of a dictionary. -/
def viewed : Payload :=
  .mapping (.other (Text.ofString "mappingproxy")) [(.str [0x61], .none)]

/-- The walk accepts the view, and the encoder raises on it. -/
theorem viewed_raises : ensureJsonSafe id maxJsonDepth [] viewed = .ok viewed ∧
    canonicalJsonText id viewed [] =
      .error (.raised (.typeError (Text.ofString "mappingproxy"))) ∧
    ¬Canonical id [] viewed := by
  refine ⟨rfl, rfl, ?_⟩
  rintro ⟨text, x, htext, -⟩
  cases htext

end Canonical

end OperateBench.JsonSafety.Payload
