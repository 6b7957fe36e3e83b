import OperateBench.Core.Retrieval
import OperateBench.Core.Shown
import OperateBench.Foundation.Fallible

/-! # The questions of a retrieval batch

The contract reads a batch as the set of its requests, and accepts batches with the same members
alike. Arguments are compared as `repr` shows them, so that two requests of one tool are one
question where their arguments are the same values down to the order of nested keys.
-/

namespace OperateBench

open Foundation

namespace Value

mutual

/-- The value with the keys of every object in order. -/
def normal : Value → Value
  | list items => list (normalItems items)
  | dict entries => dict ((normalEntries entries).insertionSort fun a b => a.1.text ≤ b.1.text)
  | v => v

def normalItems : List Value → List Value
  | [] => []
  | v :: vs => v.normal :: normalItems vs

def normalEntries : List (Value × Value) → List (Value × Value)
  | [] => []
  | (k, v) :: es => (k, v.normal) :: normalEntries es

end

/-- Equality of JSON values, whatever the order of the keys of their objects. -/
def SameJson (v w : Value) : Prop := v.normal = w.normal

theorem normalEntries_eq (es : List (Value × Value)) :
    normalEntries es = es.map fun e => (e.1, e.2.normal) := by
  induction es with
  | nil => rfl
  | cons e es ih => rw [normalEntries, ih, List.map_cons]

mutual

theorem renderable_of_isJson (v : Value) (hv : v.isJson) : v.renderable := by
  cases v with
  | int i => exact hv
  | list items => exact itemsRenderable_of_isJson items hv
  | dict entries => exact entriesRenderable_of_isJson entries hv
  | tuple _ | other _ => cases hv
  | _ => rfl

theorem itemsRenderable_of_isJson (vs : List Value) (hvs : itemsJson vs) : itemsRenderable vs := by
  cases vs with
  | nil => rfl
  | cons v vs =>
    rw [itemsJson, Bool.and_eq_true] at hvs
    rw [itemsRenderable, Bool.and_eq_true]
    exact ⟨renderable_of_isJson v hvs.1, itemsRenderable_of_isJson vs hvs.2⟩

theorem entriesRenderable_of_isJson (es : List (Value × Value)) (hes : entriesJson es) :
    entriesRenderable es := by
  cases es with
  | nil => rfl
  | cons e es =>
    obtain ⟨k, v⟩ := e
    rw [entriesJson, Bool.and_eq_true, Bool.and_eq_true] at hes
    rw [entriesRenderable, Bool.and_eq_true, Bool.and_eq_true]
    exact ⟨⟨renderable_of_isJson k (isJson_of_asStr hes.1.1), renderable_of_isJson v hes.1.2⟩,
      entriesRenderable_of_isJson es hes.2⟩

end

end Value

/-- Lists with the same members are sorted alike by name where different members have different
names. -/
theorem insertionSort_eq_iff {α : Type} {name : α → String} {as bs : List α}
    (has : (as.map name).Nodup) : as.insertionSort (fun a b => name a ≤ name b) =
      bs.insertionSort (fun a b => name a ≤ name b) ↔ as.Perm bs := by
  have hsorted := List.perm_insertionSort fun a b : α => name a ≤ name b
  constructor
  · intro h
    have hmid := hsorted bs
    rw [← h] at hmid
    exact (hsorted as).symm.trans hmid
  · intro h
    have hperm := (hsorted as).trans (h.trans (hsorted bs).symm)
    have hpairwise := List.pairwise_insertionSort fun a b : α => name a ≤ name b
    apply hperm.eq_of_pairwise _ (hpairwise as) (hpairwise bs)
    intro a b ha hb hle hge
    apply List.inj_on_of_nodup_map has ((hsorted as).subset ha)
    · exact h.symm.subset ((hsorted bs).subset hb)
    · exact Std.le_antisymm hle hge

/-- Lists with the same names are related where members with the same name are. -/
theorem forall₂_of_map_eq {α : Type} {name : α → String} {R : α → α → Prop} {as bs : List α}
    (h : as.map name = bs.map name) (hR : ∀ a ∈ as, ∀ b ∈ bs, name a = name b → R a b) :
    List.Forall₂ R as bs := by
  induction as generalizing bs with
  | nil =>
    obtain rfl := List.map_eq_nil_iff.mp h.symm
    exact .nil
  | cons a as ih => cases bs with
    | nil => cases h
    | cons b bs =>
      obtain ⟨hhead, htail⟩ := List.cons.inj h
      constructor
      · exact hR a List.mem_cons_self b List.mem_cons_self hhead
      · apply ih htail
        intro a ha b hb
        exact hR a (List.mem_cons_of_mem _ ha) b (List.mem_cons_of_mem _ hb)

namespace Batch

/-- The arguments of the request are JSON values. -/
def Plain (r : RetrievalRequest) : Prop := ∀ e ∈ r.arguments.entries, e.2.isJson = true

/-- The requests ask one question: they name one tool with one identity of arguments. -/
def OneQuestion (r s : RetrievalRequest) : Prop :=
  r.tool = s.tool ∧ argumentKey r = argumentKey s

/-- The arguments are the same values, down to the order of nested keys. -/
def Alike (r s : RetrievalRequest) : Prop := ∀ name, r.arguments.get? name = s.arguments.get? name

def SameArguments (r s : RetrievalRequest) : Prop :=
  Value.SameJson r.arguments.asDict s.arguments.asDict

section Arguments

variable {r s : RetrievalRequest}

def shownKey (r : RetrievalRequest) : ArgumentKey :=
  (r.arguments.entries.map fun e => (e.1, e.2.repr)).insertionSort fun a b => a.1 ≤ b.1

theorem argumentKey_eq (hr : Plain r) : argumentKey r = .ok (shownKey r) := by
  have hshown : ∀ fields : List (String × Value), (∀ e ∈ fields, e.2.isJson = true) →
      shownArguments fields = .ok (fields.map fun e => (e.1, e.2.repr)) := by
    intro fields hfields
    induction fields with
    | nil => rfl
    | cons e fields ih =>
      obtain ⟨he, hrest⟩ := List.forall_mem_cons.mp hfields
      rw [shownArguments, Value.reprText, if_pos (Value.renderable_of_isJson e.2 he), ih hrest]
      rfl
  rw [argumentKey, hshown _ hr]
  rfl

theorem alike_iff_perm : Alike r s ↔ r.arguments.entries.Perm s.arguments.entries := by
  rw [List.perm_ext_iff_of_nodup (.of_map _ r.arguments.nodup) (.of_map _ s.arguments.nodup)]
  constructor
  · rintro h ⟨name, value⟩
    rw [← Dict.findEntry_eq_some r.arguments.nodup, ← Dict.findEntry_eq_some s.arguments.nodup]
    exact iff_of_eq (congrArg (· = some value) (h name))
  · intro h name
    ext value
    rw [Dict.get?_eq_some_iff, Dict.get?_eq_some_iff]
    exact h (name, value)

theorem alike_iff_shownKey (hr : Plain r) (hs : Plain s) : Alike r s ↔ shownKey r = shownKey s := by
  have hnodup : ((r.arguments.entries.map fun e => (e.1, e.2.repr)).map Prod.fst).Nodup := by
    rw [List.map_map]
    exact r.arguments.nodup
  rw [shownKey, shownKey, insertionSort_eq_iff hnodup, alike_iff_perm]
  constructor
  · exact List.Perm.map _
  · intro h
    rw [List.perm_ext_iff_of_nodup (.of_map _ r.arguments.nodup) (.of_map _ s.arguments.nodup)]
    have hmem {t u : RetrievalRequest} (ht : Plain t) (hu : Plain u)
        (hsub : ∀ x ∈ t.arguments.entries.map (fun e => (e.1, e.2.repr)),
          x ∈ u.arguments.entries.map fun e => (e.1, e.2.repr)) :
        ∀ e ∈ t.arguments.entries, e ∈ u.arguments.entries := by
      rintro ⟨name, value⟩ he
      obtain ⟨⟨name', value'⟩, he', heq⟩ := List.mem_map.mp (hsub _ (List.mem_map_of_mem he))
      obtain ⟨hname, hvalue⟩ := Prod.mk.inj heq
      obtain rfl := Value.repr_injective (hu _ he') (ht _ he) hvalue
      obtain rfl : name' = name := hname
      exact he'
    intro e
    exact ⟨hmem hr hs (fun x hx => h.subset hx) e, hmem hs hr (fun x hx => h.symm.subset hx) e⟩

theorem oneQuestion_iff (hr : Plain r) (hs : Plain s) :
    OneQuestion r s ↔ r.tool = s.tool ∧ Alike r s := by
  rw [OneQuestion, argumentKey_eq hr, argumentKey_eq hs, alike_iff_shownKey hr hs, Except.ok.injEq]

theorem Alike.same (h : Alike r s) : SameArguments r s := by
  have hnodup (r : RetrievalRequest) : ((Value.normalEntries
      (r.arguments.entries.map fun e => (.str e.1, e.2))).map fun e => e.1.text).Nodup := by
    rw [Value.normalEntries_eq, List.map_map, List.map_map]
    exact r.arguments.nodup
  rw [SameArguments, Value.SameJson, Fields.asDict, Fields.asDict, Value.ofFields, Value.ofFields,
    Value.normal, Value.normal]
  apply congrArg Value.dict
  rw [insertionSort_eq_iff (hnodup r), Value.normalEntries_eq, Value.normalEntries_eq]
  exact ((alike_iff_perm.mp h).map _).map _

end Arguments

section Reading

variable {raw : RawRequest} {raws : List RawRequest} {r : RetrievalRequest}
  {rs : List RetrievalRequest} {p q : ℕ} {e : Unserved}

/-- Whatever is a mapping among the arguments of these requests maps to JSON values. -/
def JsonArguments : RawRequest → Prop
  | .request _ (.dict entries) => ∀ e ∈ entries, e.2.isJson = true
  | _ => True

/-- The request that a member of a batch is read as. -/
def Asks (raw : RawRequest) (r : RetrievalRequest) : Prop := readRequest 0 raw = .ok r

/-- What a member has to be, wherever it stands in the batch. -/
theorem readRequest_ok_iff : readRequest p raw = .ok r ↔ ∃ name entries fields,
    raw = .request (.str name) (.dict entries) ∧ name ≠ "" ∧
      argumentNames entries = some fields ∧ r = ⟨name, .ofList fields⟩ := by
  constructor
  · intro h
    unfold readRequest at h
    split at h
    · cases h
    · rename_i tool arguments
      split at h
      · cases h
      · rename_i name htool
        split at h
        · cases h
        · rename_i hname
          split at h
          · rename_i entries
            split at h
            · rename_i fields hfields
              obtain rfl : tool = .str name := by
                cases tool with
                | str s => exact congrArg Value.str (Option.some.inj htool)
                | _ => cases htool
              exact ⟨name, entries, fields, rfl, hname, hfields, (Except.ok.inj h).symm⟩
            · cases h
          · cases h
  · rintro ⟨name, entries, fields, rfl, hname, hfields, rfl⟩
    simp only [readRequest, Value.asStr?]
    rw [if_neg hname, hfields]

theorem asks_iff : Asks raw r ↔ readRequest p raw = .ok r := by
  rw [Asks, readRequest_ok_iff, readRequest_ok_iff]

theorem readRequest_error (h : readRequest p raw = .error e) :
    ∃ detail, e = .refused "MALFORMED_RETRIEVAL_REQUEST" detail := by
  unfold readRequest malformed at h
  repeat' split at h
  all_goals cases h
  all_goals exact ⟨_, rfl⟩

theorem argumentNames_values {entries : List (Value × Value)} {fields : List (String × Value)}
    (h : argumentNames entries = some fields) : ∀ f ∈ fields, ∃ e ∈ entries, e.2 = f.2 := by
  induction entries generalizing fields with
  | nil =>
    obtain rfl := Option.some.inj h
    nofun
  | cons entry entries ih =>
    obtain ⟨key, value⟩ := entry
    rw [argumentNames] at h
    split at h
    · split at h
      · cases h
      · obtain ⟨rest, hrest, rfl⟩ := Option.map_eq_some_iff.mp h
        rw [List.forall_mem_cons]
        constructor
        · exact ⟨_, List.mem_cons_self, rfl⟩
        · intro f hf
          obtain ⟨e, he, heq⟩ := ih hrest f hf
          exact ⟨e, List.mem_cons_of_mem _ he, heq⟩
    · cases h

theorem Asks.plain (h : Asks raw r) (hjson : JsonArguments raw) : Plain r := by
  obtain ⟨name, entries, fields, rfl, -, hfields, rfl⟩ := readRequest_ok_iff.mp h
  rintro ⟨name', value⟩ he
  obtain ⟨e, hmem, rfl⟩ := argumentNames_values hfields _ (Dict.mem_of_ofList he)
  exact hjson e hmem

theorem readRequests_ok (h : readRequests p raws = .ok rs) :
    (∀ raw ∈ raws, ∃ r, Asks raw r) ∧ ∀ r, r ∈ rs ↔ ∃ raw ∈ raws, Asks raw r := by
  induction raws generalizing p rs with
  | nil =>
    obtain rfl := Except.ok.inj h
    simp
  | cons raw raws ih =>
    rw [readRequests] at h
    obtain ⟨first, hfirst, h⟩ := bind_ok h
    obtain ⟨rest, hrest, h⟩ := bind_ok h
    obtain rfl := pure_ok h
    obtain ⟨hall, hmem⟩ := ih hrest
    have hasks := asks_iff.mpr hfirst
    have honly (r : RetrievalRequest) : Asks raw r ↔ r = first := by
      rw [Asks, hasks, Except.ok.injEq, eq_comm]
    constructor
    · exact List.forall_mem_cons.mpr ⟨⟨first, hasks⟩, hall⟩
    · intro r
      simp [hmem, honly]

theorem readRequests_plain (h : readRequests p raws = .ok rs)
    (hjson : ∀ raw ∈ raws, JsonArguments raw) : ∀ r ∈ rs, Plain r := by
  intro r hr
  obtain ⟨raw, hraw, hasks⟩ := ((readRequests_ok h).2 r).mp hr
  exact hasks.plain (hjson raw hraw)

/-- Batches with the same members are read into the same requests. -/
theorem readRequests_congr {others : List RawRequest} {ss : List RetrievalRequest}
    (hrs : readRequests p raws = .ok rs) (hss : readRequests q others = .ok ss)
    (h : ∀ raw, raw ∈ raws ↔ raw ∈ others) (r : RetrievalRequest) : r ∈ rs ↔ r ∈ ss := by
  rw [(readRequests_ok hrs).2, (readRequests_ok hss).2]
  simp only [h]

theorem readRequests_error (h : readRequests p raws = .error e) :
    (∃ raw ∈ raws, ∀ r, ¬Asks raw r) ∧
      ∃ detail, e = .refused "MALFORMED_RETRIEVAL_REQUEST" detail := by
  induction raws generalizing p with
  | nil => cases h
  | cons raw raws ih =>
    rw [readRequests] at h
    cases hfirst : readRequest p raw with
    | error e' =>
      rw [hfirst] at h
      obtain rfl : e' = e := Except.error.inj h
      refine ⟨⟨raw, List.mem_cons_self, ?_⟩, readRequest_error hfirst⟩
      intro r hr
      rw [asks_iff (p := p), hfirst] at hr
      cases hr
    | ok first =>
      rw [hfirst, ok_bind] at h
      cases hrest : readRequests (p + 1) raws with
      | ok rest => rw [hrest] at h; cases h
      | error e' =>
        rw [hrest] at h
        obtain rfl : e' = e := Except.error.inj h
        obtain ⟨⟨raw', hraw', hnone⟩, hdetail⟩ := ih hrest
        exact ⟨⟨raw', List.mem_cons_of_mem _ hraw', hnone⟩, hdetail⟩

end Reading

end Batch

end OperateBench
