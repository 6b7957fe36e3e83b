import OperateBench.Foundation.Dict

/-! # Registries

A registry is a dictionary of records that is keyed by the records' own identity.
Recording a record under the identity it carries is the only way to write, so a
record is found under its own identity and under no other key.
-/

namespace Foundation

variable {κ α : Type*} {ident : α → κ}

structure Registry (ident : α → κ) where
  dict : Dict κ α
  keyed : ∀ e ∈ dict.entries, ident e.2 = e.1

namespace Registry

def empty : Registry ident := ⟨Dict.empty, by simp [Dict.empty]⟩

instance : Inhabited (Registry ident) := ⟨empty⟩

def keys (r : Registry ident) : List κ := r.dict.keys

def values (r : Registry ident) : List α := r.dict.values

def size (r : Registry ident) : ℕ := r.dict.size

variable [DecidableEq κ]

def get? (r : Registry ident) (k : κ) : Option α := r.dict.get? k

def contains (r : Registry ident) (k : κ) : Bool := r.dict.contains k

/-- File the record under its identity, in place of the one that is there, if any. -/
def put (r : Registry ident) (a : α) : Registry ident where
  dict := r.dict.set (ident a) a
  keyed e he := by
    have h : (r.dict.set (ident a) a).get? e.1 = some e.2 := Dict.get?_eq_some_iff.mpr he
    rw [Dict.get?_set] at h
    split at h
    · rename_i hk
      exact Option.some.inj h ▸ hk
    · exact r.keyed e (Dict.get?_eq_some_iff.mp h)

/-- File the record unless its identity is taken. -/
def putNew (r : Registry ident) (a : α) : Registry ident :=
  if r.contains (ident a) then r else r.put a

@[simp] theorem get?_empty (k : κ) : (empty : Registry ident).get? k = none := rfl

theorem get?_put (r : Registry ident) (a : α) (k : κ) :
    (r.put a).get? k = if ident a = k then some a else r.get? k :=
  r.dict.get?_set _ _ _

theorem get?_put_self (r : Registry ident) (a : α) : (r.put a).get? (ident a) = some a :=
  r.dict.get?_set_self _ _

theorem get?_put_of_ne (r : Registry ident) {a : α} {k : κ} (h : ident a ≠ k) :
    (r.put a).get? k = r.get? k :=
  r.dict.get?_set_of_ne a h

theorem ident_of_get? {r : Registry ident} {k : κ} {a : α} (h : r.get? k = some a) :
    ident a = k :=
  r.keyed _ (Dict.get?_eq_some_iff.mp h)

theorem get?_ident {r : Registry ident} {k : κ} {a : α} (h : r.get? k = some a) :
    r.get? (ident a) = some a := by
  rw [ident_of_get? h, h]

theorem contains_iff {r : Registry ident} {k : κ} :
    r.contains k = true ↔ ∃ a, r.get? k = some a :=
  Dict.contains_iff

theorem contains_put {r : Registry ident} {a : α} {k : κ} :
    (r.put a).contains k = (decide (ident a = k) || r.contains k) := by
  rw [Bool.eq_iff_iff, Bool.or_eq_true, decide_eq_true_iff, contains_iff, get?_put]
  split
  · exact ⟨fun _ => Or.inl ‹_›, fun _ => ⟨a, rfl⟩⟩
  · rw [contains_iff]
    exact ⟨Or.inr, fun h => h.resolve_left ‹_›⟩

theorem contains_put_self {r : Registry ident} {a : α} {k : κ} (h : ident a = k) :
    (r.put a).contains k = true := by
  rw [contains_put, decide_eq_true h, Bool.true_or]

theorem get?_eq_none_iff {r : Registry ident} {k : κ} :
    r.get? k = none ↔ r.contains k = false := by
  simp [contains, Dict.contains, get?]

theorem mem_values_iff {r : Registry ident} {a : α} :
    a ∈ r.values ↔ r.get? (ident a) = some a := by
  rw [values, Dict.mem_values_iff]
  exact ⟨fun ⟨_, h⟩ => get?_ident h, fun h => ⟨_, h⟩⟩

theorem size_put (r : Registry ident) (a : α) :
    (r.put a).size = if r.contains (ident a) then r.size else r.size + 1 :=
  r.dict.size_set _ _

theorem mem_put_iff {r : Registry ident} {a b : α} :
    b ∈ (r.put a).values ↔ b = a ∨ ident b ≠ ident a ∧ b ∈ r.values := by
  rw [mem_values_iff, mem_values_iff, get?_put]
  split
  · rename_i h
    exact ⟨fun hb => Or.inl (Option.some.inj hb).symm, fun hb => hb.elim (fun e => e ▸ rfl)
      fun hn => absurd h.symm hn.1⟩
  · rename_i h
    refine ⟨fun hb => Or.inr ⟨fun e => h e.symm, hb⟩, fun hb => hb.elim (fun e => ?_) And.right⟩
    exact absurd (e ▸ rfl) h

theorem mem_put {r : Registry ident} {a b : α} (h : b ∈ (r.put a).values) :
    b = a ∨ b ∈ r.values :=
  (mem_put_iff.mp h).imp_right And.right

theorem mem_put_of_fresh {r : Registry ident} {a b : α} (h : r.get? (ident a) = none)
    (hb : b ∈ r.values) : b ∈ (r.put a).values := by
  refine mem_put_iff.mpr (Or.inr ⟨fun e => ?_, hb⟩)
  rw [← e, mem_values_iff.mp hb] at h
  cases h

/-- What holds of every record still holds after a record it holds of is filed. -/
theorem forall_put {P : α → Prop} {r : Registry ident} {a : α} (h : ∀ b ∈ r.values, P b)
    (ha : P a) : ∀ b ∈ (r.put a).values, P b := fun b hb =>
  (mem_put hb).elim (fun e => e ▸ ha) (h b)

section Few

theorem mem_of_get? {r : Registry ident} {k : κ} {a : α} (h : r.get? k = some a) : a ∈ r.values :=
  mem_values_iff.mpr (get?_ident h)

theorem values_put_of_nil {r : Registry ident} {a : α} (h : r.values = []) :
    (r.put a).values = [a] := by
  have hentries : r.dict.entries = [] := List.map_eq_nil_iff.mp h
  change (Dict.putEntry _ _ r.dict.entries).map Prod.snd = [a]
  rw [hentries]
  rfl

/-- The only record, filed anew. -/
theorem values_put_of_singleton {r : Registry ident} {a b : α} (h : r.values = [a])
    (hi : ident b = ident a) : (r.put b).values = [b] := by
  obtain ⟨e, hentries, rfl⟩ := List.map_eq_singleton_iff.mp h
  change (Dict.putEntry _ _ r.dict.entries).map Prod.snd = [b]
  have hkey : e.1 = ident b := (hi.trans (r.keyed e (hentries ▸ List.mem_singleton_self e))).symm
  rw [hentries, Dict.putEntry, if_pos hkey]
  rfl

theorem get?_eq_none_of_nil {r : Registry ident} (h : r.values = []) (k : κ) : r.get? k = none := by
  by_contra hn
  obtain ⟨a, ha⟩ := Option.ne_none_iff_exists'.mp hn
  exact absurd (h ▸ mem_of_get? ha) List.not_mem_nil

theorem put_ne_nil {r : Registry ident} {a : α} : (r.put a).values ≠ [] :=
  List.ne_nil_of_mem (mem_of_get? (get?_put_self r a))

end Few

/-- Every record of the first registry has a successor along `R` in the second. -/
def Grows (R : α → α → Prop) (r r' : Registry ident) : Prop := Dict.Grows R r.dict r'.dict

section Grows

variable {R : α → α → Prop}

theorem Grows.refl (hR : ∀ a, R a a) (r : Registry ident) : Grows R r r := Dict.Grows.refl hR _

theorem Grows.trans (hR : ∀ a b c, R a b → R b c → R a c) {r₁ r₂ r₃ : Registry ident}
    (h₁ : Grows R r₁ r₂) (h₂ : Grows R r₂ r₃) : Grows R r₁ r₃ :=
  Dict.Grows.trans hR h₁ h₂

/-- Filing a record grows the registry when the record it replaces, if any, moves along `R`. -/
theorem grows_put_iff (hR : ∀ a, R a a) {r : Registry ident} {b : α} :
    Grows R r (r.put b) ↔ ∀ a, r.get? (ident b) = some a → R a b :=
  Dict.grows_set_iff hR

theorem grows_put_fresh (hR : ∀ a, R a a) {r : Registry ident} {b : α}
    (h : r.get? (ident b) = none) : Grows R r (r.put b) :=
  Dict.grows_set_fresh hR h

theorem grows_put_of (hR : ∀ a, R a a) {r : Registry ident} {a b : α} {k : κ}
    (h : r.get? k = some a) (hi : ident b = ident a) (hab : R a b) : Grows R r (r.put b) :=
  Dict.grows_set_of hR (hi ▸ get?_ident h) hab

theorem grows_putNew (hR : ∀ a, R a a) {r : Registry ident} {b : α} : Grows R r (r.putNew b) := by
  unfold putNew
  split
  · exact Grows.refl hR r
  · rename_i h
    exact grows_put_fresh hR (get?_eq_none_iff.mpr (by simpa using h))

end Grows

end Registry

end Foundation
