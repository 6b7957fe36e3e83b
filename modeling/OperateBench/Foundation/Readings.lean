import Mathlib.Algebra.Ring.Int.Defs
import Mathlib.Algebra.Ring.Nat
import Mathlib.Data.List.Basic

/-! # Texts that end themselves

A text stands for a value in a way that it is read back wherever what comes behind it begins in an
allowed way. Runs of items, closed or separated, are read back item by item.
-/

namespace Foundation

variable {α β σ : Type*} {f : α → List σ} {g : β → List σ} {K L : List σ → Prop} {P : α → Prop}
  {Q : β → Prop} {a : α} {as : List α} {s t : List σ}

/-- The text of this value is the text of no other one, whatever follows. -/
def Reads (f : α → List σ) (K : List σ → Prop) (P : α → Prop) (a : α) : Prop :=
  ∀ b, P b → ∀ s t, K s → K t → f a ++ s = f b ++ t → a = b ∧ s = t

/-- A text of one class of characters ends before the first other one. -/
theorem append_inj_of_class {p : σ → Prop} {x y : List σ} (hx : ∀ c ∈ x, p c) (hy : ∀ c ∈ y, p c)
    (hs : ∀ c ∈ s.head?, ¬p c) (ht : ∀ c ∈ t.head?, ¬p c) (h : x ++ s = y ++ t) :
    x = y ∧ s = t := by
  induction x generalizing y with
  | nil => cases y with
    | nil => exact ⟨rfl, h⟩
    | cons d y =>
      obtain rfl : s = d :: (y ++ t) := h
      exact absurd (hy d List.mem_cons_self) (hs d rfl)
  | cons c x ih => cases y with
    | nil =>
      obtain rfl : c :: (x ++ s) = t := h
      exact absurd (hx c List.mem_cons_self) (ht c rfl)
    | cons d y =>
      obtain ⟨rfl, hrest⟩ := List.cons.inj h
      obtain ⟨rfl, rfl⟩ := ih (y := y) (fun c hc => hx c (List.mem_cons_of_mem _ hc))
        (fun c hc => hy c (List.mem_cons_of_mem _ hc)) hrest
      exact ⟨rfl, rfl⟩

theorem Reads.of_class {p : σ → Prop} (hf : ∀ b, P b → f a = f b → a = b)
    (hclass : ∀ b, P b → ∀ c ∈ f b, p c) (ha : P a) (hK : ∀ s, K s → ∀ c ∈ s.head?, ¬p c) :
    Reads f K P a := by
  intro b hb s t hs ht h
  obtain ⟨heq, rfl⟩ := append_inj_of_class (hclass a ha) (hclass b hb) (hK s hs) (hK t ht) h
  exact ⟨hf b hb heq, rfl⟩

/-- A pair is read one component after the other. -/
theorem Reads.pair {b : β} {sep : List σ} (ha : Reads f K P a) (hb : Reads g L Q b)
    (hK : ∀ b s, K (sep ++ (g b ++ s))) :
    Reads (fun e : α × β => f e.1 ++ (sep ++ g e.2)) L (fun e => P e.1 ∧ Q e.2) (a, b) := by
  rintro ⟨a', b'⟩ ⟨ha', hb'⟩ s t hs ht h
  simp only [List.append_assoc] at h
  obtain ⟨rfl, hrest⟩ := ha a' ha' _ _ (hK b s) (hK b' t) h
  obtain ⟨rfl, rfl⟩ := hb b' hb' s t hs ht (List.append_cancel_left hrest)
  exact ⟨rfl, rfl⟩

theorem Reads.behind (ha : Reads f K P a) (x : List σ) : Reads (fun a => x ++ f a) K P a := by
  intro b hb s t hs ht h
  simp only [List.append_assoc] at h
  exact ha b hb s t hs ht (List.append_cancel_left h)

/-- A sequence of nonempty texts that end themselves is read back item by item. -/
theorem reads_all {bs : List α} (hread : ∀ a ∈ as, Reads f (fun _ => True) P a)
    (hne : ∀ b, P b → f b ≠ []) (has : ∀ a ∈ as, P a) (hbs : ∀ b ∈ bs, P b)
    (h : as.flatMap f = bs.flatMap f) : as = bs := by
  induction as generalizing bs with
  | nil => cases bs with
    | nil => rfl
    | cons b bs =>
      rw [List.flatMap_cons, List.flatMap_nil] at h
      exact absurd (List.append_eq_nil_iff.mp h.symm).1 (hne b (hbs b List.mem_cons_self))
  | cons a as ih => cases bs with
    | nil =>
      rw [List.flatMap_cons, List.flatMap_nil] at h
      exact absurd (List.append_eq_nil_iff.mp h).1 (hne a (has a List.mem_cons_self))
    | cons b bs =>
      obtain ⟨-, has⟩ := List.forall_mem_cons.mp has
      obtain ⟨hb, hrest⟩ := List.forall_mem_cons.mp hbs
      obtain ⟨hreada, hread⟩ := List.forall_mem_cons.mp hread
      rw [List.flatMap_cons, List.flatMap_cons] at h
      obtain ⟨rfl, htail⟩ := hreada b hb _ _ trivial trivial h
      rw [ih hread has hrest htail]

section Runs

/-- The text of an item begins, and with another character than this. -/
def Opens (close : σ) (x : List σ) : Prop := ∃ c r, x = c :: r ∧ c ≠ close

variable {close : σ}

/-- A run of items up to a mark with which no item begins. -/
theorem reads_run (hread : ∀ a ∈ as, Reads f K P a) (hopens : ∀ b, P b → Opens close (f b))
    (has : ∀ a ∈ as, P a) (hitem : ∀ b, P b → ∀ s, K (f b ++ s)) (hclose : ∀ s, K (close :: s)) :
    Reads (fun as => as.flatMap f ++ [close]) (fun _ => True) (fun bs => ∀ b ∈ bs, P b) as := by
  have hrun {bs : List α} (hbs : ∀ b ∈ bs, P b) (s : List σ) : K (bs.flatMap f ++ close :: s) := by
    cases bs with
    | nil => exact hclose s
    | cons b bs =>
      rw [List.flatMap_cons, List.append_assoc]
      exact hitem b (hbs b List.mem_cons_self) _
  induction as with
  | nil =>
    rintro (_ | ⟨b, bs⟩) hbs s t - - h
    · exact ⟨rfl, (List.cons.inj h).2⟩
    · obtain ⟨c, r, hb, hc⟩ := hopens b (hbs b List.mem_cons_self)
      simp only [List.flatMap_cons, hb, List.cons_append, List.flatMap_nil, List.nil_append] at h
      exact absurd (List.cons.inj h).1.symm hc
  | cons a as ih =>
    rintro (_ | ⟨b, bs⟩) hbs s t - - h
    · obtain ⟨c, r, ha, hc⟩ := hopens a (has a List.mem_cons_self)
      simp only [List.flatMap_cons, ha, List.cons_append, List.flatMap_nil, List.nil_append] at h
      exact absurd (List.cons.inj h).1 hc
    · obtain ⟨ha, has⟩ := List.forall_mem_cons.mp has
      obtain ⟨hb, hrest⟩ := List.forall_mem_cons.mp hbs
      obtain ⟨hreada, hread⟩ := List.forall_mem_cons.mp hread
      simp only [List.flatMap_cons, List.append_assoc, List.singleton_append] at h
      obtain ⟨rfl, h⟩ := hreada b hb _ _ (hrun has s) (hrun hrest t) h
      obtain ⟨rfl, rfl⟩ := ih hread has bs hrest s t trivial trivial (by simpa using h)
      exact ⟨rfl, rfl⟩

/-- Items with a separator between them. -/
def separated (sep : List σ) (f : α → List σ) : List α → List σ
  | [] => []
  | a :: as => f a ++ as.flatMap fun a => sep ++ f a

theorem reads_separated {sep : List σ} (hread : ∀ a ∈ as, Reads f K P a) (has : ∀ a ∈ as, P a)
    (hopens : ∀ b, P b → Opens close (f b)) (hsep : Opens close sep) (hitem : ∀ s, K (sep ++ s))
    (hclose : ∀ s, K (close :: s)) :
    Reads (fun as => separated sep f as ++ [close]) (fun _ => True) (fun bs => ∀ b ∈ bs, P b)
      as := by
  have hnext (b : α) : Opens close (sep ++ f b) := by
    obtain ⟨c, r, rfl, hc⟩ := hsep
    exact ⟨c, r ++ f b, rfl, hc⟩
  have hrun (bs : List α) (s : List σ) : K ((bs.flatMap fun a => sep ++ f a) ++ close :: s) := by
    cases bs with
    | nil => exact hclose s
    | cons b bs =>
      simp only [List.flatMap_cons, List.append_assoc]
      exact hitem _
  rintro (_ | ⟨b, bs⟩) hbs s t - - h
  · cases as with
    | nil => exact ⟨rfl, (List.cons.inj h).2⟩
    | cons a as =>
      obtain ⟨c, r, ha, hc⟩ := hopens a (has a List.mem_cons_self)
      simp only [separated, ha, List.cons_append, List.nil_append] at h
      exact absurd (List.cons.inj h).1 hc
  · cases as with
    | nil =>
      obtain ⟨c, r, hb, hc⟩ := hopens b (hbs b List.mem_cons_self)
      simp only [separated, hb, List.cons_append, List.nil_append] at h
      exact absurd (List.cons.inj h).1.symm hc
    | cons a as =>
      obtain ⟨-, has⟩ := List.forall_mem_cons.mp has
      obtain ⟨hb, hrest⟩ := List.forall_mem_cons.mp hbs
      obtain ⟨hreada, hread⟩ := List.forall_mem_cons.mp hread
      simp only [separated, List.append_assoc, List.singleton_append] at h
      obtain ⟨rfl, h⟩ := hreada b hb _ _ (hrun as s) (hrun bs t) h
      obtain ⟨rfl, rfl⟩ := reads_run (fun a ha => (hread a ha).behind sep) (fun b _ => hnext b)
        has (fun b _ s => by simpa only [List.append_assoc] using hitem (f b ++ s)) hclose bs hrest
        s t trivial trivial (by simpa using h)
      exact ⟨rfl, rfl⟩

end Runs

end Foundation
