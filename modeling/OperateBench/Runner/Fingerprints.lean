import OperateBench.Runner.Codes

/-! # Fingerprints determine fresh values

Fingerprints are equal for values of the same types and structure, with the members of mappings
and sets in any order, and for no others.
-/

namespace OperateBench

open Foundation Utf8

namespace Fresh

open FreshValue

section Members

variable {α β : Type} {R : α → β → Prop} {as : List α} {bs before after : List β} {b : β}

theorem forall₂_append_right (h : List.Forall₂ R as (before ++ after)) : ∃ as₁ as₂,
    as = as₁ ++ as₂ ∧ List.Forall₂ R as₁ before ∧ List.Forall₂ R as₂ after := by
  refine ⟨as.take before.length, as.drop before.length, (List.take_append_drop _ as).symm, ?_, ?_⟩
  · exact List.forall₂_take_append _ _ _ h
  · exact List.forall₂_drop_append _ _ _ h

/-- A member of the second list is related to one of the first, and so are the others. -/
theorem forall₂_middle_right (h : List.Forall₂ R as (before ++ b :: after)) : ∃ as₁ a as₂,
    as = as₁ ++ a :: as₂ ∧ R a b ∧ List.Forall₂ R (as₁ ++ as₂) (before ++ after) := by
  obtain ⟨as₁, rest, rfl, hbefore, hrest⟩ := forall₂_append_right h
  obtain ⟨a, as₂, hab, hafter, rfl⟩ := List.forall₂_cons_right_iff.mp hrest
  exact ⟨as₁, a, as₂, rfl, hab, List.rel_append hbefore hafter⟩

theorem codes_iff {vs : List FreshValue} {ps : List (List Byte)} :
    codes vs = some ps ↔ List.Forall₂ (fun v p => code v = some p) vs ps := by
  induction vs generalizing ps with
  | nil => simp [codes, eq_comm]
  | cons v vs ih =>
    rw [codes, Option.bind_eq_some_iff, List.forall₂_cons_left_iff]
    constructor
    · rintro ⟨p, hp, h⟩
      obtain ⟨rest, hrest, rfl⟩ := Option.map_eq_some_iff.mp h
      exact ⟨p, rest, hp, ih.mp hrest, rfl⟩
    · rintro ⟨p, rest, hp, hrest, rfl⟩
      exact ⟨p, hp, Option.map_eq_some_iff.mpr ⟨rest, ih.mpr hrest, rfl⟩⟩

def pairCode (e : FreshValue × FreshValue) : Option (List Byte) :=
  (code e.1).bind fun keyPart => (code e.2).bind fun itemPart =>
    frame (tag 'p') [keyPart, itemPart]

theorem pairCodes_iff {es : List (FreshValue × FreshValue)} {ps : List (List Byte)} :
    pairCodes es = some ps ↔ List.Forall₂ (fun e p => pairCode e = some p) es ps := by
  induction es generalizing ps with
  | nil => simp [pairCodes, eq_comm]
  | cons e es ih =>
    obtain ⟨k, v⟩ := e
    rw [pairCodes, List.forall₂_cons_left_iff]
    simp only [Option.bind_eq_some_iff, Option.map_eq_some_iff, pairCode, ih]
    constructor
    · rintro ⟨keyPart, hkey, itemPart, hitem, pair, hpair, rest, hrest, rfl⟩
      exact ⟨pair, rest, ⟨keyPart, hkey, itemPart, hitem, hpair⟩, hrest, rfl⟩
    · rintro ⟨pair, rest, ⟨keyPart, hkey, itemPart, hitem, hpair⟩, hrest, rfl⟩
      exact ⟨keyPart, hkey, itemPart, hitem, pair, hpair, rest, hrest, rfl⟩

theorem sortBytes_eq_iff {ps qs : List (List Byte)} : sortBytes ps = sortBytes qs ↔ ps.Perm qs := by
  have hsorted := List.perm_insertionSort (α := List Byte) (· ≤ ·)
  constructor
  · intro h
    have hmid := hsorted qs
    rw [show qs.insertionSort (· ≤ ·) = _ from h.symm] at hmid
    exact (hsorted ps).symm.trans hmid
  · intro h
    apply ((hsorted ps).trans (h.trans (hsorted qs).symm)).eq_of_pairwise _
      (List.pairwise_insertionSort _ ps) (List.pairwise_insertionSort _ qs)
    intro p q _ _ hle hge
    exact le_antisymm hle hge

theorem ascii_injective {s t : List Char} (hs : ∀ c ∈ s, c.toNat < 256)
    (ht : ∀ c ∈ t, c.toNat < 256) (h : ascii s = ascii t) : s = t := by
  apply map_inj_of_inj_on _ h
  intro c hc d hd heq
  have hval := congrArg Fin.val heq
  simp only [byte, Fin.ofNat, Nat.mod_eq_of_lt (hs c hc), Nat.mod_eq_of_lt (ht d hd)] at hval
  exact Char.toNat_inj.mp hval

theorem digit_toNat {c : Char} (h : c.isDigit ∨ c = '-') : c.toNat < 256 := by
  rcases h with h | rfl
  · have hle := (Char.isDigit_iff_toNat.mp h).2
    exact hle.trans_lt (by decide)
  · decide

theorem all_toNat {s : List Char} (h : (s.all fun c => c.toNat < 256) = true) :
    ∀ c ∈ s, c.toNat < 256 := fun c hc => of_decide_eq_true (List.all_eq_true.mp h c hc)

theorem hex_toNat (x : Double) : ∀ c ∈ x.hex, c.toNat < 256 := by
  have hsign (negative : Bool) : ∀ c ∈ Double.signText negative, c.toNat < 256 := by
    cases negative <;> exact all_toNat rfl
  have hexponent (n : Int) : ∀ c ∈ Double.exponentText n, c.toNat < 256 := by
    cases n with
    | ofNat m =>
      rw [Double.exponentText, List.forall_mem_cons]
      exact ⟨by decide, fun c hc => digit_toNat (intText_chars (.ofNat m) c hc)⟩
    | negSucc m =>
      intro c hc
      apply digit_toNat (intText_chars (.negSucc m) c _)
      rwa [toList_intText]
  have hdigits (width n : ℕ) :
      ∀ c ∈ (fixedDigits 16 width n).map Nat.digitChar, c.toNat < 256 := by
    have hdigit : ∀ d < 16, (Nat.digitChar d).toNat < 256 := by decide
    intro c hc
    obtain ⟨d, hd, rfl⟩ := List.mem_map.mp hc
    exact hdigit d (mem_fixedDigits (by decide) hd)
  cases x with
  | nan => exact all_toNat rfl
  | infinite negative =>
    rw [Double.hex, List.forall_mem_append]
    exact ⟨hsign negative, all_toNat rfl⟩
  | finite negative e f =>
    have hmagnitude : ∀ c ∈ Double.magnitudeText e f, c.toNat < 256 := by
      unfold Double.magnitudeText
      split
      · exact all_toNat rfl
      · simp only [List.forall_mem_cons, List.forall_mem_append]
        refine ⟨?_, by decide, hdigits 13 f, by decide, hexponent _⟩
        split <;> decide
    simp only [Double.hex, List.forall_mem_append, List.forall_mem_cons]
    exact ⟨hsign negative, by decide, by decide, hmagnitude⟩

end Members

section Injectivity

theorem recordParts_inj {c c' : FreshClass} {ps qs : List (List Byte)}
    (hps : ps.length = c.fields.length) (hqs : qs.length = c'.fields.length)
    (h : recordParts c ps = recordParts c' qs) : c = c' ∧ ps = qs := by
  obtain ⟨hname, hfields⟩ := List.cons.inj h
  obtain rfl : c = c' := by
    have hlength : c.name.toList.length = c'.name.toList.length := by
      simpa only [ascii, List.length_map] using congrArg List.length hname
    revert hlength
    cases c <;> cases c' <;> decide
  refine ⟨rfl, ?_⟩
  clear h
  generalize c.fields = fields at hps hqs hfields
  induction fields generalizing ps qs with
  | nil => rw [List.length_eq_zero_iff.mp hps, List.length_eq_zero_iff.mp hqs]
  | cons field fields ih => cases ps with
    | nil => cases hps
    | cons p ps => cases qs with
      | nil => cases hqs
      | cons q qs =>
        simp only [List.zip_cons_cons, List.flatMap_cons, List.cons_append, List.nil_append,
          List.cons.injEq, true_and] at hfields
        obtain ⟨rfl, hrest⟩ := hfields
        rw [ih (Nat.succ.inj hps) (Nat.succ.inj hqs) hrest]

mutual

/-- Values with one code are the same. -/
theorem same_of_code (v : FreshValue) {w : FreshValue} {b : List Byte} (hv : code v = some b)
    (hw : code w = some b) : Same v w := by
  have hkind := kind_eq hv hw
  cases v with
  | none => cases w with
    | none => rw [Same]; trivial
    | _ => cases hkind
  | bool c => cases w with
    | bool d =>
      have heq := (Option.some.inj hv).trans (Option.some.inj hw).symm
      rw [Same]
      revert heq
      cases c <;> cases d <;> decide
    | _ => cases hkind
  | int m => cases w with
    | int n =>
      have heq := (Option.some.inj hv).trans (Option.some.inj hw).symm
      have hchars (i : Int) : ∀ c ∈ (toString i).toList, c.toNat < 256 :=
        fun c hc => digit_toNat (intText_chars i c hc)
      rw [Same]
      exact intText_injective (String.toList_injective
        (ascii_injective (hchars m) (hchars n) (List.cons.inj heq).2))
    | _ => cases hkind
  | float x => cases w with
    | float y =>
      have heq := (Option.some.inj hv).trans (Option.some.inj hw).symm
      rw [Same]
      exact Double.hex_injective (ascii_injective (hex_toNat x) (hex_toNat y) (List.cons.inj heq).2)
    | _ => cases hkind
  | str s => cases w with
    | str t =>
      obtain ⟨encoded, hs, rfl⟩ := Option.map_eq_some_iff.mp hv
      obtain ⟨encoded', ht, heq⟩ := Option.map_eq_some_iff.mp hw
      obtain rfl := (List.cons.inj heq).2
      rw [Same]
      exact Except.ok.inj ((decode_encode hs).symm.trans (decode_encode ht))
    | _ => cases hkind
  | bytes bs => cases w with
    | bytes cs =>
      have heq := (Option.some.inj hv).trans (Option.some.inj hw).symm
      rw [Same]
      exact (List.cons.inj heq).2
    | _ => cases hkind
  | list vs => cases w with
    | list ws =>
      obtain ⟨ps, hps, hp⟩ := Option.bind_eq_some_iff.mp hv
      obtain ⟨qs, hqs, hq⟩ := Option.bind_eq_some_iff.mp hw
      obtain rfl := (frame_injective hp hq).2
      rw [Same]
      exact sameItems_of_codes vs hps hqs
    | _ => cases hkind
  | tuple vs => cases w with
    | tuple ws =>
      obtain ⟨ps, hps, hp⟩ := Option.bind_eq_some_iff.mp hv
      obtain ⟨qs, hqs, hq⟩ := Option.bind_eq_some_iff.mp hw
      obtain rfl := (frame_injective hp hq).2
      rw [Same]
      exact sameItems_of_codes vs hps hqs
    | _ => cases hkind
  | dict es => cases w with
    | dict fs =>
      obtain ⟨ps, hps, hp⟩ := Option.bind_eq_some_iff.mp hv
      obtain ⟨qs, hqs, hq⟩ := Option.bind_eq_some_iff.mp hw
      rw [Same]
      exact sameEntries_of_codes es hps hqs (sortBytes_eq_iff.mp (frame_injective hp hq).2)
    | _ => cases hkind
  | proxy es => cases w with
    | proxy fs =>
      obtain ⟨ps, hps, hp⟩ := Option.bind_eq_some_iff.mp hv
      obtain ⟨qs, hqs, hq⟩ := Option.bind_eq_some_iff.mp hw
      rw [Same]
      exact sameEntries_of_codes es hps hqs (sortBytes_eq_iff.mp (frame_injective hp hq).2)
    | _ => cases hkind
  | set vs => cases w with
    | set ws =>
      obtain ⟨ps, hps, hp⟩ := Option.bind_eq_some_iff.mp hv
      obtain ⟨qs, hqs, hq⟩ := Option.bind_eq_some_iff.mp hw
      rw [Same]
      exact sameMembers_of_codes vs hps hqs (sortBytes_eq_iff.mp (frame_injective hp hq).2)
    | _ => cases hkind
  | frozenset vs => cases w with
    | frozenset ws =>
      obtain ⟨ps, hps, hp⟩ := Option.bind_eq_some_iff.mp hv
      obtain ⟨qs, hqs, hq⟩ := Option.bind_eq_some_iff.mp hw
      rw [Same]
      exact sameMembers_of_codes vs hps hqs (sortBytes_eq_iff.mp (frame_injective hp hq).2)
    | _ => cases hkind
  | record c vs => cases w with
    | record c' ws =>
      obtain ⟨ps, hps, hp⟩ := Option.bind_eq_some_iff.mp hv
      obtain ⟨qs, hqs, hq⟩ := Option.bind_eq_some_iff.mp hw
      split at hp
      · cases hp
      split at hq
      · cases hq
      rename_i hlength hlength'
      obtain ⟨rfl, rfl⟩ := recordParts_inj (not_not.mp hlength) (not_not.mp hlength')
        (frame_injective hp hq).2
      rw [Same]
      exact ⟨rfl, sameItems_of_codes vs hps hqs⟩
    | _ => cases hkind
  | other _ => cases hv
termination_by structural v

theorem sameItems_of_codes (vs : List FreshValue) {ws : List FreshValue} {ps : List (List Byte)}
    (hvs : codes vs = some ps) (hws : codes ws = some ps) : SameItems vs ws := by
  rw [codes_iff] at hvs hws
  cases vs with
  | nil =>
    obtain rfl := List.forall₂_nil_left_iff.mp hvs
    obtain rfl := List.forall₂_nil_right_iff.mp hws
    rw [SameItems]
    trivial
  | cons v vs =>
    obtain ⟨p, rest, hp, hrest, rfl⟩ := List.forall₂_cons_left_iff.mp hvs
    obtain ⟨w, ws, hw, hrest', rfl⟩ := List.forall₂_cons_right_iff.mp hws
    rw [SameItems]
    exact ⟨same_of_code v hp hw, sameItems_of_codes vs (codes_iff.mpr hrest) (codes_iff.mpr hrest')⟩
termination_by structural vs

theorem sameMembers_of_codes (vs : List FreshValue) {ws : List FreshValue}
    {ps qs : List (List Byte)} (hvs : codes vs = some ps) (hws : codes ws = some qs)
    (hperm : ps.Perm qs) : SameMembers vs ws := by
  rw [codes_iff] at hvs hws
  cases vs with
  | nil =>
    obtain rfl := List.forall₂_nil_left_iff.mp hvs
    obtain rfl := hperm.nil_eq
    rw [SameMembers]
    exact List.forall₂_nil_right_iff.mp hws
  | cons v vs =>
    obtain ⟨p, rest, hp, hrest, rfl⟩ := List.forall₂_cons_left_iff.mp hvs
    obtain ⟨before, after, rfl⟩ := List.append_of_mem (hperm.subset List.mem_cons_self)
    obtain ⟨ws₁, w, ws₂, rfl, hw, hothers⟩ := forall₂_middle_right hws
    have hperm := (hperm.trans List.perm_middle).cons_inv
    rw [SameMembers]
    exact ⟨ws₁, w, ws₂, rfl, same_of_code v hp hw,
      sameMembers_of_codes vs (codes_iff.mpr hrest) (codes_iff.mpr hothers) hperm⟩
termination_by structural vs

theorem sameEntries_of_codes (es : List (FreshValue × FreshValue))
    {fs : List (FreshValue × FreshValue)} {ps qs : List (List Byte)} (hes : pairCodes es = some ps)
    (hfs : pairCodes fs = some qs) (hperm : ps.Perm qs) : SameEntries es fs := by
  rw [pairCodes_iff] at hes hfs
  cases es with
  | nil =>
    obtain rfl := List.forall₂_nil_left_iff.mp hes
    obtain rfl := hperm.nil_eq
    rw [SameEntries]
    exact List.forall₂_nil_right_iff.mp hfs
  | cons e es =>
    obtain ⟨k, v⟩ := e
    obtain ⟨p, rest, hp, hrest, rfl⟩ := List.forall₂_cons_left_iff.mp hes
    obtain ⟨before, after, rfl⟩ := List.append_of_mem (hperm.subset List.mem_cons_self)
    obtain ⟨fs₁, f, fs₂, rfl, hf, hothers⟩ := forall₂_middle_right hfs
    have hperm := (hperm.trans List.perm_middle).cons_inv
    obtain ⟨key, hkey, h⟩ := Option.bind_eq_some_iff.mp hp
    obtain ⟨item, hitem, hframe⟩ := Option.bind_eq_some_iff.mp h
    obtain ⟨key', hkey', h⟩ := Option.bind_eq_some_iff.mp hf
    obtain ⟨item', hitem', hframe'⟩ := Option.bind_eq_some_iff.mp h
    obtain ⟨rfl, hrest'⟩ := List.cons.inj (frame_injective hframe hframe').2
    obtain rfl := List.singleton_inj.mp hrest'
    rw [SameEntries]
    exact ⟨fs₁, f, fs₂, rfl, same_of_code k hkey hkey', same_of_code v hitem hitem',
      sameEntries_of_codes es (pairCodes_iff.mpr hrest) (pairCodes_iff.mpr hothers) hperm⟩
termination_by structural es

end

theorem same_kind {v w : FreshValue} (h : Same v w) : kind v = kind w := by
  unfold Same at h
  split at h
  all_goals first | rfl | cases h

theorem sortBytes_perm {c : Byte} {ps qs : List (List Byte)} (hperm : ps.Perm qs) :
    frame c (sortBytes ps) = frame c (sortBytes qs) := by
  rw [sortBytes_eq_iff.mpr hperm]

mutual

/-- The same values have one code. -/
theorem code_of_same (v : FreshValue) {w : FreshValue} {b c : List Byte} (h : Same v w)
    (hv : code v = some b) (hw : code w = some c) : b = c := by
  have hkind := same_kind h
  cases v with
  | none => cases w with
    | none => exact Option.some.inj (hv.symm.trans hw)
    | _ => cases hkind
  | bool _ | int _ | float _ | str _ | bytes _ =>
    cases w <;> try cases hkind
    rw [Same] at h
    rw [h] at hv
    exact Option.some.inj (hv.symm.trans hw)
  | list vs => cases w with
    | list ws =>
      obtain ⟨ps, hps, hp⟩ := Option.bind_eq_some_iff.mp hv
      obtain ⟨qs, hqs, hq⟩ := Option.bind_eq_some_iff.mp hw
      rw [Same] at h
      rw [codes_of_sameItems vs h hps hqs] at hp
      exact Option.some.inj (hp.symm.trans hq)
    | _ => cases hkind
  | tuple vs => cases w with
    | tuple ws =>
      obtain ⟨ps, hps, hp⟩ := Option.bind_eq_some_iff.mp hv
      obtain ⟨qs, hqs, hq⟩ := Option.bind_eq_some_iff.mp hw
      rw [Same] at h
      rw [codes_of_sameItems vs h hps hqs] at hp
      exact Option.some.inj (hp.symm.trans hq)
    | _ => cases hkind
  | dict es => cases w with
    | dict fs =>
      obtain ⟨ps, hps, hp⟩ := Option.bind_eq_some_iff.mp hv
      obtain ⟨qs, hqs, hq⟩ := Option.bind_eq_some_iff.mp hw
      rw [Same] at h
      rw [sortBytes_perm (codes_of_sameEntries es h hps hqs)] at hp
      exact Option.some.inj (hp.symm.trans hq)
    | _ => cases hkind
  | proxy es => cases w with
    | proxy fs =>
      obtain ⟨ps, hps, hp⟩ := Option.bind_eq_some_iff.mp hv
      obtain ⟨qs, hqs, hq⟩ := Option.bind_eq_some_iff.mp hw
      rw [Same] at h
      rw [sortBytes_perm (codes_of_sameEntries es h hps hqs)] at hp
      exact Option.some.inj (hp.symm.trans hq)
    | _ => cases hkind
  | set vs => cases w with
    | set ws =>
      obtain ⟨ps, hps, hp⟩ := Option.bind_eq_some_iff.mp hv
      obtain ⟨qs, hqs, hq⟩ := Option.bind_eq_some_iff.mp hw
      rw [Same] at h
      rw [sortBytes_perm (codes_of_sameMembers vs h hps hqs)] at hp
      exact Option.some.inj (hp.symm.trans hq)
    | _ => cases hkind
  | frozenset vs => cases w with
    | frozenset ws =>
      obtain ⟨ps, hps, hp⟩ := Option.bind_eq_some_iff.mp hv
      obtain ⟨qs, hqs, hq⟩ := Option.bind_eq_some_iff.mp hw
      rw [Same] at h
      rw [sortBytes_perm (codes_of_sameMembers vs h hps hqs)] at hp
      exact Option.some.inj (hp.symm.trans hq)
    | _ => cases hkind
  | record cls vs => cases w with
    | record cls' ws =>
      obtain ⟨ps, hps, hp⟩ := Option.bind_eq_some_iff.mp hv
      obtain ⟨qs, hqs, hq⟩ := Option.bind_eq_some_iff.mp hw
      rw [Same] at h
      obtain ⟨rfl, hitems⟩ := h
      rw [codes_of_sameItems vs hitems hps hqs] at hp
      exact Option.some.inj (hp.symm.trans hq)
    | _ => cases hkind
  | other _ => cases hv
termination_by structural v

theorem codes_of_sameItems (vs : List FreshValue) {ws : List FreshValue} {ps qs : List (List Byte)}
    (h : SameItems vs ws) (hvs : codes vs = some ps) (hws : codes ws = some qs) : ps = qs := by
  rw [codes_iff] at hvs hws
  cases vs with
  | nil => cases ws with
    | nil => rw [List.forall₂_nil_left_iff.mp hvs, List.forall₂_nil_left_iff.mp hws]
    | cons w ws =>
      simp only [SameItems] at h
  | cons v vs => cases ws with
    | nil =>
      simp only [SameItems] at h
    | cons w ws =>
      rw [SameItems] at h
      obtain ⟨p, ps, hp, hps, rfl⟩ := List.forall₂_cons_left_iff.mp hvs
      obtain ⟨q, qs, hq, hqs, rfl⟩ := List.forall₂_cons_left_iff.mp hws
      rw [code_of_same v h.1 hp hq,
        codes_of_sameItems vs h.2 (codes_iff.mpr hps) (codes_iff.mpr hqs)]
termination_by structural vs

theorem codes_of_sameMembers (vs : List FreshValue) {ws : List FreshValue}
    {ps qs : List (List Byte)} (h : SameMembers vs ws) (hvs : codes vs = some ps)
    (hws : codes ws = some qs) : ps.Perm qs := by
  rw [codes_iff] at hvs hws
  cases vs with
  | nil =>
    rw [SameMembers] at h
    subst h
    rw [List.forall₂_nil_left_iff.mp hvs, List.forall₂_nil_left_iff.mp hws]
  | cons v vs =>
    rw [SameMembers] at h
    obtain ⟨before, w, after, rfl, hvw, hrest⟩ := h
    obtain ⟨p, ps, hp, hps, rfl⟩ := List.forall₂_cons_left_iff.mp hvs
    obtain ⟨qs₁, q, qs₂, rfl, hq, hothers⟩ := forall₂_middle_right (List.Forall₂.flip hws)
    rw [code_of_same v hvw hp hq]
    exact ((codes_of_sameMembers vs hrest (codes_iff.mpr hps)
      (codes_iff.mpr hothers.flip)).cons q).trans List.perm_middle.symm
termination_by structural vs

theorem codes_of_sameEntries (es : List (FreshValue × FreshValue))
    {fs : List (FreshValue × FreshValue)} {ps qs : List (List Byte)} (h : SameEntries es fs)
    (hes : pairCodes es = some ps) (hfs : pairCodes fs = some qs) : ps.Perm qs := by
  rw [pairCodes_iff] at hes hfs
  cases es with
  | nil =>
    rw [SameEntries] at h
    subst h
    rw [List.forall₂_nil_left_iff.mp hes, List.forall₂_nil_left_iff.mp hfs]
  | cons e es =>
    obtain ⟨k, v⟩ := e
    rw [SameEntries] at h
    obtain ⟨before, f, after, rfl, hkey, hitem, hrest⟩ := h
    obtain ⟨p, ps, hp, hps, rfl⟩ := List.forall₂_cons_left_iff.mp hes
    obtain ⟨qs₁, q, qs₂, rfl, hq, hothers⟩ := forall₂_middle_right (List.Forall₂.flip hfs)
    obtain ⟨keyPart, hk, hp⟩ := Option.bind_eq_some_iff.mp hp
    obtain ⟨itemPart, hv, hp⟩ := Option.bind_eq_some_iff.mp hp
    obtain ⟨keyPart', hk', hq⟩ := Option.bind_eq_some_iff.mp hq
    obtain ⟨itemPart', hv', hq⟩ := Option.bind_eq_some_iff.mp hq
    rw [code_of_same k hkey hk hk', code_of_same v hitem hv hv'] at hp
    rw [Option.some.inj (hp.symm.trans hq)]
    exact ((codes_of_sameEntries es hrest (pairCodes_iff.mpr hps)
      (pairCodes_iff.mpr hothers.flip)).cons q).trans List.perm_middle.symm
termination_by structural es

end

end Injectivity

section Fingerprints

theorem code_of_fresh {v : FreshValue} {b : List Byte} (h : freshFingerprint v = .ok b) :
    code v = some b := by
  cases hrun : fingerprint 0 v .initial with
  | error e =>
    rw [freshFingerprint, hrun] at h
    cases h
  | ok result =>
    rw [freshFingerprint, hrun] at h
    obtain rfl := Except.ok.inj h
    exact code_of_fingerprint v hrun

/-- Fingerprints are equal if and only if the values have the same types and are structurally
equal, with the members of mappings and sets in any order. -/
theorem fingerprint_eq_iff (v w : FreshValue) (b c : List Byte) (hv : freshFingerprint v = .ok b)
    (hw : freshFingerprint w = .ok c) : (b = c ↔ Same v w) ∧ (kind v ≠ kind w → b ≠ c) := by
  have hcode := code_of_fresh hv
  have hcode' := code_of_fresh hw
  constructor
  · constructor
    · rintro rfl
      exact same_of_code v hcode hcode'
    · intro h
      exact code_of_same v h hcode hcode'
  · rintro hkind rfl
    exact hkind (kind_eq hcode hcode')

theorem two_orders_same : Same (.dict [(.str [97], .bool true), (.str [98], .none)])
    (.dict [(.str [98], .none), (.str [97], .bool true)]) :=
  (fingerprint_eq_iff _ _ _ _ rfl rfl).1.mp rfl

end Fingerprints

end Fresh

end OperateBench
