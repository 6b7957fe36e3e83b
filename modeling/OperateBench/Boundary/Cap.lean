import OperateBench.Boundary.Postings

/-! # Spend under the cap

The totals of a guard are the exact sums of what was posted to them, each reservation is
resolved once, and until a settlement exceeds its reservation what is measured, exposed
and in flight stays under the cap.
-/

namespace OperateBench.Boundary

open Foundation RunCostGuard

inductive Call
  | authorize (inputTokensUpperBound : Count)
  | settle (reservation : Operand) (inputTokens outputTokens : Count)
  | forfeit (reservation : Operand)
  | cancel (reservation : Operand) (inputTokensUpperBound : Count)

inductive Reply
  | authorized (reservation : Decimal)
  | settled (measured : Option Decimal)
  | forfeited
  | cancelled

/-- A call with the guard it was made on and what came of it. -/
structure Visit where
  before : RunCostGuard
  call : Call
  result : EStateM.Result GuardError RunCostGuard Reply

namespace Visit

def after (v : Visit) : RunCostGuard :=
  match v.result with
  | .ok _ g => g
  | .error _ g => g

/-- The settlement measured more than its reservation. -/
def Breached (v : Visit) : Prop := ∃ e t, v.result = .error e t ∧ e.isBreach = true

end Visit

def Operand.value : Operand → ℚ
  | .finite amount => amount.value
  | _ => 0

/-- The settlement at the charge for its own counts. -/
def Visit.measuredEntry (v : Visit) : Option Posting :=
  match v.call with
  | .settle _ (.whole i) (.whole o) => some (.measured (v.before.price.charge i.toNat o.toNat))
  | _ => none

/-- The entry that a call with this outcome posts. -/
def Visit.entry (v : Visit) : Option Posting :=
  match v.result, v.call with
  | .ok (.authorized _) _, .authorize (.whole tokens) =>
    some (.reserved (v.before.price.charge tokens.toNat v.before.maxOutputTokens))
  | .ok (.settled (some _)) _, _ => v.measuredEntry
  | .ok (.settled none) _, .settle reservation _ _ => some (.forfeited reservation.value)
  | .ok .forfeited _, .forfeit reservation => some (.forfeited reservation.value)
  | .ok .cancelled _, .cancel reservation _ => some (.cancelled reservation.value)
  | .ok _ _, _ => none
  | .error e _, _ => if e.isBreach then v.measuredEntry else none

namespace RunCostGuard

def perform : Call → Guarded Reply
  | .authorize bound => .authorized <$> authorize bound
  | .settle reservation i o => .settled <$> settle reservation i o
  | .forfeit reservation => (fun _ => .forfeited) <$> forfeit reservation
  | .cancel reservation bound => (fun _ => .cancelled) <$> cancel reservation bound

def visit (g : RunCostGuard) (call : Call) : Visit := ⟨g, call, perform call g⟩

def visits (g : RunCostGuard) : List Call → List Visit
  | [] => []
  | call :: calls => g.visit call :: (g.visit call).after.visits calls

def afterAll (g : RunCostGuard) (calls : List Call) : RunCostGuard :=
  calls.foldl (fun g call => (g.visit call).after) g

/-- The books of a sequence of calls. -/
def entries (g : RunCostGuard) (calls : List Call) : List Posting :=
  (g.visits calls).filterMap Visit.entry

/-- The amount in flight. -/
def held (g : RunCostGuard) : Option ℚ := g.pending.map fun p => p.1.value

/-- Everything the cap is enforced against. -/
def committed (g : RunCostGuard) : ℚ :=
  g.measured.value + g.exposure.value + g.held.getD 0

variable {g t : RunCostGuard} {e : Posting} {calls : List Call}

/-- The call posts one entry and nothing else happens to the guard. -/
structure Posts (v : Visit) : Prop where
  entry : ∃ e, v.entry = some e ∧ Posted v.before e v.after
  breach : v.after.breached = true → v.before.breached = true ∨ v.Breached

/-- The call raises without a breach and changes nothing. -/
structure Refused (v : Visit) : Prop where
  entry : v.entry = none
  after : v.after = v.before
  raised : ∃ e t, v.result = .error e t ∧ e.isBreach = false

theorem refused_of_unchanged {call : Call} {e : GuardError} (hr : perform call g = .error e t)
    (hu : Unchanged g e t) : Refused (g.visit call) := by
  obtain ⟨rfl, he⟩ := hu
  refine ⟨?_, ?_, e, t, hr, he⟩
  · unfold Visit.entry visit
    simp only [hr, he, Bool.false_eq_true, if_false]
  · unfold Visit.after visit
    simp only [hr]

theorem posts_of_ok {call : Call} {reply : Reply} (hr : perform call g = .ok reply t)
    (h : ∃ e, (Visit.mk g call (.ok reply t)).entry = some e ∧ Posted g e t)
    (hb : t.breached = g.breached) : Posts (g.visit call) := by
  have hv : g.visit call = ⟨g, call, .ok reply t⟩ := by rw [visit, hr]
  rw [hv]
  exact ⟨h, fun h => .inl (hb ▸ h)⟩

theorem Posted.breached (h : Posted g e t) (he : ∀ q, e ≠ .measured q) :
    t.breached = g.breached := by
  cases h with
  | measured => exact absurd rfl (he _)
  | _ => rfl

/-- Every call posts or is refused. -/
theorem visit_cases (hs : g.Sound) (call : Call) :
    Posts (g.visit call) ∨ Refused (g.visit call) := by
  cases call with
  | authorize bound =>
    cases hx : authorize bound g with
    | ok d t =>
      have hr : perform (.authorize bound) g = .ok (.authorized d) t := by
        rw [perform, map_result, hx]
      obtain ⟨i, rfl, hp, -⟩ := authorize_leaves.ok hx
      exact .inl (posts_of_ok hr ⟨_, rfl, hp⟩ (hp.breached nofun))
    | error e t =>
      have hr : perform (.authorize bound) g = .error e t := by rw [perform, map_result, hx]
      exact .inr (refused_of_unchanged hr (authorize_leaves.error hx))
  | settle r i o =>
    cases hx : settle r i o g with
    | ok cost t =>
      have hr : perform (.settle r i o) g = .ok (.settled cost) t := by
        rw [perform, map_result, hx]
      have hp := (settle_leaves hs release_leaves).ok hx
      cases cost with
      | none =>
        obtain ⟨amount, rfl, hp⟩ := hp
        exact .inl (posts_of_ok hr ⟨_, rfl, hp⟩ (hp.breached nofun))
      | some cost =>
        obtain ⟨m, n, rfl, rfl, hp, hb⟩ := hp
        exact .inl (posts_of_ok hr ⟨_, rfl, hp⟩ hb)
    | error e t =>
      have hr : perform (.settle r i o) g = .error e t := by rw [perform, map_result, hx]
      rcases (settle_leaves hs release_leaves).error hx with ⟨he, m, n, rfl, rfl, hp, -⟩ | hu
      · have hv : g.visit (.settle r (.whole m) (.whole n)) =
            ⟨g, .settle r (.whole m) (.whole n), .error e t⟩ := by
          rw [visit, hr]
        rw [hv]
        exact .inl ⟨⟨_, if_pos he, hp⟩, fun _ => .inr ⟨e, t, rfl, he⟩⟩
      · exact .inr (refused_of_unchanged hr hu)
  | forfeit r =>
    cases hx : forfeit r g with
    | ok u t =>
      have hr : perform (.forfeit r) g = .ok .forfeited t := by rw [perform, map_result, hx]
      obtain ⟨amount, rfl, hp⟩ := (forfeit_leaves hs release_leaves).ok hx
      exact .inl (posts_of_ok hr ⟨_, rfl, hp⟩ (hp.breached nofun))
    | error e t =>
      have hr : perform (.forfeit r) g = .error e t := by rw [perform, map_result, hx]
      exact .inr (refused_of_unchanged hr ((forfeit_leaves hs release_leaves).error hx))
  | cancel r bound =>
    cases hx : cancel r bound g with
    | ok u t =>
      have hr : perform (.cancel r bound) g = .ok .cancelled t := by rw [perform, map_result, hx]
      obtain ⟨amount, rfl, hp⟩ := cancel_leaves.ok hx
      exact .inl (posts_of_ok hr ⟨_, rfl, hp⟩ (hp.breached nofun))
    | error e t =>
      have hr : perform (.cancel r bound) g = .error e t := by rw [perform, map_result, hx]
      exact .inr (refused_of_unchanged hr (cancel_leaves.error hx))

theorem Posted.sound (h : Posted g e t) (hs : g.Sound) : t.Sound := by
  cases h with
  | reserved _ input output exact =>
    refine ⟨hs.measured, hs.exposure, hs.episodeMeasured, hs.episodeExposure, ?_⟩
    rintro p n hp
    cases hp
    rw [exact]
    exact ModelPrice.charge_grid input output
  | measured _ input output exact run episode =>
    have hd := exact ▸ ModelPrice.charge_grid input output
    obtain ⟨x, hx, hxb⟩ := add_charge hs.measured hd
    obtain ⟨y, hy, hyb⟩ := add_charge hs.episodeMeasured hd
    cases hx.symm.trans run
    cases hy.symm.trans episode
    exact ⟨hxb, hs.exposure, hyb, hs.episodeExposure, nofun⟩
  | forfeited held same run episode =>
    have hd := same ▸ hs.pending _ _ held
    obtain ⟨x, hx, hxb⟩ := add_charge hs.exposure hd
    obtain ⟨y, hy, hyb⟩ := add_charge hs.episodeExposure hd
    cases hx.symm.trans run
    cases hy.symm.trans episode
    exact ⟨hs.measured, hxb, hs.episodeMeasured, hyb, nofun⟩
  | cancelled => exact hs.released

/-- What an entry finds in flight and what it leaves there. -/
theorem Posted.held (h : Posted g e t) :
    (∃ q, e = .reserved q ∧ g.held = none ∧ t.held = some q) ∨
      ∃ q, e.Resolves q ∧ g.held = some q ∧ t.held = none := by
  cases h with
  | reserved free _ _ exact =>
    exact .inl ⟨_, rfl, by rw [RunCostGuard.held, free]; rfl, congrArg some exact⟩
  | measured held => exact .inr ⟨_, trivial, by rw [RunCostGuard.held, held]; rfl, rfl⟩
  | forfeited held same => exact .inr ⟨_, same, by rw [RunCostGuard.held, held]; rfl, rfl⟩
  | cancelled held same => exact .inr ⟨_, same, by rw [RunCostGuard.held, held]; rfl, rfl⟩

/-- Below the precision of the context an entry moves the totals by exactly its amount. -/
theorem Posted.exact (h : Posted g e t) (hs : g.Sound) {a : ℕ}
    (ha : a + ModelPrice.chargeBound < 10 ^ 80) (hm : Grid 18 a g.measured.value)
    (hx : Grid 18 a g.exposure.value) :
    (t.measured.value = g.measured.value + e.spent ∧
      t.exposure.value = g.exposure.value + e.exposed) ∧
    Grid 18 (a + ModelPrice.chargeBound) t.measured.value ∧
      Grid 18 (a + ModelPrice.chargeBound) t.exposure.value := by
  have hm' := hm.mono (Nat.le_add_right a ModelPrice.chargeBound)
  have hx' := hx.mono (Nat.le_add_right a ModelPrice.chargeBound)
  cases h with
  | reserved => exact ⟨⟨(add_zero _).symm, (add_zero _).symm⟩, hm', hx'⟩
  | measured _ input output exact run =>
    have hgrid := hm.add (exact ▸ ModelPrice.charge_grid input output)
    obtain ⟨y, hy, hv⟩ := DecimalContext.add_exact (exact_fits hgrid ha (by norm_num))
    cases hy.symm.trans run
    rw [exact] at hv hgrid
    exact ⟨⟨hv, (add_zero _).symm⟩, hv ▸ hgrid, hx'⟩
  | forfeited held same run =>
    have hgrid := hx.add (same ▸ hs.pending _ _ held)
    obtain ⟨y, hy, hv⟩ := DecimalContext.add_exact (exact_fits hgrid ha (by norm_num))
    cases hy.symm.trans run
    exact ⟨⟨(add_zero _).symm, hv⟩, hm', hv ▸ hgrid⟩
  | cancelled => exact ⟨⟨(add_zero _).symm, (add_zero _).symm⟩, hm', hx'⟩

/-- No settlement has exceeded its reservation, and the cap covers what is committed. -/
structure Within (g : RunCostGuard) : Prop where
  measured : Grid 18 (10 ^ 33) g.measured.value
  exposure : Grid 18 (10 ^ 33) g.exposure.value
  committed : g.committed ≤ g.cap.value
  cap : g.cap.value ≤ 10 ^ 15

theorem Sound.held_nonneg (hs : g.Sound) : 0 ≤ g.held.getD 0 := by
  cases hp : g.pending with
  | none => rw [RunCostGuard.held, hp]; exact le_rfl
  | some pending =>
    rw [RunCostGuard.held, hp]
    exact (hs.pending pending.1 pending.2 hp).nonneg

/-- The law of the cap for one entry. -/
theorem Posted.covered (h : Posted g e t) (hs : g.Sound) (hw : g.Within)
    (hb : t.breached = false) : t.committed ≤ g.cap.value := by
  have hle := hw.committed
  have hpos := hs.held_nonneg
  obtain ⟨⟨hm, hx⟩, -⟩ := h.exact hs (by decide) hw.measured hw.exposure
  cases h with
  | reserved free input output exact total sum covered =>
    have hspent := hw.measured.add hw.exposure
    obtain ⟨y, hy, hyv⟩ := DecimalContext.add_exact (exact_fits hspent (by decide) (by norm_num))
    cases hy.symm.trans total
    have hcharge := exact ▸ ModelPrice.charge_grid input output
    have hgrid := hspent.add hcharge
    rw [← hyv] at hgrid
    obtain ⟨z, hz, hzv⟩ := DecimalContext.add_exact (exact_fits hgrid (by decide) (by norm_num))
    cases hz.symm.trans sum
    rw [Decimal.lt_iff, not_lt, hzv, hyv] at covered
    exact covered
  | @measured p d x y n i o breached held input output exact run episode exceeds =>
    have hnot : breached = false := by
      cases breached with
      | false => rfl
      | true => rw [Bool.or_true] at hb; cases hb
    have hover := exceeds hnot
    have hheld : g.held.getD 0 = p.value := by rw [RunCostGuard.held, held]; rfl
    simp only [RunCostGuard.committed] at hle ⊢
    rw [hm, Posting.spent, ← exact]
    rw [hheld] at hle
    change g.measured.value + d.value + g.exposure.value + 0 ≤ _
    linarith
  | @forfeited p r x y n held same run episode =>
    have hheld : g.held.getD 0 = p.value := by rw [RunCostGuard.held, held]; rfl
    simp only [RunCostGuard.committed] at hle ⊢
    rw [hx, Posting.exposed, same]
    rw [hheld] at hle
    change g.measured.value + (g.exposure.value + p.value) + 0 ≤ _
    linarith
  | @cancelled p r n held same =>
    simp only [RunCostGuard.committed] at hle ⊢
    change g.measured.value + g.exposure.value + 0 ≤ _
    linarith

theorem Posted.within (h : Posted g e t) (hs : g.Sound) (hw : g.Within)
    (hb : t.breached = false) : t.Within := by
  have hcovered := h.covered hs hw hb
  have hheld := (h.sound hs).held_nonneg
  obtain ⟨-, hm, hx⟩ := h.exact hs (by decide) hw.measured hw.exposure
  have hm0 := hm.nonneg
  have hx0 := hx.nonneg
  have hcap := hw.cap
  have htop : (10 : ℚ) ^ 15 = (10 ^ 33 : ℕ) / 10 ^ 18 := by norm_num
  have hsum : t.committed = t.measured.value + t.exposure.value + t.held.getD 0 := rfl
  refine ⟨hm.bounded ?_, hx.bounded ?_, h.cap ▸ hcovered, h.cap ▸ hcap⟩
  · rw [← htop]
    linarith
  · rw [← htop]
    linarith

section Runs

theorem afterAll_cons (call : Call) :
    g.afterAll (call :: calls) = (g.visit call).after.afterAll calls := rfl

theorem sound_after (hs : g.Sound) (call : Call) : (g.visit call).after.Sound := by
  rcases visit_cases hs call with ⟨⟨e, -, hp⟩, -⟩ | hr
  · exact hp.sound hs
  · rw [hr.after]
    exact hs

/-- A call that raised without a breach left the guard as it was. -/
theorem unchanged_of_raised (hs : g.Sound) {v : Visit} (hv : v ∈ g.visits calls) {e : GuardError}
    (hr : v.result = .error e t) (he : e.isBreach = false) : v.after = v.before := by
  induction calls generalizing g with
  | nil => cases hv
  | cons call calls ih =>
    rcases List.mem_cons.mp hv with rfl | hv
    · rcases visit_cases hs call with ⟨⟨entry, hentry, -⟩, -⟩ | hrefused
      · rw [Visit.entry, hr] at hentry
        simp only [he, Bool.false_eq_true, if_false] at hentry
        cases hentry
      · exact hrefused.after
    · exact ih (sound_after hs call) hv

theorem within_run (hs : g.Sound) (hw : g.Within) (hg : g.breached = false)
    (hb : ∀ v ∈ g.visits calls, ¬v.Breached) : (g.afterAll calls).Within := by
  induction calls generalizing g with
  | nil => exact hw
  | cons call calls ih =>
    have hfirst := hb _ List.mem_cons_self
    have hrest := fun v hv => hb v (List.mem_cons_of_mem _ hv)
    rcases visit_cases hs call with ⟨⟨e, -, hp⟩, hbreach⟩ | hr
    · have hafter : (g.visit call).after.breached = false := by
        rw [← Bool.not_eq_true]
        intro h
        rcases hbreach h with h | h
        · rw [show (g.visit call).before.breached = g.breached from rfl, hg] at h
          cases h
        · exact hfirst h
      exact ih (hp.sound hs) (hp.within hs hw hafter) hafter hrest
    · have hafter : (g.visit call).after = g := hr.after
      rw [afterAll_cons]
      rw [hafter] at hrest ⊢
      exact ih hs hw hg hrest

theorem cap_run (hs : g.Sound) : (g.afterAll calls).cap = g.cap := by
  induction calls generalizing g with
  | nil => rfl
  | cons call calls ih =>
    rw [afterAll_cons, ih (sound_after hs call)]
    rcases visit_cases hs call with ⟨⟨e, -, hp⟩, -⟩ | hr
    · exact hp.cap
    · rw [hr.after]
      rfl

theorem alternates_run (hs : g.Sound) : Alternates g.held (g.entries calls) := by
  induction calls generalizing g with
  | nil => cases h : g.held <;> trivial
  | cons call calls ih =>
    have hrest := ih (sound_after hs call)
    rcases visit_cases hs call with ⟨⟨e, he, hp⟩, -⟩ | hr
    · have hcons : g.entries (call :: calls) = e :: (g.visit call).after.entries calls :=
        List.filterMap_cons_some he
      rw [hcons]
      rcases hp.held with ⟨q, rfl, hfree, hheld⟩ | ⟨q, hres, hheld, hfree⟩
      · rw [show (g.visit call).before = g from rfl] at hfree
        rw [hfree]
        rw [hheld] at hrest
        exact hrest
      · rw [show (g.visit call).before = g from rfl] at hheld
        rw [hheld]
        rw [hfree] at hrest
        rw [Alternates]
        exact ⟨hres, hrest⟩
    · have hcons : g.entries (call :: calls) = (g.visit call).after.entries calls :=
        List.filterMap_cons_none hr.entry
      have hafter : (g.visit call).after = g := hr.after
      rw [hafter] at hrest hcons
      rw [hcons]
      exact hrest

/-- The totals of a run are the exact sums of its entries. -/
theorem exact_run (hs : g.Sound) {a : ℕ}
    (ha : a + calls.length * ModelPrice.chargeBound < 10 ^ 80)
    (hm : Grid 18 a g.measured.value) (hx : Grid 18 a g.exposure.value) :
    (g.afterAll calls).measured.value =
        g.measured.value + ((g.entries calls).map Posting.spent).sum ∧
      (g.afterAll calls).exposure.value =
        g.exposure.value + ((g.entries calls).map Posting.exposed).sum := by
  induction calls generalizing g a with
  | nil => exact ⟨(add_zero _).symm, (add_zero _).symm⟩
  | cons call calls ih =>
    rw [List.length_cons, Nat.add_mul, one_mul] at ha
    rcases visit_cases hs call with ⟨⟨e, he, hp⟩, -⟩ | hr
    · have hcons : g.entries (call :: calls) = e :: (g.visit call).after.entries calls :=
        List.filterMap_cons_some he
      obtain ⟨⟨hme, hxe⟩, hm', hx'⟩ := hp.exact hs (by omega) hm hx
      obtain ⟨hmr, hxr⟩ := ih (hp.sound hs) (by omega) hm' hx'
      rw [afterAll_cons, hcons, hmr, hxr, hme, hxe]
      constructor
      · rw [List.map_cons, List.sum_cons, add_assoc]
        rfl
      · rw [List.map_cons, List.sum_cons, add_assoc]
        rfl
    · have hcons : g.entries (call :: calls) = (g.visit call).after.entries calls :=
        List.filterMap_cons_none hr.entry
      have hafter : (g.visit call).after = g := hr.after
      rw [afterAll_cons, hcons, hafter]
      exact ih hs (by omega) hm hx

end Runs

section Start

variable {controls : CostControls} {maxOutputTokens : ℤ} {measuredUsd exposureUsd : Operand}
  {fresh : RunCostGuard}

theorem init_ok (h : init controls maxOutputTokens = .ok fresh) :
    ∃ cap : UsdAmount, fresh.cap = cap.amount ∧ fresh.measured = 0 ∧ fresh.exposure = 0 ∧
      fresh.episodeMeasured = 0 ∧ fresh.episodeExposure = 0 ∧ fresh.pending = none ∧
      fresh.breached = false := by
  unfold init at h
  split at h
  · rename_i cap price _ _
    obtain ⟨_, h⟩ := unless_ok h
    obtain rfl := Except.ok.inj h
    exact ⟨cap, rfl, rfl, rfl, rfl, rfl, rfl, rfl⟩
  · cases h

theorem seed_ok (h : seed measuredUsd exposureUsd fresh = .ok () g) :
    ∃ measured exposure : UsdAmount,
      g = { fresh with measured := measured.amount, exposure := exposure.amount, seeded := true } := by
  have hleaves : Leaves (seed measuredUsd exposureUsd) fresh
      (fun _ t => ∃ measured exposure : UsdAmount,
        t = { fresh with measured := measured.amount, exposure := exposure.amount,
                         seeded := true })
      (fun _ _ => True) := by
    unfold seed
    simp only [leaves_bind, leaves_get]
    split
    · trivial
    · simp only [leaves_bind, leaves_raising, leaves_modify]
      refine ⟨?_, fun _ _ => trivial⟩
      intro measured _
      refine ⟨?_, fun _ _ => trivial⟩
      intro exposure _
      exact ⟨measured, exposure, rfl⟩
  exact hleaves.ok h

/-- An accepted amount in the units of a charge. -/
theorem amount_grid (u : UsdAmount) : Grid 18 (10 ^ 33) u.amount.value := u.grid.refine 6

theorem amount_le (u : UsdAmount) : u.amount.value ≤ 10 ^ (120 : ℤ) := by
  have hle := (amount_grid u).le
  have hbig : (10 ^ 33 : ℚ) / 10 ^ 18 ≤ 10 ^ (120 : ℤ) := by
    rw [show (120 : ℤ) = ((120 : ℕ) : ℤ) from rfl, zpow_natCast]
    norm_num
  push_cast at hle
  exact hle.trans hbig

theorem start_sound (built : init controls maxOutputTokens = .ok fresh)
    (seeded : seed measuredUsd exposureUsd fresh = .ok () g) :
    g.Sound ∧ Grid 18 (10 ^ 33) g.measured.value ∧ Grid 18 (10 ^ 33) g.exposure.value ∧
      g.cap.value ≤ 10 ^ 15 ∧ g.held = none ∧ g.breached = false := by
  obtain ⟨cap, hcap, -, -, hem, hee, hpending, hbreached⟩ := init_ok built
  obtain ⟨measured, exposure, rfl⟩ := seed_ok seeded
  have hzero : (0 : ℚ) ≤ 10 ^ (120 : ℤ) := by positivity
  refine ⟨⟨⟨(amount_grid measured).nonneg, amount_le measured⟩,
    ⟨(amount_grid exposure).nonneg, amount_le exposure⟩, ?_, ?_, ?_⟩,
    amount_grid measured, amount_grid exposure, ?_, ?_, hbreached⟩
  · change 0 ≤ fresh.episodeMeasured.value ∧ _
    rw [hem, Decimal.value_zero]
    exact ⟨le_rfl, hzero⟩
  · change 0 ≤ fresh.episodeExposure.value ∧ _
    rw [hee, Decimal.value_zero]
    exact ⟨le_rfl, hzero⟩
  · intro p n hp
    cases hpending.symm.trans hp
  · change fresh.cap.value ≤ _
    rw [hcap]
    have hle := (amount_grid cap).le
    have hmax : ((10 ^ 33 : ℕ) : ℚ) / 10 ^ 18 = 10 ^ 15 := by norm_num
    rwa [hmax] at hle
  · rw [RunCostGuard.held]
    exact congrArg (Option.map fun p => p.1.value) hpending

/-- Spend stays under the cap until a settlement exceeds its reservation, refused calls change
nothing, reservations are resolved once, and the totals are exact. -/
theorem spend_within_cap (built : init controls maxOutputTokens = .ok fresh)
    (seeded : seed measuredUsd exposureUsd fresh = .ok () g)
    (covered : g.measured.value + g.exposure.value ≤ g.cap.value) (calls : List Call) :
    (∀ v ∈ g.visits calls, ∀ e t, v.result = .error e t → e.isBreach = false →
      v.after = v.before) ∧
    ((∀ v ∈ g.visits calls, ¬v.Breached) →
      (g.afterAll calls).committed ≤ g.cap.value) ∧
    Alternates none (g.entries calls) ∧
    (calls.length < 10 ^ 30 →
      (g.afterAll calls).measured.value =
          g.measured.value + ((g.entries calls).map Posting.spent).sum ∧
        (g.afterAll calls).exposure.value =
          g.exposure.value + ((g.entries calls).map Posting.exposed).sum) := by
  obtain ⟨hs, hm, hx, hcap, hheld, hbreached⟩ := start_sound built seeded
  refine ⟨?_, ?_, ?_, ?_⟩
  · intro v hv e t hr he
    exact unchanged_of_raised hs hv hr he
  · intro hb
    have hw : g.Within := by
      refine ⟨hm, hx, ?_, hcap⟩
      rw [RunCostGuard.committed, hheld, Option.getD_none, add_zero]
      exact covered
    exact cap_run hs ▸ (within_run hs hw hbreached hb).committed
  · rw [← hheld]
    exact alternates_run hs
  · intro hlength
    apply exact_run hs _ hm hx
    have hbound : calls.length * ModelPrice.chargeBound ≤ 10 ^ 30 * 10 ^ 44 :=
      Nat.mul_le_mul hlength.le ModelPrice.chargeBound_le
    omega

/-- The guards that the runs of a benchmark hold. -/
inductive Reached : RunCostGuard → Prop
  | built {controls : CostControls} {maxOutputTokens : ℤ} {g : RunCostGuard}
      (built : init controls maxOutputTokens = .ok g) : Reached g
  | seeded {measuredUsd exposureUsd : Operand} {g t : RunCostGuard} (h : Reached g)
      (seeded : seed measuredUsd exposureUsd g = .ok () t) : Reached t
  | begun {g t : RunCostGuard} (h : Reached g) (begun : beginEpisode g = .ok () t) : Reached t
  | visited {g : RunCostGuard} (h : Reached g) (call : Call) : Reached (g.visit call).after

theorem beginEpisode_leaves : Leaves beginEpisode g
    (fun _ t => t = { g with episodeMeasured := 0, episodeExposure := 0 })
    (fun _ t => t = g) := by
  unfold beginEpisode
  simp only [leaves_bind, leaves_get]
  split <;> rfl

theorem Reached.sound (h : Reached g) : g.Sound := by
  have hzero : 0 ≤ (0 : Decimal).value ∧ (0 : Decimal).value ≤ 10 ^ (120 : ℤ) := by
    rw [Decimal.value_zero]
    exact ⟨le_rfl, by positivity⟩
  induction h with
  | built built =>
    obtain ⟨-, -, hm, hx, hem, hex, hpending, -⟩ := init_ok built
    refine ⟨hm ▸ hzero, hx ▸ hzero, hem ▸ hzero, hex ▸ hzero, ?_⟩
    intro p n hp
    cases hpending.symm.trans hp
  | seeded _ seeded ih =>
    obtain ⟨measured, exposure, rfl⟩ := seed_ok seeded
    exact ⟨⟨(amount_grid measured).nonneg, amount_le measured⟩,
      ⟨(amount_grid exposure).nonneg, amount_le exposure⟩, ih.episodeMeasured,
      ih.episodeExposure, ih.pending⟩
  | begun _ begun ih =>
    rw [beginEpisode_leaves.ok begun]
    exact ⟨ih.measured, ih.exposure, hzero, hzero, ih.pending⟩
  | visited _ call ih => exact sound_after ih call

/-- Two dollars a million input tokens, and ten a million output tokens. -/
def samplePrice : ModelPrice where
  inputUsdPerMillionTokens := ⟨⟨2, 0⟩, by decide, by decide, by decide⟩
  outputUsdPerMillionTokens := ⟨⟨10, 0⟩, by decide, by decide, by decide⟩
  longContextTier := none
  rising := nofun

def sampleControls : CostControls where
  maxCostUsd := some ⟨⟨1, 0⟩, by decide, by decide, by decide⟩
  price := some samplePrice
  positive := by
    rintro cap ⟨⟩
    decide
  priced := fun _ => rfl

def sampleGuard : RunCostGuard :=
  { price := samplePrice, cap := ⟨1, 0⟩, maxOutputTokens := 500, seeded := true }

/-- A settled turn, a cancelled one and a forfeited one. -/
def sampleCalls : List Call :=
  [.authorize (.whole 1000), .settle (.finite ⟨7, -3⟩) (.whole 800) (.whole 300),
    .authorize (.whole 500), .cancel (.finite ⟨6000, -6⟩) (.whole 500),
    .authorize (.whole 500), .forfeit (.finite ⟨6000, -6⟩)]

theorem sample_spend_within_cap :
    Alternates none (sampleGuard.entries sampleCalls) ∧
      (sampleGuard.afterAll sampleCalls).measured.value =
          sampleGuard.measured.value + ((sampleGuard.entries sampleCalls).map Posting.spent).sum ∧
      (sampleGuard.afterAll sampleCalls).exposure.value =
          sampleGuard.exposure.value + ((sampleGuard.entries sampleCalls).map Posting.exposed).sum := by
  have hseeded : seed (.finite 0) (.finite 0) { sampleGuard with seeded := false } =
      .ok () sampleGuard := rfl
  have hcovered : sampleGuard.measured.value + sampleGuard.exposure.value ≤
      sampleGuard.cap.value := by
    change (0 : Decimal).value + (0 : Decimal).value ≤ (⟨1, 0⟩ : Decimal).value
    rw [Decimal.value_zero, Decimal.value]
    norm_num
  have hbuilt : init sampleControls 500 = .ok { sampleGuard with seeded := false } := rfl
  have hrun := spend_within_cap hbuilt hseeded hcovered sampleCalls
  exact ⟨hrun.2.2.1, hrun.2.2.2 (by decide)⟩

example : (sampleGuard.afterAll sampleCalls).measured = ⟨4600, -6⟩ ∧
    (sampleGuard.afterAll sampleCalls).exposure = ⟨6000, -6⟩ := ⟨rfl, rfl⟩

end Start

end RunCostGuard

end OperateBench.Boundary
