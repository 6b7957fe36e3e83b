import OperateBench.Foundation.JsonContinuations
import OperateBench.ExecutionLedger.Numerals

/-! # What completes a state of the scan

For each state of the scan, the texts that complete it. Between two tokens, a step of the scan takes
the first character off these texts.
-/

namespace OperateBench.ExecutionLedger.Tail

open Foundation Foundation.Json

section Completions

/-- Where a container stands. -/
def position : Kind × Phase → Position
  | (.object, .keyOrEnd) => .membersOrEnd
  | (.object, .key) => .member
  | (.object, .colon) => .colon
  | (.object, .value) => .memberValue
  | (.object, _) => .memberTail
  | (.array, .valueOrEnd) => .elementsOrEnd
  | (.array, .value) => .element
  | (.array, _) => .elementTail

/-- The texts that close the open containers, the innermost first. -/
def Closes : List (Kind × Phase) → Text → Prop
  | [] => fun w => w = []
  | frame :: below => Ends (position frame) (Closes below)

namespace Machine

/-- The texts that complete the machine behind the string that it is inside of. -/
def AfterString (m : Machine) : Text → Prop :=
  Closes (if m.stringRole = .key then (m.setPhase .colon).stack else m.stack)

/-- The texts that complete the machine. -/
def Completed (m : Machine) : Text → Prop :=
  match m.lexical with
  | none => Closes m.stack
  | some .string => InString m.AfterString
  | some .escape => InEscape m.AfterString
  | some .unicode => InHex (4 - m.unicodeDigits) m.AfterString
  | some (.literal target position) => fun w => ∃ b, w = target.drop position ++ b ∧ Closes m.stack b
  | some (.number first) => fun w => NumeralThen (Closes m.stack) (first :: w)

/-- What holds of a token. -/
def LexicalSound (m : Machine) : Lexical → Prop
  | .unicode => m.unicodeDigits < 4
  | .literal target position => position < target.length ∧ Ascii target
  | .number first => (first = minus ∨ Digit first) ∧
      ∃ kind below, m.stack = (kind, .commaOrEnd) :: below
  | _ => True

structure Sound (m : Machine) : Prop where
  complete : m.complete = true ↔ m.stack = []
  inside : ∀ lexical, m.lexical = some lexical → m.stack ≠ [] ∧ m.LexicalSound lexical

variable {m m' : Machine} {c : CodePoint} {w : Text}

theorem closes_space {stack : List (Kind × Phase)} (hc : Space c) (hs : stack ≠ []) :
    Closes stack (c :: w) ↔ Closes stack w := by
  match stack, hs with
  | frame :: below, _ =>
    apply ends_space hc
    obtain ⟨kind, phase⟩ := frame
    cases kind <;> cases phase <;> nofun

theorem position_tail (kind : Kind) :
    position (kind, .commaOrEnd) = .memberTail ∨ position (kind, .commaOrEnd) = .elementTail := by
  cases kind
  · exact .inl rfl
  · exact .inr rfl

theorem tail_delimited (kind : Kind) (below : List (Kind × Phase)) :
    Delimited (Closes ((kind, .commaOrEnd) :: below)) := by
  intro w hw
  cases w with
  | nil =>
    obtain ⟨a, b, hab, ha, -⟩ := hw
    exact absurd (List.append_eq_nil_iff.mp hab.symm).1 ha.ne_nil
  | cons c w =>
    refine ⟨c, w, rfl, ?_⟩
    by_cases hc : Space c
    · exact .inl hc
    · cases kind with
      | object =>
        rcases (ends_memberTail hc).mp hw with ⟨rfl, -⟩ | ⟨rfl, -⟩
        · exact .inr (.inl rfl)
        · exact .inr (.inr (.inr rfl))
      | array =>
        rcases (ends_elementTail hc).mp hw with ⟨rfl, -⟩ | ⟨rfl, -⟩
        · exact .inr (.inl rfl)
        · exact .inr (.inr (.inl rfl))

/-- A step keeps the machine sound and takes the character off what completes it. -/
structure Steps (m : Machine) (c : CodePoint) (m' : Machine) : Prop where
  sound : m'.Sound
  completed : ∀ w, m.Completed (c :: w) ↔ m'.Completed w

/-- What begins at the character is a value, and then the texts of `K`. -/
structure Begins (K : Text → Prop) (c : CodePoint) (m' : Machine) : Prop where
  sound : m'.Sound
  completed : ∀ w, Ends .value K (c :: w) ↔ m'.Completed w

theorem ascii_nullText : Ascii nullText := by
  simp +decide only [nullText, ascii_cons, Ascii.nil]

theorem ascii_trueText : Ascii trueText := by
  simp +decide only [trueText, ascii_cons, Ascii.nil]

theorem ascii_falseText : Ascii falseText := by
  simp +decide only [falseText, ascii_cons, Ascii.nil]

/-- The state of a container behind the value that begins. -/
theorem setPhase_of {kind : Kind} {phase phase' : Phase} {below : List (Kind × Phase)}
    (hstack : m.stack = (kind, phase) :: below) :
    m.setPhase phase' = { m with stack := (kind, phase') :: below } := by
  rw [setPhase, hstack]

/-- A token inside of an open container. -/
theorem Sound.token {kind : Kind} {phase : Phase} {below : List (Kind × Phase)}
    {lexical : Lexical} {role : StringRole} (hc : m.complete = false)
    (hl : LexicalSound { m with
      stack := (kind, phase) :: below
      lexical := some lexical
      stringRole := role } lexical) :
    Sound { m with
      stack := (kind, phase) :: below
      lexical := some lexical
      stringRole := role } := by
  constructor
  · simp [hc]
  · rintro lexical ⟨⟩
    exact ⟨List.cons_ne_nil _ _, hl⟩

theorem Sound.between {stack : List (Kind × Phase)} (hl : m.lexical = none)
    (hc : m.complete = stack.isEmpty) : Sound { m with stack := stack } := by
  constructor
  · rw [hc, List.isEmpty_iff]
  · intro lexical h
    rw [hl] at h
    cases h

theorem beginValue_begins {kind : Kind} {phase : Phase} {below : List (Kind × Phase)}
    (hstack : m.stack = (kind, phase) :: below) (hc : m.complete = false) (hl : m.lexical = none)
    (h : m.beginValue c = some m') : Begins (Closes ((kind, .commaOrEnd) :: below)) c m' := by
  rw [beginValue, setPhase_of hstack] at h
  dsimp only at h
  split at h
  · rename_i hq
    subst hq
    cases h
    exact ⟨Sound.token hc trivial, fun w => ends_value_string⟩
  split at h
  · rename_i hq
    subst hq
    cases h
    refine ⟨Sound.between hl hc, fun w => ?_⟩
    rw [ends_value_object, Completed, push, hl]
    rfl
  split at h
  · rename_i hq
    subst hq
    cases h
    refine ⟨Sound.between hl hc, fun w => ?_⟩
    rw [ends_value_array, Completed, push, hl]
    rfl
  split at h
  · rename_i hq
    subst hq
    cases h
    exact ⟨Sound.token hc ⟨by decide, ascii_trueText⟩, fun w => ends_value_true⟩
  split at h
  · rename_i hq
    subst hq
    cases h
    exact ⟨Sound.token hc ⟨by decide, ascii_falseText⟩, fun w => ends_value_false⟩
  split at h
  · rename_i hq
    subst hq
    cases h
    exact ⟨Sound.token hc ⟨by decide, ascii_nullText⟩, fun w => ends_value_null⟩
  split at h
  · rename_i hq
    cases h
    exact ⟨Sound.token hc ⟨hq, kind, below, rfl⟩, fun w => ends_value_number hq⟩
  · cases h

theorem beginValue_none {K : Text → Prop} (h : m.beginValue c = none) :
    ¬Ends .value K (c :: w) := by
  rw [ends_value_cases]
  rw [beginValue] at h
  split at h
  · cases h
  split at h
  · cases h
  split at h
  · cases h
  split at h
  · cases h
  split at h
  · cases h
  split at h
  · cases h
  split at h
  · cases h
  · rename_i hq ho ha ht hf hn hd
    simp only [hq, ho, ha, ht, hf, hn, hd, false_and, or_self, not_false_eq_true]

theorem Sound.pop (hl : m.lexical = none) : m.pop.Sound := by
  constructor
  · exact List.isEmpty_iff
  · intro lexical h
    have hnone : m.pop.lexical = none := hl
    rw [hnone] at h
    cases h

theorem completed_pop {kind : Kind} {phase : Phase} {below : List (Kind × Phase)}
    (hstack : m.stack = (kind, phase) :: below) (hl : m.lexical = none) :
    m.pop.Completed = Closes below := by
  rw [Completed, Machine.pop, hl, hstack]
  rfl

theorem completed_setPhase {kind : Kind} {phase phase' : Phase} {below : List (Kind × Phase)}
    (hstack : m.stack = (kind, phase) :: below) (hl : m.lexical = none) :
    (m.setPhase phase').Completed = Closes ((kind, phase') :: below) := by
  rw [setPhase_of hstack, Completed, hl]

theorem Sound.setPhase {kind : Kind} {phase phase' : Phase} {below : List (Kind × Phase)}
    (hstack : m.stack = (kind, phase) :: below) (hl : m.lexical = none)
    (hc : m.complete = false) : (m.setPhase phase').Sound := by
  rw [setPhase_of hstack]
  exact Sound.between hl hc

/-- The name of a member begins. -/
theorem key_steps (phase : Phase) (below : List (Kind × Phase)) (hc : m.complete = false) :
    Sound { m with
        stack := (.object, phase) :: below
        lexical := some .string
        stringRole := .key } ∧
      ∀ w, Ends .member (Closes below) (quotationMark :: w) ↔
        Completed { m with
          stack := (.object, phase) :: below
          lexical := some .string
          stringRole := .key } w := by
  constructor
  · exact Sound.token hc trivial
  · intro w
    rw [ends_member (by decide), and_iff_right rfl]
    rfl

/-- What a step does between two tokens. -/
theorem structural_steps (hl : m.lexical = none) (hc : m.complete = false) (hspace : ¬Space c)
    (h : m.structural c = some m') : Steps m c m' := by
  have hcompleted : m.Completed = Closes m.stack := by rw [Completed, hl]
  cases hstack : m.stack with
  | nil =>
    rw [structural, hstack] at h
    cases h
  | cons frame below =>
    obtain ⟨kind, phase⟩ := frame
    rw [structural, hstack] at h
    rw [hstack] at hcompleted
    cases kind with
    | object =>
      cases phase with
      | keyOrEnd =>
        dsimp only at h
        split at h
        · rename_i hend
          obtain ⟨rfl, -⟩ := hend
          cases h
          refine ⟨Sound.pop hl, fun w => ?_⟩
          rw [hcompleted, completed_pop hstack hl]
          refine (ends_membersOrEnd hspace).trans ?_
          rw [ends_member hspace]
          simp +decide only [true_and, false_and, or_false]
        · rename_i hend
          split at h
          · rename_i hq
            subst hq
            cases h
            obtain ⟨hsound, hkey⟩ := key_steps _ below hc
            refine ⟨hsound, fun w => ?_⟩
            rw [hcompleted, ← hkey]
            refine (ends_membersOrEnd hspace).trans ?_
            simp +decide only [false_and, false_or]
          · cases h
      | key =>
        dsimp only at h
        split at h
        · rename_i hend
          cases hend.2
        · split at h
          · rename_i hq
            subst hq
            cases h
            obtain ⟨hsound, hkey⟩ := key_steps _ below hc
            refine ⟨hsound, fun w => ?_⟩
            rw [hcompleted, ← hkey]
            rfl
          · cases h
      | colon =>
        dsimp only at h
        split at h
        · rename_i hq
          cases h
          refine ⟨Sound.setPhase hstack hl hc, fun w => ?_⟩
          rw [hcompleted, completed_setPhase hstack hl]
          refine (ends_colon hspace).trans ?_
          rw [and_iff_right hq]
          rfl
        · cases h
      | value =>
        obtain ⟨hsound, hvalue⟩ := beginValue_begins hstack hc hl h
        refine ⟨hsound, fun w => ?_⟩
        rw [hcompleted, ← hvalue]
        exact ends_memberValue hspace
      | valueOrEnd | commaOrEnd =>
        dsimp only at h
        split at h
        · rename_i hq
          subst hq
          cases h
          refine ⟨Sound.setPhase hstack hl hc, fun w => ?_⟩
          rw [hcompleted, completed_setPhase hstack hl]
          refine (ends_memberTail hspace).trans ?_
          simp +decide only [true_and, false_and, or_false]
          rfl
        · split at h
          · rename_i hq
            subst hq
            cases h
            refine ⟨Sound.pop hl, fun w => ?_⟩
            rw [hcompleted, completed_pop hstack hl]
            refine (ends_memberTail hspace).trans ?_
            simp +decide only [true_and, false_and, false_or]
          · cases h
    | array =>
      cases phase with
      | valueOrEnd =>
        dsimp only at h
        split at h
        · rename_i hend
          obtain ⟨rfl, -⟩ := hend
          cases h
          refine ⟨Sound.pop hl, fun w => ?_⟩
          rw [hcompleted, completed_pop hstack hl]
          refine (ends_elementsOrEnd hspace).trans ?_
          rw [ends_element hspace, ends_value_cases]
          simp +decide only [true_and, false_and, or_false]
        · rename_i hend
          obtain ⟨hsound, hvalue⟩ := beginValue_begins hstack hc hl h
          refine ⟨hsound, fun w => ?_⟩
          rw [hcompleted, ← hvalue]
          refine (ends_elementsOrEnd hspace).trans ?_
          rw [ends_element hspace]
          have hne : c ≠ endArray := fun hc => hend ⟨hc, rfl⟩
          simp only [hne, false_and, false_or]
          rfl
      | value =>
        dsimp only at h
        split at h
        · rename_i hend
          cases hend.2
        · obtain ⟨hsound, hvalue⟩ := beginValue_begins hstack hc hl h
          refine ⟨hsound, fun w => ?_⟩
          rw [hcompleted, ← hvalue]
          exact ends_element hspace
      | keyOrEnd | key | colon | commaOrEnd =>
        dsimp only at h
        split at h
        · rename_i hq
          subst hq
          cases h
          refine ⟨Sound.setPhase hstack hl hc, fun w => ?_⟩
          rw [hcompleted, completed_setPhase hstack hl]
          refine (ends_elementTail hspace).trans ?_
          simp +decide only [true_and, false_and, or_false]
          rfl
        · split at h
          · rename_i hq
            subst hq
            cases h
            refine ⟨Sound.pop hl, fun w => ?_⟩
            rw [hcompleted, completed_pop hstack hl]
            refine (ends_elementTail hspace).trans ?_
            simp +decide only [true_and, false_and, false_or]
          · cases h

/-- A character that is refused between two tokens begins no completion. -/
theorem structural_none (hne : m.stack ≠ []) (hspace : ¬Space c) (h : m.structural c = none) :
    ¬Closes m.stack (c :: w) := by
  cases hstack : m.stack with
  | nil => exact absurd hstack hne
  | cons frame below =>
    obtain ⟨kind, phase⟩ := frame
    rw [structural, hstack] at h
    intro hw
    cases kind with
    | object =>
      cases phase with
      | keyOrEnd =>
        dsimp only at h
        split at h
        · cases h
        · split at h
          · cases h
          · rename_i hend hq
            rcases (ends_membersOrEnd hspace).mp hw with ⟨hc, -⟩ | hw
            · exact hend ⟨hc, rfl⟩
            · exact hq ((ends_member hspace).mp hw).1
      | key =>
        dsimp only at h
        split at h
        · cases h
        · split at h
          · cases h
          · rename_i hq
            exact hq ((ends_member hspace).mp hw).1
      | colon =>
        dsimp only at h
        split at h
        · cases h
        · rename_i hq
          exact hq ((ends_colon hspace).mp hw).1
      | value => exact beginValue_none h ((ends_memberValue hspace).mp hw)
      | valueOrEnd | commaOrEnd =>
        dsimp only at h
        split at h
        · cases h
        · split at h
          · cases h
          · rename_i hq hend
            rcases (ends_memberTail hspace).mp hw with ⟨hc, -⟩ | ⟨hc, -⟩
            · exact hq hc
            · exact hend hc
    | array =>
      cases phase with
      | valueOrEnd =>
        dsimp only at h
        split at h
        · cases h
        · rename_i hend
          rcases (ends_elementsOrEnd hspace).mp hw with ⟨hc, -⟩ | hw
          · exact hend ⟨hc, rfl⟩
          · exact beginValue_none h ((ends_element hspace).mp hw)
      | value =>
        dsimp only at h
        split at h
        · cases h
        · exact beginValue_none h ((ends_element hspace).mp hw)
      | keyOrEnd | key | colon | commaOrEnd =>
        dsimp only at h
        split at h
        · cases h
        · split at h
          · cases h
          · rename_i hq hend
            rcases (ends_elementTail hspace).mp hw with ⟨hc, -⟩ | ⟨hc, -⟩
            · exact hq hc
            · exact hend hc

end Machine

end Completions

end OperateBench.ExecutionLedger.Tail
