import OperateBench.ExecutionLedger.Completions

/-! # The fragments that a crash can leave

A step of the scan takes the first character off the texts that complete its state, and each state
that is not complete has one in ASCII. The scan accepts the proper prefixes of objects.
-/

namespace OperateBench.ExecutionLedger.Tail

open Foundation Foundation.Json

section Tokens

namespace Machine

variable {m m' : Machine} {c : CodePoint} {w : Text}

/-- The token goes on inside of the same containers. -/
theorem Sound.goOn {lexical lexical' : Lexical} {digits : ℕ} (hs : m.Sound)
    (hm : m.lexical = some lexical')
    (hl : LexicalSound { m with lexical := some lexical, unicodeDigits := digits } lexical) :
    Sound { m with lexical := some lexical, unicodeDigits := digits } := by
  constructor
  · exact hs.complete
  · rintro lexical ⟨⟩
    exact ⟨(hs.inside _ hm).1, hl⟩

/-- The token ends. -/
theorem Sound.finish (hs : m.Sound) : Sound { m with lexical := none } :=
  ⟨hs.complete, nofun⟩

theorem Sound.stringEnd (hs : m.Sound) :
    Sound (if m.stringRole = .key then Machine.setPhase { m with lexical := none } .colon
      else { m with lexical := none }) := by
  split
  · constructor
    · rw [Machine.setPhase]
      refine hs.complete.trans ?_
      dsimp only
      cases m.stack <;> simp
    · rintro _ ⟨⟩
  · exact hs.finish

theorem step_steps (hs : m.Sound) (hn : ∀ first, m.lexical ≠ some (.number first))
    (h : m.step c = some m') : Steps m c m' := by
  rw [step] at h
  cases hl : m.lexical with
  | none =>
    rw [hl] at h
    dsimp only at h
    split at h
    · cases h
    · rename_i hc
      have hne : m.stack ≠ [] := fun hstack => hc (hs.complete.mpr hstack)
      split at h
      · rename_i hspace
        cases h
        refine ⟨hs, fun w => ?_⟩
        rw [Completed, hl]
        exact closes_space hspace hne
      · rename_i hspace
        exact structural_steps hl (by simpa using hc) hspace h
  | some lexical =>
    rw [hl] at h
    have hinside := hs.inside lexical hl
    cases lexical with
    | string =>
      have hcompleted : m.Completed = InString m.AfterString := by rw [Completed, hl]
      dsimp only at h
      split at h
      · rename_i hq
        subst hq
        cases h
        refine ⟨hs.stringEnd, fun w => ?_⟩
        rw [hcompleted, inString_quotationMark, AfterString]
        split <;> rfl
      · rename_i hq
        split at h
        · rename_i he
          subst he
          cases h
          refine ⟨hs.goOn hl trivial, fun w => ?_⟩
          rw [hcompleted]
          exact inString_escape
        · rename_i he
          split at h
          · cases h
          · rename_i hlow
            cases h
            have hhigh : 0x20 ≤ c := Nat.not_lt.mp hlow
            refine ⟨hs, fun w => ?_⟩
            rw [hcompleted, inString_other hq he, and_iff_right hhigh]
    | escape =>
      have hcompleted : m.Completed = InEscape m.AfterString := by rw [Completed, hl]
      dsimp only at h
      split at h
      · rename_i hu
        subst hu
        cases h
        refine ⟨hs.goOn hl (by decide : 0 < 4), fun w => ?_⟩
        rw [hcompleted, InEscape]
        simp +decide only [true_and, false_and, false_or]
        rfl
      · rename_i hu
        split at h
        · rename_i he
          cases h
          refine ⟨hs.goOn hl trivial, fun w => ?_⟩
          rw [hcompleted, InEscape]
          simp only [he, hu, true_and, false_and, or_false]
          rfl
        · cases h
    | unicode =>
      have hcompleted : m.Completed = InHex (4 - m.unicodeDigits) m.AfterString := by
        rw [Completed, hl]
      have hlt : m.unicodeDigits < 4 := hinside.2
      have hleft : 4 - m.unicodeDigits = 4 - (m.unicodeDigits + 1) + 1 := by omega
      dsimp only at h
      split at h
      · cases h
      · rename_i hhex
        rw [not_not] at hhex
        split at h
        · rename_i hfour
          cases h
          refine ⟨hs.goOn hl trivial, fun w => ?_⟩
          rw [hcompleted, hleft, InHex, and_iff_right hhex, hfour]
          rfl
        · rename_i hfour
          cases h
          refine ⟨?_, fun w => ?_⟩
          · have hnext : m.unicodeDigits + 1 < 4 := by omega
            exact hs.goOn hl hnext
          · rw [hcompleted, hleft, InHex, and_iff_right hhex, Completed]
            rfl
    | literal target position =>
      have hcompleted : m.Completed =
          fun w => ∃ b, w = target.drop position ++ b ∧ Closes m.stack b := by
        rw [Completed, hl]
      obtain ⟨hlt, hascii⟩ : position < target.length ∧ Ascii target := hinside.2
      dsimp only at h
      split at h
      · cases h
      · rename_i hget
        rw [not_not] at hget
        have hdrop : target.drop position = c :: target.drop (position + 1) := by
          rw [List.drop_eq_getElem_cons hlt]
          rw [List.getElem?_eq_getElem hlt] at hget
          rw [Option.some.inj hget]
        split at h
        · rename_i hend
          cases h
          refine ⟨hs.finish, fun w => ?_⟩
          rw [hcompleted, hdrop, hend, List.drop_length]
          dsimp only
          rw [literal_cons, and_iff_right rfl]
          constructor
          · rintro ⟨b, rfl, hb⟩
            exact hb
          · intro hw
            exact ⟨w, rfl, hw⟩
        · rename_i hend
          cases h
          refine ⟨hs.goOn hl ⟨by omega, hascii⟩, fun w => ?_⟩
          rw [hcompleted, hdrop]
          dsimp only
          rw [literal_cons, and_iff_right rfl]
          rfl
    | number first => exact absurd hl (hn first)

theorem step_none (hs : m.Sound) (hn : ∀ first, m.lexical ≠ some (.number first))
    (h : m.step c = none) : ¬m.Completed (c :: w) := by
  rw [step] at h
  cases hl : m.lexical with
  | none =>
    rw [hl] at h
    dsimp only at h
    rw [Completed, hl]
    split at h
    · rename_i hc
      rw [hs.complete.mp hc]
      exact List.cons_ne_nil c w
    · rename_i hc
      split at h
      · cases h
      · rename_i hspace
        exact structural_none (fun hstack => hc (hs.complete.mpr hstack)) hspace h
  | some lexical =>
    rw [hl] at h
    have hinside := hs.inside lexical hl
    rw [Completed, hl]
    cases lexical with
    | string =>
      dsimp only at h ⊢
      split at h
      · cases h
      · rename_i hq
        split at h
        · cases h
        · rename_i he
          split at h
          · rename_i hlow
            rw [inString_other hq he]
            rintro ⟨hhigh, -⟩
            exact absurd hlow (Nat.not_lt.mpr hhigh)
          · cases h
    | escape =>
      dsimp only at h ⊢
      split at h
      · cases h
      · rename_i hu
        split at h
        · cases h
        · rename_i he
          rintro (⟨hc, -⟩ | ⟨hc, -⟩)
          · exact he hc
          · exact hu hc
    | unicode =>
      have hlt : m.unicodeDigits < 4 := hinside.2
      have hleft : 4 - m.unicodeDigits = 4 - (m.unicodeDigits + 1) + 1 := by omega
      dsimp only at h ⊢
      split at h
      · rename_i hhex
        rw [hleft, InHex]
        rintro ⟨hc, -⟩
        exact hhex hc
      · split at h <;> cases h
    | literal target position =>
      obtain ⟨hlt, -⟩ : position < target.length ∧ Ascii target := hinside.2
      dsimp only at h ⊢
      split at h
      · rename_i hget
        rw [List.drop_eq_getElem_cons hlt]
        intro hw
        rw [List.getElem?_eq_getElem hlt] at hget
        exact hget (congrArg some (literal_cons.mp hw).1.symm)
      · split at h <;> cases h
    | number first => exact absurd hl (hn first)

section Witnesses

/-- A shortest text that completes a container. -/
def closing : Kind × Phase → Text
  | (.object, .keyOrEnd) => [endObject]
  | (.object, .key) =>
    quoted [] ++ [nameSeparator, zero, endObject]
  | (.object, .colon) => [nameSeparator, zero, endObject]
  | (.object, .value) => [zero, endObject]
  | (.object, _) => [endObject]
  | (.array, .value) => [zero, endArray]
  | (.array, _) => [endArray]

theorem numeral_zero : Numeral [zero] :=
  ⟨[], [zero], [], [], rfl, .inl rfl, .inl rfl, .inl rfl, .inl rfl⟩

theorem completes_closing (frame : Kind × Phase) :
    Completes (position frame) (closing frame) := by
  have hzero : Completes .value [zero] := .number numeral_zero
  have hvalue : Completes .memberValue [zero, endObject] := .memberValue hzero .endObject
  obtain ⟨kind, phase⟩ := frame
  cases kind with
  | object =>
    cases phase with
    | keyOrEnd => exact .noMembers
    | key => exact .key .nil (.colon hvalue)
    | colon => exact .colon hvalue
    | value => exact hvalue
    | valueOrEnd | commaOrEnd => exact .endObject
  | array =>
    cases phase with
    | valueOrEnd => exact .noElements
    | value => exact .element hzero .endArray
    | keyOrEnd | key | colon | commaOrEnd => exact .endArray

theorem ascii_closing (frame : Kind × Phase) : Ascii (closing frame) := by
  obtain ⟨kind, phase⟩ := frame
  cases kind <;> cases phase <;> simp +decide only [closing, quoted, List.cons_append,
    List.nil_append, ascii_cons, Ascii.nil]

theorem exists_closes (stack : List (Kind × Phase)) : ∃ w, Ascii w ∧ Closes stack w := by
  induction stack with
  | nil => exact ⟨[], Ascii.nil, rfl⟩
  | cons frame below ih =>
    obtain ⟨w, ha, hw⟩ := ih
    exact ⟨closing frame ++ w, (ascii_closing frame).append ha, closing frame, w, rfl,
      completes_closing frame, hw⟩

theorem closes_ne_nil {stack : List (Kind × Phase)} (hs : stack ≠ []) (h : Closes stack w) :
    w ≠ [] := by
  match stack, hs with
  | frame :: below, _ =>
    obtain ⟨a, b, rfl, ha, -⟩ := h
    exact List.append_ne_nil_of_left_ne_nil ha.ne_nil b

theorem inHex_zeros {K : Text → Prop} (h : InString K w) (n : ℕ) :
    InHex n K (List.replicate n zero ++ w) := by
  induction n with
  | zero => exact h
  | succ n ih => exact ⟨by decide, ih⟩

theorem ascii_zeros (n : ℕ) : Ascii (List.replicate n zero) := by
  intro c hc
  rw [List.eq_of_mem_replicate hc]
  decide

/-- A machine that is not complete is completed by some text in ASCII. -/
theorem exists_completed (hs : m.Sound) (hc : m.complete = false) :
    ∃ w, w ≠ [] ∧ Ascii w ∧ m.Completed w := by
  rw [Completed]
  cases hl : m.lexical with
  | none =>
    obtain ⟨w, ha, hw⟩ := exists_closes m.stack
    refine ⟨w, closes_ne_nil ?_ hw, ha, hw⟩
    intro hstack
    rw [hs.complete.mpr hstack] at hc
    cases hc
  | some lexical =>
    obtain ⟨hne, hsound⟩ := hs.inside lexical hl
    obtain ⟨w, ha, hw⟩ : ∃ w, Ascii w ∧ m.AfterString w := exists_closes _
    have hstring : InString m.AfterString (quotationMark :: w) := inString_quotationMark.mpr hw
    have hquote : Ascii (quotationMark :: w) := ascii_cons.mpr ⟨by decide, ha⟩
    cases lexical with
    | string => exact ⟨_, List.cons_ne_nil _ _, hquote, hstring⟩
    | escape =>
      exact ⟨quotationMark :: quotationMark :: w, List.cons_ne_nil _ _,
        ascii_cons.mpr ⟨by decide, hquote⟩, .inl ⟨.inl rfl, hstring⟩⟩
    | unicode =>
      exact ⟨_, List.append_ne_nil_of_right_ne_nil _ (List.cons_ne_nil _ _),
        (ascii_zeros _).append hquote, inHex_zeros hstring _⟩
    | literal target position =>
      obtain ⟨hlt, hascii⟩ : position < target.length ∧ Ascii target := hsound
      obtain ⟨b, hb, hclose⟩ := exists_closes m.stack
      refine ⟨target.drop position ++ b, ?_, ?_, b, rfl, hclose⟩
      · exact List.append_ne_nil_of_right_ne_nil _ (closes_ne_nil hne hclose)
      · exact Ascii.append (fun c hc => hascii c (List.mem_of_mem_drop hc)) hb
    | number first =>
      obtain ⟨b, hb, hclose⟩ := exists_closes m.stack
      obtain ⟨hfirst, -⟩ : (first = minus ∨ Digit first) ∧ _ := hsound
      have hzero : IntegralThen (Closes m.stack) (zero :: b) :=
        integralThen_zero.mpr (fractionThen_of hclose)
      rcases hfirst with rfl | hdigit
      · exact ⟨zero :: b, List.cons_ne_nil _ _, ascii_cons.mpr ⟨by decide, hb⟩,
          numeralThen_minus.mpr hzero⟩
      · have hnumeral : Numeral [first] := by
          refine ⟨[], [first], [], [], rfl, .inl rfl, ?_, .inl rfl, .inl rfl⟩
          by_cases hz : first = zero
          · exact .inl (by rw [hz])
          · refine .inr ⟨first, [], rfl, ⟨?_, hdigit.2⟩, by simp⟩
            have hne : first.val ≠ 0x30 := fun h => hz (Fin.ext h)
            have hle : 0x30 ≤ first.val := hdigit.1
            change 0x31 ≤ first.val
            omega
        exact ⟨b, closes_ne_nil hne hclose, hb, [first], b, rfl, hnumeral, hclose⟩

end Witnesses

end Machine

end Tokens

section Scan

variable {m : Machine} {w s : Text}

open Machine

theorem Machine.Sound.number_scans {first : CodePoint} (hs : m.Sound)
    (hl : m.lexical = some (.number first)) :
    Scans (Closes m.stack) (NumeralThen (Closes m.stack)) w (scanNumber w) := by
  obtain ⟨-, -, kind, below, hstack⟩ := hs.inside _ hl
  rw [hstack]
  exact scanNumber_scans (tail_delimited kind below)

/-- What the scan accepts is completed by some text in ASCII. -/
theorem scan_sound (hs : m.Sound) (h : scan m w = true) :
    ∃ s, s ≠ [] ∧ Ascii s ∧ m.Completed (w ++ s) := by
  fun_induction scan m w with
  | case1 m => exact exists_completed hs (by simpa using h)
  | case2 m c rest first hl hcut =>
    have hscans := hs.number_scans (w := first :: c :: rest) hl
    rw [hcut] at hscans
    obtain ⟨d, hd, hK⟩ := hscans
    obtain ⟨b, hb, hclose⟩ := exists_closes m.stack
    refine ⟨d ++ b, List.append_ne_nil_of_right_ne_nil _ (closes_ne_nil (hs.inside _ hl).1 hclose),
      hd.append hb, ?_⟩
    rw [Completed, hl]
    exact hK b hclose
  | case3 => cases h
  | case4 m c rest first hl behind hended ih =>
    have hscans := hs.number_scans (w := first :: c :: rest) hl
    rw [hended] at hscans
    obtain ⟨s, hne, ha, hbehind⟩ := ih hs.finish h
    refine ⟨s, hne, ha, ?_⟩
    rw [Completed, hl]
    exact hscans.1 s hbehind
  | case5 => cases h
  | case6 m c rest m' hstep hn ih =>
    obtain ⟨hsound, hcompleted⟩ := step_steps hs hn hstep
    obtain ⟨s, hne, ha, hrest⟩ := ih hsound h
    exact ⟨s, hne, ha, (hcompleted _).mpr hrest⟩

/-- What can be completed is accepted. -/
theorem scan_complete (hs : m.Sound) (hne : s ≠ []) (h : m.Completed (w ++ s)) :
    scan m w = true := by
  fun_induction scan m w with
  | case1 m =>
    rw [Bool.not_eq_true']
    by_contra hc
    rw [Bool.not_eq_false] at hc
    have hstack := hs.complete.mp hc
    have hnone : m.lexical = none := by
      cases hl : m.lexical with
      | none => rfl
      | some lexical => exact absurd hstack (hs.inside lexical hl).1
    rw [Completed, hnone, hstack] at h
    exact hne h
  | case2 => rfl
  | case3 m c rest first hl hrefused =>
    have hscans := hs.number_scans (w := first :: c :: rest) hl
    rw [hrefused] at hscans
    rw [Completed, hl] at h
    exact absurd h (hscans s)
  | case4 m c rest first hl behind hended ih =>
    have hscans := hs.number_scans (w := first :: c :: rest) hl
    rw [hended] at hscans
    cases behind with
    | nil =>
      rw [scan]
      have hc : m.complete ≠ true := fun hc => (hs.inside _ hl).1 (hs.complete.mp hc)
      simpa using hc
    | cons d behind =>
      rw [Completed, hl] at h
      exact ih hs.finish (hscans.2 (List.cons_ne_nil d behind) s h)
  | case5 m c rest hstep hn => exact absurd h (step_none hs hn hstep)
  | case6 m c rest m' hstep hn ih =>
    obtain ⟨hsound, hcompleted⟩ := step_steps hs hn hstep
    exact ih hsound ((hcompleted _).mp h)

theorem start_sound : Machine.Sound {} := ⟨by simp, nofun⟩

theorem completed_start : Machine.Completed {} w ↔ Completes .membersOrEnd w := by
  constructor
  · rintro ⟨a, b, rfl, ha, rfl⟩
    rw [List.append_nil]
    exact ha
  · intro h
    exact ⟨w, [], (List.append_nil w).symm, h, rfl⟩

/-- A text that is accepted goes on to an object in ASCII. -/
theorem recoverable_extends (hne : w ≠ []) (h : isRecoverableJsonObjectTextPrefix w = true) :
    ∃ s, s ≠ [] ∧ Ascii s ∧ IsObject (w ++ s) := by
  cases w with
  | nil => exact absurd rfl hne
  | cons c w =>
    rw [isRecoverableJsonObjectTextPrefix] at h
    split at h
    · rename_i hc
      subst hc
      obtain ⟨s, hs, ha, hcompleted⟩ := scan_sound start_sound h
      exact ⟨s, hs, ha, isObject_iff.mpr ⟨w ++ s, rfl, completed_start.mp hcompleted⟩⟩
    · cases h

theorem recoverable_of_object (hs : s ≠ []) (h : IsObject (w ++ s)) :
    isRecoverableJsonObjectTextPrefix w = true := by
  cases w with
  | nil => rfl
  | cons c w =>
    obtain ⟨r, hr, hcompletes⟩ := isObject_iff.mp h
    rw [List.cons_append, List.cons.injEq] at hr
    obtain ⟨rfl, rfl⟩ := hr
    rw [isRecoverableJsonObjectTextPrefix, if_pos rfl]
    exact scan_complete start_sound hs (completed_start.mpr hcompletes)

/-- The scan accepts nothing but the proper prefixes of objects. -/
theorem recoverable_iff : isRecoverableJsonObjectTextPrefix w = true ↔
    w = [] ∨ ∃ s, s ≠ [] ∧ IsObject (w ++ s) := by
  constructor
  · intro h
    by_cases hw : w = []
    · exact .inl hw
    · obtain ⟨s, hs, -, hobject⟩ := recoverable_extends hw h
      exact .inr ⟨s, hs, hobject⟩
  · rintro (rfl | ⟨s, hs, hobject⟩)
    · rfl
    · exact recoverable_of_object hs hobject

end Scan

end OperateBench.ExecutionLedger.Tail
