import OperateBench.Foundation.Json

/-! # What completes a JSON object

The grammar again, by what may follow inside of an open container. The two agree on the objects
that begin with their brace and end with it.
-/

namespace Foundation.Json

/-- Where a text stands: before a value, or inside the innermost open container. -/
inductive Position
  | value
  | membersOrEnd
  | member
  | colon
  | memberValue
  | memberTail
  | elementsOrEnd
  | element
  | elementTail
deriving DecidableEq

/-- The texts that a value is written as, and those that close the container. -/
inductive Completes : Position → Text → Prop
  | literal {w : Text} (h : w = nullText ∨ w = trueText ∨ w = falseText) : Completes .value w
  | number {w : Text} (h : Numeral w) : Completes .value w
  | string {body : Text} (h : Chars body) : Completes .value (quoted body)
  | object {w : Text} (h : Completes .membersOrEnd w) : Completes .value (beginObject :: w)
  | array {w : Text} (h : Completes .elementsOrEnd w) : Completes .value (beginArray :: w)
  | space {p : Position} {c : CodePoint} {w : Text} (hp : p ≠ .value) (hc : Space c)
      (h : Completes p w) : Completes p (c :: w)
  | noMembers : Completes .membersOrEnd [endObject]
  | firstMember {w : Text} (h : Completes .member w) : Completes .membersOrEnd w
  | key {key w : Text} (hk : Chars key) (h : Completes .colon w) :
      Completes .member (quoted key ++ w)
  | colon {w : Text} (h : Completes .memberValue w) : Completes .colon (nameSeparator :: w)
  | memberValue {v w : Text} (hv : Completes .value v) (h : Completes .memberTail w) :
      Completes .memberValue (v ++ w)
  | nextMember {w : Text} (h : Completes .member w) : Completes .memberTail (valueSeparator :: w)
  | endObject : Completes .memberTail [Json.endObject]
  | noElements : Completes .elementsOrEnd [endArray]
  | firstElement {w : Text} (h : Completes .element w) : Completes .elementsOrEnd w
  | element {v w : Text} (hv : Completes .value v) (h : Completes .elementTail w) :
      Completes .element (v ++ w)
  | nextElement {w : Text} (h : Completes .element w) :
      Completes .elementTail (valueSeparator :: w)
  | endArray : Completes .elementTail [Json.endArray]

section Forward

variable {p : Position} {a w : Text} {v : Json} {s : Symbol}

theorem Completes.blank (hp : p ≠ .value) (ha : Blank a) (h : Completes p w) :
    Completes p (a ++ w) := by
  induction a with
  | nil => exact h
  | cons c a ih =>
    exact .space hp (ha c List.mem_cons_self)
      (ih fun d hd => ha d (List.mem_cons_of_mem c hd))

/-- A value with the space around it. -/
def Padded (begins : Text → Prop) (w : Text) : Prop :=
  ∃ a x b, Blank a ∧ Blank b ∧ w = a ++ (x ++ b) ∧ begins x

/-- What a derived text is to the container around it. -/
def Fills : Symbol → Text → Prop
  | .value, w => Padded (Completes .value) w
  | .object, w => Padded (fun x => ∃ r, x = beginObject :: r ∧ Completes .membersOrEnd r) w
  | .array, w => Padded (fun x => ∃ r, x = beginArray :: r ∧ Completes .elementsOrEnd r) w
  | .member, w => ∀ r, Completes .memberTail r → Completes .member (w ++ r)
  | .members, w => ∀ r, Completes .memberTail r → Completes .member (w ++ r)
  | .elements, w => ∀ r, Completes .elementTail r → Completes .element (w ++ r)

theorem Blank.nil : Blank [] := nofun

theorem Padded.of (h : Completes .value w) : Padded (Completes .value) w :=
  ⟨[], w, [], Blank.nil, Blank.nil, by simp, h⟩

/-- A padded value followed by what may follow it. -/
theorem Padded.memberValue (h : Padded (Completes .value) w) {r : Text}
    (hr : Completes .memberTail r) : Completes .memberValue (w ++ r) := by
  obtain ⟨a, x, b, ha, hb, rfl, hx⟩ := h
  have htail : Completes .memberTail (b ++ r) := hr.blank (by nofun) hb
  have hvalue : Completes .memberValue (a ++ (x ++ (b ++ r))) :=
    (Completes.memberValue hx htail).blank (by nofun) ha
  simpa only [List.append_assoc] using hvalue

theorem Padded.element (h : Padded (Completes .value) w) {r : Text}
    (hr : Completes .elementTail r) : Completes .element (w ++ r) := by
  obtain ⟨a, x, b, ha, hb, rfl, hx⟩ := h
  have htail : Completes .elementTail (b ++ r) := hr.blank (by nofun) hb
  have hvalue : Completes .element (a ++ (x ++ (b ++ r))) :=
    (Completes.element hx htail).blank (by nofun) ha
  simpa only [List.append_assoc] using hvalue

theorem Derives.fills (h : Derives s v w) : Fills s w := by
  induction h with
  | null => exact Padded.of (.literal (.inl rfl))
  | true => exact Padded.of (.literal (.inr (.inl rfl)))
  | false => exact Padded.of (.literal (.inr (.inr rfl)))
  | number hn => exact Padded.of (.number hn)
  | string hs => exact Padded.of (.string hs)
  | ofObject _ ih =>
    obtain ⟨a, x, b, ha, hb, rfl, r, rfl, hr⟩ := ih
    exact ⟨a, _, b, ha, hb, rfl, .object hr⟩
  | ofArray _ ih =>
    obtain ⟨a, x, b, ha, hb, rfl, r, rfl, hr⟩ := ih
    exact ⟨a, _, b, ha, hb, rfl, .array hr⟩
  | emptyObject ha hb =>
    obtain ⟨a, a', ha, ha', rfl⟩ := ha
    obtain ⟨b, b', hb, hb', rfl⟩ := hb
    refine ⟨a, beginObject :: (a' ++ (b ++ [Json.endObject])), b', ha, hb', by simp, _, rfl, ?_⟩
    exact (Completes.noMembers.blank (by nofun) hb).blank (by nofun) ha'
  | object ha _ hb ih =>
    obtain ⟨a, a', ha, ha', rfl⟩ := ha
    obtain ⟨b, b', hb, hb', rfl⟩ := hb
    have hend : Completes .memberTail (b ++ [Json.endObject]) :=
      Completes.endObject.blank (by nofun) hb
    refine ⟨a, beginObject :: (a' ++ (_ ++ (b ++ [Json.endObject]))), b', ha, hb', ?_, _, rfl,
      (Completes.firstMember (ih _ hend)).blank (by nofun) ha'⟩
    simp
  | member hk hs _ ih =>
    obtain ⟨a, a', ha, ha', rfl⟩ := hs
    intro r hr
    have hcolon := (Completes.colon ((ih.memberValue hr).blank (by nofun) ha')).blank (by nofun) ha
    simpa using Completes.key hk hcolon
  | lastMember _ ih => exact ih
  | moreMembers _ hs _ ih ih' =>
    obtain ⟨a, a', ha, ha', rfl⟩ := hs
    intro r hr
    have hnext := (Completes.nextMember ((ih' r hr).blank (by nofun) ha')).blank (by nofun) ha
    simpa using ih _ hnext
  | emptyArray ha hb =>
    obtain ⟨a, a', ha, ha', rfl⟩ := ha
    obtain ⟨b, b', hb, hb', rfl⟩ := hb
    refine ⟨a, beginArray :: (a' ++ (b ++ [Json.endArray])), b', ha, hb', by simp, _, rfl, ?_⟩
    exact (Completes.noElements.blank (by nofun) hb).blank (by nofun) ha'
  | array ha _ hb ih =>
    obtain ⟨a, a', ha, ha', rfl⟩ := ha
    obtain ⟨b, b', hb, hb', rfl⟩ := hb
    have hend : Completes .elementTail (b ++ [Json.endArray]) :=
      Completes.endArray.blank (by nofun) hb
    refine ⟨a, beginArray :: (a' ++ (_ ++ (b ++ [Json.endArray]))), b', ha, hb', ?_, _, rfl,
      (Completes.firstElement (ih _ hend)).blank (by nofun) ha'⟩
    simp
  | lastElement _ ih =>
    intro r hr
    exact ih.element hr
  | moreElements _ hs _ ih ih' =>
    obtain ⟨a, a', ha, ha', rfl⟩ := hs
    intro r hr
    have hnext := (Completes.nextElement ((ih' r hr).blank (by nofun) ha')).blank (by nofun) ha
    simpa using ih.element hnext

end Forward

section Backward

variable {p : Position} {w : Text}

/-- The members that are left, up to the end of the object. -/
def Members (w : Text) : Prop :=
  ∃ a x b ms, Blank a ∧ Blank b ∧ Derives .members (.object ms) x ∧
    w = a ++ (x ++ (b ++ [Json.endObject]))

def Elements (w : Text) : Prop :=
  ∃ a x b vs, Blank a ∧ Blank b ∧ Derives .elements (.array vs) x ∧
    w = a ++ (x ++ (b ++ [Json.endArray]))

def MemberTail (w : Text) : Prop :=
  (∃ a, Blank a ∧ w = a ++ [Json.endObject]) ∨
    ∃ a r, Blank a ∧ w = a ++ valueSeparator :: r ∧ Members r

def ElementTail (w : Text) : Prop :=
  (∃ a, Blank a ∧ w = a ++ [Json.endArray]) ∨
    ∃ a r, Blank a ∧ w = a ++ valueSeparator :: r ∧ Elements r

def MemberValue (w : Text) : Prop :=
  ∃ a x r v, Blank a ∧ Derives .value v x ∧ MemberTail r ∧ w = a ++ (x ++ r)

/-- What a completion is made of. -/
def MadeOf : Position → Text → Prop
  | .value, w => ∃ v, Derives .value v w
  | .membersOrEnd, w => (∃ a, Blank a ∧ w = a ++ [Json.endObject]) ∨ Members w
  | .member, w => Members w
  | .colon, w => ∃ a r, Blank a ∧ w = a ++ nameSeparator :: r ∧ MemberValue r
  | .memberValue, w => MemberValue w
  | .memberTail, w => MemberTail w
  | .elementsOrEnd, w => (∃ a, Blank a ∧ w = a ++ [Json.endArray]) ∨ Elements w
  | .element, w => Elements w
  | .elementTail, w => ElementTail w

theorem Blank.cons {c : CodePoint} {a : Text} (hc : Space c) (ha : Blank a) : Blank (c :: a) := by
  intro d hd
  rcases List.mem_cons.mp hd with rfl | hd
  · exact hc
  · exact ha d hd

theorem Members.space {c : CodePoint} (hc : Space c) (h : Members w) : Members (c :: w) := by
  obtain ⟨a, x, b, ms, ha, hb, hx, rfl⟩ := h
  exact ⟨c :: a, x, b, ms, ha.cons hc, hb, hx, rfl⟩

theorem Elements.space {c : CodePoint} (hc : Space c) (h : Elements w) : Elements (c :: w) := by
  obtain ⟨a, x, b, vs, ha, hb, hx, rfl⟩ := h
  exact ⟨c :: a, x, b, vs, ha.cons hc, hb, hx, rfl⟩

theorem MadeOf.space {c : CodePoint} (hc : Space c) (hp : p ≠ .value) (h : MadeOf p w) :
    MadeOf p (c :: w) := by
  cases p with
  | value => exact absurd rfl hp
  | membersOrEnd =>
    rcases h with ⟨a, ha, rfl⟩ | h
    · exact .inl ⟨c :: a, ha.cons hc, rfl⟩
    · exact .inr (h.space hc)
  | member => exact Members.space hc h
  | colon =>
    obtain ⟨a, r, ha, rfl, hr⟩ := h
    exact ⟨c :: a, r, ha.cons hc, rfl, hr⟩
  | memberValue =>
    obtain ⟨a, x, r, v, ha, hx, hr, rfl⟩ := h
    exact ⟨c :: a, x, r, v, ha.cons hc, hx, hr, rfl⟩
  | memberTail =>
    rcases h with ⟨a, ha, rfl⟩ | ⟨a, r, ha, rfl, hr⟩
    · exact .inl ⟨c :: a, ha.cons hc, rfl⟩
    · exact .inr ⟨c :: a, r, ha.cons hc, rfl, hr⟩
  | elementsOrEnd =>
    rcases h with ⟨a, ha, rfl⟩ | h
    · exact .inl ⟨c :: a, ha.cons hc, rfl⟩
    · exact .inr (h.space hc)
  | element => exact Elements.space hc h
  | elementTail =>
    rcases h with ⟨a, ha, rfl⟩ | ⟨a, r, ha, rfl, hr⟩
    · exact .inl ⟨c :: a, ha.cons hc, rfl⟩
    · exact .inr ⟨c :: a, r, ha.cons hc, rfl, hr⟩

/-- The last element and its tail make elements. -/
theorem Elements.of {v : Json} {x r : Text} (hx : Derives .value v x) (hr : ElementTail r) :
    Elements (x ++ r) := by
  rcases hr with ⟨a, ha, rfl⟩ | ⟨a, r, ha, rfl, b, y, b', vs, hb, hb', hy, rfl⟩
  · exact ⟨[], x, a, [v], Blank.nil, ha, .lastElement hx, rfl⟩
  · refine ⟨[], x ++ ((a ++ valueSeparator :: b) ++ y), b', v :: vs, Blank.nil, hb',
      .moreElements hx ⟨a, b, ha, hb, rfl⟩ hy, by simp⟩

/-- A member and the tail behind it make members. -/
theorem Members.of {key a r : Text} (hk : Chars key) (ha : Blank a) (hr : MemberValue r) :
    Members (quoted key ++ (a ++ nameSeparator :: r)) := by
  obtain ⟨a', x, r, v, ha', hx, hr, rfl⟩ := hr
  have hmember := Derives.member hk ⟨a, a', ha, ha', rfl⟩ hx
  rcases hr with ⟨b, hb, rfl⟩ | ⟨b, r, hb, rfl, d, y, d', ms, hd, hd', hy, rfl⟩
  · exact ⟨[], _, b, _, Blank.nil, hb, .lastMember hmember, by simp⟩
  · exact ⟨[], _, d', _, Blank.nil, hd', .moreMembers hmember ⟨b, d, hb, hd, rfl⟩ hy, by simp⟩

theorem Completes.madeOf (h : Completes p w) : MadeOf p w := by
  induction h with
  | literal h =>
    rcases h with rfl | rfl | rfl
    · exact ⟨_, .null⟩
    · exact ⟨_, .true⟩
    · exact ⟨_, .false⟩
  | number h => exact ⟨_, .number h⟩
  | string h => exact ⟨_, .string h⟩
  | object _ ih =>
    rcases ih with ⟨a, ha, rfl⟩ | ⟨a, x, b, ms, ha, hb, hx, rfl⟩
    · exact ⟨_, .ofObject (.emptyObject ⟨[], a, Blank.nil, ha, rfl⟩
        ⟨[], [], Blank.nil, Blank.nil, rfl⟩)⟩
    · have hend : Structural Json.endObject (b ++ [Json.endObject]) :=
        ⟨b, [], hb, Blank.nil, rfl⟩
      exact ⟨_, .ofObject (.object ⟨[], a, Blank.nil, ha, rfl⟩ hx hend)⟩
  | array _ ih =>
    rcases ih with ⟨a, ha, rfl⟩ | ⟨a, x, b, vs, ha, hb, hx, rfl⟩
    · exact ⟨_, .ofArray (.emptyArray ⟨[], a, Blank.nil, ha, rfl⟩
        ⟨[], [], Blank.nil, Blank.nil, rfl⟩)⟩
    · have hend : Structural Json.endArray (b ++ [Json.endArray]) := ⟨b, [], hb, Blank.nil, rfl⟩
      exact ⟨_, .ofArray (.array ⟨[], a, Blank.nil, ha, rfl⟩ hx hend)⟩
  | space hp hc _ ih => exact ih.space hc hp
  | noMembers => exact .inl ⟨[], Blank.nil, rfl⟩
  | firstMember _ ih => exact .inr ih
  | key hk _ ih =>
    obtain ⟨a, r, ha, rfl, hr⟩ := ih
    exact Members.of hk ha hr
  | colon _ ih => exact ⟨[], _, Blank.nil, rfl, ih⟩
  | memberValue _ _ ihv ih =>
    obtain ⟨v, hv⟩ := ihv
    exact ⟨[], _, _, v, Blank.nil, hv, ih, rfl⟩
  | nextMember _ ih => exact .inr ⟨[], _, Blank.nil, rfl, ih⟩
  | endObject => exact .inl ⟨[], Blank.nil, rfl⟩
  | noElements => exact .inl ⟨[], Blank.nil, rfl⟩
  | firstElement _ ih => exact .inr ih
  | element _ _ ihv ih =>
    obtain ⟨v, hv⟩ := ihv
    exact Elements.of hv ih
  | nextElement _ ih => exact .inr ⟨[], _, Blank.nil, rfl, ih⟩
  | endArray => exact .inl ⟨[], Blank.nil, rfl⟩

end Backward

section Objects

/-- A text that is one object, without space before its first brace or behind its last. -/
def IsObject (w : Text) : Prop :=
  (∃ v, Derives .object v w) ∧ w.head? = some beginObject ∧ w.getLast? = some endObject

theorem isObject_iff {w : Text} :
    IsObject w ↔ ∃ r, w = beginObject :: r ∧ Completes .membersOrEnd r := by
  constructor
  · rintro ⟨⟨v, hv⟩, hhead, hlast⟩
    obtain ⟨a, x, b, ha, hb, rfl, r, rfl, hr⟩ : Fills .object w := hv.fills
    have hanil : a = [] := by
      cases a with
      | nil => rfl
      | cons c a =>
        obtain rfl := Option.some.inj hhead
        have hspace : Space beginObject := ha beginObject List.mem_cons_self
        exact absurd hspace (by decide)
    have hbnil : b = [] := by
      rcases List.eq_nil_or_concat b with rfl | ⟨b, c, rfl⟩
      · rfl
      · have hc : c = endObject := by simpa [List.getLast?_cons] using hlast
        have hspace : Space c := hb c (by simp)
        rw [hc] at hspace
        exact absurd hspace (by decide)
    subst hanil hbnil
    exact ⟨r, by simp, hr⟩
  · rintro ⟨r, rfl, hr⟩
    have hmade : MadeOf .membersOrEnd r := hr.madeOf
    rcases hmade with ⟨a, ha, rfl⟩ | ⟨a, x, b, ms, ha, hb, hx, rfl⟩
    · refine ⟨⟨_, .emptyObject ⟨[], a, Blank.nil, ha, rfl⟩ ⟨[], [], Blank.nil, Blank.nil, rfl⟩⟩,
        rfl, ?_⟩
      simp [List.getLast?_cons]
    · have hend : Structural Json.endObject (b ++ [Json.endObject]) :=
        ⟨b, [], hb, Blank.nil, rfl⟩
      refine ⟨⟨_, .object ⟨[], a, Blank.nil, ha, rfl⟩ hx hend⟩, rfl, ?_⟩
      simp [List.getLast?_cons]

end Objects

end Foundation.Json
