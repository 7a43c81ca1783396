import GrammarBench.Json.Reader
import Mathlib.Data.List.TakeWhile

/-!
# The reader is local

What the reader makes of a part of a text does not depend on what stands around it. Whenever it
reads a value from the front of some characters, it uses up a part of them that it reads as this
value anywhere else too (`ReadAs`), with any fuel from twice the length of the part on. So a whole
text is a value between gaps (`parse_eq_some_iff`).

For a number this needs that its end is seen, so what follows has to stop it (`Stops`); every other
value ends with a mark of its own. The characters of a value are taken apart once, in `IsValue`: one
constructor for each way in which `readValue` succeeds (`isValue_of_readValue`), and each of them is
read back with the fuel that its own characters allow (`IsValue.takes`).
-/

namespace GrammarBench.Json

/-! ## What ends a part -/

/-- What follows a text does not continue a number at its end. -/
def Stops (rest : List Char) : Prop :=
  ∀ c cs, rest = c :: cs → isDigit c = false ∧ c ≠ '.' ∧ c ≠ 'e' ∧ c ≠ 'E'

/-- No digit is at the front. -/
def NoDigit (cs : List Char) : Prop :=
  ∀ c ∈ cs.head?, isDigit c = false

theorem Stops.noDigit {rest : List Char} (h : Stops rest) : NoDigit rest := by
  intro c hc
  obtain ⟨cs, rfl⟩ := List.head?_eq_some_iff.mp hc
  exact (h c cs rfl).1

theorem Stops.head?_ne {rest : List Char} (h : Stops rest) : rest.head? ≠ some '.' := by
  intro hc
  obtain ⟨cs, rfl⟩ := List.head?_eq_some_iff.mp hc
  exact (h '.' cs rfl).2.1 rfl

def IsGaps (cs : List Char) : Prop :=
  ∀ c ∈ cs, isGap c = true

instance (cs : List Char) : Decidable (IsGaps cs) :=
  decidable_of_iff (cs.all isGap = true) List.all_eq_true

theorem isGaps_nil : IsGaps [] := by
  simp [IsGaps]

/-- A mark of the layout stops a number. -/
theorem stops_of_mark {gap rest : List Char} {mark : Char} (hgap : IsGaps gap)
    (hmark : mark = ',' ∨ mark = ']' ∨ mark = '\x7d') : Stops (gap ++ mark :: rest) := by
  intro c cs heq
  have hc : isGap c = true ∨ c = mark := by
    cases gap with
    | nil => exact .inr (List.cons.inj heq).1.symm
    | cons d ds => exact .inl ((List.cons.inj heq).1 ▸ hgap d List.mem_cons_self)
  have hone : c = ' ' ∨ c = '\n' ∨ c = '\t' ∨ c = '\r' ∨ c = ',' ∨ c = ']' ∨ c = '\x7d' := by
    rcases hc with hc | rfl
    · simp only [isGap, Bool.or_eq_true, beq_iff_eq] at hc
      rcases hc with ((hc | hc) | hc) | hc <;> simp [hc]
    · rcases hmark with hc | hc | hc <;> simp [hc]
  rcases hone with rfl | rfl | rfl | rfl | rfl | rfl | rfl <;> decide

theorem skipGaps_mark {gap rest : List Char} {mark : Char} (hgap : IsGaps gap)
    (hmark : isGap mark = false) : skipGaps (gap ++ mark :: rest) = mark :: rest := by
  rw [skipGaps, List.dropWhile_append_of_pos hgap]
  simp [hmark]

/-! ## Parts of values -/

/-- The characters `used` are taken for `x` by a reader, whatever follows them, as long as it stops
them. -/
def Takes {α : Type} (read : List Char → Option (α × List Char)) (stops : List Char → Prop)
    (used : List Char) (x : α) : Prop :=
  ∀ rest, stops rest → read (used ++ rest) = some (x, rest)

/-- What stands at the end does not matter. -/
def Anything (_rest : List Char) : Prop :=
  True

theorem readUnits_plain {c : Char} (hquote : c ≠ '"') (hback : c ≠ '\\') (hc : ¬c.toNat < 0x20)
    (rest : List Char) :
    readUnits (c :: rest) = (readUnits rest).map fun (ns, rest) => (c.toNat :: ns, rest) := by
  have hplain : (decide (c.toNat < 0x20) || c == '\\') = false := by simp [hback, hc]
  rw [readUnits, if_neg]
  · rw [hplain]
    exact Bool.false_ne_true
  · exact hquote
  · rintro a b c' d rest' rfl
    exact absurd rfl hback
  · rintro c' rest' rfl
    exact absurd rfl hback

theorem takes_of_readUnits {cs rest : List Char} {units : List Nat}
    (h : readUnits cs = some (units, rest)) :
    ∃ used, cs = used ++ rest ∧ Takes readUnits Anything used units := by
  fun_induction readUnits cs generalizing units rest with
  | case1 => cases h
  | case2 =>
      cases h
      exact ⟨['"'], rfl, fun rest _ => rfl⟩
  | case3 a b c d cs n hn ih =>
      obtain ⟨⟨units, rest⟩, hrest, heq⟩ := Option.map_eq_some_iff.mp h
      cases heq
      obtain ⟨used, rfl, hused⟩ := ih hrest
      refine ⟨'\\' :: 'u' :: a :: b :: c :: d :: used, rfl, fun rest hstop => ?_⟩
      simp [readUnits, hn, hused rest hstop]
  | case4 => cases h
  | case5 c cs _ e he ih =>
      obtain ⟨⟨units, rest⟩, hrest, heq⟩ := Option.map_eq_some_iff.mp h
      cases heq
      obtain ⟨used, rfl, hused⟩ := ih hrest
      refine ⟨'\\' :: c :: used, rfl, fun rest hstop => ?_⟩
      have hu : c ≠ 'u' := by
        rintro rfl
        cases he
      rw [List.cons_append, List.cons_append, readUnits]
      · simp [he, hused rest hstop]
      · exact fun _ _ _ _ _ heq _ => hu heq
  | case6 => cases h
  | case7 => cases h
  | case8 c cs hquote _ _ hplain ih =>
      obtain ⟨⟨units, rest⟩, hrest, heq⟩ := Option.map_eq_some_iff.mp h
      cases heq
      obtain ⟨used, rfl, hused⟩ := ih hrest
      simp only [Bool.or_eq_true, decide_eq_true_eq, beq_iff_eq, not_or] at hplain
      refine ⟨c :: used, rfl, fun rest hstop => ?_⟩
      rw [List.cons_append, readUnits_plain hquote hplain.2 hplain.1, hused rest hstop]
      rfl

theorem takes_of_readString {cs rest : List Char} {s : Option String}
    (h : readString cs = some (s, rest)) :
    ∃ used, cs = used ++ rest ∧ Takes readString Anything used s := by
  obtain ⟨⟨units, rest⟩, hunits, heq⟩ := Option.map_eq_some_iff.mp h
  cases heq
  obtain ⟨used, rfl, hused⟩ := takes_of_readUnits hunits
  refine ⟨used, rfl, fun rest hstop => ?_⟩
  rw [readString, hused rest hstop]
  rfl

theorem readDigits_append {ds rest : List Char} (hds : ∀ c ∈ ds, isDigit c = true) (hne : ds ≠ [])
    (hrest : NoDigit rest) : readDigits (ds ++ rest) = some (ds, rest) := by
  have hstop : rest.takeWhile isDigit = [] ∧ rest.dropWhile isDigit = rest := by
    cases rest with
    | nil => exact ⟨rfl, rfl⟩
    | cons c cs => simp [hrest c rfl]
  simp only [readDigits, List.takeWhile_append_of_pos hds, List.dropWhile_append_of_pos hds,
    hstop.1, hstop.2, List.append_nil]
  simp [hne]

theorem readFraction_absent {rest : List Char} (h : rest.head? ≠ some '.') :
    readFraction rest = some ([], rest) := by
  unfold readFraction
  split
  · exact absurd rfl h
  · rfl

theorem readExponent_absent {rest : List Char} (h : Stops rest) :
    readExponent rest = some (none, rest) := by
  cases rest with
  | nil => rfl
  | cons c cs =>
      obtain ⟨-, -, he, hE⟩ := h c cs rfl
      simp [readExponent, he, hE]

theorem of_readDigits {cs ds rest : List Char} (h : readDigits cs = some (ds, rest)) :
    cs = ds ++ rest ∧ ds ≠ [] ∧ ∀ c ∈ ds, isDigit c = true := by
  simp only [readDigits, List.isEmpty_iff] at h
  split at h
  · cases h
  · rename_i hne
    cases h
    exact ⟨List.takeWhile_append_dropWhile.symm, hne, fun c hc => List.mem_takeWhile_imp hc⟩

theorem takes_of_readFraction {cs ds rest : List Char} (h : readFraction cs = some (ds, rest)) :
    ∃ used, cs = used ++ rest ∧ (∀ c ∈ used.head?, c = '.') ∧
      Takes readFraction (fun rest => NoDigit rest ∧ rest.head? ≠ some '.') used ds := by
  unfold readFraction at h
  split at h
  · obtain ⟨rfl, hne, hds⟩ := of_readDigits h
    exact ⟨'.' :: ds, rfl, by simp, fun rest hrest => readDigits_append hds hne hrest.1⟩
  · cases h
    exact ⟨[], rfl, by simp, fun rest hrest => readFraction_absent hrest.2⟩

theorem takes_of_readExponent {cs rest : List Char} {e : Option Int}
    (h : readExponent cs = some (e, rest)) :
    ∃ used, cs = used ++ rest ∧ (∀ c ∈ used.head?, c = 'e' ∨ c = 'E') ∧
      Takes readExponent Stops used e := by
  unfold readExponent at h
  split at h
  · rename_i c tail
    by_cases hc : c = 'e' ∨ c = 'E'
    · rw [if_pos hc] at h
      -- the sign and the digits after the mark
      suffices ∃ more, tail = more ++ rest ∧ Takes readExponent Stops (c :: more) e by
        obtain ⟨more, rfl, hmore⟩ := this
        exact ⟨c :: more, rfl, by simpa using hc, hmore⟩
      split at h
      · obtain ⟨⟨ds, rest⟩, hdigits, heq⟩ := Option.map_eq_some_iff.mp h
        cases heq
        obtain ⟨rfl, hne, hds⟩ := of_readDigits hdigits
        refine ⟨'-' :: ds, rfl, fun rest hrest => ?_⟩
        simp [readExponent, hc, readDigits_append hds hne hrest.noDigit]
      · obtain ⟨⟨ds, rest⟩, hdigits, heq⟩ := Option.map_eq_some_iff.mp h
        cases heq
        obtain ⟨rfl, hne, hds⟩ := of_readDigits hdigits
        refine ⟨'+' :: ds, rfl, fun rest hrest => ?_⟩
        simp [readExponent, hc, readDigits_append hds hne hrest.noDigit]
      · rename_i hminus hplus
        obtain ⟨⟨ds, rest⟩, hdigits, heq⟩ := Option.map_eq_some_iff.mp h
        cases heq
        obtain ⟨rfl, hne, hds⟩ := of_readDigits hdigits
        refine ⟨ds, rfl, fun rest' hrest => ?_⟩
        obtain ⟨d, ds', rfl⟩ := List.exists_cons_of_ne_nil hne
        have hsign : d ≠ '-' ∧ d ≠ '+' :=
          ⟨fun h => hminus (ds' ++ rest) (by rw [h]; rfl),
            fun h => hplus (ds' ++ rest) (by rw [h]; rfl)⟩
        have hread := readDigits_append hds hne hrest.noDigit
        rw [List.cons_append] at hread
        simp [readExponent, hc, hsign, hread]
    · rw [if_neg hc] at h
      cases h
      exact ⟨[], rfl, by simp, fun rest hrest => readExponent_absent hrest⟩
  · cases h
    exact ⟨[], rfl, by simp, fun rest hrest => readExponent_absent hrest⟩

theorem takes_of_readNumber {negative : Bool} {cs rest : List Char} {n : Numeral}
    (h : readNumber negative cs = some (n, rest)) :
    ∃ used, cs = used ++ rest ∧ (∃ c cs, used = c :: cs ∧ isDigit c = true) ∧
      Takes (readNumber negative) Stops used n := by
  simp only [readNumber, Option.bind_eq_bind, Option.bind_eq_some_iff, Prod.exists] at h
  obtain ⟨whole, afterWhole, hwhole, h⟩ := h
  obtain ⟨rfl, hne, hdigits⟩ := of_readDigits hwhole
  split at h
  · cases h
  · rename_i hzero
    simp only [Option.bind_eq_some_iff, Prod.exists] at h
    obtain ⟨fraction, _, hreadFraction, exponent, _, hreadExponent, heq⟩ := h
    cases heq
    obtain ⟨fractionUsed, rfl, hpoint, hfraction⟩ := takes_of_readFraction hreadFraction
    obtain ⟨exponentUsed, rfl, hmark, hexponent⟩ := takes_of_readExponent hreadExponent
    refine ⟨whole ++ (fractionUsed ++ exponentUsed), by simp only [List.append_assoc], ?_,
      fun rest hrest => ?_⟩
    · obtain ⟨c, more, rfl⟩ := List.exists_cons_of_ne_nil hne
      exact ⟨c, _, rfl, hdigits c List.mem_cons_self⟩
    · have hafter : NoDigit (exponentUsed ++ rest) ∧ (exponentUsed ++ rest).head? ≠ some '.' := by
        cases exponentUsed with
        | nil => exact ⟨hrest.noDigit, hrest.head?_ne⟩
        | cons c cs => rcases hmark c rfl with rfl | rfl <;> simp [NoDigit, isDigit]
      have hbefore : NoDigit (fractionUsed ++ (exponentUsed ++ rest)) := by
        cases fractionUsed with
        | nil => exact hafter.1
        | cons c cs =>
            obtain rfl := hpoint c rfl
            simp [NoDigit, isDigit]
      simp only [List.append_assoc, readNumber, readDigits_append hdigits hne hbefore,
        Option.bind_eq_bind, Option.bind_some, if_neg hzero, hfraction _ hafter,
        hexponent _ hrest]
      rfl

theorem of_readWord {word cs rest : List Char} (h : readWord word cs = some rest) :
    cs = word ++ rest := by
  unfold readWord at h
  split at h
  · rename_i hword
    cases h
    calc
      cs = cs.take word.length ++ cs.drop word.length := (List.take_append_drop _ _).symm
      _ = word ++ cs.drop word.length := by rw [hword]
  · cases h

theorem exists_gap (cs : List Char) : ∃ gap, IsGaps gap ∧ cs = gap ++ skipGaps cs :=
  ⟨cs.takeWhile isGap, fun _ hc => List.mem_takeWhile_imp hc,
    List.takeWhile_append_dropWhile.symm⟩

/-! ## Values -/

/-- The characters are read as the value wherever they stand. -/
structure ReadAs (j : Json) (used : List Char) : Prop where
  begins : ∃ c cs, used = c :: cs ∧ isGap c = false ∧ c ≠ ']' ∧ c ≠ '\x7d'
  takes : ∀ fuel, 2 * used.length ≤ fuel → Takes (readValue fuel) Stops used j

/-- A member is a name with its closing quote, a colon and a value, as they follow the opening
quote. There is no name when it has no text. -/
inductive IsMember : Option String × Json → List Char → Prop
  | intro {name : Option String} {value : Json} {nameUsed before after used : List Char} :
      Takes readString Anything nameUsed name → IsGaps before → IsGaps after →
      ReadAs value used →
      IsMember (name, value) ('"' :: (nameUsed ++ (before ++ ':' :: (after ++ used))))

/-- Parts with commas between them and a mark at the end. -/
inductive Joined {α : Type} (part : α → List Char → Prop) (mark : Char) :
    List α → List Char → Prop
  | last {x : α} {used gap : List Char} :
      part x used → IsGaps gap → Joined part mark [x] (used ++ (gap ++ [mark]))
  | cons {x : α} {xs : List α} {used gap next more : List Char} :
      part x used → IsGaps gap → IsGaps next → Joined part mark xs more →
      Joined part mark (x :: xs) (used ++ (gap ++ ',' :: (next ++ more)))

/-- The members, when all names have a text. -/
def named? : List (Option String × Json) → Option (List (String × Json))
  | [] => some []
  | (name, value) :: ms => (name.map (·, value)).bind fun m => (named? ms).map (m :: ·)

theorem named?_singleton (name : Option String) (value : Json) :
    named? [(name, value)] = (name.map (·, value)).map ([·]) := by
  cases name <;> rfl

theorem named?_some (members : List (String × Json)) :
    named? (members.map fun (name, value) => (some name, value)) = some members := by
  induction members with
  | nil => rfl
  | cons m members ih =>
      rw [List.map_cons, named?, ih]
      rfl

/-- The characters of a value, one constructor for each way in which the reader succeeds. -/
inductive IsValue : Json → List Char → Prop
  | null : IsValue null "null".toList
  | true : IsValue (bool true) "true".toList
  | false : IsValue (bool false) "false".toList
  | negative {n : Numeral} {used : List Char} :
      Takes (readNumber Bool.true) Stops used n → IsValue (num n) ('-' :: used)
  | number {n : Numeral} {used : List Char} :
      (∃ c cs, used = c :: cs ∧ isDigit c = Bool.true) →
      Takes (readNumber Bool.false) Stops used n → IsValue (num n) used
  | str {s : String} {used : List Char} :
      Takes readString Anything used (some s) → IsValue (str s) ('"' :: used)
  | noText {used : List Char} :
      Takes readString Anything used none → IsValue unreadable ('"' :: used)
  | noItems {gap : List Char} : IsGaps gap → IsValue (arr []) ('[' :: (gap ++ [']']))
  | arr {items : List Json} {gap used : List Char} :
      IsGaps gap → Joined ReadAs ']' items used → IsValue (arr items) ('[' :: (gap ++ used))
  | noMembers {gap : List Char} : IsGaps gap → IsValue (obj []) ('\x7b' :: (gap ++ ['\x7d']))
  | obj {members : List (String × Json)} {ms : List (Option String × Json)}
      {gap used : List Char} :
      IsGaps gap → Joined IsMember '\x7d' ms used → named? ms = some members →
      IsValue (obj members) ('\x7b' :: (gap ++ used))
  | noNames {ms : List (Option String × Json)} {gap used : List Char} :
      IsGaps gap → Joined IsMember '\x7d' ms used → named? ms = none →
      IsValue unreadable ('\x7b' :: (gap ++ used))

theorem ReadAs.skipGaps_append {j : Json} {gap used : List Char} (h : ReadAs j used)
    (hgap : IsGaps gap) (rest : List Char) : skipGaps (gap ++ (used ++ rest)) = used ++ rest := by
  obtain ⟨c, cs, rfl, hc, -⟩ := h.begins
  exact skipGaps_mark hgap hc

theorem Joined.items_begin {items : List Json} {used : List Char}
    (h : Joined ReadAs ']' items used) :
    ∃ c cs, used = c :: cs ∧ isGap c = false ∧ c ≠ ']' := by
  cases h with
  | last hitem _ =>
      obtain ⟨c, cs, rfl, hc, hclose, -⟩ := hitem.begins
      exact ⟨c, _, rfl, hc, hclose⟩
  | cons hitem _ _ _ =>
      obtain ⟨c, cs, rfl, hc, hclose, -⟩ := hitem.begins
      exact ⟨c, _, rfl, hc, hclose⟩

theorem Joined.members_begin {ms : List (Option String × Json)} {used : List Char}
    (h : Joined IsMember '\x7d' ms used) : ∃ cs, used = '"' :: cs := by
  cases h with
  | last hm _ =>
      cases hm
      exact ⟨_, rfl⟩
  | cons hm _ _ _ =>
      cases hm
      exact ⟨_, rfl⟩

/-- Two calls are nested for each item, and with it goes a mark, so twice the length is enough. -/
theorem takes_items {items : List Json} {used : List Char} (h : Joined ReadAs ']' items used)
    (fuel : Nat) (hfuel : 2 * used.length ≤ fuel) :
    Takes (readItems fuel) Anything used items := by
  induction h generalizing fuel with
  | @last item used gap hitem hgap =>
      simp only [List.length_append, List.length_singleton] at hfuel
      obtain ⟨fuel, rfl⟩ : ∃ k, fuel = k + 1 := ⟨fuel - 1, by omega⟩
      intro rest _
      have hread := hitem.takes fuel (by omega) (gap ++ ']' :: rest) (stops_of_mark hgap (by simp))
      simp only [List.append_assoc, List.singleton_append, readItems, hread,
        skipGaps_mark hgap (by decide : isGap ']' = Bool.false)]
  | @cons item items used gap next more hitem hgap hnext hmore ih =>
      simp only [List.length_append, List.length_cons] at hfuel
      obtain ⟨fuel, rfl⟩ : ∃ k, fuel = k + 1 := ⟨fuel - 1, by omega⟩
      intro rest hrest
      have hread := hitem.takes fuel (by omega) (gap ++ ',' :: (next ++ (more ++ rest)))
        (stops_of_mark hgap (by simp))
      have hskip : skipGaps (next ++ (more ++ rest)) = more ++ rest := by
        obtain ⟨c, cs, rfl, hc, -⟩ := hmore.items_begin
        exact skipGaps_mark hnext hc
      simp only [List.append_assoc, List.cons_append, readItems, hread,
        skipGaps_mark hgap (by decide : isGap ',' = Bool.false), hskip,
        ih fuel (by omega) rest hrest]
      rfl

theorem takes_members {ms : List (Option String × Json)} {used : List Char}
    (h : Joined IsMember '\x7d' ms used) (fuel : Nat) (hfuel : 2 * used.length ≤ fuel) :
    Takes (readMembers fuel) Anything used (named? ms) := by
  induction h generalizing fuel with
  | @last m used gap hm hgap =>
      obtain ⟨hname, hbefore, hafter, hvalue⟩ := hm
      simp only [List.length_append, List.length_cons] at hfuel
      obtain ⟨fuel, rfl⟩ : ∃ k, fuel = k + 1 := ⟨fuel - 1, by omega⟩
      intro rest _
      have hread := hvalue.takes fuel (by omega) (gap ++ '\x7d' :: rest)
        (stops_of_mark hgap (by simp))
      simp only [List.append_assoc, List.cons_append, List.nil_append, readMembers, hname _ trivial,
        skipGaps_mark hbefore (by decide : isGap ':' = Bool.false),
        hvalue.skipGaps_append hafter, hread,
        skipGaps_mark hgap (by decide : isGap '\x7d' = Bool.false), named?_singleton]
  | @cons m ms used gap next more hm hgap hnext hmore ih =>
      obtain ⟨hname, hbefore, hafter, hvalue⟩ := hm
      simp only [List.length_append, List.length_cons] at hfuel
      obtain ⟨fuel, rfl⟩ : ∃ k, fuel = k + 1 := ⟨fuel - 1, by omega⟩
      intro rest hrest
      have hread := hvalue.takes fuel (by omega) (gap ++ ',' :: (next ++ (more ++ rest)))
        (stops_of_mark hgap (by simp))
      have hskip : skipGaps (next ++ (more ++ rest)) = more ++ rest := by
        obtain ⟨cs, rfl⟩ := hmore.members_begin
        exact skipGaps_mark hnext (by decide)
      simp only [List.append_assoc, List.cons_append, readMembers, hname _ trivial,
        skipGaps_mark hbefore (by decide : isGap ':' = Bool.false),
        hvalue.skipGaps_append hafter, hread,
        skipGaps_mark hgap (by decide : isGap ',' = Bool.false), hskip,
        ih fuel (by omega) rest hrest, named?]
      rfl

/-- A digit is neither a gap nor a closing mark. -/
theorem begins_of_isDigit {c : Char} (hc : isDigit c = true) :
    isGap c = false ∧ c ≠ ']' ∧ c ≠ '\x7d' := by
  refine ⟨?_, ?_, ?_⟩
  · rw [Bool.eq_false_iff]
    intro hgap
    simp only [isGap, Bool.or_eq_true, beq_iff_eq] at hgap
    rcases hgap with ((rfl | rfl) | rfl) | rfl <;> cases hc
  · rintro rfl
    cases hc
  · rintro rfl
    cases hc

theorem IsValue.begins {j : Json} {used : List Char} (h : IsValue j used) :
    ∃ c cs, used = c :: cs ∧ isGap c = Bool.false ∧ c ≠ ']' ∧ c ≠ '\x7d' := by
  cases h with
  | number hdigit _ =>
      obtain ⟨c, cs, rfl, hc⟩ := hdigit
      exact ⟨c, cs, rfl, begins_of_isDigit hc⟩
  | _ => exact ⟨_, _, rfl, by decide⟩

/-- A number is read by its first digit. -/
theorem readValue_digit {fuel : Nat} {c : Char} {rest : List Char} (hc : isDigit c = true) :
    readValue (fuel + 1) (c :: rest) =
      (readNumber false (c :: rest)).map fun (n, rest) => (num n, rest) := by
  have hne : c ≠ '"' ∧ c ≠ '[' ∧ c ≠ '\x7b' ∧ c ≠ '-' := by
    refine ⟨?_, ?_, ?_, ?_⟩ <;> (rintro rfl; cases hc)
  simp only [readValue, hne, if_false, hc, if_true]

theorem readValue_items {fuel : Nat} {c : Char} {rest rest' : List Char} (hc : c ≠ ']')
    (hskip : skipGaps rest = c :: rest') :
    readValue (fuel + 1) ('[' :: rest) =
      (readItems fuel (c :: rest')).map fun (items, rest) => (arr items, rest) := by
  rw [readValue, if_neg (by decide), if_pos rfl, hskip]
  split
  · rename_i heq
    exact absurd (List.cons.inj heq).1 hc
  · rfl

theorem readValue_members {fuel : Nat} {c : Char} {rest rest' : List Char} (hc : c ≠ '\x7d')
    (hskip : skipGaps rest = c :: rest') :
    readValue (fuel + 1) ('\x7b' :: rest) =
      (readMembers fuel (c :: rest')).map fun (ms, rest) => (ms.elim unreadable obj, rest) := by
  rw [readValue, if_neg (by decide), if_neg (by decide), if_pos rfl, hskip]
  split
  · rename_i heq
    exact absurd (List.cons.inj heq).1 hc
  · rfl

theorem readValue_joined {ms : List (Option String × Json)} {gap used : List Char}
    (hgap : IsGaps gap) (h : Joined IsMember '\x7d' ms used) (rest : List Char) {fuel : Nat}
    (hfuel : 2 * used.length ≤ fuel) :
    readValue (fuel + 1) ('\x7b' :: (gap ++ used ++ rest)) =
      some ((named? ms).elim unreadable obj, rest) := by
  obtain ⟨cs, hused⟩ := h.members_begin
  have hskip : skipGaps (gap ++ used ++ rest) = '"' :: (cs ++ rest) := by
    rw [hused, List.append_assoc, List.cons_append, skipGaps_mark hgap (by decide)]
  have hread := takes_members h fuel hfuel rest trivial
  rw [hused, List.cons_append] at hread
  rw [readValue_members (by decide) hskip, hread]
  rfl

theorem IsValue.takes {j : Json} {used : List Char} (h : IsValue j used) (fuel : Nat)
    (hfuel : 2 * used.length ≤ fuel) : Takes (readValue fuel) Stops used j := by
  obtain ⟨c, cs, hused, -⟩ := h.begins
  obtain ⟨fuel, rfl⟩ : ∃ k, fuel = k + 1 := by
    rw [hused, List.length_cons] at hfuel
    exact ⟨fuel - 1, by omega⟩
  intro rest hrest
  cases h with
  | null => rfl
  | true => rfl
  | false => rfl
  | negative hn =>
      rw [List.cons_append, readValue]
      simp [hn rest hrest]
  | number hdigit hn =>
      obtain ⟨d, ds, rfl, hd⟩ := hdigit
      have hread := hn rest hrest
      rw [List.cons_append] at hread ⊢
      rw [readValue_digit hd, hread]
      rfl
  | str hs =>
      rw [List.cons_append, readValue, if_pos rfl, hs rest trivial]
      rfl
  | noText hs =>
      rw [List.cons_append, readValue, if_pos rfl, hs rest trivial]
      rfl
  | noItems hgap =>
      simp only [List.cons_append, List.append_assoc, List.nil_append, readValue,
        skipGaps_mark hgap (by decide : isGap ']' = Bool.false)]
      rfl
  | @arr items gap body hgap hitems =>
      obtain ⟨d, ds, hbody, hd, hclose⟩ := hitems.items_begin
      have hskip : skipGaps (gap ++ body ++ rest) = d :: (ds ++ rest) := by
        rw [hbody, List.append_assoc, List.cons_append, skipGaps_mark hgap hd]
      have hread := takes_items hitems fuel (by
        rw [List.length_cons, List.length_append] at hfuel
        omega) rest trivial
      rw [hbody, List.cons_append] at hread
      rw [List.cons_append, readValue_items hclose hskip, hread]
      rfl
  | noMembers hgap =>
      simp only [List.cons_append, List.append_assoc, List.nil_append, readValue,
        skipGaps_mark hgap (by decide : isGap '\x7d' = Bool.false)]
      rfl
  | obj hgap hms hnamed =>
      rw [List.length_cons, List.length_append] at hfuel
      rw [List.cons_append, readValue_joined hgap hms rest (by omega), hnamed]
      rfl
  | noNames hgap hms hnamed =>
      rw [List.length_cons, List.length_append] at hfuel
      rw [List.cons_append, readValue_joined hgap hms rest (by omega), hnamed]
      rfl

theorem IsValue.readAs {j : Json} {used : List Char} (h : IsValue j used) : ReadAs j used :=
  ⟨h.begins, h.takes⟩

/-- A reading of a value with this fuel uses up characters that are read as the value. -/
def Splits (fuel : Nat) : Prop :=
  ∀ cs j rest, readValue fuel cs = some (j, rest) → ∃ used, cs = used ++ rest ∧ ReadAs j used

theorem joined_of_readItems {fuel : Nat} (hvalue : ∀ k < fuel, Splits k) {cs rest : List Char}
    {items : List Json} (h : readItems fuel cs = some (items, rest)) :
    ∃ used, cs = used ++ rest ∧ Joined ReadAs ']' items used := by
  induction fuel generalizing cs items with
  | zero => cases h
  | succ fuel ih =>
      unfold readItems at h
      split at h
      · cases h
      · rename_i item afterItem hitem
        obtain ⟨used, rfl, hused⟩ := hvalue fuel (by omega) _ _ _ hitem
        obtain ⟨gap, hgap, hafter⟩ := exists_gap afterItem
        split at h
        · rename_i hskip
          cases h
          rw [hskip] at hafter
          exact ⟨used ++ (gap ++ [']']), by simp [hafter], .last hused hgap⟩
        · rename_i tail hskip
          rw [hskip] at hafter
          obtain ⟨⟨more, _⟩, hmore, heq⟩ := Option.map_eq_some_iff.mp h
          cases heq
          obtain ⟨next, hnext, htail⟩ := exists_gap tail
          obtain ⟨moreUsed, hsplit, hjoined⟩ := ih (fun k hk => hvalue k (by omega)) hmore
          rw [hsplit] at htail
          exact ⟨_, by simp [hafter, htail], .cons hused hgap hnext hjoined⟩
        · cases h

/-- What one step of the reader does with members: it takes one of them, and the object ends or
goes on after a comma. -/
theorem readMembers_step {fuel : Nat} (hvalue : Splits fuel) {cs rest : List Char}
    {members : Option (List (String × Json))}
    (h : readMembers (fuel + 1) cs = some (members, rest)) :
    ∃ name value used gap, IsMember (name, value) used ∧ IsGaps gap ∧
      (cs = used ++ (gap ++ '\x7d' :: rest) ∧ members = named? [(name, value)] ∨
        ∃ tail more, cs = used ++ (gap ++ ',' :: tail) ∧
          readMembers fuel (skipGaps tail) = some (more, rest) ∧
          members = (name.map (·, value)).bind fun m => more.map (m :: ·)) := by
  unfold readMembers at h
  split at h
  · cases h
  · rename_i fuel' afterQuote hfuel
    obtain rfl : fuel = fuel' := Nat.succ.inj hfuel
    split at h
    · cases h
    · rename_i name afterName hname
      obtain ⟨nameUsed, rfl, htakes⟩ := takes_of_readString hname
      obtain ⟨before, hbefore, hafterName⟩ := exists_gap afterName
      split at h
      · rename_i afterColon hcolon
        rw [hcolon] at hafterName
        obtain ⟨after, hafter, hafterColon⟩ := exists_gap afterColon
        split at h
        · cases h
        · rename_i value afterValue hread
          obtain ⟨used, hsplit, hused⟩ := hvalue _ _ _ hread
          rw [hsplit] at hafterColon
          obtain ⟨gap, hgap, hafterValue⟩ := exists_gap afterValue
          refine ⟨name, value, _, gap, .intro htakes hbefore hafter hused, hgap, ?_⟩
          split at h
          · rename_i hskip
            cases h
            rw [hskip] at hafterValue
            exact .inl ⟨by simp [hafterName, hafterColon, hafterValue],
              (named?_singleton name value).symm⟩
          · rename_i tail hskip
            rw [hskip] at hafterValue
            obtain ⟨⟨more, _⟩, hmore, heq⟩ := Option.map_eq_some_iff.mp h
            cases heq
            exact .inr ⟨tail, more, by simp [hafterName, hafterColon, hafterValue], hmore, rfl⟩
          · cases h
      · cases h
  · cases h

theorem joined_of_readMembers {fuel : Nat} (hvalue : ∀ k < fuel, Splits k) {cs rest : List Char}
    {members : Option (List (String × Json))} (h : readMembers fuel cs = some (members, rest)) :
    ∃ ms used, cs = used ++ rest ∧ Joined IsMember '\x7d' ms used ∧ named? ms = members := by
  induction fuel generalizing cs members with
  | zero => cases h
  | succ fuel ih =>
      obtain ⟨name, value, used, gap, hm, hgap, ⟨rfl, rfl⟩ | ⟨tail, more, rfl, hmore, rfl⟩⟩ :=
        readMembers_step (hvalue fuel (by omega)) h
      · exact ⟨[(name, value)], _, by simp, .last hm hgap, rfl⟩
      · obtain ⟨ms, moreUsed, hsplit, hjoined, rfl⟩ := ih (fun k hk => hvalue k (by omega)) hmore
        obtain ⟨next, hnext, htail⟩ := exists_gap tail
        rw [hsplit] at htail
        exact ⟨(name, value) :: ms, _, by simp [htail], .cons hm hgap hnext hjoined, rfl⟩

theorem isValue_of_array {fuel : Nat} (hvalue : ∀ k < fuel, Splits k) {tail rest : List Char}
    {j : Json} (h : readValue (fuel + 1) ('[' :: tail) = some (j, rest)) :
    ∃ used, '[' :: tail = used ++ rest ∧ IsValue j used := by
  rw [readValue, if_neg (by decide), if_pos rfl] at h
  obtain ⟨gap, hgap, htail⟩ := exists_gap tail
  split at h
  · rename_i hskip
    cases h
    rw [hskip] at htail
    exact ⟨_, by simp [htail], .noItems hgap⟩
  · obtain ⟨⟨items, _⟩, hitems, heq⟩ := Option.map_eq_some_iff.mp h
    cases heq
    obtain ⟨used, hsplit, hjoined⟩ := joined_of_readItems hvalue hitems
    rw [hsplit] at htail
    exact ⟨_, by simp [htail], .arr hgap hjoined⟩

theorem isValue_of_object {fuel : Nat} (hvalue : ∀ k < fuel, Splits k) {tail rest : List Char}
    {j : Json} (h : readValue (fuel + 1) ('\x7b' :: tail) = some (j, rest)) :
    ∃ used, '\x7b' :: tail = used ++ rest ∧ IsValue j used := by
  rw [readValue, if_neg (by decide), if_neg (by decide), if_pos rfl] at h
  obtain ⟨gap, hgap, htail⟩ := exists_gap tail
  split at h
  · rename_i hskip
    cases h
    rw [hskip] at htail
    exact ⟨_, by simp [htail], .noMembers hgap⟩
  · obtain ⟨⟨members, _⟩, hmembers, heq⟩ := Option.map_eq_some_iff.mp h
    cases heq
    obtain ⟨ms, used, hsplit, hjoined, hnamed⟩ := joined_of_readMembers hvalue hmembers
    rw [hsplit] at htail
    cases members with
    | none => exact ⟨_, by simp [htail], .noNames hgap hjoined hnamed⟩
    | some members => exact ⟨_, by simp [htail], .obj hgap hjoined hnamed⟩

theorem isValue_of_word {word tail rest : List Char} {j k : Json} {c : Char}
    (hj : IsValue j (c :: word))
    (h : ((readWord word tail).map fun rest => (j, rest)) = some (k, rest)) :
    ∃ used, c :: tail = used ++ rest ∧ IsValue k used := by
  obtain ⟨_, hword, heq⟩ := Option.map_eq_some_iff.mp h
  cases heq
  exact ⟨c :: word, congrArg (c :: ·) (of_readWord hword), hj⟩

/-- **What is read from the front of some characters is read from a part of them**, and this part
is a value of the grammar. -/
theorem isValue_of_readValue (fuel : Nat) {cs rest : List Char} {j : Json}
    (h : readValue fuel cs = some (j, rest)) : ∃ used, cs = used ++ rest ∧ IsValue j used := by
  induction fuel using Nat.strongRecOn generalizing cs rest j with
  | ind fuel ih =>
      -- the values inside are read with less fuel, and may be read with any other
      have hsplits : ∀ k < fuel, Splits k := fun k hk cs j rest hread => by
        obtain ⟨used, hcs, hvalue⟩ := ih k hk hread
        exact ⟨used, hcs, hvalue.readAs⟩
      obtain _ | fuel := fuel
      · cases h
      obtain _ | ⟨c, tail⟩ := cs
      · cases h
      by_cases hopen : c = '['
      · subst hopen
        exact isValue_of_array (fun k hk => hsplits k (by omega)) h
      by_cases hbrace : c = '\x7b'
      · subst hbrace
        exact isValue_of_object (fun k hk => hsplits k (by omega)) h
      simp only [readValue, hopen, hbrace, if_false] at h
      split at h
      · rename_i hquote
        subst hquote
        obtain ⟨⟨s, _⟩, hs, heq⟩ := Option.map_eq_some_iff.mp h
        cases heq
        obtain ⟨used, rfl, htakes⟩ := takes_of_readString hs
        cases s with
        | none => exact ⟨_, rfl, .noText htakes⟩
        | some s => exact ⟨_, rfl, .str htakes⟩
      split at h
      · rename_i hminus
        subst hminus
        obtain ⟨⟨n, _⟩, hn, heq⟩ := Option.map_eq_some_iff.mp h
        cases heq
        obtain ⟨used, rfl, -, htakes⟩ := takes_of_readNumber hn
        exact ⟨_, rfl, .negative htakes⟩
      split at h
      · obtain ⟨⟨n, _⟩, hn, heq⟩ := Option.map_eq_some_iff.mp h
        cases heq
        obtain ⟨used, hsplit, hbegins, htakes⟩ := takes_of_readNumber hn
        exact ⟨used, hsplit, .number hbegins htakes⟩
      split at h
      · rename_i hc
        subst hc
        exact isValue_of_word .null h
      split at h
      · rename_i hc
        subst hc
        exact isValue_of_word .true h
      split at h
      · rename_i hc
        subst hc
        exact isValue_of_word .false h
      · cases h

theorem readAs_iff_isValue {j : Json} {used : List Char} : ReadAs j used ↔ IsValue j used := by
  refine ⟨fun h => ?_, IsValue.readAs⟩
  have hread := h.takes _ (Nat.le_refl _) [] (fun _ _ heq => nomatch heq)
  obtain ⟨used', hused, hvalue⟩ := isValue_of_readValue _ hread
  rw [List.append_nil, List.append_nil] at hused
  exact hused ▸ hvalue

/-! ## Whole texts -/

theorem skipGaps_eq_nil {gap : List Char} (h : IsGaps gap) : skipGaps gap = [] := by
  rw [skipGaps, List.dropWhile_eq_nil_iff]
  exact h

theorem stops_of_isGaps {gap : List Char} (h : IsGaps gap) : Stops gap := by
  rintro c cs rfl
  have hc := h c List.mem_cons_self
  simp only [isGap, Bool.or_eq_true, beq_iff_eq] at hc
  rcases hc with ((rfl | rfl) | rfl) | rfl <;> decide

/-- **A text is read as a value when it is a part that is read as the value, between gaps.** -/
theorem parse_eq_some_iff {text : String} {j : Json} :
    parse text = some j ↔
      ∃ lead used trail, text.toList = lead ++ (used ++ trail) ∧ IsGaps lead ∧ IsGaps trail ∧
        ReadAs j used := by
  constructor
  · intro h
    obtain ⟨lead, hlead, htext⟩ := exists_gap text.toList
    simp only [parse] at h
    split at h
    · rename_i value rest hread
      obtain ⟨used, hused, hvalue⟩ := isValue_of_readValue _ hread
      obtain ⟨trail, htrail, hrest⟩ := exists_gap rest
      split at h
      · rename_i hempty
        cases h
        rw [List.isEmpty_iff.mp hempty, List.append_nil] at hrest
        exact ⟨lead, used, trail, by rw [htext, hused, hrest], hlead, htrail, hvalue.readAs⟩
      · cases h
    · cases h
  · rintro ⟨lead, used, trail, htext, hlead, htrail, hread⟩
    have htakes := hread.takes (2 * text.toList.length + 2)
      (by simp only [htext, List.length_append]; omega) trail (stops_of_isGaps htrail)
    simp only [parse]
    rw [htext] at htakes ⊢
    simp only [hread.skipGaps_append hlead, htakes, skipGaps_eq_nil htrail]
    rfl

end GrammarBench.Json
