import GrammarBench.Json.Printer
import GrammarBench.Proofs.Json.Locality

/-!
# Texts that spell a value

`Spells j cs` says what a text of the value `j` may look like: strings are written with the escapes
of the printer, numbers are natural numbers without leading zeros, and gaps may stand around the
marks of arrays and objects. The reader takes every such text back to its value
(`Spells.isValue`, `parse_of_spells`), whatever its gaps are, and of a value that the reader can
give back at all both the compact and the indented text are such texts (`Plain.spells_compact`,
`Plain.spells_pretty`).
-/

namespace GrammarBench.Json

/-! ## Strings -/

/-- The units of a string are the numbers of its characters, however they are escaped. -/
theorem readUnits_escapeChar (c : Char) (rest : List Char) :
    readUnits (escapeChar c ++ rest) =
      (readUnits rest).map fun (ns, rest) => (c.toNat :: ns, rest) := by
  have hcontrol : ∀ n < 32,
      Text.number? 16 ['0', '0', Text.digitChar (n / 16), Text.digitChar (n % 16)] = some n := by
    decide
  unfold escapeChar
  -- The characters that have an escape of their own.
  iterate 7
    split
    · subst_vars
      rfl
  split
  · rename_i hc
    simp only [List.cons_append, List.nil_append, readUnits, hcontrol _ hc]
  · rename_i hquote hback _ _ _ _ _ hc
    exact readUnits_plain hquote hback hc rest

theorem readUnits_flatMap (cs rest : List Char) :
    readUnits (cs.flatMap escapeChar ++ '"' :: rest) = some (cs.map Char.toNat, rest) := by
  induction cs with
  | nil => rfl
  | cons c cs ih =>
      rw [List.flatMap_cons, List.append_assoc, readUnits_escapeChar, ih]
      rfl

/-- No character is a surrogate. -/
theorem not_surrogate (c : Char) :
    isHighSurrogate c.toNat = false ∧ isLowSurrogate c.toNat = false := by
  have hvalid : c.toNat < 0xD800 ∨ 0xDFFF < c.toNat ∧ c.toNat < 0x110000 := c.valid
  simp only [isHighSurrogate, isLowSurrogate, Bool.and_eq_false_iff, decide_eq_false_iff_not]
  omega

theorem pairUnits?_map (cs : List Char) : pairUnits? (cs.map Char.toNat) = some cs := by
  induction cs with
  | nil => rfl
  | cons c cs ih =>
      obtain ⟨hhigh, hlow⟩ := not_surrogate c
      cases cs with
      | nil => simp [pairUnits?, hhigh, hlow]
      | cons d ds =>
          rw [List.map_cons] at ih
          simp only [List.map_cons, pairUnits?, hhigh, hlow, ih]
          simp

/-- A printed string is read after its opening quote. -/
theorem takes_printed (s : String) :
    Takes readString Anything (s.toList.flatMap escapeChar ++ ['"']) (some s) := by
  intro rest _
  rw [List.append_assoc, List.singleton_append, readString, readUnits_flatMap]
  simp [pairUnits?_map]

/-! ## Numbers -/

theorem isDigit_of_mem_toDigits {n : Nat} {c : Char} (hc : c ∈ Nat.toDigits 10 n) :
    isDigit c = true := by
  have hdigit := Nat.isDigit_of_mem_toDigits (by omega) (by omega) hc
  simpa [isDigit, Char.isDigit, Char.le_def] using hdigit

theorem natOf_toDigits (n : Nat) : natOf (Nat.toDigits 10 n) = n := by
  have hfold : natOf (Nat.toDigits 10 n) = Nat.ofDigitChars 10 (Nat.toDigits 10 n) 0 := by
    simp only [natOf, Nat.ofDigitChars, Nat.mul_comm]
  rw [hfold, Nat.ofDigitChars_ten_toDigits]

/-- A number of more than one digit has no zero in front. -/
theorem head?_toDigits_ne_zero {n : Nat} (h : 1 < (Nat.toDigits 10 n).length) :
    (Nat.toDigits 10 n).head? ≠ some '0' := by
  induction n using Nat.strongRecOn with
  | ind n ih =>
      rcases Nat.lt_or_ge n 10 with hsmall | hlarge
      · rw [Nat.toDigits_of_lt_base hsmall] at h
        simp at h
      · rw [Nat.toDigits_of_base_le (by omega) hlarge] at h ⊢
        obtain ⟨d, ds, hds⟩ := List.exists_cons_of_ne_nil
          (Nat.toDigits_ne_nil : Nat.toDigits 10 (n / 10) ≠ [])
        rcases Nat.lt_or_ge (n / 10) 10 with hshort | hlong
        · have hdigit : ∀ k < 10, k ≠ 0 → Nat.digitChar k ≠ '0' := by decide
          rw [Nat.toDigits_of_lt_base hshort]
          simpa using hdigit (n / 10) hshort (by omega)
        · have hlen : 1 < (Nat.toDigits 10 (n / 10)).length := by
            rw [Nat.toDigits_of_base_le (by omega) hlong, List.length_append]
            have := List.length_pos_iff.mpr
              (Nat.toDigits_ne_nil : Nat.toDigits 10 (n / 10 / 10) ≠ [])
            simp only [List.length_singleton]
            omega
          have hhead := ih (n / 10) (by omega) hlen
          rw [hds] at hhead ⊢
          exact hhead

theorem readNumber_toDigits (n : Nat) {rest : List Char} (hrest : Stops rest) :
    readNumber false (Nat.toDigits 10 n ++ rest) = some (.ofNat n, rest) := by
  have hzero : ¬((Nat.toDigits 10 n).head? = some '0' ∧ (Nat.toDigits 10 n).length > 1) :=
    fun h => head?_toDigits_ne_zero h.2 h.1
  rw [readNumber, readDigits_append (fun _ => isDigit_of_mem_toDigits) Nat.toDigits_ne_nil
    hrest.noDigit]
  simp only [Option.bind_eq_bind, Option.bind_some, if_neg hzero,
    readFraction_absent hrest.head?_ne, readExponent_absent hrest]
  simp [natOf_toDigits, Numeral.ofNat]

/-! ## The texts of a value -/

mutual

/-- A text of a value: nothing stands before or after it. -/
inductive Spells : Json → List Char → Prop
  | null : Spells null "null".toList
  | true : Spells (bool true) "true".toList
  | false : Spells (bool false) "false".toList
  | num (n : Nat) : Spells (num (.ofNat n)) (Nat.toDigits 10 n)
  | str (s : String) : Spells (str s) (printString s)
  | noItems {gap} : IsGaps gap → Spells (arr []) ('[' :: (gap ++ [']']))
  | arr {gap items cs} :
      IsGaps gap → SpellsItems items cs → Spells (arr items) ('[' :: (gap ++ cs))
  | noMembers {gap} : IsGaps gap → Spells (obj []) ('\x7b' :: (gap ++ ['\x7d']))
  | obj {gap members cs} :
      IsGaps gap → SpellsMembers members cs → Spells (obj members) ('\x7b' :: (gap ++ cs))

/-- The items of an array with its closing bracket. -/
inductive SpellsItems : List Json → List Char → Prop
  | last {item cs gap} :
      Spells item cs → IsGaps gap → SpellsItems [item] (cs ++ (gap ++ [']']))
  | cons {item cs gap next items rest} :
      Spells item cs → IsGaps gap → IsGaps next → SpellsItems items rest →
      SpellsItems (item :: items) (cs ++ (gap ++ ',' :: (next ++ rest)))

/-- The members of an object with its closing brace. -/
inductive SpellsMembers : List (String × Json) → List Char → Prop
  | last {name value before after cs gap} :
      IsGaps before → IsGaps after → Spells value cs → IsGaps gap →
      SpellsMembers [(name, value)]
        (printString name ++ (before ++ ':' :: (after ++ (cs ++ (gap ++ ['\x7d'])))))
  | cons {name value before after cs gap next members rest} :
      IsGaps before → IsGaps after → Spells value cs → IsGaps gap → IsGaps next →
      SpellsMembers members rest →
      SpellsMembers ((name, value) :: members)
        (printString name ++
          (before ++ ':' :: (after ++ (cs ++ (gap ++ ',' :: (next ++ rest))))))

end

/-! ## Reading them -/

mutual

/-- **A text of a value is read as the value.** -/
theorem Spells.isValue {j : Json} {cs : List Char} (h : Spells j cs) : IsValue j cs := by
  cases h with
  | null => exact .null
  | true => exact .true
  | false => exact .false
  | num n =>
      obtain ⟨c, front, hcs⟩ := List.exists_cons_of_ne_nil
        (Nat.toDigits_ne_nil : Nat.toDigits 10 n ≠ [])
      refine .number ⟨c, front, hcs, ?_⟩ fun rest hrest => readNumber_toDigits n hrest
      exact isDigit_of_mem_toDigits (hcs ▸ List.mem_cons_self)
  | str s => exact .str (takes_printed s)
  | noItems hgap => exact .noItems hgap
  | arr hgap hitems => exact .arr hgap hitems.joined
  | noMembers hgap => exact .noMembers hgap
  | obj hgap hmembers => exact .obj hgap hmembers.joined (named?_some _)

theorem SpellsItems.joined {items : List Json} {cs : List Char} (h : SpellsItems items cs) :
    Joined ReadAs ']' items cs := by
  cases h with
  | last hitem hgap => exact .last hitem.isValue.readAs hgap
  | cons hitem hgap hnext hmore =>
      exact .cons hitem.isValue.readAs hgap hnext hmore.joined

theorem SpellsMembers.joined {members : List (String × Json)} {cs : List Char}
    (h : SpellsMembers members cs) :
    Joined IsMember '\x7d' (members.map fun (name, value) => (some name, value)) cs := by
  cases h with
  | @last name value before after used gap hbefore hafter hvalue hgap =>
      have hm := IsMember.intro (takes_printed name) hbefore hafter hvalue.isValue.readAs
      simpa [printString] using Joined.last hm hgap
  | @cons name value before after used gap next members more hbefore hafter hvalue hgap hnext
      hmore =>
      have hm := IsMember.intro (takes_printed name) hbefore hafter hvalue.isValue.readAs
      simpa [printString] using Joined.cons hm hgap hnext hmore.joined

end

/-- A whole text is read as the value that it spells. -/
theorem parse_of_spells {j : Json} {cs : List Char} (h : Spells j cs) :
    parse (String.ofList cs) = some j :=
  parse_eq_some_iff.mpr
    ⟨[], cs, [], by simp, isGaps_nil, isGaps_nil, h.isValue.readAs⟩

/-! ## The compact text -/

/-- A value that can be given back: every number in it is a natural number of 64 bits, and every
string has a text. -/
inductive Plain : Json → Prop
  | null : Plain null
  | bool (b : Bool) : Plain (bool b)
  | num {n : Nat} : n < Nat.pow 2 64 → Plain (num (.ofNat n))
  | str (s : String) : Plain (str s)
  | arr {items : List Json} : (∀ item ∈ items, Plain item) → Plain (arr items)
  | obj {members : List (String × Json)} : (∀ m ∈ members, Plain m.2) → Plain (obj members)

theorem spellsItems_compactItems (fraction : Numeral → String) {item : Json} {items : List Json}
    (h : ∀ i ∈ item :: items, Spells i (compact fraction i)) :
    SpellsItems (item :: items) (compactItems fraction (item :: items) ++ [']']) := by
  induction items generalizing item with
  | nil => exact .last (h item List.mem_cons_self) isGaps_nil
  | cons next items ih =>
      have hrest := ih fun i hi => h i (List.mem_cons_of_mem _ hi)
      have hall := SpellsItems.cons (h item List.mem_cons_self) isGaps_nil isGaps_nil hrest
      simpa [compactItems] using hall

theorem spellsMembers_compactMembers (fraction : Numeral → String) {m : String × Json}
    {members : List (String × Json)} (h : ∀ n ∈ m :: members, Spells n.2 (compact fraction n.2)) :
    SpellsMembers (m :: members) (compactMembers fraction (m :: members) ++ ['\x7d']) := by
  obtain ⟨name, value⟩ := m
  induction members generalizing name value with
  | nil =>
      have hone : SpellsMembers [(name, value)] _ :=
        .last isGaps_nil isGaps_nil (h (name, value) List.mem_cons_self) isGaps_nil
      simpa [compactMembers] using hone
  | cons next members ih =>
      have hrest := ih next.1 next.2 fun n hn => h n (List.mem_cons_of_mem _ hn)
      have hall : SpellsMembers ((name, value) :: next :: members) _ :=
        .cons isGaps_nil isGaps_nil (h (name, value) List.mem_cons_self) isGaps_nil isGaps_nil
          hrest
      simpa [compactMembers] using hall

/-- The compact text of a plain value spells it. -/
theorem Plain.spells_compact (fraction : Numeral → String) {j : Json} (h : Plain j) :
    Spells j (compact fraction j) := by
  induction h with
  | null => exact .null
  | bool b =>
      cases b with
      | true => exact .true
      | false => exact .false
  | @num n hn =>
      have hint : (Numeral.ofNat n).toInt? = some (n : Int) := by
        simp [Numeral.toInt?, Numeral.ofNat, hn]
      have hdigits : (toString (n : Int)).toList = Nat.toDigits 10 n := by
        simp [Nat.toList_repr, Int.repr]
      simp only [compact, printNumeral, hint, hdigits]
      exact .num n
  | str s => exact .str s
  | @arr items _ ih =>
      cases items with
      | nil => exact .noItems isGaps_nil
      | cons item items =>
          have hall := Spells.arr isGaps_nil (spellsItems_compactItems fraction ih)
          exact hall
  | @obj members _ ih =>
      cases members with
      | nil => exact .noMembers isGaps_nil
      | cons m members =>
          have hall := Spells.obj isGaps_nil (spellsMembers_compactMembers fraction ih)
          exact hall

/-! ## The indented text -/

theorem isGaps_newLine (depth : Nat) : IsGaps (newLine depth) := by
  intro c hc
  rcases List.mem_cons.mp hc with rfl | hc
  · rfl
  · rw [(List.mem_replicate.mp hc).2]
    rfl

/-- Indented items begin on a new line, and what stands on it and below spells them. -/
theorem spellsItems_prettyItems (fraction : Numeral → String) {depth : Nat} {item : Json}
    {items : List Json} {gap : List Char} (hgap : IsGaps gap)
    (h : ∀ i ∈ item :: items, Spells i (pretty fraction depth i)) :
    ∃ cs, prettyItems fraction depth (item :: items) ++ (gap ++ [']']) = newLine depth ++ cs
      ∧ SpellsItems (item :: items) cs := by
  induction items generalizing item with
  | nil => exact ⟨_, by simp [prettyItems], .last (h item List.mem_cons_self) hgap⟩
  | cons next items ih =>
      obtain ⟨cs, hcs, hrest⟩ := ih fun i hi => h i (List.mem_cons_of_mem _ hi)
      refine ⟨_, ?_, .cons (h item List.mem_cons_self) isGaps_nil (isGaps_newLine depth) hrest⟩
      rw [← hcs]
      simp [prettyItems]

theorem spellsMembers_prettyMembers (fraction : Numeral → String) {depth : Nat}
    {m : String × Json} {members : List (String × Json)} {gap : List Char} (hgap : IsGaps gap)
    (h : ∀ n ∈ m :: members, Spells n.2 (pretty fraction depth n.2)) :
    ∃ cs, prettyMembers fraction depth (m :: members) ++ (gap ++ ['\x7d']) = newLine depth ++ cs
      ∧ SpellsMembers (m :: members) cs := by
  obtain ⟨name, value⟩ := m
  have hspace : IsGaps [' '] := by decide
  have hvalue := h (name, value) List.mem_cons_self
  induction members generalizing name value with
  | nil => exact ⟨_, by simp [prettyMembers], .last isGaps_nil hspace hvalue hgap⟩
  | cons next members ih =>
      have hmore := fun n hn => h n (List.mem_cons_of_mem _ hn)
      obtain ⟨cs, hcs, hrest⟩ := ih next.1 next.2 hmore (hmore next List.mem_cons_self)
      refine ⟨_, ?_, .cons isGaps_nil hspace hvalue isGaps_nil (isGaps_newLine depth) hrest⟩
      rw [← hcs]
      simp [prettyMembers]

/-- The indented text of a plain value spells it, however deep it stands. -/
theorem Plain.spells_pretty (fraction : Numeral → String) {j : Json} (h : Plain j) (depth : Nat) :
    Spells j (pretty fraction depth j) := by
  induction h generalizing depth with
  | null => exact .null
  | bool b =>
      cases b with
      | true => exact .true
      | false => exact .false
  | num hn => exact (Plain.num hn).spells_compact fraction
  | str s => exact .str s
  | @arr items _ ih =>
      cases items with
      | nil => exact .noItems isGaps_nil
      | cons item items =>
          obtain ⟨cs, hcs, hitems⟩ := spellsItems_prettyItems fraction (isGaps_newLine depth)
            fun i hi => ih i hi (depth + 1)
          rw [pretty, List.append_assoc, hcs]
          exact .arr (isGaps_newLine _) hitems
  | @obj members _ ih =>
      cases members with
      | nil => exact .noMembers isGaps_nil
      | cons m members =>
          obtain ⟨cs, hcs, hmembers⟩ := spellsMembers_prettyMembers fraction (isGaps_newLine depth)
            fun n hn => ih n hn (depth + 1)
          rw [pretty, List.append_assoc, hcs]
          exact .obj (isGaps_newLine _) hmembers

end GrammarBench.Json
