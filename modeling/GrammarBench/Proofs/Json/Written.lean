import GrammarBench.Proofs.Json.Locality

/-!
# Objects as they are written

The text of an object is a list of members between braces, with commas between them, and each
member is a text of its name, a colon and a text of its value (`WrittenMember`). The reader finds
these members and nothing else, in the order in which they are written (`parse_eq_obj_iff`): so a
text whose members are moved, added or taken out is read as the object with the same change.
-/

namespace GrammarBench.Json

/-- A member as it is written. Its name and its value are texts of their own, which may begin and
end with gaps. -/
structure WrittenMember where
  name : String
  value : Json
  nameText : String
  valueText : String
  reads_name : parse nameText = some (str name)
  reads_value : parse valueText = some value

namespace WrittenMember

def text (m : WrittenMember) : String :=
  m.nameText ++ ":" ++ m.valueText

def said (m : WrittenMember) : String × Json :=
  (m.name, m.value)

end WrittenMember

/-- The text is an object with these members in this order, and nothing but gaps besides. -/
def WrittenAs (text : String) (ms : List WrittenMember) : Prop :=
  ∃ lead gap trail : String,
    IsGaps lead.toList ∧ IsGaps gap.toList ∧ IsGaps trail.toList ∧
      text = lead ++ "\x7b" ++ gap ++ ",".intercalate (ms.map WrittenMember.text) ++ "\x7d" ++ trail

/-- Any list of members can be written. -/
theorem exists_writtenAs (ms : List WrittenMember) : ∃ text, WrittenAs text ms :=
  ⟨_, "", "", "", isGaps_nil, isGaps_nil, isGaps_nil, rfl⟩

/-! ## One member -/

theorem isGaps_append {front back : List Char} (hfront : IsGaps front) (hback : IsGaps back) :
    IsGaps (front ++ back) := by
  intro c hc
  rcases List.mem_append.mp hc with hc | hc
  · exact hfront c hc
  · exact hback c hc

theorem WrittenMember.isMember (m : WrittenMember) :
    ∃ lead used trail, m.text.toList = lead ++ (used ++ trail) ∧ IsGaps lead ∧ IsGaps trail ∧
      IsMember (some m.name, m.value) used := by
  obtain ⟨lead, nameUsed, before, hname, hlead, hbefore, hreadName⟩ :=
    parse_eq_some_iff.mp m.reads_name
  obtain ⟨after, used, trail, hvalue, hafter, htrail, hreadValue⟩ :=
    parse_eq_some_iff.mp m.reads_value
  cases readAs_iff_isValue.mp hreadName with
  | str htakes =>
      refine ⟨lead, _, trail, ?_, hlead, htrail, .intro htakes hbefore hafter hreadValue⟩
      simp [text, hname, hvalue]

theorem exists_writtenMember {name : String} {value : Json} {lead used trail : List Char}
    (hlead : IsGaps lead) (htrail : IsGaps trail) (h : IsMember (some name, value) used) :
    ∃ m : WrittenMember, m.said = (name, value) ∧ m.text.toList = lead ++ (used ++ trail) := by
  obtain ⟨htakes, hbefore, hafter, hread⟩ := h
  rename_i nameUsed before after used
  have hname : parse (String.ofList (lead ++ ('"' :: nameUsed ++ before))) = some (str name) :=
    parse_eq_some_iff.mpr
      ⟨lead, '"' :: nameUsed, before, by simp, hlead, hbefore, (IsValue.str htakes).readAs⟩
  have hvalue : parse (String.ofList (after ++ (used ++ trail))) = some value :=
    parse_eq_some_iff.mpr ⟨after, used, trail, by simp, hafter, htrail, hread⟩
  exact ⟨⟨name, value, _, _, hname, hvalue⟩, rfl, by simp [WrittenMember.text]⟩

/-! ## All members -/

theorem named?_map (ms : List WrittenMember) :
    named? (ms.map fun m => (some m.name, m.value)) = some (ms.map WrittenMember.said) := by
  rw [← named?_some, List.map_map]
  rfl

/-- Members that are written one after another are read so, apart from the gaps in front. -/
theorem joined_of_written {ms : List WrittenMember} (hne : ms ≠ []) :
    ∃ lead used, (",".intercalate (ms.map WrittenMember.text)).toList ++ ['\x7d'] = lead ++ used ∧
      IsGaps lead ∧ Joined IsMember '\x7d' (ms.map fun m => (some m.name, m.value)) used := by
  induction ms with
  | nil => exact absurd rfl hne
  | cons m ms ih =>
      obtain ⟨lead, used, gap, htext, hlead, hgap, hm⟩ := m.isMember
      cases ms with
      | nil => exact ⟨lead, _, by simp [htext], hlead, .last hm hgap⟩
      | cons m' ms =>
          obtain ⟨next, more, hmore, hnext, hjoined⟩ := ih (List.cons_ne_nil m' ms)
          refine ⟨lead, _, ?_, hlead, .cons hm hgap hnext hjoined⟩
          rw [List.map_cons] at hmore
          simp only [List.map_cons, String.intercalate_cons_cons, String.toList_append, htext,
            List.append_assoc, hmore]
          rfl

/-- Members that are read one after another are written so, with the gaps that stand around
them. -/
theorem exists_written {named : List (Option String × Json)} {members : List (String × Json)}
    {lead used : List Char} (h : Joined IsMember '\x7d' named used)
    (hnamed : named? named = some members) (hlead : IsGaps lead) :
    ∃ ms : List WrittenMember, ms ≠ [] ∧ ms.map WrittenMember.said = members ∧
      lead ++ used = (",".intercalate (ms.map WrittenMember.text)).toList ++ ['\x7d'] := by
  induction h generalizing lead members with
  | @last m used gap hm hgap =>
      obtain ⟨_ | name, value⟩ := m
      · cases hnamed
      · cases hnamed
        obtain ⟨w, hsaid, htext⟩ := exists_writtenMember hlead hgap hm
        exact ⟨[w], by simp, by simp [hsaid], by simp [htext]⟩
  | @cons m named used gap next more hm hgap hnext _ ih =>
      obtain ⟨_ | name, value⟩ := m
      · cases hnamed
      · obtain ⟨rest, hrest, rfl⟩ := Option.map_eq_some_iff.mp hnamed
        obtain ⟨w, hsaid, htext⟩ := exists_writtenMember hlead hgap hm
        obtain ⟨ms, hne, rfl, hmore⟩ := ih hrest hnext
        refine ⟨w :: ms, by simp, by simp [hsaid], ?_⟩
        rw [List.map_cons, String.intercalate_cons_of_ne_nil (by simpa using hne)]
        simp only [String.toList_append, htext, List.append_assoc, ← hmore]
        rfl

/-- **A text is read as an object when the members of the object are written in it.** -/
theorem parse_eq_obj_iff {text : String} {members : List (String × Json)} :
    parse text = some (obj members) ↔
      ∃ ms, WrittenAs text ms ∧ ms.map WrittenMember.said = members := by
  rw [parse_eq_some_iff]
  constructor
  · rintro ⟨lead, used, trail, htext, hlead, htrail, hread⟩
    cases readAs_iff_isValue.mp hread with
    | @noMembers gap hgap =>
        refine ⟨[], ⟨.ofList lead, .ofList gap, .ofList trail, ?_⟩, rfl⟩
        refine ⟨by simpa, by simpa, by simpa, String.toList_injective ?_⟩
        simp [htext]
    | @obj _ named gap body hgap hjoined hnamed =>
        obtain ⟨ms, -, hsaid, hbody⟩ := exists_written hjoined hnamed isGaps_nil
        refine ⟨ms, ⟨.ofList lead, .ofList gap, .ofList trail, ?_⟩, hsaid⟩
        refine ⟨by simpa, by simpa, by simpa, String.toList_injective ?_⟩
        rw [List.nil_append] at hbody
        simp [htext, hbody]
  · rintro ⟨ms, ⟨lead, gap, trail, hlead, hgap, htrail, rfl⟩, rfl⟩
    cases ms with
    | nil =>
        exact ⟨lead.toList, _, trail.toList, by simp, hlead, htrail,
          (IsValue.noMembers hgap).readAs⟩
    | cons m ms =>
        obtain ⟨next, used, hjoin, hnext, hjoined⟩ := joined_of_written (List.cons_ne_nil m ms)
        have hvalue := IsValue.obj (isGaps_append hgap hnext) hjoined (named?_map (m :: ms))
        have hbody : (",".intercalate ((m :: ms).map WrittenMember.text)).toList ++
            ('\x7d' :: trail.toList) = next ++ (used ++ trail.toList) := by
          rw [← List.append_assoc next, ← hjoin]
          simp
        refine ⟨lead.toList, _, trail.toList, ?_, hlead, htrail, hvalue.readAs⟩
        simpa using hbody

end GrammarBench.Json
