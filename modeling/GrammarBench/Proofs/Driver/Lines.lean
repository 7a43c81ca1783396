import GrammarBench.Proofs.Driver.Distinct
import GrammarBench.Proofs.Text.Pieces

/-!
# Where a line stands in a driver

The lines of a driver are those of its skeleton, with the names put in, and an empty one behind the
last (`Suits.lines_fill`). A name can be like a word of the skeleton, so two different lines of a
skeleton might become the same line of a driver; they do not when they `clash`, which is when they
have different fixed chunks at one place or are not of the same length. So a line of the skeleton
that clashes with all others is found in a driver where the skeleton has it, and nowhere else
(`Suits.count_line`).
-/

namespace GrammarBench.Driver

/-- The chunks of a line of a skeleton. -/
def lineSlots (line : Line) : List Slot :=
  line.flatMap Piece.slots

/-- Two chunks of skeletons are different, whatever the names are. -/
def Slot.clash : Slot → Slot → Bool
  | fixed chunk, fixed chunk' => chunk != chunk'
  | _, _ => false

/-- Two lines of skeletons are different, whatever the names are. -/
def clash : List Slot → List Slot → Bool
  | [], [] => false
  | slot :: rest, slot' :: rest' => slot.clash slot' || clash rest rest'
  | _, _ => true

variable {names : Role → String} {spec : DriverSpec} {template : Template} {on : Bool}
  {line line' : Line} {found : List Line}

theorem Slot.fill_ne_of_clash {slot slot' : Slot} (h : slot.clash slot' = true) :
    slot.fill names ≠ slot'.fill names := by
  cases slot with
  | name role => cases h
  | fixed chunk =>
      cases slot' with
      | name role => cases h
      | fixed chunk' => exact bne_iff_ne.mp h

theorem map_fill_ne_of_clash {sl sl' : List Slot} (h : clash sl sl' = true)
    (names : Role → String) : sl.map (Slot.fill names) ≠ sl'.map (Slot.fill names) := by
  fun_induction clash sl sl' with
  | case1 => cases h
  | case2 slot rest slot' rest' ih =>
      rw [Bool.or_eq_true] at h
      intro heq
      rw [List.map_cons, List.map_cons, List.cons.injEq] at heq
      exact h.elim (Slot.fill_ne_of_clash · heq.1) (ih · heq.2)
  | case3 sl sl' hnil hcons =>
      cases sl with
      | nil =>
          cases sl' with
          | nil => exact absurd rfl (hnil rfl)
          | cons slot' rest' => simp
      | cons slot rest =>
          cases sl' with
          | nil => simp
          | cons slot' rest' => exact absurd rfl (hcons _ _ _ _ rfl)

/-! ## Skeletons in chunks -/

theorem map_lineSlots_cons {slots : List Slot} {rest : List Line} {rows : List (List Slot)}
    (hline : lineSlots line = slots) (hrest : rest.map lineSlots = rows) :
    (line :: rest).map lineSlots = slots :: rows := by
  rw [List.map_cons, hline, hrest]

theorem lineSlots_nil : lineSlots [] = [] := rfl

theorem lineSlots_text {s : String} {cs : List Char} {slots : List Slot}
    (hs : s = String.ofList cs) (hrest : lineSlots line = slots) :
    lineSlots (.text s :: line) = (chunks cs).map .fixed ++ slots := by
  rw [← hrest, hs]
  simp [lineSlots, Piece.slots]

theorem lineSlots_name {role : Role} {slots : List Slot} (hrest : lineSlots line = slots) :
    lineSlots (.name role :: line) = .name role :: slots := by
  rw [← hrest]
  rfl

/-- The chunks of the lines of a skeleton. They are made from lists of characters, which evaluate
faster than texts. -/
def Template.sketch (template : Template) (on : Bool) :
    {rows : List (List Slot) // (template.skeleton on).map lineSlots = rows} := by
  cases template <;> cases on
  all_goals
    exact ⟨_, by
      simp only [skeleton, lines, Driver.lexerScript, lexerScriptHead, lexerScriptDfa,
        lexerScriptTail, Driver.parserScript, parserScriptHead, parserScriptDebug,
        parserScriptTail, Driver.lexerPage, Driver.parserPage, page, pageHead, pageLoad, pageRun,
        pageTail, lexerSlots, lexerLoad, lexerRun, lexerPageDfa, parserSlots, parserLoad,
        parserRunHead, parserPageDebug, parserRunTail, plain, if_true, if_false,
        Bool.false_eq_true, List.cons_append, List.nil_append]
      with_reducible repeat' first
        | exact List.map_nil
        | exact lineSlots_nil
        | apply map_lineSlots_cons
        | apply lineSlots_name
        | apply lineSlots_text rfl
        | apply lineSlots_text String.ofList_append.symm⟩

/-- The line at this place clashes with all others of the skeleton, and with an empty one. -/
def Template.standsAlone (template : Template) (on : Bool) (i : Nat) : Bool :=
  (template.sketch on).val[i]?.any fun row =>
    ([] :: (template.sketch on).val.eraseIdx i).all (clash · row)

theorem Template.clash_of_standsAlone {i : Nat} (halone : template.standsAlone on i = true)
    (hline : (template.skeleton on)[i]? = some line) :
    ∀ other ∈ [] :: (template.skeleton on).eraseIdx i,
      clash (lineSlots other) (lineSlots line) = true := by
  have hrow : (template.sketch on).val[i]? = some (lineSlots line) := by
    rw [← (template.sketch on).property, List.getElem?_map, hline]
    rfl
  rw [standsAlone, hrow, Option.any_some, ← (template.sketch on).property, ← lineSlots_nil,
    List.eraseIdx_map, ← List.map_cons, List.all_map] at halone
  exact List.all_eq_true.mp halone

/-- A skeleton has empty lines. -/
theorem Template.nil_mem_skeleton (template : Template) (on : Bool) :
    [] ∈ template.skeleton on := by
  cases template <;> cases on <;> decide +kernel

/-! ## Lines with the names put in -/

@[simp] theorem fillLine_plain (names : Role → String) (s : String) :
    fillLine names (plain s) = s := by
  simp [fillLine, plain, Piece.fill]

namespace Suits

variable (h : Suits names spec template)

include h

theorem isIdentifier_of_mem (hline : line ∈ template.skeleton on) :
    ∀ piece ∈ line, ∀ role ∈ piece.role?, isIdentifier (names role).toList = true :=
  fun piece hpiece role hrole =>
    (h role (template.role_mem_roles on on line hline piece hpiece role hrole)).2

theorem chunks_fillLine (hline : line ∈ template.skeleton on) :
    chunks (fillLine names line).toList = (lineSlots line).map (Slot.fill names) :=
  Driver.chunks_fillLine (template.apart on on line hline) (h.isIdentifier_of_mem hline)

theorem newline_notMem_fillLine (hline : line ∈ template.skeleton on) :
    '\n' ∉ (fillLine names line).toList :=
  (template.unbroken on line hline).fillLine (h.isIdentifier_of_mem hline)

theorem lines_fill_of_forall_mem (hfound : ∀ line ∈ found, line ∈ template.skeleton on) :
    Text.lines (fill names found) = (found ++ [[]]).map (fillLine names) := by
  induction found with
  | nil => rfl
  | cons line rest ih =>
      obtain ⟨hline, hrest⟩ := List.forall_mem_cons.mp hfound
      rw [Text.lines_of_toList_eq (toList_fill_cons names line rest)
        (h.newline_notMem_fillLine hline), ih hrest]
      rfl

/-- **The lines of a driver are those of its skeleton.** -/
theorem lines_fill (on : Bool) :
    Text.lines (fill names (template.skeleton on)) =
      (template.skeleton on ++ [[]]).map (fillLine names) :=
  h.lines_fill_of_forall_mem fun _ => id

theorem fillLine_mem (hline : line ∈ template.skeleton on) :
    fillLine names line ∈ Text.lines (fill names (template.skeleton on)) := by
  rw [h.lines_fill]
  exact List.mem_map_of_mem (List.mem_append_left _ hline)

theorem fillLine_ne (hline : line ∈ template.skeleton on) (hline' : line' ∈ template.skeleton on)
    (hclash : clash (lineSlots line) (lineSlots line') = true) :
    fillLine names line ≠ fillLine names line' := by
  have hne := map_fill_ne_of_clash hclash names
  rw [← h.chunks_fillLine hline, ← h.chunks_fillLine hline'] at hne
  exact fun heq => hne (by rw [heq])

theorem fillLine_ne_of_standsAlone {i : Nat} (hline : (template.skeleton on)[i]? = some line)
    (halone : template.standsAlone on i = true) :
    ∀ other ∈ [] :: (template.skeleton on).eraseIdx i,
      fillLine names other ≠ fillLine names line := by
  intro other hother
  refine h.fillLine_ne ?_ (List.mem_of_getElem? hline)
    (Template.clash_of_standsAlone halone hline other hother)
  rcases List.mem_cons.mp hother with rfl | hother
  · exact template.nil_mem_skeleton on
  · exact List.mem_of_mem_eraseIdx hother

/-- A line that clashes with all others stands in a driver once. -/
theorem count_line {i : Nat} (hline : (template.skeleton on)[i]? = some line)
    (halone : template.standsAlone on i = true) :
    (Text.lines (fill names (template.skeleton on))).count (fillLine names line) = 1 := by
  obtain ⟨hi, hget⟩ := List.getElem?_eq_some_iff.mp hline
  -- the line and the others, in another order
  have hperm : (template.skeleton on ++ [[]]).Perm
      (line :: [] :: (template.skeleton on).eraseIdx i) := by
    rw [← hget]
    refine List.perm_append_comm.trans (List.Perm.trans ?_ (List.Perm.swap _ _ _))
    exact (List.getElem_cons_eraseIdx_perm hi).symm.cons []
  rw [h.lines_fill, (hperm.map _).count_eq, List.map_cons, List.count_cons_self,
    List.count_eq_zero.mpr]
  intro hmem
  obtain ⟨other, hmem, heq⟩ := List.mem_map.mp hmem
  exact h.fillLine_ne_of_standsAlone hline halone other hmem heq

/-- What stands in a driver from such a line on is what stands in the skeleton from it on. -/
theorem dropWhile_lines {i : Nat} (hline : (template.skeleton on)[i]? = some line)
    (halone : template.standsAlone on i = true) :
    (Text.lines (fill names (template.skeleton on))).dropWhile (· != fillLine names line) =
      ((template.skeleton on).drop i ++ [[]]).map (fillLine names) := by
  obtain ⟨hi, hget⟩ := List.getElem?_eq_some_iff.mp hline
  have hbefore : ∀ text ∈ ((template.skeleton on).take i).map (fillLine names),
      (text != fillLine names line) = true := by
    intro text htext
    obtain ⟨other, hother, rfl⟩ := List.mem_map.mp htext
    refine bne_iff_ne.mpr (h.fillLine_ne_of_standsAlone hline halone other ?_)
    rw [List.eraseIdx_eq_take_drop_succ]
    exact List.mem_cons_of_mem _ (List.mem_append_left _ hother)
  have hdrop : (template.skeleton on).drop i = line :: (template.skeleton on).drop (i + 1) := by
    rw [List.drop_eq_getElem_cons hi, hget]
  conv_lhs => rw [h.lines_fill, ← List.take_append_drop i (template.skeleton on)]
  rw [List.append_assoc, List.map_append, List.dropWhile_append_of_pos hbefore,
    hdrop, List.cons_append, List.map_cons, List.dropWhile_cons, if_neg (by simp)]

end Suits

end GrammarBench.Driver
