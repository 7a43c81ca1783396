import GrammarBench.Proofs.Driver.Words

/-!
# The shape of a driver

Names are put into a driver without being quoted, so it has to be shown that they cannot change the
program. Two drivers of one skeleton have the same outline, which is what is left when each word is
replaced by one and the same character, and word by word they differ at most where the one has the
name for a role and the other its own name for that role (`render_sameShape`).
-/

namespace GrammarBench.Driver

/-- The words of a text in their order: its longest runs of identifier characters. -/
def words (text : String) : List String :=
  ((chunks text.toList).filter isWord).map String.ofList

/-- The text with each word replaced by `marker`. -/
def outline (marker : Char) (text : String) : String :=
  String.ofList ((chunks text.toList).flatMap fun chunk => if isWord chunk then [marker] else chunk)

/-- Two drivers, made for two requests, have the same shape. -/
structure SameShape (spec spec' : DriverSpec) (text text' : String) : Prop where
  same_outline : ∀ marker, outline marker text = outline marker text'
  /-- There are as many words in the one as in the other. -/
  same_length : (words text).length = (words text').length
  /-- Where two words differ, both are the name for the same role. -/
  differ : ∀ (i : Nat) (w w' : String),
    (words text)[i]? = some w → (words text')[i]? = some w' → w ≠ w' →
      ∃ role, spec.name? role = some w ∧ spec'.name? role = some w'

/-! ## Words and outline of a skeleton -/

def Slot.isWord : Slot → Bool
  | fixed chunk => Driver.isWord chunk
  | name _ => true

variable {names : Role → String} {spec : DriverSpec} {template : Template}

theorem Slot.isWord_fill {slot : Slot}
    (hnames : ∀ role, slot = .name role → isIdentifier (names role).toList = true) :
    Driver.isWord (slot.fill names) = slot.isWord := by
  cases slot with
  | fixed chunk => rfl
  | name role => exact List.all_eq_true.mpr (isIdentifierPart_of_mem (hnames role rfl))

/-- The names that a skeleton has places for are those of its roles. -/
theorem role_mem_of_slot {debug showDfa : Bool} {role : Role}
    (h : .name role ∈ slots (template.lines debug showDfa)) : role ∈ template.roles := by
  obtain ⟨line, hline, hslot⟩ := List.mem_flatMap.mp h
  rcases List.mem_append.mp hslot with hslot | hslot
  · obtain ⟨piece, hpiece, hslot⟩ := List.mem_flatMap.mp hslot
    cases piece with
    | text s => simp [Piece.slots] at hslot
    | name role' =>
        have heq : role = role' := by simpa [Piece.slots] using hslot
        exact template.role_mem_roles debug showDfa line hline _ hpiece role (by rw [heq]; rfl)
  · simp at hslot

/-- In a driver for a request a chunk is a word when its skeleton says so, whatever the names. -/
theorem Suits.isWord_fill (h : Suits names spec template) {debug showDfa : Bool} :
    ∀ slot ∈ slots (template.lines debug showDfa),
      Driver.isWord (slot.fill names) = slot.isWord := by
  intro slot hslot
  refine Slot.isWord_fill fun role hrole => ?_
  rw [hrole] at hslot
  exact (h role (role_mem_of_slot hslot)).2

theorem Suits.words_fill (h : Suits names spec template) (debug showDfa : Bool) :
    words (fill names (template.lines debug showDfa)) =
      ((slots (template.lines debug showDfa)).filter Slot.isWord).map
        fun slot => String.ofList (slot.fill names) := by
  rw [words, h.chunks_fill, List.filter_map, List.map_map]
  congr 1
  exact List.filter_congr h.isWord_fill

theorem Suits.outline_fill (h : Suits names spec template) (debug showDfa : Bool)
    (marker : Char) :
    outline marker (fill names (template.lines debug showDfa)) =
      String.ofList ((slots (template.lines debug showDfa)).flatMap fun
        | .fixed chunk => if Driver.isWord chunk then [marker] else chunk
        | .name _ => [marker]) := by
  rw [outline, h.chunks_fill, List.flatMap_map]
  congr 1
  refine List.flatMap_congr fun slot hslot => ?_
  rw [h.isWord_fill slot hslot]
  cases slot <;> rfl

/-! ## Two drivers of one skeleton -/

/-- **Names do not change the shape of a driver.** -/
theorem render_sameShape {spec' : DriverSpec} {text text' : String} (kind : BackendKind)
    (h : render spec kind = .ok text) (h' : render spec' kind = .ok text')
    (htemplate : Template.select spec kind = Template.select spec' kind)
    (hdebug : spec.debug = spec'.debug) (hdfa : spec.showDfa = spec'.showDfa) :
    SameShape spec spec' text text' := by
  obtain ⟨names, hnames, rfl⟩ := exists_names_of_render h
  obtain ⟨names', hnames', rfl⟩ := exists_names_of_render h'
  rw [← htemplate, ← hdebug, ← hdfa]
  rw [← htemplate] at hnames'
  refine ⟨fun marker => ?_, ?_, fun i w w' hw hw' hne => ?_⟩
  · rw [hnames.outline_fill, hnames'.outline_fill]
  · rw [hnames.words_fill, hnames'.words_fill, List.length_map, List.length_map]
  · rw [hnames.words_fill, List.getElem?_map, Option.map_eq_some_iff] at hw
    rw [hnames'.words_fill, List.getElem?_map, Option.map_eq_some_iff] at hw'
    obtain ⟨slot, hslot, rfl⟩ := hw
    obtain ⟨slot', hslot', rfl⟩ := hw'
    obtain rfl : slot = slot' := Option.some.inj (hslot.symm.trans hslot')
    cases slot with
    | fixed chunk => exact absurd rfl hne
    | name role =>
        have hrole := role_mem_of_slot (List.mem_of_mem_filter (List.mem_of_getElem? hslot))
        refine ⟨role, ?_, ?_⟩
        · rw [(hnames role hrole).1, Slot.fill, String.ofList_toList]
        · rw [(hnames' role hrole).1, Slot.fill, String.ofList_toList]

/-- The same holds for names that are words of the skeleton, or that have a dollar sign. -/
theorem render_sameShape_of_odd_names :
    ∃ text text',
      render ((DriverSpec.parser "main" "require" "antlr4" "$" "walk").withDebug true) .process
          = .ok text
        ∧ render ((DriverSpec.parser "P" "L" "A" "V" "s").withDebug true) .process = .ok text'
        ∧ SameShape ((DriverSpec.parser "main" "require" "antlr4" "$" "walk").withDebug true)
            ((DriverSpec.parser "P" "L" "A" "V" "s").withDebug true) text text' :=
  ⟨_, _, rfl, rfl, render_sameShape .process rfl rfl rfl rfl rfl⟩

end GrammarBench.Driver
