import GrammarBench.Driver.Render
import GrammarBench.Proofs.Action
import Mathlib.Data.List.SplitBy

/-!
# Words of a driver

A text consists of words, which are the longest runs of characters that identifiers are made of, and
of single characters between them: its chunks. A skeleton has chunks too, some of which are the
places of names. The names are identifiers, and next to each place stands a character that no
identifier has, so a name is a whole word of the driver and changes no other one: the chunks of a
driver are those of its skeleton with the names put in (`chunks_fill`).
-/

namespace GrammarBench

/-! ## Names that are accepted -/

/-- The name that is given for a role, if any is. -/
def DriverSpec.name? (spec : DriverSpec) : Driver.Role → Option String
  | .lexer => some spec.lexerName
  | .parser => spec.parserName
  | .listener => spec.listenerName
  | .visitor => spec.visitorName
  | .startRule => spec.startRuleName

namespace Driver

theorem isIdentifierPart_of_mem {cs : List Char} (h : isIdentifier cs = true) :
    ∀ c ∈ cs, isIdentifierPart c = true := by
  cases cs with
  | nil => simp
  | cons first rest =>
      simp only [isIdentifier, Bool.and_eq_true, List.all_eq_true] at h
      intro c hc
      rcases List.mem_cons.mp hc with rfl | hc
      · simp [isIdentifierPart, h.1]
      · exact h.2 c hc

theorem ne_nil_of_isIdentifier {cs : List Char} (h : isIdentifier cs = true) : cs ≠ [] := by
  rintro rfl
  cases h

/-- A name is accepted when it is given and is an identifier, and it is accepted as it is. -/
theorem identifier_eq_ok {family : String} {role : Role} {given : Option String}
    {id : Identifier} : identifier family role given = .ok id ↔ given = some id.text := by
  have hne : id.text.isEmpty = false := by
    rw [Bool.eq_false_iff, ne_eq, String.isEmpty_iff]
    intro hempty
    exact ne_nil_of_isIdentifier id.isPlain (by rw [hempty]; rfl)
  unfold identifier
  constructor
  · intro h
    split at h
    · cases h
    · rename_i name hname
      split at h
      · cases h
        exact (Option.filter_eq_some_iff.mp hname).1
      · cases h
  · rintro rfl
    simp only [Option.filter_some, hne, Bool.not_false, if_true, id.isPlain, dif_pos]

namespace Template

/-- What the names in a driver stand for. -/
def roles : Template → List Role
  | lexerScript | lexerPage => [.lexer]
  | parserScript | parserPage => [.lexer, .parser, .listener, .visitor, .startRule]

theorem roles_of_lexerOnly {spec : DriverSpec} (h : spec.isLexerOnly = true)
    (kind : BackendKind) : (select spec kind).roles = [.lexer] := by
  cases kind <;> simp [select, h, roles]

end Template

/-- The names suit a request: for each role that the driver has a place for, the name that is given
is an identifier. -/
def Suits (names : Role → String) (spec : DriverSpec) (template : Template) : Prop :=
  ∀ role ∈ template.roles, spec.name? role = some (names role)
    ∧ isIdentifier (names role).toList = true

/-- The names of a recognizer suit the request that it is given by. -/
theorem suits_of_recognizer {spec : DriverSpec} {recognizer : Recognizer}
    (h : spec.recognizer = .ok recognizer) (kind : BackendKind) :
    Suits recognizer.names spec (Template.select spec kind) := by
  unfold Suits
  obtain ⟨lexer, hlexer, hrest⟩ := bind_eq_ok.mp h
  rw [identifier_eq_ok] at hlexer
  cases honly : spec.isLexerOnly with
  | true =>
      rw [honly] at hrest
      cases hrest
      rw [Template.roles_of_lexerOnly honly]
      intro role hrole
      rw [List.mem_singleton] at hrole
      subst hrole
      exact ⟨hlexer, lexer.isPlain⟩
  | false =>
      rw [honly] at hrest
      obtain ⟨parser, hparser, hrest⟩ := bind_eq_ok.mp hrest
      obtain ⟨listener, hlistener, hrest⟩ := bind_eq_ok.mp hrest
      obtain ⟨visitor, hvisitor, hrest⟩ := bind_eq_ok.mp hrest
      obtain ⟨startRule, hstartRule, hrest⟩ := bind_eq_ok.mp hrest
      cases hrest
      intro role hrole
      cases role with
      | lexer => exact ⟨hlexer, lexer.isPlain⟩
      | parser => exact ⟨identifier_eq_ok.mp hparser, parser.isPlain⟩
      | listener => exact ⟨identifier_eq_ok.mp hlistener, listener.isPlain⟩
      | visitor => exact ⟨identifier_eq_ok.mp hvisitor, visitor.isPlain⟩
      | startRule => exact ⟨identifier_eq_ok.mp hstartRule, startRule.isPlain⟩

/-- There is a driver exactly when the names give a recognizer. -/
theorem render_eq_ok {spec : DriverSpec} {kind : BackendKind} {text : String} :
    render spec kind = .ok text ↔ ∃ recognizer, spec.recognizer = .ok recognizer
      ∧ text = fill recognizer.names
          ((Template.select spec kind).lines spec.debug spec.showDfa) := by
  unfold render
  rcases spec.recognizer with fault | recognizer
  · simp
  · simp [eq_comm]

/-- A driver is its skeleton, filled with the names that are given. -/
theorem exists_names_of_render {spec : DriverSpec} {kind : BackendKind} {text : String}
    (h : render spec kind = .ok text) :
    ∃ names, Suits names spec (Template.select spec kind)
      ∧ text = fill names ((Template.select spec kind).lines spec.debug spec.showDfa) := by
  obtain ⟨recognizer, hrecognizer, rfl⟩ := render_eq_ok.mp h
  exact ⟨recognizer.names, suits_of_recognizer hrecognizer kind, rfl⟩

/-! ## Chunks -/

/-- A text in chunks: the longest runs of identifier characters, and each other character alone. -/
def chunks (text : List Char) : List (List Char) :=
  text.splitBy fun a b => isIdentifierPart a && isIdentifierPart b

def isWord (chunk : List Char) : Bool :=
  chunk.all isIdentifierPart

/-- A chunk ends where the character before or the one behind is of no identifier. -/
theorem chunks_append {before after : List Char}
    (h : ∀ a ∈ before.getLast?, ∀ b ∈ after.head?,
      isIdentifierPart a = false ∨ isIdentifierPart b = false) :
    chunks (before ++ after) = chunks before ++ chunks after :=
  List.splitBy_append fun a ha b hb => Bool.and_eq_false_iff.mpr (h a ha b hb)

theorem chunks_of_isIdentifier {name : List Char} (h : isIdentifier name = true) :
    chunks name = [name] := by
  refine List.splitBy_of_isChain (ne_nil_of_isIdentifier h) ?_
  have hpart := isIdentifierPart_of_mem h
  have hpairs : name.Pairwise fun a b => (isIdentifierPart a && isIdentifierPart b) = true :=
    List.pairwise_of_forall_mem_list fun a ha b hb => by rw [hpart a ha, hpart b hb]; rfl
  exact hpairs.isChain

/-! ## Chunks of a skeleton -/

/-- A chunk of a skeleton: one that every filling has, or the place of a name. -/
inductive Slot where
  | fixed (chunk : List Char)
  | name (role : Role)
deriving Repr, DecidableEq

def Slot.fill (names : Role → String) : Slot → List Char
  | fixed chunk => chunk
  | name role => (names role).toList

def Piece.slots : Piece → List Slot
  | text s => (chunks s.toList).map .fixed
  | name role => [.name role]

/-- The chunks of a skeleton; the end of a line is one. -/
def slots (lines : List Line) : List Slot :=
  lines.flatMap fun line => line.flatMap Piece.slots ++ [.fixed ['\n']]

/-- Between two pieces of a line a word ends: one is the place of a name, and on that side the other
has a character that no identifier has. -/
def Piece.Apart : Piece → Piece → Prop
  | .text s, .name _ => s.toList.getLast?.any (!isIdentifierPart ·) = true
  | .name _, .text s => s.toList.head?.any (!isIdentifierPart ·) = true
  | _, _ => False

instance : DecidableRel Piece.Apart
  | .text _, .text _ => inferInstanceAs (Decidable False)
  | .text _, .name _ => inferInstanceAs (Decidable (_ = true))
  | .name _, .text _ => inferInstanceAs (Decidable (_ = true))
  | .name _, .name _ => inferInstanceAs (Decidable False)

theorem Template.apart (template : Template) (debug showDfa : Bool) :
    ∀ line ∈ template.lines debug showDfa, line.IsChain Piece.Apart := by
  cases template <;> cases debug <;> cases showDfa <;> decide +kernel

def Piece.role? : Piece → Option Role
  | text _ => none
  | name role => some role

/-- A driver has a place for the names of its roles only. -/
theorem Template.role_mem_roles (template : Template) (debug showDfa : Bool) :
    ∀ line ∈ template.lines debug showDfa, ∀ piece ∈ line, ∀ role ∈ piece.role?,
      role ∈ template.roles := by
  cases template <;> cases debug <;> cases showDfa <;> decide +kernel

theorem slots_cons (line : Line) (rest : List Line) :
    slots (line :: rest) = line.flatMap Piece.slots ++ .fixed ['\n'] :: slots rest := by
  simp [slots]

variable {names : Role → String}

@[simp] theorem fillLine_nil (names : Role → String) : fillLine names [] = "" := rfl

@[simp] theorem toList_fillLine_cons (names : Role → String) (piece : Piece) (rest : Line) :
    (fillLine names (piece :: rest)).toList =
      (piece.fill names).toList ++ (fillLine names rest).toList := by
  simp [fillLine]

theorem toList_fill_cons (names : Role → String) (line : Line) (rest : List Line) :
    (fill names (line :: rest)).toList =
      (fillLine names line).toList ++ '\n' :: (fill names rest).toList := by
  simp [fill]

theorem chunks_piece {piece : Piece}
    (hnames : ∀ role ∈ piece.role?, isIdentifier (names role).toList = true) :
    chunks (piece.fill names).toList = piece.slots.map (Slot.fill names) := by
  cases piece with
  | text s => simp [Piece.fill, Piece.slots, Function.comp_def, Slot.fill]
  | name role => simp [Piece.fill, Piece.slots, Slot.fill, chunks_of_isIdentifier (hnames role rfl)]

/-- Where two pieces are apart, a chunk ends. -/
theorem Piece.Apart.chunks {piece next : Piece} (h : piece.Apart next) (rest : Line) :
    Driver.chunks ((piece.fill names).toList ++ (fillLine names (next :: rest)).toList) =
      Driver.chunks (piece.fill names).toList
        ++ Driver.chunks (fillLine names (next :: rest)).toList := by
  refine chunks_append fun a ha b hb => ?_
  cases piece with
  | text s =>
      cases next with
      | text s' => cases h
      | name role =>
          have hlast : s.toList.getLast?.any (!isIdentifierPart ·) = true := h
          have ha' : s.toList.getLast? = some a := ha
          left
          simpa [ha'] using hlast
  | name role =>
      cases next with
      | name role' => cases h
      | text s =>
          have hhead : s.toList.head?.any (!isIdentifierPart ·) = true := h
          rw [toList_fillLine_cons, List.head?_append, Piece.fill] at hb
          right
          cases hs : s.toList.head? with
          | none => simp [hs] at hhead
          | some c =>
              rw [hs, Option.some_or, Option.mem_some] at hb
              simpa [hs, hb] using hhead

theorem chunks_fillLine {line : Line} (hline : line.IsChain Piece.Apart)
    (hnames : ∀ piece ∈ line, ∀ role ∈ piece.role?, isIdentifier (names role).toList = true) :
    chunks (fillLine names line).toList = (line.flatMap Piece.slots).map (Slot.fill names) := by
  induction line with
  | nil => rfl
  | cons piece rest ih =>
      have hpiece := chunks_piece (hnames piece List.mem_cons_self)
      have hrest := ih hline.tail fun p hp => hnames p (List.mem_cons_of_mem _ hp)
      rw [List.flatMap_cons, List.map_append, ← hpiece, ← hrest, toList_fillLine_cons]
      cases rest with
      | nil => simp [chunks]
      | cons next rest => exact (List.isChain_cons_cons.mp hline).1.chunks rest

/-- **The chunks of a driver are those of its skeleton**, with the names put in. -/
theorem chunks_fill {lines : List Line} (hlines : ∀ line ∈ lines, line.IsChain Piece.Apart)
    (hnames : ∀ line ∈ lines, ∀ piece ∈ line, ∀ role ∈ piece.role?,
      isIdentifier (names role).toList = true) :
    chunks (fill names lines).toList = (slots lines).map (Slot.fill names) := by
  induction lines with
  | nil => rfl
  | cons line rest ih =>
      have hline := chunks_fillLine (hlines line List.mem_cons_self)
        (hnames line List.mem_cons_self)
      have hrest := ih (fun l hl => hlines l (List.mem_cons_of_mem _ hl))
        fun l hl => hnames l (List.mem_cons_of_mem _ hl)
      have hnewline : isIdentifierPart '\n' = false := by decide
      rw [toList_fill_cons, chunks_append fun a _ b hb => .inr (by cases hb; exact hnewline),
        ← List.singleton_append, chunks_append fun a ha b _ => .inl (by cases ha; exact hnewline),
        hline, hrest, slots_cons, List.map_append, List.map_cons]
      rfl

/-- The chunks of a driver that is made for a request. -/
theorem Suits.chunks_fill {spec : DriverSpec} {template : Template}
    (h : Suits names spec template) (debug showDfa : Bool) :
    chunks (fill names (template.lines debug showDfa)).toList =
      (slots (template.lines debug showDfa)).map (Slot.fill names) :=
  Driver.chunks_fill (template.apart debug showDfa) fun line hline piece hpiece role hrole =>
    (h role (template.role_mem_roles debug showDfa line hline piece hpiece role hrole)).2

end Driver

end GrammarBench
