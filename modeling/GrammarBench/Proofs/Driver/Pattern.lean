import GrammarBench.Proofs.Driver.Lines

/-!
# Patterns in the lines of a driver

Where a program declares, assigns or hides a variable is read off its lines by patterns of chunks. A
name can be any plain word, also one that a pattern asks for, so a pattern may find something in a
driver that it does not find in the skeleton. It does not if it is `sure` about the skeleton: at no
place of it the names decide whether the pattern fits. Then it finds in the driver what it finds in
the skeleton, with the names put in (`Suits.found_lines`).
-/

namespace GrammarBench.Driver

/-- What a pattern asks of a chunk. -/
inductive Test where
  | is (chunk : List Char)
  | isNot (chunk : List Char)
  | word
deriving Repr, DecidableEq

def Test.holds : Test → List Char → Bool
  | is expected, chunk => chunk == expected
  | isNot avoided, chunk => chunk != avoided
  | word, chunk => isWord chunk

/-- The test holds for a chunk of a skeleton whatever the names are. -/
def Test.must : Test → Slot → Bool
  | test, .fixed chunk => test.holds chunk
  | is _, .name _ => false
  | isNot avoided, .name _ => !isWord avoided
  | word, .name _ => true

/-- There may be names for which the test holds. -/
def Test.may : Test → Slot → Bool
  | test, .fixed chunk => test.holds chunk
  | is expected, .name _ => isWord expected
  | isNot _, .name _ => true
  | word, .name _ => true

def Slot.isFixed : Slot → Bool
  | fixed _ => true
  | name _ => false

/-- A row of tests, one of which is for the chunk that is looked for. -/
structure Pattern where
  tests : List Test
  target : Nat
deriving Repr, DecidableEq

/-- The list begins with elements that pass the tests. -/
def passes {α : Type} (holds : Test → α → Bool) : List Test → List α → Bool
  | [], _ => true
  | test :: tests, x :: xs => holds test x && passes holds tests xs
  | _ :: _, [] => false

namespace Pattern

section Find

variable {α : Type} (holds : Test → α → Bool)

/-- What the pattern finds at the beginning of a list. -/
def here (p : Pattern) (xs : List α) : List α :=
  if passes holds p.tests xs then xs[p.target]?.toList else []

/-- What the pattern finds in a list, at all its places. -/
def find (p : Pattern) : List α → List α
  | [] => []
  | x :: xs => p.here holds (x :: xs) ++ find p xs

end Find

/-- At no place of the skeleton the names decide whether the pattern fits. -/
def sure (p : Pattern) : List Slot → Bool
  | [] => true
  | slot :: rest =>
    (passes Test.must p.tests (slot :: rest) || !passes Test.may p.tests (slot :: rest))
      && p.sure rest

end Pattern

/-! ## Lines -/

/-- The chunks of a line and the ends of lines around it. -/
def lineChunks (line : String) : List (List Char) :=
  ['\n'] :: chunks line.toList ++ [['\n']]

/-- The chunks of a line of a skeleton and the ends of lines around it. -/
def boundedSlots (slots : List Slot) : List Slot :=
  .fixed ['\n'] :: slots ++ [.fixed ['\n']]

namespace Pattern

/-- What the pattern finds in the lines of a text. -/
def found (p : Pattern) (lines : List String) : List String :=
  lines.flatMap fun line => (p.find Test.holds (lineChunks line)).map String.ofList

/-- What the pattern finds in the lines of a skeleton. -/
def foundSlots (p : Pattern) (rows : List (List Slot)) : List Slot :=
  rows.flatMap fun row => p.find Test.must (boundedSlots row)

end Pattern

def Slot.text (names : Role → String) (slot : Slot) : String :=
  String.ofList (slot.fill names)

/-! ## What is found in a driver -/

variable {names : Role → String} {spec : DriverSpec} {template : Template} {on : Bool}

theorem isWord_of_isIdentifier {cs : List Char} (h : isIdentifier cs = true) :
    isWord cs = true :=
  List.all_eq_true.mpr (isIdentifierPart_of_mem h)

theorem Test.holds_of_must {test : Test} {slot : Slot}
    (hname : ∀ role, slot = .name role → isIdentifier (names role).toList = true)
    (h : test.must slot = true) : test.holds (slot.fill names) = true := by
  cases slot with
  | fixed chunk => exact h
  | name role =>
      have hword := isWord_of_isIdentifier (hname role rfl)
      cases test with
      | is expected => cases h
      | word => exact hword
      | isNot avoided =>
          refine bne_iff_ne.mpr fun heq => ?_
          rw [must, ← heq, Slot.fill, hword] at h
          cases h

theorem Test.may_of_holds {test : Test} {slot : Slot}
    (hname : ∀ role, slot = .name role → isIdentifier (names role).toList = true)
    (h : test.holds (slot.fill names) = true) : test.may slot = true := by
  cases slot with
  | fixed chunk => exact h
  | name role =>
      cases test with
      | is expected =>
          rw [may, ← beq_iff_eq.mp h]
          exact isWord_of_isIdentifier (hname role rfl)
      | word => rfl
      | isNot avoided => rfl

section Passes

variable {α β : Type} {tests : List Test}

theorem passes_map (holds : Test → β → Bool) (f : α → β) (xs : List α) :
    passes holds tests (xs.map f) = passes (fun test x => holds test (f x)) tests xs := by
  induction tests generalizing xs with
  | nil => rfl
  | cons test tests ih =>
      cases xs with
      | nil => rfl
      | cons x xs => rw [List.map_cons, passes, passes, ih]

theorem passes_mono {holds holds' : Test → α → Bool} {xs : List α}
    (h : ∀ x ∈ xs, ∀ test, holds test x = true → holds' test x = true)
    (hpass : passes holds tests xs = true) : passes holds' tests xs = true := by
  induction tests generalizing xs with
  | nil => rfl
  | cons test tests ih =>
      cases xs with
      | nil => cases hpass
      | cons x xs =>
          obtain ⟨hx, hxs⟩ := List.forall_mem_cons.mp h
          rw [passes, Bool.and_eq_true] at hpass ⊢
          exact ⟨hx test hpass.1, ih hxs hpass.2⟩

end Passes

namespace Pattern

variable {p : Pattern}

/-- Where a pattern is sure, it fits the skeleton when it fits what the names make of it. -/
theorem passes_map_fill {sl : List Slot}
    (hnames : ∀ role, .name role ∈ sl → isIdentifier (names role).toList = true)
    (hsure : passes Test.must p.tests sl = true ∨ passes Test.may p.tests sl = false) :
    passes Test.holds p.tests (sl.map (Slot.fill names)) = passes Test.must p.tests sl := by
  have hname : ∀ slot ∈ sl, ∀ role, slot = .name role → isIdentifier (names role).toList = true :=
    fun slot hslot role hrole => hnames role (hrole ▸ hslot)
  have hup : passes Test.must p.tests sl = true →
      passes Test.holds p.tests (sl.map (Slot.fill names)) = true := by
    rw [passes_map]
    exact passes_mono fun slot hslot _ => Test.holds_of_must (hname slot hslot)
  have hdown : passes Test.holds p.tests (sl.map (Slot.fill names)) = true →
      passes Test.may p.tests sl = true := by
    rw [passes_map]
    exact passes_mono fun slot hslot _ => Test.may_of_holds (hname slot hslot)
  rw [Bool.eq_iff_iff]
  refine ⟨fun hholds => hsure.resolve_right fun hmay => ?_, hup⟩
  rw [hdown hholds] at hmay
  cases hmay

/-- Where there are no names, a pattern is sure. -/
theorem sure_of_all_isFixed {sl : List Slot} (h : sl.all Slot.isFixed = true) :
    p.sure sl = true := by
  induction sl with
  | nil => rfl
  | cons slot rest ih =>
      have hsame : passes Test.may p.tests (slot :: rest) = true →
          passes Test.must p.tests (slot :: rest) = true :=
        passes_mono fun s hs test hmay => by
          have hfixed := List.all_eq_true.mp h s hs
          cases s with
          | fixed chunk => exact hmay
          | name role => cases hfixed
      rw [List.all_cons, Bool.and_eq_true] at h
      rw [sure, ih h.2, Bool.and_true, Bool.or_eq_true, Bool.not_eq_true']
      cases hmay : passes Test.may p.tests (slot :: rest) with
      | true => exact .inl (hsame hmay)
      | false => exact .inr rfl

/-- A pattern that is sure finds what it finds in the skeleton. -/
theorem find_map_fill {sl : List Slot}
    (hnames : ∀ role, .name role ∈ sl → isIdentifier (names role).toList = true)
    (hsure : p.sure sl = true) :
    p.find Test.holds (sl.map (Slot.fill names)) =
      (p.find Test.must sl).map (Slot.fill names) := by
  induction sl with
  | nil => rfl
  | cons slot rest ih =>
      rw [sure, Bool.and_eq_true, Bool.or_eq_true, Bool.not_eq_true'] at hsure
      have hhere := passes_map_fill hnames hsure.1
      have hrest := ih (fun role hrole => hnames role (List.mem_cons_of_mem _ hrole)) hsure.2
      rw [List.map_cons, find, find, List.map_append, hrest, ← List.map_cons, here, here, hhere]
      split
      · rw [List.getElem?_map]
        cases (slot :: rest)[p.target]? <;> rfl
      · rfl

end Pattern

/-- The names that a line has places for are plain. -/
theorem Suits.isIdentifier_of_mem_lineSlots (h : Suits names spec template) {line : Line}
    (hline : line ∈ template.skeleton on) {role : Role} (hrole : .name role ∈ lineSlots line) :
    isIdentifier (names role).toList = true := by
  obtain ⟨piece, hpiece, hslot⟩ := List.mem_flatMap.mp hrole
  refine h.isIdentifier_of_mem hline piece hpiece role ?_
  cases piece with
  | text s => simp [Piece.slots] at hslot
  | name role' =>
      obtain rfl : role = role' := by simpa [Piece.slots] using hslot
      rfl

/-- **What a pattern that is sure finds in a driver** is what it finds in the skeleton. -/
theorem Suits.found_lines (h : Suits names spec template) {p : Pattern} {lines : List Line}
    (hlines : ∀ line ∈ lines, line ∈ template.skeleton on)
    (hsure : ∀ row ∈ lines.map lineSlots, p.sure (boundedSlots row) = true) :
    p.found (lines.map (fillLine names)) =
      (p.foundSlots (lines.map lineSlots)).map (Slot.text names) := by
  rw [Pattern.found, Pattern.foundSlots, List.flatMap_map, List.flatMap_map, List.map_flatMap]
  refine List.flatMap_congr fun line hline => ?_
  have hchunks : lineChunks (fillLine names line) =
      (boundedSlots (lineSlots line)).map (Slot.fill names) := by
    rw [lineChunks, h.chunks_fillLine (hlines line hline), boundedSlots]
    simp [Slot.fill]
  have hnames : ∀ role, .name role ∈ boundedSlots (lineSlots line) →
      isIdentifier (names role).toList = true := fun role hrole =>
    h.isIdentifier_of_mem_lineSlots (hlines line hline) (by simpa [boundedSlots] using hrole)
  rw [hchunks, Pattern.find_map_fill hnames (hsure _ (List.mem_map_of_mem hline)), List.map_map]
  rfl

end GrammarBench.Driver
