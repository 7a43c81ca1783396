import GrammarBench.Text.Utf8
import Mathlib.Tactic.Common

/-!
# Texts and their bytes

No byte is lost without a trace: one that completes no piece leaves the reader inside a character,
and a reader that is inside a character when the bytes end gives a broken piece. So the lossy
reading of some bytes is never the empty text.

A strict reading is exact: it gives a text for the bytes of that text, and for no other bytes
(`decodeStrict_eq_ok`). Both halves go through the spelling of a character (`Spells`), which the
machine reads as one piece, and with which all bytes begin that have no broken piece.
-/

namespace GrammarBench.Text

/-! ## No byte is lost -/

theorem utf8First_ne_ground {b : UInt8} (h : (utf8First b).1 = []) : (utf8First b).2 ≠ .ground := by
  unfold utf8First at h ⊢
  split_ifs at h ⊢ <;> simp_all

theorem utf8Step_ne_ground {state : Utf8State} {b : UInt8} (h : (utf8Step state b).1 = []) :
    (utf8Step state b).2 ≠ .ground := by
  cases state with
  | ground => exact utf8First_ne_ground h
  | inside owed low high code seen =>
      simp only [utf8Step] at h ⊢
      split_ifs at h ⊢
      simp_all

theorem utf8Pieces_eq_nil {bytes : List UInt8} {state : Utf8State}
    (h : utf8Pieces state bytes = []) : state = .ground ∧ bytes = [] := by
  induction bytes generalizing state with
  | nil =>
      cases state with
      | ground => exact ⟨rfl, rfl⟩
      | inside => cases h
  | cons b bs ih =>
      obtain ⟨hpieces, hrest⟩ := List.append_eq_nil_iff.mp h
      exact absurd (ih hrest).1 (utf8Step_ne_ground hpieces)

/-- A byte text reads as the empty text only when it is empty. -/
theorem decodeLossy_eq_empty {bytes : List UInt8} : decodeLossy bytes = "" ↔ bytes = [] := by
  constructor
  · intro h
    have hpieces : (utf8Pieces .ground bytes).map Piece.toChar = [] := by
      simpa [decodeLossy] using congrArg String.toList h
    exact (utf8Pieces_eq_nil (List.map_eq_nil_iff.mp hpieces)).2
  · rintro rfl
    rfl

/-! ## Characters as bytes -/

/-- A byte that goes on with a character. -/
abbrev IsTail (b : UInt8) : Prop :=
  0x80 ≤ b.toNat ∧ b.toNat ≤ 0xBF

/-- Bytes that are the character with a number. Where the first byte would allow a longer spelling,
or a number that no character has, the second byte has a smaller range. -/
inductive Spells : List UInt8 → Nat → Prop where
  | one {a : UInt8} {v : Nat} (ha : a.toNat < 0x80) (hv : v = a.toNat) : Spells [a] v
  | two {a b : UInt8} {v : Nat} (ha : 0xC2 ≤ a.toNat ∧ a.toNat < 0xE0) (hb : IsTail b)
      (hv : v = (a.toNat - 0xC0) * 64 + (b.toNat - 0x80)) : Spells [a, b] v
  | three {a b c : UInt8} {v : Nat} (ha : 0xE0 ≤ a.toNat ∧ a.toNat < 0xF0) (hb : IsTail b)
      (hlow : a.toNat = 0xE0 → 0xA0 ≤ b.toNat) (hhigh : a.toNat = 0xED → b.toNat ≤ 0x9F)
      (hc : IsTail c)
      (hv : v = ((a.toNat - 0xE0) * 64 + (b.toNat - 0x80)) * 64 + (c.toNat - 0x80)) :
      Spells [a, b, c] v
  | four {a b c d : UInt8} {v : Nat} (ha : 0xF0 ≤ a.toNat ∧ a.toNat < 0xF5) (hb : IsTail b)
      (hlow : a.toNat = 0xF0 → 0x90 ≤ b.toNat) (hhigh : a.toNat = 0xF4 → b.toNat ≤ 0x8F)
      (hc : IsTail c) (hd : IsTail d)
      (hv : v = (((a.toNat - 0xF0) * 64 + (b.toNat - 0x80)) * 64 + (c.toNat - 0x80)) * 64
        + (d.toNat - 0x80)) : Spells [a, b, c, d] v

theorem isValidChar_iff {n : Nat} : n.isValidChar ↔ n < 0xD800 ∨ 0xDFFF < n ∧ n < 0x110000 :=
  .rfl

theorem toNat_ofNat {n : Nat} (h : n.isValidChar) : (Char.ofNat n).toNat = n := by
  rw [Char.ofNat, dif_pos h]
  rfl

theorem uint8_ofNat_eq {n : Nat} {b : UInt8} (h : n = b.toNat) : UInt8.ofNat n = b := by
  rw [h, UInt8.ofNat_toNat]

theorem Spells.isValidChar {bytes : List UInt8} {v : Nat} (h : Spells bytes v) :
    v.isValidChar := by
  rw [isValidChar_iff]
  cases h <;> omega

/-- A spelling is that of the character. -/
theorem Spells.utf8EncodeChar {bytes : List UInt8} {v : Nat} (h : Spells bytes v) :
    String.utf8EncodeChar (Char.ofNat v) = bytes := by
  have hval : (Char.ofNat v).val.toNat = v := toNat_ofNat h.isValidChar
  unfold String.utf8EncodeChar
  simp only [hval]
  cases h with
  | one ha hv =>
      rw [if_pos (by omega), uint8_ofNat_eq hv]
  | two ha hb hv =>
      rw [if_neg (by omega), if_pos (by omega)]
      simp only [List.cons.injEq, and_true]
      constructor <;> (apply uint8_ofNat_eq; omega)
  | three ha hb hlow hhigh hc hv =>
      rw [if_neg (by omega), if_neg (by omega), if_pos (by omega)]
      simp only [List.cons.injEq, and_true]
      refine ⟨?_, ?_, ?_⟩ <;> (apply uint8_ofNat_eq; omega)
  | four ha hb hlow hhigh hc hd hv =>
      rw [if_neg (by omega), if_neg (by omega), if_neg (by omega)]
      simp only [List.cons.injEq, and_true]
      refine ⟨?_, ?_, ?_, ?_⟩ <;> (apply uint8_ofNat_eq; omega)

/-- Every character has its spelling. -/
theorem spells_utf8EncodeChar (c : Char) : Spells (String.utf8EncodeChar c) c.toNat := by
  have hvalid := isValidChar_iff.mp c.valid
  have hval : c.val.toNat = c.toNat := rfl
  have hbyte : ∀ n, n < 256 → (UInt8.ofNat n).toNat = n := fun n hn => UInt8.toNat_ofNat_of_lt' hn
  unfold String.utf8EncodeChar
  simp only [hval] at hvalid ⊢
  split_ifs with h1 h2 h3
  · have ha := hbyte c.toNat (by omega)
    exact .one (by omega) (by omega)
  · have ha := hbyte (c.toNat / 64 % 32 + 0xC0) (by omega)
    have hb := hbyte (c.toNat % 64 + 0x80) (by omega)
    exact .two (by omega) (by omega) (by omega)
  · have ha := hbyte (c.toNat / 4096 % 16 + 0xE0) (by omega)
    have hb := hbyte (c.toNat / 64 % 64 + 0x80) (by omega)
    have hc := hbyte (c.toNat % 64 + 0x80) (by omega)
    exact .three (by omega) (by omega) (by omega) (by omega) (by omega) (by omega)
  · have ha := hbyte (c.toNat / 262144 % 8 + 0xF0) (by omega)
    have hb := hbyte (c.toNat / 4096 % 64 + 0x80) (by omega)
    have hc := hbyte (c.toNat / 64 % 64 + 0x80) (by omega)
    have hd := hbyte (c.toNat % 64 + 0x80) (by omega)
    exact .four (by omega) (by omega) (by omega) (by omega) (by omega) (by omega) (by omega)

/-! ## Reading one character -/

section Machine

variable {a b low high : UInt8} {owed code seen : Nat} {bytes rest : List UInt8}

theorem utf8First_two (ha : 0xC2 ≤ a.toNat ∧ a.toNat < 0xE0) :
    utf8First a = ([], .inside 1 0x80 0xBF (a.toNat - 0xC0) 1) := by
  simp only [utf8First, UInt8.lt_iff_toNat_lt, UInt8.reduceToNat]
  rw [if_neg (by omega), if_neg (by omega), if_pos ha.2]

theorem utf8First_three (ha : 0xE0 ≤ a.toNat ∧ a.toNat < 0xF0) :
    utf8First a = ([], .inside 2 (if a = 0xE0 then 0xA0 else 0x80) (if a = 0xED then 0x9F else 0xBF)
      (a.toNat - 0xE0) 1) := by
  simp only [utf8First, UInt8.lt_iff_toNat_lt, UInt8.reduceToNat]
  rw [if_neg (by omega), if_neg (by omega), if_neg (by omega), if_pos ha.2]

theorem utf8First_four (ha : 0xF0 ≤ a.toNat ∧ a.toNat < 0xF5) :
    utf8First a = ([], .inside 3 (if a = 0xF0 then 0x90 else 0x80) (if a = 0xF4 then 0x8F else 0xBF)
      (a.toNat - 0xF0) 1) := by
  simp only [utf8First, UInt8.lt_iff_toNat_lt, UInt8.reduceToNat]
  rw [if_neg (by omega), if_neg (by omega), if_neg (by omega), if_neg (by omega), if_pos ha.2]

theorem utf8Pieces_one (ha : a.toNat < 0x80) :
    utf8Pieces .ground (a :: rest) = .char (Char.ofNat a.toNat) :: utf8Pieces .ground rest := by
  have h : a < 0x80 := UInt8.lt_iff_toNat_lt.mpr ha
  simp [utf8Pieces, utf8Step, utf8First, h]

theorem utf8Pieces_of_first {state : Utf8State} (h : utf8First a = ([], state)) :
    utf8Pieces .ground (a :: rest) = utf8Pieces state rest := by
  simp [utf8Pieces, utf8Step, h]

theorem utf8Pieces_last (hb : low ≤ b ∧ b ≤ high) :
    utf8Pieces (.inside 1 low high code seen) (b :: rest) =
      .char (Char.ofNat (code * 64 + (b.toNat - 0x80))) :: utf8Pieces .ground rest := by
  simp [utf8Pieces, utf8Step, hb]

theorem utf8Pieces_more (hb : low ≤ b ∧ b ≤ high) :
    utf8Pieces (.inside (owed + 2) low high code seen) (b :: rest) =
      utf8Pieces (.inside (owed + 1) 0x80 0xBF (code * 64 + (b.toNat - 0x80)) (seen + 1)) rest := by
  simp [utf8Pieces, utf8Step, hb]

theorem isTail_iff : IsTail b ↔ 0x80 ≤ b ∧ b ≤ 0xBF := by
  simp [UInt8.le_iff_toNat_le]

/-- The range of a second byte, as the machine has it and as a spelling has it. -/
theorem second_iff {x y : UInt8} (hlow : 0x80 ≤ low.toNat) (hhigh : high.toNat ≤ 0xBF) :
    ((if a = x then low else 0x80) ≤ b ∧ b ≤ (if a = y then high else 0xBF)) ↔
      IsTail b ∧ (a.toNat = x.toNat → low.toNat ≤ b.toNat)
        ∧ (a.toNat = y.toNat → b.toNat ≤ high.toNat) := by
  simp only [UInt8.le_iff_toNat_le, ← UInt8.toNat_inj, apply_ite UInt8.toNat, UInt8.reduceToNat]
  split_ifs <;> omega

end Machine

/-- A character is read from its spelling, whatever follows. -/
theorem Spells.pieces {bytes : List UInt8} {v : Nat} (h : Spells bytes v) (rest : List UInt8) :
    utf8Pieces .ground (bytes ++ rest) = .char (Char.ofNat v) :: utf8Pieces .ground rest := by
  cases h with
  | one ha hv =>
      rw [hv]
      exact utf8Pieces_one ha
  | two ha hb hv =>
      rw [hv]
      exact (utf8Pieces_of_first (utf8First_two ha)).trans (utf8Pieces_last (isTail_iff.mp hb))
  | @three a b c _ ha hb hlow hhigh hc hv =>
      have hsecond : (if a = 0xE0 then 0xA0 else 0x80) ≤ b ∧ b ≤ if a = 0xED then 0x9F else 0xBF :=
        (second_iff (by decide) (by decide)).mpr ⟨hb, hlow, hhigh⟩
      rw [hv, List.cons_append, utf8Pieces_of_first (utf8First_three ha), List.cons_append,
        utf8Pieces_more hsecond]
      exact utf8Pieces_last (isTail_iff.mp hc)
  | @four a b c d _ ha hb hlow hhigh hc hd hv =>
      have hsecond : (if a = 0xF0 then 0x90 else 0x80) ≤ b ∧ b ≤ if a = 0xF4 then 0x8F else 0xBF :=
        (second_iff (by decide) (by decide)).mpr ⟨hb, hlow, hhigh⟩
      rw [hv, List.cons_append, utf8Pieces_of_first (utf8First_four ha), List.cons_append,
        utf8Pieces_more hsecond, List.cons_append, utf8Pieces_more (isTail_iff.mp hc)]
      exact utf8Pieces_last (isTail_iff.mp hd)

/-! ## Bytes without broken pieces -/

def Unbroken (pieces : List Piece) : Prop :=
  ∀ piece ∈ pieces, ∃ c, piece = .char c

theorem not_unbroken_broken {length : Nat} {atEnd : Bool} {pieces : List Piece} :
    ¬Unbroken (.broken length atEnd :: pieces) := by
  intro h
  obtain ⟨c, hc⟩ := h _ List.mem_cons_self
  cases hc

/-- Where nothing is broken, a reader inside a character finds the byte that it waits for. -/
theorem front_of_unbroken {low high : UInt8} {owed code seen : Nat} {bytes : List UInt8}
    (h : Unbroken (utf8Pieces (.inside owed low high code seen) bytes)) :
    ∃ b rest, bytes = b :: rest ∧ low ≤ b ∧ b ≤ high := by
  cases bytes with
  | nil => exact absurd h not_unbroken_broken
  | cons b rest =>
      refine ⟨b, rest, rfl, ?_⟩
      by_contra hout
      simp only [utf8Pieces, utf8Step, if_neg hout] at h
      exact not_unbroken_broken h

/-- Where nothing is broken, the bytes begin with a spelling. -/
theorem spells_of_unbroken {a : UInt8} {bytes : List UInt8}
    (h : Unbroken (utf8Pieces .ground (a :: bytes))) :
    ∃ front v rest, a :: bytes = front ++ rest ∧ Spells front v := by
  by_cases h₁ : a.toNat < 0x80
  · exact ⟨[a], _, bytes, rfl, .one h₁ rfl⟩
  by_cases h₂ : 0xC2 ≤ a.toNat ∧ a.toNat < 0xE0
  · rw [utf8Pieces_of_first (utf8First_two h₂)] at h
    obtain ⟨b, rest, rfl, hb⟩ := front_of_unbroken h
    exact ⟨[a, b], _, rest, rfl, .two h₂ (isTail_iff.mpr hb) rfl⟩
  by_cases h₃ : 0xE0 ≤ a.toNat ∧ a.toNat < 0xF0
  · rw [utf8Pieces_of_first (utf8First_three h₃)] at h
    obtain ⟨b, rest, rfl, hb⟩ := front_of_unbroken h
    rw [utf8Pieces_more hb] at h
    obtain ⟨c, rest, rfl, hc⟩ := front_of_unbroken h
    obtain ⟨htail, hlow, hhigh⟩ := (second_iff (by decide) (by decide)).mp hb
    exact ⟨[a, b, c], _, rest, rfl, .three h₃ htail hlow hhigh (isTail_iff.mpr hc) rfl⟩
  by_cases h₄ : 0xF0 ≤ a.toNat ∧ a.toNat < 0xF5
  · rw [utf8Pieces_of_first (utf8First_four h₄)] at h
    obtain ⟨b, rest, rfl, hb⟩ := front_of_unbroken h
    rw [utf8Pieces_more hb] at h
    obtain ⟨c, rest, rfl, hc⟩ := front_of_unbroken h
    rw [utf8Pieces_more hc] at h
    obtain ⟨d, rest, rfl, hd⟩ := front_of_unbroken h
    obtain ⟨htail, hlow, hhigh⟩ := (second_iff (by decide) (by decide)).mp hb
    exact ⟨[a, b, c, d], _, rest, rfl,
      .four h₄ htail hlow hhigh (isTail_iff.mpr hc) (isTail_iff.mpr hd) rfl⟩
  · -- no character begins with any other byte
    have hbroken : utf8First a = ([.broken 1 false], .ground) := by
      simp only [utf8First, UInt8.lt_iff_toNat_lt, UInt8.reduceToNat]
      split_ifs <;> first | rfl | omega
    simp only [utf8Pieces, utf8Step, hbroken] at h
    exact absurd h not_unbroken_broken

/-- Bytes without a broken piece are the bytes of some characters. -/
theorem exists_chars_of_unbroken {bytes : List UInt8} (h : Unbroken (utf8Pieces .ground bytes)) :
    ∃ cs : List Char, bytes = cs.flatMap String.utf8EncodeChar := by
  -- on the number of bytes: a spelling takes away up to four of them at once
  induction hn : bytes.length using Nat.strongRecOn generalizing bytes with
  | ind n ih =>
      cases bytes with
      | nil => exact ⟨[], rfl⟩
      | cons a bytes =>
          obtain ⟨front, v, rest, hsplit, hspells⟩ := spells_of_unbroken h
          rw [hsplit, hspells.pieces] at h
          have hshorter : rest.length < n := by
            have hlength := congrArg List.length hsplit
            have hfront : 0 < front.length := by cases hspells <;> simp
            simp only [List.length_append] at hlength
            omega
          obtain ⟨cs, rfl⟩ := ih _ hshorter (fun p hp => h p (List.mem_cons_of_mem _ hp)) rfl
          refine ⟨Char.ofNat v :: cs, ?_⟩
          rw [hsplit, List.flatMap_cons, hspells.utf8EncodeChar]

/-! ## Texts as bytes and back -/

theorem utf8Pieces_utf8EncodeChar_append (c : Char) (rest : List UInt8) :
    utf8Pieces .ground (String.utf8EncodeChar c ++ rest) = .char c :: utf8Pieces .ground rest := by
  rw [(spells_utf8EncodeChar c).pieces, Char.ofNat_toNat]

theorem utf8Pieces_utf8 (s : String) : utf8Pieces .ground (utf8 s) = s.toList.map .char := by
  unfold utf8
  induction s.toList with
  | nil => rfl
  | cons c cs ih => rw [List.flatMap_cons, utf8Pieces_utf8EncodeChar_append, ih, List.map_cons]

theorem firstBroken?_eq_none {index : Nat} {pieces : List Piece} :
    firstBroken? index pieces = none ↔ Unbroken pieces := by
  induction pieces generalizing index with
  | nil => simp [firstBroken?, Unbroken]
  | cons piece pieces ih =>
      cases piece with
      | char c => simp [firstBroken?, ih, Unbroken]
      | broken => simp [firstBroken?, not_unbroken_broken]

theorem toChar_comp_char : Piece.toChar ∘ Piece.char = id := rfl

/-- **A strict reading gives a text exactly for its bytes.** -/
theorem decodeStrict_eq_ok {bytes : List UInt8} {s : String} :
    decodeStrict bytes = .ok s ↔ bytes = utf8 s := by
  have hback : ∀ s, decodeStrict (utf8 s) = .ok s := by
    intro s
    have hunbroken : Unbroken (s.toList.map .char) := by
      intro piece hpiece
      obtain ⟨c, -, rfl⟩ := List.mem_map.mp hpiece
      exact ⟨c, rfl⟩
    simp [decodeStrict, utf8Pieces_utf8, firstBroken?_eq_none.mpr hunbroken, toChar_comp_char]
  constructor
  · intro h
    have hfirst : firstBroken? 0 (utf8Pieces .ground bytes) = none := by
      cases hfirst : firstBroken? 0 (utf8Pieces .ground bytes) with
      | none => rfl
      | some fault => simp [decodeStrict, hfirst] at h
    obtain ⟨cs, hcs⟩ := exists_chars_of_unbroken (firstBroken?_eq_none.mp hfirst)
    have hbytes : bytes = utf8 (String.ofList cs) := by simp [utf8, hcs]
    rw [hbytes, hback] at h
    rw [hbytes, Except.ok.inj h]
  · rintro rfl
    exact hback s

/-- A strict reading fails exactly for bytes that are not those of a text. -/
theorem decodeStrict_eq_error {bytes : List UInt8} :
    (∃ fault, decodeStrict bytes = .error fault) ↔ ∀ s, bytes ≠ utf8 s := by
  simp only [ne_eq, ← decodeStrict_eq_ok]
  cases decodeStrict bytes <;> simp

end GrammarBench.Text
