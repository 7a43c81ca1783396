import GrammarBench.Proofs.Text.Utf8

/-!
# Broken pieces of a byte text

A lossy reading gives one replacement character for each maximal broken part of the bytes. What that
means is said here without the reader: where no character begins, the part is the longest run of
bytes that begins the spelling of some character, or a single byte if there is no such run
(`IsBrokenPart`). Bytes come apart into spellings and such parts in one way only, and the text that
this gives is the lossy reading (`repairs_iff`).

The reader goes wrong at the first byte that it does not wait for, and which byte that is depends on
the bytes before it alone. So a run that goes further does not begin a spelling, or the reader would
have read it.
-/

namespace GrammarBench.Text

/-- The bytes begin the spelling of a character. -/
def BeginsChar (bytes : List UInt8) : Prop :=
  ∃ c : Char, bytes <+: String.utf8EncodeChar c

/-- No character is spelled at the front of the bytes, and `part` is the longest run there that
could have begun one, or one byte. -/
structure IsBrokenPart (part bytes : List UInt8) : Prop where
  front : part <+: bytes
  no_char : ∀ c : Char, ¬String.utf8EncodeChar c <+: bytes
  one_or_begins : part.length = 1 ∨ part ≠ [] ∧ BeginsChar part
  longest : ∀ longer, longer <+: bytes → BeginsChar longer → longer.length ≤ part.length

/-- The text has the characters that the bytes spell, and one replacement character for each broken
part between them. -/
inductive Repairs : List UInt8 → List Char → Prop
  | nil : Repairs [] []
  | char (c : Char) {rest : List UInt8} {cs : List Char} (h : Repairs rest cs) :
      Repairs (String.utf8EncodeChar c ++ rest) (c :: cs)
  | broken {part rest : List UInt8} {cs : List Char} (hpart : IsBrokenPart part (part ++ rest))
      (h : Repairs rest cs) : Repairs (part ++ rest) ('\uFFFD' :: cs)

variable {part rest bytes : List UInt8}

theorem Spells.beginsChar (part rest : List UInt8) {v : Nat} (h : Spells (part ++ rest) v) :
    BeginsChar part :=
  ⟨Char.ofNat v, by rw [h.utf8EncodeChar]; exact List.prefix_append part rest⟩

theorem IsBrokenPart.ne_nil (h : IsBrokenPart part bytes) : part ≠ [] := by
  rcases h.one_or_begins with hone | ⟨hne, -⟩
  · rintro rfl
    cases hone
  · exact hne

/-- There is at most one broken part at the front. -/
theorem IsBrokenPart.unique {part' : List UInt8} (h : IsBrokenPart part bytes)
    (h' : IsBrokenPart part' bytes) : part = part' := by
  have hle : ∀ {p q : List UInt8}, IsBrokenPart p bytes → IsBrokenPart q bytes →
      p.length ≤ q.length := by
    intro p q hp hq
    rcases hp.one_or_begins with hone | ⟨-, hbegins⟩
    · have hfull := List.length_pos_iff.mpr hq.ne_nil
      omega
    · exact hq.longest p hp.front hbegins
  exact (List.prefix_of_prefix_length_le h.front h'.front (hle h h')).eq_of_length
    (Nat.le_antisymm (hle h h') (hle h' h))

/-! ## Where the reader goes wrong -/

/-- The reader gives `part` up as broken and begins anew behind it, and it does so because of the
next byte, whatever comes after that one. -/
structure GivesUp (part rest : List UInt8) : Prop where
  pieces : ∃ atEnd, utf8Pieces .ground (part ++ rest) =
    .broken part.length atEnd :: utf8Pieces .ground rest
  because : ∀ b rest', rest = b :: rest' → ∀ more, ∃ pieces,
    utf8Pieces .ground (part ++ b :: more) = .broken part.length false :: pieces

/-- What is given up as broken is a broken part. -/
theorem GivesUp.isBrokenPart (h : GivesUp part rest)
    (hpart : part.length = 1 ∨ part ≠ [] ∧ BeginsChar part) :
    IsBrokenPart part (part ++ rest) where
  front := List.prefix_append part rest
  no_char := by
    rintro c ⟨more, hmore⟩
    obtain ⟨atEnd, hpieces⟩ := h.pieces
    rw [← hmore, utf8Pieces_utf8EncodeChar_append] at hpieces
    cases hpieces
  one_or_begins := hpart
  longest := by
    rintro longer ⟨after, hlonger⟩ ⟨c, hc⟩
    by_contra hlong
    obtain ⟨tail, rfl⟩ := List.prefix_of_prefix_length_le (List.prefix_append part rest)
      ⟨after, hlonger⟩ (by omega)
    rcases tail with _ | ⟨b, tail⟩
    · simp at hlong
    -- the reader would read the character whose spelling goes on with the next byte
    rw [List.append_assoc, List.append_cancel_left_eq] at hlonger
    obtain ⟨more, hmore⟩ := hc
    obtain ⟨pieces, hpieces⟩ := h.because b _ hlonger.symm (tail ++ more)
    rw [List.append_assoc, List.cons_append] at hmore
    have hread := utf8Pieces_utf8EncodeChar_append c []
    rw [List.append_nil, ← hmore, hpieces] at hread
    cases hread

section Inside

variable {low high : UInt8} {owed code : Nat}

/-- A reader inside a character finds a byte that it waits for, or gives up what it has read. -/
theorem next_or_givesUp (part : List UInt8)
    (hread : ∀ rest, utf8Pieces .ground (part ++ rest) =
      utf8Pieces (.inside owed low high code part.length) rest) (rest : List UInt8) :
    (∃ b rest', rest = b :: rest' ∧ low ≤ b ∧ b ≤ high) ∨ GivesUp part rest := by
  have hbreak : ∀ b more, ¬(low ≤ b ∧ b ≤ high) → utf8Pieces .ground (part ++ b :: more) =
      .broken part.length false :: utf8Pieces .ground (b :: more) := by
    intro b more hout
    simp only [hread, utf8Pieces, utf8Step, if_neg hout, List.cons_append]
  cases rest with
  | nil => exact .inr ⟨⟨true, by rw [hread]; rfl⟩, fun b rest' heq => by cases heq⟩
  | cons b rest =>
      by_cases hb : low ≤ b ∧ b ≤ high
      · exact .inl ⟨b, rest, rfl, hb⟩
      · refine .inr ⟨⟨false, hbreak b rest hb⟩, ?_⟩
        rintro b' rest' heq more
        obtain ⟨rfl, -⟩ := List.cons.inj heq
        exact ⟨_, hbreak b more hb⟩

end Inside

/-- **Bytes begin with a spelling or with a part that the reader gives up.** -/
theorem spells_or_givesUp (a : UInt8) (bytes : List UInt8) :
    (∃ front v rest, a :: bytes = front ++ rest ∧ Spells front v) ∨
      ∃ part rest, a :: bytes = part ++ rest ∧ GivesUp part rest
        ∧ (part.length = 1 ∨ part ≠ [] ∧ BeginsChar part) := by
  have htail : IsTail 0x80 := by decide
  by_cases h₁ : a.toNat < 0x80
  · exact .inl ⟨[a], _, bytes, rfl, .one h₁ rfl⟩
  by_cases h₂ : 0xC2 ≤ a.toNat ∧ a.toNat < 0xE0
  · rcases next_or_givesUp [a] (fun _ => utf8Pieces_of_first (utf8First_two h₂)) bytes
      with ⟨b, rest, rfl, hb⟩ | hup
    · exact .inl ⟨[a, b], _, rest, rfl, .two h₂ (isTail_iff.mpr hb) rfl⟩
    · exact .inr ⟨[a], bytes, rfl, hup, .inl rfl⟩
  by_cases h₃ : 0xE0 ≤ a.toNat ∧ a.toNat < 0xF0
  · rcases next_or_givesUp [a] (fun _ => utf8Pieces_of_first (utf8First_three h₃)) bytes
      with ⟨b, rest, rfl, hb⟩ | hup
    · obtain ⟨hb', hlow, hhigh⟩ := (second_iff (by decide) (by decide)).mp hb
      rcases next_or_givesUp [a, b]
        (fun _ => (utf8Pieces_of_first (utf8First_three h₃)).trans (utf8Pieces_more hb)) rest
        with ⟨c, rest, rfl, hc⟩ | hup
      · exact .inl ⟨[a, b, c], _, rest, rfl, .three h₃ hb' hlow hhigh (isTail_iff.mpr hc) rfl⟩
      · exact .inr ⟨[a, b], rest, rfl, hup, .inr ⟨by simp,
          Spells.beginsChar _ [0x80] (.three h₃ hb' hlow hhigh htail rfl)⟩⟩
    · exact .inr ⟨[a], bytes, rfl, hup, .inl rfl⟩
  by_cases h₄ : 0xF0 ≤ a.toNat ∧ a.toNat < 0xF5
  · rcases next_or_givesUp [a] (fun _ => utf8Pieces_of_first (utf8First_four h₄)) bytes
      with ⟨b, rest, rfl, hb⟩ | hup
    · obtain ⟨hb', hlow, hhigh⟩ := (second_iff (by decide) (by decide)).mp hb
      rcases next_or_givesUp [a, b]
        (fun _ => (utf8Pieces_of_first (utf8First_four h₄)).trans (utf8Pieces_more hb)) rest
        with ⟨c, rest, rfl, hc⟩ | hup
      · rcases next_or_givesUp [a, b, c]
          (fun _ => ((utf8Pieces_of_first (utf8First_four h₄)).trans
            (utf8Pieces_more hb)).trans (utf8Pieces_more hc)) rest
          with ⟨d, rest, rfl, hd⟩ | hup
        · exact .inl ⟨[a, b, c, d], _, rest, rfl,
            .four h₄ hb' hlow hhigh (isTail_iff.mpr hc) (isTail_iff.mpr hd) rfl⟩
        · exact .inr ⟨[a, b, c], rest, rfl, hup, .inr ⟨by simp, Spells.beginsChar _ [0x80]
            (.four h₄ hb' hlow hhigh (isTail_iff.mpr hc) htail rfl)⟩⟩
      · exact .inr ⟨[a, b], rest, rfl, hup, .inr ⟨by simp, Spells.beginsChar _ [0x80, 0x80]
          (.four h₄ hb' hlow hhigh htail htail rfl)⟩⟩
    · exact .inr ⟨[a], bytes, rfl, hup, .inl rfl⟩
  · -- no character begins with any other byte
    have hbroken : utf8First a = ([.broken 1 false], .ground) := by
      simp only [utf8First, UInt8.lt_iff_toNat_lt, UInt8.reduceToNat]
      split_ifs <;> first | rfl | omega
    have hpieces : ∀ more, utf8Pieces .ground (a :: more) =
        .broken 1 false :: utf8Pieces .ground more := by
      intro more
      simp only [utf8Pieces, utf8Step, hbroken, List.cons_append, List.nil_append]
    exact .inr ⟨[a], bytes, rfl, ⟨⟨false, hpieces bytes⟩, fun b _ _ more => ⟨_, hpieces _⟩⟩,
      .inl rfl⟩

/-! ## The lossy reading -/

theorem repairs_pieces (bytes : List UInt8) :
    Repairs bytes ((utf8Pieces .ground bytes).map Piece.toChar) := by
  -- on the number of bytes: a spelling or a broken part takes away at least one of them
  induction hn : bytes.length using Nat.strongRecOn generalizing bytes with
  | ind n ih =>
      cases bytes with
      | nil => exact .nil
      | cons a bytes =>
          have hshorter : ∀ {front rest : List UInt8}, a :: bytes = front ++ rest → front ≠ [] →
              rest.length < n := by
            intro front rest hsplit hne
            have hlength := congrArg List.length hsplit
            have hfront := List.length_pos_iff.mpr hne
            rw [List.length_append] at hlength
            omega
          rcases spells_or_givesUp a bytes with
            ⟨front, v, rest, hsplit, hspells⟩ | ⟨part, rest, hsplit, hup, hpart⟩
          · have hfront : front ≠ [] := by cases hspells <;> simp
            have hrest := Repairs.char (Char.ofNat v) (ih _ (hshorter hsplit hfront) rest rfl)
            rw [hspells.utf8EncodeChar] at hrest
            rw [hsplit, hspells.pieces]
            exact hrest
          · have hbroken := hup.isBrokenPart hpart
            obtain ⟨atEnd, hpieces⟩ := hup.pieces
            rw [hsplit, hpieces]
            exact .broken hbroken (ih _ (hshorter hsplit hbroken.ne_nil) rest rfl)

/-- A broken part is what the reader gives up. -/
theorem IsBrokenPart.pieces (h : IsBrokenPart part (part ++ rest)) :
    ∃ atEnd, utf8Pieces .ground (part ++ rest) =
      .broken part.length atEnd :: utf8Pieces .ground rest := by
  obtain ⟨a, bytes, hbytes⟩ := List.exists_cons_of_ne_nil
    (List.append_ne_nil_of_left_ne_nil h.ne_nil rest)
  rcases spells_or_givesUp a bytes with
    ⟨front, v, rest', hsplit, hspells⟩ | ⟨part', rest', hsplit, hup, hpart⟩
  · refine absurd ?_ (h.no_char (Char.ofNat v))
    rw [hspells.utf8EncodeChar, hbytes, hsplit]
    exact List.prefix_append front rest'
  · have hsame : part ++ rest = part' ++ rest' := hbytes.trans hsplit
    obtain rfl : part = part' := h.unique (hsame ▸ hup.isBrokenPart hpart)
    obtain rfl : rest = rest' := List.append_cancel_left hsame
    exact hup.pieces

theorem Repairs.eq_pieces {cs : List Char} (h : Repairs bytes cs) :
    cs = (utf8Pieces .ground bytes).map Piece.toChar := by
  induction h with
  | nil => rfl
  | char c _ ih => rw [utf8Pieces_utf8EncodeChar_append, List.map_cons, ← ih]; rfl
  | broken hpart _ ih =>
      obtain ⟨atEnd, hpieces⟩ := hpart.pieces
      rw [hpieces, List.map_cons, ← ih]
      rfl

/-- **The lossy reading of some bytes** is the one text in which each broken part is one replacement
character and all else is as it is spelled. -/
theorem repairs_iff {text : String} : Repairs bytes text.toList ↔ text = decodeLossy bytes := by
  rw [decodeLossy, ← String.toList_inj, String.toList_ofList]
  exact ⟨Repairs.eq_pieces, fun h => h ▸ repairs_pieces bytes⟩

/-- The bytes of a text are read as the text. -/
theorem decodeLossy_utf8 (s : String) : decodeLossy (utf8 s) = s := by
  rw [decodeLossy, utf8Pieces_utf8, List.map_map, toChar_comp_char, List.map_id,
    String.ofList_toList]

end GrammarBench.Text
