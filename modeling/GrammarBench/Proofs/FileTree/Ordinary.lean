import GrammarBench.Proofs.FileTree.Way

/-!
# Ordinary paths

A path is ordinary when it is relative and leads down along names (`Path.IsOrdinary`). Idle segments
may stand between the names, but none behind the last one. Every list of names is that of such a
path (`isOrdinary_intercalate`), and the parent of what it leads to is the path without the last
name (`parent?_of_body`).
-/

namespace GrammarBench

/-- Names lead further down, and idle segments lead nowhere. -/
theorem Location.follow_eq_append {loc : Location} {segments : List String}
    (hdown : ".." ∉ segments) :
    follow loc segments = loc ++ segments.filter (!Path.isIdle ·) := by
  induction segments generalizing loc with
  | nil => exact (List.append_nil loc).symm
  | cons segment rest ih =>
      rw [List.mem_cons, not_or] at hdown
      have hrest : follow loc (segment :: rest) = follow (next loc segment) rest := rfl
      rw [hrest, ih hdown.2, next]
      by_cases hidle : Path.isIdle segment = true
      · simp [hidle]
      · simp [hidle, Ne.symm hdown.1]

theorem Location.follow_idle {loc : Location} {segments : List String}
    (h : ∀ segment ∈ segments, Path.isIdle segment = true) : follow loc segments = loc := by
  have hdown : ".." ∉ segments := fun hmem => absurd (h _ hmem) (by decide)
  rw [follow_eq_append hdown, List.filter_eq_nil_iff.mpr (by simpa using h), List.append_nil]

namespace Path

/-- The names that a path leads along. -/
def names (p : Path) : List String :=
  p.segments.filter (!isIdle ·)

/-- The path leads down from a directory along names, and ends in one of them. -/
structure IsOrdinary (p : Path) : Prop where
  relative : p.isAbsolute = false
  down : ".." ∉ p.segments
  last : ∃ init name, p.segments = init ++ [name] ∧ isIdle name = false

/-- The last of the names is that of the target, and those before it lead to its parent. -/
theorem IsOrdinary.exists_parent {p : Path} (h : p.IsOrdinary) :
    ∃ init name, p.segments = init ++ [name] ∧ isIdle name = false ∧ ".." ∉ init
      ∧ p.names = init.filter (!isIdle ·) ++ [name] := by
  obtain ⟨init, name, hsegments, hname⟩ := h.last
  refine ⟨init, name, hsegments, hname, fun hmem => h.down ?_, ?_⟩
  · exact hsegments ▸ List.mem_append_left _ hmem
  · rw [names, hsegments, List.filter_append]
    simp [hname]

/-! ## Paths that are made of names -/

theorem splitSegments_intercalate {segments : List String} (hne : segments ≠ [])
    (hslash : ∀ segment ∈ segments, '/' ∉ segment.toList) :
    splitSegments [] ("/".intercalate segments).toList = segments := by
  induction segments with
  | nil => exact absurd rfl hne
  | cons first rest ih =>
      rw [List.forall_mem_cons] at hslash
      cases rest with
      | nil =>
          rw [String.intercalate_singleton, splitSegments_of_no_slash hslash.1]
          simp
      | cons second rest =>
          have hjoined : ("/".intercalate (first :: second :: rest)).toList
              = first.toList ++ '/' :: ("/".intercalate (second :: rest)).toList := by
            rw [String.intercalate_cons_cons]
            simp
          rw [hjoined, splitSegments_append_slash, splitSegments_of_no_slash hslash.1,
            ih (List.cons_ne_nil second rest) hslash.2]
          simp

theorem no_slash_of_mem_splitSegments {word cs : List Char} {segment : String}
    (hmem : segment ∈ splitSegments word cs) (hword : '/' ∉ word) : '/' ∉ segment.toList := by
  induction cs generalizing word with
  | nil =>
      obtain rfl := List.mem_singleton.mp hmem
      simpa using hword
  | cons c cs ih =>
      rw [splitSegments] at hmem
      split at hmem
      · rcases List.mem_cons.mp hmem with rfl | hrest
        · simpa using hword
        · exact ih hrest List.not_mem_nil
      · rename_i hc
        exact ih hmem (by simpa [hword] using Ne.symm hc)

theorem no_slash_of_mem_body {p : Path} {segment : String} (hmem : segment ∈ p.body) :
    '/' ∉ segment.toList :=
  no_slash_of_mem_splitSegments (body_eq p ▸ hmem) List.not_mem_nil

/-- Any names that could be those of entries make up an ordinary path along them. -/
theorem isOrdinary_intercalate {names : List String} (hne : names ≠ [])
    (hnames : ∀ name ∈ names, '/' ∉ name.toList ∧ isIdle name = false ∧ name ≠ "..") :
    IsOrdinary ("/".intercalate names) ∧ Path.names ("/".intercalate names) = names := by
  have hsegments : segments ("/".intercalate names) = names :=
    splitSegments_intercalate hne fun name hmem => (hnames name hmem).1
  refine ⟨⟨?_, ?_, ?_⟩, ?_⟩
  · obtain ⟨first, rest, rfl⟩ := List.exists_cons_of_ne_nil hne
    obtain ⟨hslash, hidle, -⟩ := hnames first List.mem_cons_self
    have hfirst : first ≠ "" := by
      rintro rfl
      cases hidle
    cases rest with
    | nil =>
        rw [String.intercalate_singleton]
        exact isAbsolute_of_no_slash hslash
    | cons second rest =>
        rw [String.intercalate_cons_cons, String.append_assoc, isAbsolute_of_append hfirst]
        exact isAbsolute_of_no_slash hslash
  · rw [hsegments]
    exact fun hmem => (hnames ".." hmem).2.2 rfl
  · rw [hsegments]
    refine ⟨names.dropLast, names.getLast hne, (List.dropLast_append_getLast hne).symm, ?_⟩
    exact (hnames _ (List.getLast_mem hne)).2.1
  · rw [Path.names, hsegments, List.filter_eq_self]
    exact fun name hmem => by simp [(hnames name hmem).2.1]

/-! ## Their parents -/

section OfBody

variable {p : Path} {segments more : List String} (hbody : p.body = segments ++ more)
  (hne : segments ≠ [])

include hbody hne

/-- The path of the first segments begins the path. -/
theorem exists_append_ofBody : ∃ rest, p = ofBody p.isAbsolute segments ++ rest := by
  cases more with
  | nil => exact ⟨"", by rw [← List.append_nil segments, ← hbody, ofBody_body, String.append_empty]⟩
  | cons next more =>
      refine ⟨"/" ++ "/".intercalate (next :: more), ?_⟩
      rw [← ofBody_append _ hne (List.cons_ne_nil next more), ← hbody, ofBody_body]

theorem isAbsolute_ofBody : (ofBody p.isAbsolute segments).isAbsolute = p.isAbsolute := by
  obtain ⟨rest, hrest⟩ := exists_append_ofBody hbody hne
  by_cases hempty : ofBody p.isAbsolute segments = ""
  · rw [hempty]
    cases habs : p.isAbsolute with
    | true => simp [ofBody, habs] at hempty
    | false => rfl
  · conv_rhs => rw [hrest]
    exact (isAbsolute_of_append hempty rest).symm

/-- And its segments are those. -/
theorem body_ofBody : (ofBody p.isAbsolute segments).body = segments := by
  have hsplit : splitSegments [] ("/".intercalate segments).toList = segments :=
    splitSegments_intercalate hne fun segment hmem =>
      no_slash_of_mem_body (hbody ▸ List.mem_append_left more hmem)
  rw [body_eq, bodyChars, isAbsolute_ofBody hbody hne]
  cases habs : p.isAbsolute <;> simpa [ofBody] using hsplit

end OfBody

/-- Idle segments at the end are left out. -/
theorem trimIdle_append {absolute : Bool} {segments idles : List String} {name : String}
    (hlast : segments.getLast? = some name) (hname : isIdle name = false)
    (hidles : ∀ segment ∈ idles, isIdle segment = true) :
    trimIdle absolute (segments ++ idles) = segments := by
  cases segments with
  | nil => cases hlast
  | cons first rest =>
      have hdrop : (rest ++ idles).reverse.dropWhile isIdle = rest.reverse.dropWhile isIdle := by
        rw [List.reverse_append, List.dropWhile_append_of_pos (by simpa using hidles)]
      rw [List.cons_append, trimIdle, hdrop]
      exact trimIdle_of_last hlast hname

/-- **The parent of a path that ends in a name** is the path without it, and without the idle
segments before it. -/
theorem parent?_of_body {p : Path} {base init : List String} {own name : String}
    (hbody : p.body = base ++ (init ++ [name])) (hname : isIdle name = false)
    (hlast : base.getLast? = some own) (hown : isIdle own = false) :
    ∃ q rest, p.parent? = some q ∧ p = q ++ rest ∧ q.isAbsolute = p.isAbsolute
      ∧ q.body = base ++ init.rdropWhile isIdle := by
  have hkept : trimIdle p.isAbsolute p.body = p.body := by
    rw [hbody, ← List.append_assoc]
    exact trimIdle_of_last List.getLast?_concat hname
  have hsplit : base ++ init = base ++ init.rdropWhile isIdle ++ init.rtakeWhile isIdle := by
    rw [List.append_assoc, List.rdropWhile_append_rtakeWhile]
  have hend : ∃ last, (base ++ init.rdropWhile isIdle).getLast? = some last
      ∧ isIdle last = false := by
    by_cases hnil : init.rdropWhile isIdle = []
    · exact ⟨own, by rw [hnil, List.append_nil, hlast], hown⟩
    · refine ⟨(init.rdropWhile isIdle).getLast hnil, ?_, ?_⟩
      · rw [List.getLast?_append, List.getLast?_eq_some_getLast hnil]
        rfl
      · simpa using List.rdropWhile_last_not isIdle init hnil
  obtain ⟨last, hlast', hidle⟩ := hend
  have htrim : trimIdle p.isAbsolute (base ++ init) = base ++ init.rdropWhile isIdle := by
    rw [hsplit]
    exact trimIdle_append hlast' hidle fun segment hmem => List.mem_rtakeWhile_imp hmem
  have hprefix : p.body = base ++ init.rdropWhile isIdle ++ (init.rtakeWhile isIdle ++ [name]) := by
    rw [hbody, ← List.append_assoc, hsplit, List.append_assoc]
  have hne : base ++ init.rdropWhile isIdle ≠ [] := by
    intro hnil
    rw [hnil] at hlast'
    cases hlast'
  obtain ⟨rest, hrest⟩ := exists_append_ofBody hprefix hne
  refine ⟨_, rest, ?_, hrest, isAbsolute_ofBody hprefix hne, body_ofBody hprefix hne⟩
  simp only [parent?, hkept]
  rw [hbody, ← List.append_assoc, List.dropLast_concat, htrim]
  simp

end Path

end GrammarBench
