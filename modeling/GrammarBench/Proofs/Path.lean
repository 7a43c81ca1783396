import GrammarBench.Path
import Mathlib.Data.List.DropRight

/-!
# Paths of files in a directory

The segments of a joined path are those of the directory, where a slash at the end adds none, and
then those of the path that is seen from there (`body_join`). So a name without a slash becomes the
last segment (`body_join_name`), and two files of one directory differ in that segment alone.
-/

namespace GrammarBench.Path

/-- Reading on past a slash starts a new segment. -/
theorem splitSegments_append_slash (word cs rest : List Char) :
    splitSegments word (cs ++ '/' :: rest) = splitSegments word cs ++ splitSegments [] rest := by
  induction cs generalizing word with
  | nil => simp [splitSegments]
  | cons c cs ih =>
      simp only [List.cons_append, splitSegments]
      split
      · rw [ih, List.cons_append]
      · rw [ih]

theorem splitSegments_ne_nil (word cs : List Char) : splitSegments word cs ≠ [] := by
  induction cs generalizing word with
  | nil => simp [splitSegments]
  | cons c cs ih =>
      simp only [splitSegments]
      split
      · simp
      · exact ih _

theorem splitSegments_of_no_slash {word cs : List Char} (h : '/' ∉ cs) :
    splitSegments word cs = [String.ofList (word.reverse ++ cs)] := by
  induction cs generalizing word with
  | nil => simp [splitSegments]
  | cons c cs ih =>
      simp only [List.mem_cons, not_or] at h
      rw [splitSegments, if_neg (Ne.symm h.1), ih h.2]
      simp

theorem isAbsolute_of_no_slash {name : String} (hslash : '/' ∉ name.toList) :
    isAbsolute name = false := by
  cases h : name.toList with
  | nil => simp [isAbsolute, h]
  | cons c cs =>
      have hc : c ≠ '/' := fun heq => hslash (by rw [h, heq]; exact List.mem_cons_self)
      simpa [isAbsolute, h] using hc

/-! ## Joined paths -/

/-- The segments of a path as those of a directory: a slash at the end adds none. -/
def dirBody (p : Path) : List String :=
  if p.body.getLast? = some "" then p.body.dropLast else p.body

/-- The characters of a path behind the slash that it begins with, if it does. -/
def bodyChars (p : Path) : List Char :=
  if p.isAbsolute then p.toList.tail else p.toList

theorem body_eq (p : Path) : p.body = splitSegments [] p.bodyChars := by
  unfold body bodyChars segments
  split
  · rename_i habs
    obtain ⟨rest, hrest⟩ := List.head?_eq_some_iff.mp (beq_iff_eq.mp habs)
    rw [hrest, splitSegments, if_pos rfl]
    rfl
  · rfl

/-- The last segment is empty behind a slash, and where there is nothing at all. -/
theorem getLast?_splitSegments {word cs : List Char} :
    (splitSegments word cs).getLast? = some "" ↔
      cs.getLast? = some '/' ∨ cs = [] ∧ word = [] := by
  induction cs generalizing word with
  | nil => simp [splitSegments]
  | cons c cs ih =>
      rw [splitSegments]
      split
      · rename_i hc
        obtain ⟨first, rest, hrest⟩ := List.exists_cons_of_ne_nil (splitSegments_ne_nil [] cs)
        rw [hrest, List.getLast?_cons_cons, ← hrest, ih, hc]
        cases cs <;> simp
      · rename_i hc
        rw [ih]
        cases cs <;> simp [hc]

theorem dirBody_of_ends {p : Path} {before : List Char} (h : p.bodyChars = before ++ ['/']) :
    p.dirBody = splitSegments [] before := by
  have hbody : p.body = splitSegments [] before ++ [""] := by
    rw [body_eq, h, splitSegments_append_slash]
    rfl
  rw [dirBody, hbody, List.getLast?_concat, if_pos rfl, List.dropLast_concat]

theorem dirBody_of_not_ends {p : Path} (hne : p.bodyChars ≠ [])
    (h : p.bodyChars.getLast? ≠ some '/') : p.dirBody = p.body := by
  rw [dirBody, if_neg]
  rw [body_eq, getLast?_splitSegments]
  simp [h, hne]

theorem isAbsolute_of_append {p : Path} (hp : p ≠ "") (rest : String) :
    isAbsolute (p ++ rest) = p.isAbsolute := by
  have hne : p.toList ≠ [] := by simpa using hp
  obtain ⟨c, cs, hcs⟩ := List.exists_cons_of_ne_nil hne
  simp [isAbsolute, hcs]

theorem bodyChars_append {p : Path} (hp : p ≠ "") (rest : String) :
    bodyChars (p ++ rest) = p.bodyChars ++ rest.toList := by
  have hne : p.toList ≠ [] := by simpa using hp
  rw [bodyChars, bodyChars, isAbsolute_of_append hp, String.toList_append]
  split
  · exact List.tail_append_of_ne_nil hne
  · rfl

/-- The path of a directory begins the path of what is seen from there. -/
theorem join_eq_append (base : Path) {p : Path} (hp : p.isAbsolute = false) :
    ∃ rest, join base p = base ++ rest := by
  by_cases hbase : base = ""
  · exact ⟨p, by simp [join, hbase]⟩
  · unfold join
    rw [hp, Bool.false_or, if_neg (by simpa using hbase)]
    split
    · exact ⟨p, rfl⟩
    · exact ⟨"/" ++ p, String.append_assoc⟩

/-- A path that is seen from a directory begins where that directory's path does. -/
theorem isAbsolute_join (base : Path) {p : Path} (hp : p.isAbsolute = false) :
    (join base p).isAbsolute = base.isAbsolute := by
  by_cases hbase : base = ""
  · have hjoin : join base p = p := by simp [join, hbase]
    rw [hjoin, hp, hbase]
    rfl
  · obtain ⟨rest, hrest⟩ := join_eq_append base hp
    rw [hrest]
    exact isAbsolute_of_append hbase rest

/-- **The segments of a joined path** are those of the directory and then those of the path that is
seen from there. -/
theorem body_join (base : Path) {p : Path} (hp : p.isAbsolute = false) :
    (join base p).body = base.dirBody ++ p.segments := by
  have hchars : p.bodyChars = p.toList := by rw [bodyChars, hp]; rfl
  have hbody : p.body = p.segments := by rw [body, hp]; rfl
  by_cases hbase : base = ""
  · have hjoin : join base p = p := by simp [join, hbase]
    rw [hjoin, hbody, hbase]
    rfl
  · by_cases hend : base.toList.getLast? = some '/'
    · have hjoin : join base p = base ++ p := by simp [join, hp, hbase, hend]
      rw [hjoin, body_eq, bodyChars_append hbase]
      obtain ⟨before, hbefore⟩ := List.getLast?_eq_some_iff.mp hend
      cases before with
      | nil =>
          have hroot : base.bodyChars = [] := by simp [bodyChars, isAbsolute, hbefore]
          have hdir : base.dirBody = [] := by
            rw [dirBody, body_eq, hroot]
            rfl
          rw [hroot, hdir]
          rfl
      | cons c cs =>
          have hslash : ∃ rest, base.bodyChars = rest ++ ['/'] := by
            rw [bodyChars, hbefore]
            split
            · exact ⟨cs, rfl⟩
            · exact ⟨c :: cs, rfl⟩
          obtain ⟨rest, hrest⟩ := hslash
          rw [dirBody_of_ends hrest, hrest, List.append_assoc, List.singleton_append,
            splitSegments_append_slash]
          rfl
    · have hjoin : join base p = base ++ ("/" ++ p) := by
        simp [join, hp, hbase, hend, String.append_assoc]
      have hlist : ("/" ++ p).toList = '/' :: p.toList := by simp
      have hne : base.bodyChars ≠ [] ∧ base.bodyChars.getLast? ≠ some '/' := by
        have hcs : base.toList ≠ [] := by simpa using hbase
        obtain ⟨c, cs, hcs⟩ := List.exists_cons_of_ne_nil hcs
        rw [bodyChars, isAbsolute, hcs]
        rw [hcs] at hend
        split
        · rename_i habs
          cases cs with
          | nil => simp_all
          | cons d ds => simpa using hend
        · exact ⟨by simp, hend⟩
      rw [hjoin, dirBody_of_not_ends hne.1 hne.2, body_eq, bodyChars_append hbase, hlist,
        splitSegments_append_slash, ← body_eq]
      rfl

/-- A name without a slash is the last segment of a path that it is joined to. -/
theorem body_join_name (base : Path) {name : String} (hslash : '/' ∉ name.toList) :
    (join base name).body = base.dirBody ++ [name] := by
  rw [body_join base (isAbsolute_of_no_slash hslash), segments, splitSegments_of_no_slash hslash]
  simp

theorem dirBody_join_name (base : Path) {name : String} (hslash : '/' ∉ name.toList)
    (hne : name ≠ "") : (join base name).dirBody = base.dirBody ++ [name] := by
  rw [dirBody, body_join_name base hslash, List.getLast?_concat, if_neg]
  simpa using hne

theorem join_inj {base p q : Path} (hp : p.isAbsolute = false) (hq : q.isAbsolute = false)
    (h : join base p = join base q) : p = q := by
  unfold join at h
  rw [hp, hq] at h
  simp only [Bool.false_or] at h
  split at h
  · exact h
  · split at h
    · exact String.append_right_inj _ |>.mp h
    · exact String.append_right_inj _ |>.mp h

/-! ## Parents -/

theorem trimIdle_of_last {absolute : Bool} {segments : List String} {name : String}
    (hlast : segments.getLast? = some name) (hname : isIdle name = false) :
    trimIdle absolute segments = segments := by
  cases segments with
  | nil => cases hlast
  | cons first rest =>
      have hrest : (rest.reverse.dropWhile isIdle).reverse = rest := by
        refine List.rdropWhile_eq_self_iff.mpr fun hne => ?_
        rw [List.getLast?_cons, List.getLast?_eq_some_getLast hne, Option.getD_some] at hlast
        rw [Option.some.inj hlast, hname]
        exact Bool.false_ne_true
      rw [trimIdle, hrest, if_neg]
      cases rest with
      | cons _ _ => simp
      | nil =>
          simp only [List.getLast?_singleton, Option.some.injEq] at hlast
          subst hlast
          simp only [isIdle, Bool.or_eq_false_iff] at hname
          simp [hname]

theorem intercalate_splitSegments (word cs : List Char) :
    ['/'].intercalate ((splitSegments word cs).map String.toList) = word.reverse ++ cs := by
  induction cs generalizing word with
  | nil => simp [splitSegments]
  | cons c cs ih =>
      rw [splitSegments]
      split
      · rename_i hc
        obtain ⟨first, rest, hrest⟩ := List.exists_cons_of_ne_nil (splitSegments_ne_nil [] cs)
        have htail := ih []
        rw [hrest] at htail ⊢
        rw [List.map_cons, List.map_cons, List.intercalate_cons_cons, ← List.map_cons, htail, hc]
        simp
      · rw [ih]
        simp

/-- A path is made up of its segments. -/
theorem ofBody_body (p : Path) : ofBody p.isAbsolute p.body = p := by
  have hchars : ("/".intercalate p.body).toList = p.bodyChars := by
    rw [String.toList_intercalate, body_eq]
    exact intercalate_splitSegments [] _
  rw [← String.toList_inj, ofBody, String.toList_append, hchars, bodyChars]
  split
  · rename_i habs
    obtain ⟨rest, hrest⟩ := List.head?_eq_some_iff.mp (beq_iff_eq.mp habs)
    rw [hrest]
    rfl
  · rfl

/-- The parent of a file in a directory is that directory, if its path ends in a name. -/
theorem parent?_join_name {base : Path} {dir file : String} (hslash : '/' ∉ file.toList)
    (hfile : isIdle file = false) (hlast : base.body.getLast? = some dir)
    (hdir : isIdle dir = false) : (join base file).parent? = some base := by
  have hne : dir ≠ "" := by
    rintro rfl
    cases hdir
  have hbody : (join base file).body = base.body ++ [file] := by
    rw [body_join_name base hslash, dirBody, hlast, if_neg (by simpa using hne)]
  have habs : (join base file).isAbsolute = base.isAbsolute :=
    isAbsolute_join base (isAbsolute_of_no_slash hslash)
  have hkept : trimIdle base.isAbsolute (base.body ++ [file]) = base.body ++ [file] :=
    trimIdle_of_last List.getLast?_concat hfile
  simp only [parent?, habs, hbody, hkept, List.dropLast_concat, trimIdle_of_last hlast hdir,
    ofBody_body]
  simp

end GrammarBench.Path
