import GrammarBench.Proofs.FileTree.Deep
import GrammarBench.Proofs.Staging.Apart
import GrammarBench.Proofs.Staging.Lifetime
import Mathlib.Data.List.Infix

/-!
# An area as a tree of its own

Seen from itself, an area is a tree of directories and files that begins with nothing in it
(`Contents.empty`). What is done in it by ordinary paths acts on that tree alone: an operation is
refused where a file is in the way or the target is of the other kind, and then nothing at all
changes; otherwise the target holds what was put there, with the directories above it that were
missing, and every other entry is as it was (`hold`).

The tree is a function from names to entries, and the host is said to show it (`FileTree.Shows`).
Adding directories and putting a file are the changes of the host after which it shows the tree with
the same change (`AddsDirs.becomes`, `Becomes.put_file`).
-/

namespace GrammarBench

/-! ## Trees of an area -/

/-- What stands in an area, by the names that lead there from it. -/
abbrev Contents := List String → Option Node

/-- The entry is of the other kind than the node. -/
def Clashes : Option Node → Node → Prop
  | some .dir, .file _ => True
  | some (.file _), .dir => True
  | _, _ => False

instance : ∀ entry node, Decidable (Clashes entry node)
  | some .dir, .file _ => .isTrue trivial
  | some (.file _), .dir => .isTrue trivial
  | some .dir, .dir => .isFalse id
  | some (.file _), .file _ => .isFalse id
  | none, _ => .isFalse id

namespace Contents

def empty : Contents := fun names => if names = [] then some .dir else none

/-- A regular file is in the way: it stands above the place. -/
def FileAbove (c : Contents) (names : List String) : Prop :=
  ∃ above, above <+: names ∧ above ≠ names ∧ FileTree.IsFile (c above)

instance (c : Contents) (names : List String) : Decidable (c.FileAbove names) :=
  decidable_of_iff (∃ above ∈ names.inits, above ≠ names ∧ FileTree.IsFile (c above)) (by
    simp only [List.mem_inits, FileAbove])

/-- Nothing can be put at the names, or not this. -/
def Refuses (c : Contents) (names : List String) (node : Node) : Prop :=
  c.FileAbove names ∨ Clashes (c names) node

instance (c : Contents) (names : List String) (node : Node) : Decidable (c.Refuses names node) :=
  inferInstanceAs (Decidable (_ ∨ _))

/-- The node at the names, in place of what stood there, with the directories above it that were
missing. Everything else is as it was. -/
def hold (c : Contents) (names : List String) (node : Node) : Contents := fun at_ =>
  if at_ = names then some node
  else if at_ <+: names then (c at_).or (some .dir)
  else c at_

theorem hold_of_eq {c : Contents} {names : List String} {node : Node} (h : c names = some node)
    (habove : ∀ above, above <+: names → (c above).isSome = true) : c.hold names node = c := by
  funext at_
  unfold hold
  split
  · rw [‹at_ = names›, h]
  · split
    · obtain ⟨entry, hentry⟩ := Option.isSome_iff_exists.mp (habove at_ ‹_›)
      rw [hentry]
      rfl
    · rfl

end Contents

namespace FileTree

variable {t t' t₁ : FileTree} {cwd dir l : Location} {q : Path} {c c' : Contents}
  {names segments : List String} {node : Node}

/-- What stands at the location and below it. -/
def Shows (t : FileTree) (dir : Location) (c : Contents) : Prop :=
  ∀ names, t.node? (dir ++ names) = c names

/-- Between the trees, the directory came to have these contents. No directory was lost, and nothing
changed elsewhere. -/
structure Becomes (dir : Location) (t t' : FileTree) (c : Contents) : Prop where
  sound : t'.Sound
  keeps : Keeps t t'
  outside : SameOutside dir t t'
  shows : t'.Shows dir c

theorem Becomes.refl (hs : t.Sound) (hc : t.Shows dir c) : Becomes dir t t c :=
  ⟨hs, .of_nodes fun _ _ h => h, .refl dir t, hc⟩

theorem shown_root (hdir : t.isDir dir = true) (hc : t.Shows dir c) : c [] = some .dir := by
  rw [← hc, List.append_nil]
  exact beq_iff_eq.mp hdir

section Shown

variable (hs : t.Sound) (hdir : t.isDir dir = true) (hc : t.Shows dir c)

include hs hdir hc

/-- A file on the way to an entry stands in the directory: above that there are only directories. -/
theorem fileOn_iff : t.FileOn (dir ++ names) ↔ c.FileAbove names ∨ IsFile (c names) := by
  constructor
  · rintro ⟨m, hm, hfile⟩
    rcases List.prefix_or_prefix_of_prefix (List.prefix_append dir names) hm with
      ⟨above, rfl⟩ | habove
    · rw [hc] at hfile
      by_cases heq : above = names
      · exact .inr (heq ▸ hfile)
      · exact .inl ⟨above, (List.prefix_append_right_inj dir).mp hm, heq, hfile⟩
    · rw [beq_iff_eq.mp (hs.isDir_above habove hdir)] at hfile
      exact hfile.elim
  · rintro (⟨above, habove, -, hfile⟩ | hfile)
    · exact ⟨dir ++ above, (List.prefix_append_right_inj dir).mpr habove, by rwa [hc]⟩
    · exact ⟨dir ++ names, List.prefix_refl _, by rwa [hc]⟩

/-- A directory that is made with its parents. -/
theorem AddsDirs.becomes (hadds : t.AddsDirs (dir ++ names) t')
    (hno : ¬t.FileOn (dir ++ names)) : Becomes dir t t' (c.hold names .dir) where
  sound := hadds.sound hs hno
  keeps := hadds.keeps
  outside m hm := by
    rw [hadds m]
    split
    · rename_i hway
      have habove : m <+: dir :=
        (List.prefix_or_prefix_of_prefix (List.prefix_append dir names) hway).resolve_left hm
      rw [beq_iff_eq.mp (hs.isDir_above habove hdir)]
      rfl
    · rfl
  shows at_ := by
    rw [hadds, hc]
    simp only [List.prefix_append_right_inj, Contents.hold]
    by_cases heq : at_ = names
    · subst heq
      rw [if_pos (List.prefix_refl _), if_pos rfl]
      exact or_dir_of_not_isFile fun hfile => hno ((fileOn_iff hs hdir hc).mpr (.inr hfile))
    · rw [if_neg heq]

end Shown

/-- A file that is put into a directory which was made for it. -/
theorem Becomes.put_file {init : List String} {name : String} {content : List UInt8}
    (h : Becomes dir t t₁ (c.hold init .dir)) (hclear : ¬IsFile (c init))
    (hno : t₁.isDir (dir ++ (init ++ [name])) = false) :
    Becomes dir t (t₁.put (dir ++ (init ++ [name])) (.file content))
      (c.hold (init ++ [name]) (.file content)) where
  sound := by
    have hparent : t₁.isDir (dir ++ init) = true := by
      rw [isDir, h.shows, Contents.hold, if_pos rfl]
      rfl
    rw [← List.append_assoc] at hno ⊢
    exact h.sound.put hparent hno
  keeps := h.keeps.trans (.put hno)
  outside := h.outside.trans (.put (List.prefix_append dir _) t₁ _)
  shows at_ := by
    by_cases heq : at_ = init ++ [name]
    · rw [heq, node?_put_self (by simp), Contents.hold, if_pos rfl]
    · rw [node?_put_of_ne fun hsame => heq (List.append_cancel_left hsame), h.shows]
      simp only [Contents.hold, heq, List.prefix_concat_iff, false_or, if_false]
      by_cases hinit : at_ = init
      · subst hinit
        rw [if_pos rfl, if_pos (List.prefix_refl _), or_dir_of_not_isFile hclear]
      · rw [if_neg hinit]

end FileTree

end GrammarBench
