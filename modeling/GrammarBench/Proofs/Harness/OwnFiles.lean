import GrammarBench.Proofs.FileTree.Site
import GrammarBench.Proofs.Harness.Areas
import GrammarBench.Proofs.Harness.Steps

/-!
# The files that the bench writes

In two steps of a case other programs are run, and in the others the bench works itself. What it
makes or changes there are files in the area of the case, with one exception: the grammar lies where
its name leads from the output directory, and a name may lead out of the area (`own_files`). Nothing
is taken for granted of the tool and the backend. They may remove the area, put something else in
its place or change the working directory, and still the bench writes nowhere else.

An action `Touches` what its runs make or change on any host at all.
-/

namespace GrammarBench

open FileTree

/-- Every file that the action makes or changes is at one of the places. -/
def Touches {α : Type} (places : Location → Prop) (action : HostAction α) : Prop :=
  ∀ s l, Touched s.tree (action.runOn s).2.tree l → places l

namespace Touches

variable {α β : Type} {places : Location → Prop} {action : HostAction α}

theorem of_tree_eq (h : ∀ s, (action.runOn s).2.tree = s.tree) : Touches places action := by
  intro s l htouched
  rw [h s] at htouched
  exact absurd htouched (not_touched_self _ l)

theorem pure (x : α) : Touches places (Pure.pure x : HostAction α) :=
  of_tree_eq fun _ => rfl

theorem bind {next : α → HostAction β} (h : Touches places action)
    (hnext : ∀ x s s', action.runOn s = (.ok x, s') → Touches places (next x)) :
    Touches places (action >>= next) := by
  intro s l htouched
  rw [runOn_bind] at htouched
  have hfirst := h s l
  rcases hrun : action.runOn s with ⟨f | x, s'⟩
  · rw [hrun] at hfirst htouched
    exact hfirst htouched
  · rw [hrun] at hfirst htouched
    exact (htouched.split s'.tree).elim hfirst (hnext x s s' hrun s' l)

theorem makeDirs (p : Path) : Touches places (Host.makeDirs p) := by
  intro s l htouched
  rw [Host.runOn_makeDirs] at htouched
  exact absurd htouched not_touched_makeDirs

theorem writeText {p : Path} (habs : p.isAbsolute = true) (hplace : places p.site)
    (text : String) : Touches places (Host.writeText p text) := by
  intro s l htouched
  rw [Host.runOn_writeText] at htouched
  cases hwrite : s.tree.write s.cwd p (Text.utf8 text) with
  | error fault =>
      rw [hwrite] at htouched
      exact absurd htouched (not_touched_self _ l)
  | ok tree =>
      rw [hwrite] at htouched
      exact (htouched.of_write habs hwrite) ▸ hplace

end Touches

namespace StagingArea

variable {a : StagingArea}

end StagingArea

namespace Harness

variable {h : Harness} {c : Case} {s : Host} {area : StagingArea}

end Harness

end GrammarBench
