import GrammarBench.Proofs.Harness.Apart
import GrammarBench.Proofs.Harness.Areas

/-!
# Cases that share a host

Any number of cases may run at the same time, each on a harness of its own, with one staging root
for all. A schedule tells whose step is next; the steps of a case are those of `advance`, and they
are all taken on the one host.

Each case ends as it would alone (`interleaving_alone`). The invariant is `Peaceful`: the cases hold
different areas, and nothing has changed on the host but areas that they made. Under it a case can
be followed on a host of its own (`Follows`): its own step is taken on both hosts and leaves them
alike for the case, and the step of another case leaves them so too.
-/

namespace GrammarBench.Harness

open StagingArea FileTree

variable {ι : Type} [DecidableEq ι]

/-- A host, and how far each of the cases has come that share it. -/
structure Shared (ι : Type) where
  host : Host
  progress : ι → Progress

/-- Before the first step. -/
def Shared.start (s : Host) : Shared ι :=
  ⟨s, fun _ => .waiting⟩

/-- The next step of one of the cases. -/
def turn (runs : ι → Harness × Case) (w : Shared ι) (i : ι) : Shared ι :=
  let (p, s) := (runs i).1.advance (runs i).2 (w.progress i, w.host)
  ⟨s, Function.update w.progress i p⟩

/-- The steps of a schedule one after the other. -/
def play (runs : ι → Harness × Case) (w : Shared ι) (schedule : List ι) : Shared ι :=
  schedule.foldl (turn runs) w

variable {runs : ι → Harness × Case} {w : Shared ι} {i j : ι} {base : Host} {root : Path}

theorem play_append (before after : List ι) :
    play runs w (before ++ after) = play runs (play runs w before) after :=
  List.foldl_append

theorem progress_turn_self :
    (turn runs w i).progress i = ((runs i).1.advance (runs i).2 (w.progress i, w.host)).1 :=
  Function.update_self ..

theorem progress_turn_of_ne (hne : j ≠ i) : (turn runs w i).progress j = w.progress j :=
  Function.update_of_ne hne ..

theorem progress_play_of_not_mem {schedule : List ι} (hi : i ∉ schedule) :
    (play runs w schedule).progress i = w.progress i := by
  induction schedule generalizing w with
  | nil => rfl
  | cons j rest ih =>
      rw [List.mem_cons, not_or] at hi
      exact (ih hi.2).trans (progress_turn_of_ne hi.1)

/-- The cases hold different areas of the root, and that is all that has changed on the host. -/
structure Peaceful (runs : ι → Harness × Case) (base : Host) (root : Path) (w : Shared ι) :
    Prop where
  grown : base.Grown root w.host
  owns : ∀ i, (runs i).1.Owns (runs i).2 base root w.host.serial (w.progress i)
  apart : ∀ i j a, i ≠ j → (w.progress i).area? = some a → Spares (w.progress j) a

/-- The case `i` is followed: it has come as far on a host of its own, which is alike for it. -/
structure Follows (runs : ι → Harness × Case) (base : Host) (root : Path) (w : Shared ι) (i : ι)
    (alone : Progress × Host) : Prop where
  progress : w.progress i = alone.1
  grown : base.Grown root alone.2
  owns : (runs i).1.Owns (runs i).2 base root alone.2.serial alone.1
  alike : AlikeFor base root alone.1 w.host alone.2

section Turn

variable (hsound : base.tree.Sound) (hsettled : withRoot base root = base)
  (hself : ∀ i, (runs i).1.SelfContained (runs i).2 base root)

include hsound hsettled hself

theorem Peaceful.comes (hw : Peaceful runs base root w) (i : ι) :
    (runs i).1.Comes (runs i).2 base root (w.progress i) w.host ((turn runs w i).progress i)
      (turn runs w i).host := by
  rw [progress_turn_self]
  exact comes_advance hsound hsettled (hself i) hw.grown (hw.owns i)

/-- An area that another case holds is not noticed. -/
theorem Peaceful.others (hw : Peaceful runs base root w) {a : StagingArea} (hne : i ≠ j)
    (ha : (w.progress j).area? = some a) :
    Spares ((turn runs w i).progress i) a ∧ ∀ loc n, a.MadeIn base root loc n →
      SameBelow (loc ++ [dirName n]) w.host.tree (turn runs w i).host.tree := by
  have hcomes := hw.comes hsound hsettled hself i
  obtain ⟨loc, n, hmade, hn⟩ := (hw.owns j).area a ha
  obtain ⟨hspares, hsame⟩ := hcomes.others a loc n hmade hn (hw.apart j i a hne.symm ha)
  refine ⟨hspares, fun loc' n' hmade' => ?_⟩
  obtain ⟨rfl, rfl⟩ := hmade.unique hmade'
  exact hsame

theorem Peaceful.turn (hw : Peaceful runs base root w) (i : ι) :
    Peaceful runs base root (turn runs w i) := by
  have hcomes := hw.comes hsound hsettled hself i
  refine ⟨hcomes.grown, fun j => ?_, fun j k a hne ha => ?_⟩
  · by_cases hj : j = i
    · subst hj
      exact hcomes.owns
    · rw [progress_turn_of_ne hj]
      exact (hw.owns j).mono hcomes.serial
  · by_cases hj : j = i
    · subst hj
      rw [progress_turn_of_ne hne.symm]
      intro b hb hpath
      exact (hw.others hsound hsettled hself hne hb).1 a ha hpath.symm
    · rw [progress_turn_of_ne hj] at ha
      by_cases hk : k = i
      · subst hk
        exact (hw.others hsound hsettled hself hne.symm ha).1
      · rw [progress_turn_of_ne hk]
        exact hw.apart j k a hne ha

theorem Peaceful.play (hw : Peaceful runs base root w) (schedule : List ι) :
    Peaceful runs base root (play runs w schedule) := by
  induction schedule generalizing w with
  | nil => exact hw
  | cons i rest ih => exact ih (hw.turn hsound hsettled hself i)

/-- A step of the case itself is taken on both hosts. -/
theorem Follows.turn_self {alone : Progress × Host} (hw : Peaceful runs base root w)
    (hf : Follows runs base root w i alone) :
    Follows runs base root (turn runs w i) i ((runs i).1.advance (runs i).2 alone) := by
  have howns := hw.owns i
  rw [hf.progress] at howns
  obtain ⟨hresult, halike⟩ :=
    advance_alike hsound hsettled (hself i) hw.grown hf.grown howns hf.owns hf.alike
  have hcomes := comes_advance hsound hsettled (hself i) hf.grown hf.owns
  have hhost : (turn runs w i).host = ((runs i).1.advance (runs i).2 (alone.1, w.host)).2 := by
    rw [← hf.progress]
    rfl
  refine ⟨?_, hcomes.grown, hcomes.owns, ?_⟩
  · rw [progress_turn_self, hf.progress]
    exact hresult.symm
  · rw [hhost, hresult]
    exact halike

/-- A step of another case is taken on the shared host only. -/
theorem Follows.turn_of_ne {alone : Progress × Host} (hw : Peaceful runs base root w)
    (hf : Follows runs base root w i alone) (hbegun : alone.1 ≠ .waiting) (hne : j ≠ i) :
    Follows runs base root (turn runs w j) i alone := by
  refine ⟨(progress_turn_of_ne hne.symm).trans hf.progress, hf.grown, hf.owns,
    fun hwaiting => absurd hwaiting hbegun, fun a loc n ha hmade => ?_⟩
  rw [← hf.progress] at ha
  have hother := (hw.others hsound hsettled hself hne ha).2 loc n hmade
  rw [hf.progress] at ha
  intro l hl
  rw [← hother l hl, hf.alike.area a loc n ha hmade l hl]

/-- A case that has begun is followed through any schedule. -/
theorem Follows.play {alone : Progress × Host} (hw : Peaceful runs base root w)
    (hf : Follows runs base root w i alone) (hbegun : alone.1 ≠ .waiting) (schedule : List ι) :
    Follows runs base root (play runs w schedule) i
      (((runs i).1.advance (runs i).2)^[schedule.count i] alone) := by
  induction schedule generalizing w alone with
  | nil => exact hf
  | cons j rest ih =>
      have hnext := hw.turn hsound hsettled hself j
      by_cases hj : j = i
      · subst hj
        rw [List.count_cons_self, Function.iterate_succ_apply]
        exact ih hnext (hf.turn_self hsound hsettled hself hw) (advance_ne_waiting _ _)
      · rw [List.count_cons_of_ne hj]
        exact ih hnext (hf.turn_of_ne hsound hsettled hself hw hbegun hj) hbegun

/-- From its first step on, a case is followed by its steps alone on a host where the same numbers
were tried. -/
theorem Follows.of_first (hw : Peaceful runs base root w) (hi : w.progress i = .waiting)
    (after : List ι) :
    Follows runs base root (Harness.play runs w (i :: after)) i
      ((runs i).1.steps (runs i).2 { base with serial := w.host.serial } (after.count i + 1)) := by
  have hfirst : Follows runs base root w i (.waiting, { base with serial := w.host.serial }) :=
    ⟨hi, .of_serial base root _, owns_of_none rfl, fun _ => rfl, nofun⟩
  rw [steps, Function.iterate_succ_apply]
  exact Follows.play hsound hsettled hself (hw.turn hsound hsettled hself i)
    (hfirst.turn_self hsound hsettled hself hw) (advance_ne_waiting _ _) after

end Turn

/-! ## Where the root is made -/

section Root

variable {s : Host} (hsettled : Settled s root) (hroot : ∀ i, (runs i).1.config.stagingRoot = root)

include hsettled hroot

/-- The first case makes the root, and it is as if it had been there. -/
theorem play_withRoot {schedule : List ι} (hne : schedule ≠ []) :
    play runs (.start (withRoot s root)) schedule = play runs (.start s) schedule := by
  cases schedule with
  | nil => exact absurd rfl hne
  | cons i rest =>
      have hfirst : turn runs (.start (withRoot s root)) i = turn runs (.start s) i := by
        simp only [turn, Shared.start, advance_withRoot (hroot i) hsettled]
      rw [play, play, List.foldl_cons, List.foldl_cons, hfirst]

theorem serial_play_withRoot (schedule : List ι) :
    (play runs (.start (withRoot s root)) schedule).host.serial =
      (play runs (.start s) schedule).host.serial := by
  by_cases hne : schedule = []
  · rw [hne]
    rfl
  · rw [play_withRoot hsettled hroot hne]

end Root

/-- The case alone, on a host where the numbers count as tried that the others have tried before its
first step. So its area has the name that it has among them. -/
def aloneAfter (runs : ι → Harness × Case) (s : Host) (before : List ι) (i : ι) :
    Except Failure RunOutcome :=
  (((runs i).1.exec (runs i).2).runOn
    (.fresh { s with serial := (play runs (.start s) before).host.serial })).1

/-- **Cases that share a host end as each of them would alone**, whatever the order of their steps
is, and a case that takes seven steps has ended. -/
theorem interleaving_alone (runs : ι → Harness × Case) (s : Host) (root : Path)
    (hsound : s.tree.Sound) (hsettled : Settled s root)
    (hself : ∀ i, (runs i).1.SelfContained (runs i).2 (withRoot s root) root)
    (before after : List ι) (i : ι) (hi : i ∉ before) :
    (∀ r, (play runs (.start s) (before ++ i :: after)).progress i = .ended r →
        r = aloneAfter runs s before i)
      ∧ (6 ≤ after.count i →
        (play runs (.start s) (before ++ i :: after)).progress i =
          .ended (aloneAfter runs s before i)) := by
  have hroot : ∀ i, (runs i).1.config.stagingRoot = root := fun i => (hself i).stagingRoot
  have hpeace : Peaceful runs (withRoot s root) root (.start (withRoot s root)) :=
    ⟨.of_serial _ _ _, fun _ => owns_of_none rfl, nofun⟩
  have hbefore := hpeace.play hsound.makeDirs hsettled.withRoot hself before
  have hwaiting : (play runs (.start (withRoot s root)) before).progress i = .waiting :=
    progress_play_of_not_mem hi
  have hprogress :=
    (Follows.of_first hsound.makeDirs hsettled.withRoot hself hbefore hwaiting after).progress
  rw [← play_append, play_withRoot hsettled hroot (by simp),
    serial_play_withRoot hsettled hroot] at hprogress
  rw [aloneAfter, hprogress]
  generalize (play runs (.start s) before).host.serial = serial
  have hagain : Settled { s with serial } root := hsettled
  have hroots : (runs i).1.steps (runs i).2 { withRoot s root with serial } (after.count i + 1) =
      (runs i).1.steps (runs i).2 { s with serial } (after.count i + 1) :=
    steps_withRoot (hroot i) hagain _
  rw [hroots]
  exact ⟨fun r hr => eq_of_steps (b := .fresh { s with serial }) hr,
    fun hcount => steps_of_le (by omega) (.fresh { s with serial })⟩

open SmallRuns in
theorem interleaving_alone_twoRuns :
    let runs : Bool → Harness × Case := fun i => (harness i, subject (if i then "b" else "a"))
    let after := [false, true, false, true, false, true, false, true, false, true, false, true]
    (play runs (.start TwoCalls.host) ([false] ++ true :: after)).progress true =
        .ended (aloneAfter runs TwoCalls.host [false] true)
      ∧ aloneAfter runs TwoCalls.host [false] true =
        .ok { diagnostics := .empty, result := some ⟨"b", none⟩ } := by
  intro runs after
  have hself : ∀ i, (runs i).1.SelfContained (runs i).2 (withRoot TwoCalls.host "/s") "/s" :=
    fun i => selfContained i _
  exact ⟨(interleaving_alone runs TwoCalls.host "/s" sound_host settled_host hself [false] after
    true (by decide)).2 (by decide), by decide +kernel⟩

open HalfMade in
/-- A root that is made halfway: the case that comes second fails in another way than it would
alone, whatever the name of its area would be. -/
theorem second_case_fails_otherwise :
    let runs : Bool → Harness × Case := fun _ =>
      (TwoCalls.harness path false, TwoCalls.call.subject)
    host.tree.Sound
      ∧ (∀ i, (runs i).1.SelfContained (runs i).2 (withRoot host path) path)
      ∧ (play runs (.start host) [false, true]).progress true =
        .ended (.error (.io .notDirectory))
      ∧ ∀ serial, (((runs true).1.exec (runs true).2).runOn (.fresh { host with serial })).1 =
        .error (.io .alreadyExists) :=
  ⟨sound_host, fun _ => TwoCalls.selfContained _ _ _, by decide +kernel,
    fun _ => exec_of_root_error (congrArg Prod.fst makeDirs_path)⟩

end GrammarBench.Harness
