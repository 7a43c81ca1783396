import GrammarBench.Proofs.Harness.Apart

/-!
# Cases after other cases

A harness that has served calls answers the next one as a new harness would (`exec_after_history`).
Of the calls before, the harness itself keeps nothing that a case reads, so on the host as they have
left it a new harness does the same. And what they have left on the host does not matter either, be
it the areas that were kept: the host has grown from the one before the first call, and a case ends
in the same way on both.
-/

namespace GrammarBench.Harness

open StagingArea FileTree

variable {h : Harness} {c : Case} {base s : Host} {root : Path} {b : Bench}
  {calls : List CaseCall}

/-- What the bench has recorded has no influence on a case. -/
theorem exec_of_steps (b b' : Bench) (hsteps : h.steps c b.host 7 = h.steps c b'.host 7) :
    ((h.exec c).runOn b).1 = ((h.exec c).runOn b').1
      ∧ ((h.exec c).runOn b).2.host = ((h.exec c).runOn b').2.host := by
  rw [steps_exec, steps_exec] at hsteps
  obtain ⟨hprogress, hafter⟩ := Prod.mk.inj hsteps
  exact ⟨Progress.ended.inj hprogress, hafter⟩

section Grown

variable (hsound : base.tree.Sound) (hsettled : withRoot base root = base)

include hsound hsettled

theorem grown_exec (hself : h.SelfContained c base root) (hb : base.Grown root b.host) :
    base.Grown root ((h.exec c).runOn b).2.host := by
  have hgrown := (comes_steps hsound hsettled hself hb 7).1
  rwa [steps_exec] at hgrown

theorem exec_alike (hself : h.SelfContained c base root) (b b' : Bench)
    (hb : base.Grown root b.host) (hb' : base.Grown root b'.host)
    (hserial : b'.host.serial = b.host.serial) :
    ((h.exec c).runOn b').1 = ((h.exec c).runOn b).1 := by
  have halike := (steps_alike hsound hsettled hself hb hb' hserial 7).1
  rw [steps_exec, steps_exec] at halike
  exact Progress.ended.inj halike

theorem grown_caseSession
    (hcalls : ∀ k ∈ calls, (h.during k.turn).SelfContained k.subject base root)
    (hb : base.Grown root b.host) : base.Grown root (h.caseSession b calls).host := by
  induction calls generalizing b with
  | nil => exact hb
  | cons k rest ih =>
      rw [caseSession_cons]
      refine ih (fun k hk => hcalls k (List.mem_cons_of_mem _ hk)) ?_
      rw [caseSession_single]
      exact grown_exec hsound hsettled (hcalls k List.mem_cons_self) hb

end Grown

/-- The first call makes the root, and from then on the host grows. -/
theorem grown_history (hsound : s.tree.Sound) (hsettled : Settled s root)
    (hcalls : ∀ k ∈ calls, (h.during k.turn).SelfContained k.subject (withRoot s root) root)
    (hne : calls ≠ []) :
    (withRoot s root).Grown root (h.caseSession (.fresh s) calls).host := by
  cases calls with
  | nil => exact absurd rfl hne
  | cons k rest =>
      have hfirst := hcalls k List.mem_cons_self
      have hsteps : (h.during k.turn).steps k.subject (withRoot s root) 7 =
          (h.during k.turn).steps k.subject s 7 := steps_withRoot hfirst.stagingRoot hsettled 6
      have hhost := (exec_of_steps (.fresh (withRoot s root)) (.fresh s) hsteps).2
      rw [caseSession_cons]
      refine grown_caseSession hsound.makeDirs hsettled.withRoot
        (fun k hk => hcalls k (List.mem_cons_of_mem _ hk)) ?_
      rw [caseSession_single, ← hhost]
      exact grown_exec hsound.makeDirs hsettled.withRoot hfirst (.of_serial _ _ s.serial)

/-- **A case ends as it would on a new harness**, whatever calls the harness has served before: on
the host as it is now, and on the host as it was before the first call, with an area of the same
name. -/
theorem exec_after_history (h : Harness) (s : Host) (calls : List CaseCall) (c : Case)
    (hsound : s.tree.Sound) (hsettled : Settled s h.config.stagingRoot)
    (hcalls : ∀ k ∈ calls, (h.during k.turn).SelfContained k.subject
      (withRoot s h.config.stagingRoot) h.config.stagingRoot)
    (hself : h.SelfContained c (withRoot s h.config.stagingRoot) h.config.stagingRoot) :
    let b := h.caseSession (.fresh s) calls
    ((h.exec c).runOn b).1 = ((h.exec c).runOn (.fresh b.host)).1
      ∧ ((h.exec c).runOn b).1 =
        ((h.exec c).runOn (.fresh { s with serial := b.host.serial })).1 := by
  intro b
  refine ⟨(exec_of_steps b (.fresh b.host) rfl).1, ?_⟩
  by_cases hne : calls = []
  · have hb : b = .fresh s := by rw [show b = h.caseSession (.fresh s) calls from rfl, hne]; rfl
    rw [hb]
    rfl
  · have hgrown := grown_history hsound hsettled hcalls hne
    have hagain : Settled { s with serial := b.host.serial } h.config.stagingRoot := hsettled
    calc ((h.exec c).runOn b).1
      _ = ((h.exec c).runOn
            (.fresh (withRoot { s with serial := b.host.serial } h.config.stagingRoot))).1 :=
          exec_alike hsound.makeDirs hsettled.withRoot hself (.fresh _) b (.of_serial _ _ _) hgrown
            rfl
      _ = ((h.exec c).runOn (.fresh { s with serial := b.host.serial })).1 :=
          (exec_of_steps (.fresh _) (.fresh _) (steps_withRoot rfl hagain 6)).1

/-- The areas that two calls leave behind, and the number that is next. -/
theorem SmallRuns.host_afterTwo (hb : b = (harness true).caseSession (.fresh TwoCalls.host)
    (["a", "bc"].map fun input => ⟨subject input, (harness true).tool,
      (harness true).backend.execute⟩)) :
    b.host.tree.isDir ["s", "gramtest-000001"] = true
      ∧ b.host.tree.isDir ["s", "gramtest-000002"] = true ∧ b.host.serial = 3 := by
  rw [hb]
  decide +kernel

open SmallRuns in
/-- Two calls have left their areas behind, with a copy of their inputs in each. -/
theorem exec_after_history_keptAreas :
    let h := harness true
    let calls := ["a", "bc"].map fun input => CaseCall.mk (subject input) h.tool h.backend.execute
    let b := h.caseSession (.fresh TwoCalls.host) calls
    b.host.tree.isDir ["s", "gramtest-000001"] = true
      ∧ b.host.tree.isDir ["s", "gramtest-000002"] = true
      ∧ ((h.exec (subject "d")).runOn b).1 =
        ((h.exec (subject "d")).runOn (.fresh { TwoCalls.host with serial := b.host.serial })).1
      ∧ ((h.exec (subject "d")).runOn b).1 =
        .ok { diagnostics := .empty, result := some ⟨"d", none⟩ } := by
  intro h calls b
  have hcalls : ∀ k ∈ calls, (h.during k.turn).SelfContained k.subject
      (withRoot TwoCalls.host "/s") "/s" := by
    intro k hk
    obtain ⟨input, -, rfl⟩ := List.mem_map.mp hk
    exact selfContained true input
  -- The bench stays a name here, for it is slow to evaluate.
  have hsame : ∀ b' : Bench, b' = h.caseSession (.fresh TwoCalls.host) calls →
      ((h.exec (subject "d")).runOn b').1 =
        ((h.exec (subject "d")).runOn (.fresh { TwoCalls.host with serial := b'.host.serial })).1 :=
    fun _ hb => hb ▸ (exec_after_history h TwoCalls.host calls (subject "d") sound_host settled_host
      hcalls (selfContained true "d")).2
  obtain ⟨hone, htwo, hserial⟩ := host_afterTwo (b := b) rfl
  refine ⟨hone, htwo, hsame b rfl, ?_⟩
  rw [hsame b rfl, hserial]
  decide +kernel

open HalfMade in
/-- A root that is made halfway: the second call fails in another way than on a new harness,
whatever the name of its area would be. -/
theorem second_call_fails_otherwise :
    let h := TwoCalls.harness path false
    host.tree.Sound
      ∧ h.SelfContained TwoCalls.call.subject (withRoot host path) path
      ∧ ((h.exec TwoCalls.call.subject).runOn
          (h.caseSession (.fresh host) [TwoCalls.call])).1 = .error (.io .notDirectory)
      ∧ ∀ serial, ((h.exec TwoCalls.call.subject).runOn (.fresh { host with serial })).1 =
        .error (.io .alreadyExists) :=
  ⟨sound_host, TwoCalls.selfContained _ _ _, by decide +kernel,
    fun _ => exec_of_root_error (congrArg Prod.fst makeDirs_path)⟩

end GrammarBench.Harness
