import Mathlib.Data.List.Nodup
import GrammarBench.Proofs.Remote.Steps

/-!
# Runs of the browser take turns

Any number of runs of the browser are under way on one host. A schedule tells whose step is next.
The port for pages is the same for all of them, so a run takes a lock before it opens the port and
gives it up when it ends, on every path: a step into the part that is locked waits for the lock
(`step`). What is taken for granted is that the lock excludes, and that a run is not broken off.

The invariant is in three parts, each kept by every step: who has the lock and which ports are open
(`Locked`), in which order the runs did things on the network (`Journaled`), and what has come of it
so far (`Serial`). A step is taken apart once for all three (`stepped_step`). What follows for the
runs is `TakesTurns`.
-/

namespace GrammarBench.BrowserCall

/-! ## Phases -/

namespace Phase

/-- The port that a run has open, from the bind of its server to the end of its stop. -/
def port? : Phase → Option Nat
  | serving server _ _ | stopping server _ _ => some server.port
  | _ => none

/-- The run has the lock: it took it before the bind, and gives it up with its last step. -/
def holds : Phase → Bool
  | admitted | serving .. | stopping .. | stopped _ => true
  | _ => false

/-- The run has not come to its turn yet, and it may come to it. -/
def early : Phase → Bool
  | begun | queued => true
  | _ => false

theorem port?_of_not_holds {p : Phase} (hp : ¬p.holds) : p.port? = none := by
  cases p <;> simp_all [port?, holds]

/-- How many steps of its own a run has left at most. -/
def left : Phase → Nat
  | begun => 28
  | queued => 27
  | admitted => 26
  | serving _ task sent => 2 * task.commands + if sent then 2 else 3
  | stopping _ _ told => if told then 2 else 3
  | stopped _ => 1
  | ended _ => 0

end Phase

/-- The browser may be run on the system, and there is a port for its pages. -/
def Bound (c : BrowserCall) (s : Host) : Prop :=
  c.browser.checkPlatform s.system = .ok () ∧
    ∃ port, PageServer.bind s c.browser.config.port = .ok port

/-- The phases that a run can come to, if `s` is the host without any run. -/
def Phase.Fits (c : BrowserCall) (s : Host) : Phase → Prop
  | begun => True
  | queued | admitted => c.browser.checkPlatform s.system = .ok ()
  | serving .. | stopping .. | stopped _ => c.Bound s
  | ended outcome =>
    (∀ f, c.browser.checkPlatform s.system = .error f → outcome = .error f) ∧
      ∀ fault, PageServer.bind s c.browser.config.port = .error fault → ∃ f, outcome = .error f

/-- What a run can do on the network. -/
inductive Doing where
  /-- The request of a command goes out. Its reply is heard later, and noted as `did`. -/
  | sends
  | did (traffic : Traffic)

def Doing.traffic? : Doing → Option Traffic
  | sends => none
  | did traffic => some traffic

/-- What a step from a phase did on the network, with the hosts before and after it. -/
def doings : Phase → Host → Host → List Doing
  | .serving _ _ false, _, _ => [.sends]
  | _, h, h' => (h'.traffic.drop h.traffic.length).map .did

theorem doings_self {p : Phase} (hp : ¬p.holds) (h : Host) : doings p h h = [] := by
  cases p <;> simp_all [doings, Phase.holds]

@[simp] theorem Task.commands_opening : Task.opening.commands = 11 := rfl

theorem Task.commands_pos (task : Task) : 0 < task.commands := by
  cases task <;> simp [commands]

namespace Moves

variable {c : BrowserCall} {p p' : Phase} {h h' s : Host}

theorem eq_queued (hmoves : Moves c p h p' h') (hbefore : ¬p.holds) (hafter : p'.holds) :
    p = .queued ∧ p' = .admitted := by
  cases hmoves <;> simp_all [Phase.holds]

theorem host_eq (hmoves : Moves c p h p' h') (hbefore : ¬p.holds) : h' = h := by
  cases hmoves <;> simp_all [Phase.holds]

theorem early (hmoves : Moves c p h p' h') (hafter : p'.early) : p.early := by
  cases hmoves <;> simp_all [Phase.early]

theorem ended (hmoves : Moves c p h p' h') (hbefore : p.holds) (hafter : ¬p'.holds) :
    ∃ outcome, p' = .ended outcome := by
  cases hmoves <;> simp_all [Phase.holds]

theorem left_lt (hmoves : Moves c p h p' h') :
    p'.left < p.left ∨ ∃ outcome, p = .ended outcome ∧ p' = .ended outcome := by
  cases hmoves <;> simp_all [Phase.left]
  case hears hless => omega
  case leaves task _ _ _ =>
    have hpos := task.commands_pos
    omega

theorem left_le (hmoves : Moves c p h p' h') : p'.left ≤ p.left - 1 := by
  rcases hmoves.left_lt with hless | ⟨outcome, rfl, rfl⟩
  · omega
  · exact Nat.le_refl _

theorem system (hmoves : Moves c p h p' h') : h'.system = h.system := by
  cases hmoves <;> rfl

theorem bindFault (hmoves : Moves c p h p' h') : h'.bindFault = h.bindFault := by
  cases hmoves <;> rfl

/-- Whatever else is open stays open, behind the port of the run. -/
theorem ports (hmoves : Moves c p h p' h') (hbefore : p.holds) {others : List Nat}
    (hports : h.ports = p.port?.toList ++ others) : h'.ports = p'.port?.toList ++ others := by
  cases hmoves <;> simp_all [Phase.holds, Phase.port?, Host.opening, Host.asking, Host.closing,
    Host.logging]

theorem fits (hmoves : Moves c p h p' h') (hsystem : h.system = s.system)
    (hbind : p = .admitted →
      PageServer.bind h c.browser.config.port = PageServer.bind s c.browser.config.port)
    (hfits : p.Fits c s) : p'.Fits c s := by
  cases hmoves with
  | refused hplatform =>
      rw [hsystem] at hplatform
      refine ⟨fun f hf => ?_, fun _ _ => ⟨_, rfl⟩⟩
      rw [Except.error.inj (hplatform.symm.trans hf)]
  | queues hplatform => exact (congrArg c.browser.checkPlatform hsystem).symm.trans hplatform
  | enters => exact hfits
  | unbound hport => exact ⟨fun f hf => absurd (hfits.symm.trans hf) nofun, fun _ _ => ⟨_, rfl⟩⟩
  | opens hport => exact ⟨hfits, _, (hbind rfl).symm.trans hport⟩
  | sends | hears hless | leaves | tells | closes => exact hfits
  | ends =>
      obtain ⟨hplatform, port, hport⟩ := hfits
      exact ⟨fun f hf => absurd (hplatform.symm.trans hf) nofun,
        fun fault hf => absurd (hport.symm.trans hf) nofun⟩
  | stays => exact hfits

/-- What a run did is noted in full. -/
theorem traffic (hmoves : Moves c p h p' h') :
    h'.traffic = h.traffic ++ (doings p h h').filterMap Doing.traffic? := by
  have hid : ∀ ts : List Traffic, (ts.map Doing.did).filterMap Doing.traffic? = ts := fun ts => by
    rw [List.filterMap_map]
    exact List.filterMap_some
  cases hmoves <;> simp [doings, hid, Doing.traffic?, Host.opening, Host.asking, Host.closing,
    Host.logging, -List.filterMap_map, -List.map_map]

theorem bound (hmoves : Moves c p h p' h') (hdoings : doings p h h' ≠ []) (hfits : p'.Fits c s) :
    c.Bound s := by
  cases hmoves <;> simp_all [Phase.Fits, doings, Host.logging]

end Moves

/-! ## The steps of all runs -/

/-- A host, how far each of the runs has come that share it, and who has the lock. -/
structure Shared (ι : Type) where
  host : Host
  phase : ι → Phase
  turn : Option ι
  /-- The runs that have had the lock, in their order. -/
  turns : List ι
  /-- What was done on the network, and by whom. -/
  journal : List (ι × Doing)

/-- Before the first step. -/
def Shared.start {ι : Type} (s : Host) : Shared ι :=
  ⟨s, fun _ => .begun, none, [], []⟩

section Steps

variable {ι : Type} [DecidableEq ι]

/-- The next step of one of the runs. A step that takes the lock waits while somebody has it. -/
def step (calls : ι → BrowserCall) (w : Shared ι) (i : ι) : Shared ι :=
  let p := w.phase i
  let (p', h) := (calls i).advance (p, w.host)
  if p'.holds && !p.holds then
    if w.turn.isSome then w
    else
      { w with
        host := h, phase := Function.update w.phase i p', turn := some i, turns := w.turns ++ [i] }
  else
    { w with
      host := h
      phase := Function.update w.phase i p'
      turn := if p.holds && !p'.holds then none else w.turn
      journal := w.journal ++ (doings p w.host h).map (i, ·) }

/-- The steps of a schedule one after the other. -/
def play (calls : ι → BrowserCall) (w : Shared ι) (schedule : List ι) : Shared ι :=
  schedule.foldl (step calls) w

/-- A step leaves this of the runs. -/
inductive Stepped (calls : ι → BrowserCall) (w : Shared ι) (i : ι) : Shared ι → Prop where
  | waits (hphase : w.phase i = .queued) (hturn : w.turn ≠ none) : Stepped calls w i w
  | enters (hphase : w.phase i = .queued) (hturn : w.turn = none) :
      Stepped calls w i
        { w with
          phase := Function.update w.phase i .admitted, turn := some i, turns := w.turns ++ [i] }
  /-- Without the lock nothing is done to the host. -/
  | outside {p : Phase} (hadvance : (calls i).advance (w.phase i, w.host) = (p, w.host))
      (hbefore : ¬(w.phase i).holds) (hafter : ¬p.holds) :
      Stepped calls w i { w with phase := Function.update w.phase i p }
  | inside {p : Phase} {h : Host} (hadvance : (calls i).advance (w.phase i, w.host) = (p, h))
      (hbefore : (w.phase i).holds) :
      Stepped calls w i
        { w with
          host := h
          phase := Function.update w.phase i p
          turn := if p.holds then w.turn else none
          journal := w.journal ++ (doings (w.phase i) w.host h).map (i, ·) }

/-- **What a step of all runs does.** -/
theorem stepped_step (calls : ι → BrowserCall) (w : Shared ι) (i : ι) :
    Stepped calls w i (step calls w i) := by
  rcases hadvance : (calls i).advance (w.phase i, w.host) with ⟨p, h⟩
  have hmoves := moves_of_advance hadvance
  unfold step
  simp only [hadvance]
  by_cases hbefore : (w.phase i).holds
  · have hstepped := Stepped.inside hadvance hbefore
    by_cases hafter : p.holds <;> simpa [hbefore, hafter] using hstepped
  · obtain rfl := hmoves.host_eq hbefore
    by_cases hafter : p.holds
    · obtain ⟨hphase, rfl⟩ := hmoves.eq_queued hbefore hafter
      cases hturn : w.turn with
      | none => simpa [hbefore, hafter] using Stepped.enters hphase hturn
      | some j => simpa [hbefore, hafter] using Stepped.waits hphase (by simp [hturn])
    · simpa [hbefore, hafter, doings_self hbefore] using
        Stepped.outside hadvance hbefore hafter

end Steps

/-! ## The lock -/

/-- At most one run has the lock, and of all ports that are open only the one of that run was opened
by a run. `s` is the host before the first step. -/
structure Locked {ι : Type} (calls : ι → BrowserCall) (s : Host) (w : Shared ι) : Prop where
  turn_iff : ∀ i, (w.phase i).holds ↔ w.turn = some i
  fits : ∀ i, (w.phase i).Fits (calls i) s
  left : ∀ i, (w.phase i).left ≤ 28
  system : w.host.system = s.system
  bindFault : w.host.bindFault = s.bindFault
  ports : w.host.ports = (w.turn.bind fun i => (w.phase i).port?).toList ++ s.ports

section Locked

variable {ι : Type} {calls : ι → BrowserCall} {s : Host} {w w' : Shared ι} {i : ι}

theorem locked_start (calls : ι → BrowserCall) (s : Host) : Locked calls s (.start s) where
  turn_iff i := by simp [Shared.start, Phase.holds]
  fits i := trivial
  left i := Nat.le_refl _
  system := rfl
  bindFault := rfl
  ports := rfl

/-- A run that is about to open its port finds the ports as they were without any run. -/
theorem Locked.bind_eq (hw : Locked calls s w) (hphase : w.phase i = .admitted) (port : Nat) :
    PageServer.bind w.host port = PageServer.bind s port := by
  have hturn : w.turn = some i := (hw.turn_iff i).mp (by rw [hphase]; rfl)
  have hports : w.host.ports = s.ports := by
    rw [hw.ports, hturn, Option.bind_some, hphase]
    rfl
  rw [PageServer.bind, hw.bindFault, hports, PageServer.bind]

/-- A run whose port is open has the lock. -/
theorem Locked.of_port (hw : Locked calls s w) (hport : (w.phase i).port?.isSome) :
    w.turn = some i ∧ (calls i).Bound s := by
  have hfits := hw.fits i
  rw [← hw.turn_iff]
  cases hphase : w.phase i <;> simp_all [Phase.port?, Phase.holds, Phase.Fits]

theorem Locked.of_refused (hw : Locked calls s w) {f : Failure}
    (hplatform : (calls i).browser.checkPlatform s.system = .error f) :
    w.phase i = .begun ∨ w.phase i = .ended (.error f) := by
  have hfits := hw.fits i
  cases hphase : w.phase i <;> simp_all [Phase.Fits, Bound]

theorem Locked.of_unbound (hw : Locked calls s w) {fault : IoFault}
    (hport : PageServer.bind s (calls i).browser.config.port = .error fault)
    (hturn : w.turn = some i) : w.phase i = .admitted := by
  have hfits := hw.fits i
  rw [← hw.turn_iff] at hturn
  cases hphase : w.phase i <;> simp_all [Phase.holds, Phase.Fits, Bound]

section Update

variable [DecidableEq ι] {p : Phase} {h : Host} (hw : Locked calls s w)
  (hmoves : Moves (calls i) (w.phase i) w.host p h)

include hw hmoves

theorem Locked.fits_update : ∀ j, (Function.update w.phase i p j).Fits (calls j) s := by
  rw [Function.forall_update_iff w.phase fun j p => p.Fits (calls j) s]
  exact ⟨hmoves.fits hw.system (fun hphase => hw.bind_eq hphase _) (hw.fits i),
    fun j _ => hw.fits j⟩

theorem Locked.left_update : ∀ j, (Function.update w.phase i p j).left ≤ 28 := by
  rw [Function.forall_update_iff w.phase fun _ p => p.left ≤ 28]
  exact ⟨hmoves.left_le.trans ((Nat.sub_le _ _).trans (hw.left i)), fun j _ => hw.left j⟩

end Update

theorem Locked.stepped [DecidableEq ι] (hw : Locked calls s w) (hstep : Stepped calls w i w') :
    Locked calls s w' := by
  cases hstep with
  | waits hphase hturn => exact hw
  | enters hphase hturn =>
      have hmoves : Moves (calls i) (w.phase i) w.host .admitted w.host := hphase ▸ .enters
      refine ⟨?_, hw.fits_update hmoves, hw.left_update hmoves, hw.system, hw.bindFault, ?_⟩
      · rw [Function.forall_update_iff w.phase fun j p => p.holds ↔ some i = some j]
        refine ⟨by simp [Phase.holds], fun j hj => ?_⟩
        have hidle : ¬(w.phase j).holds := by simp [hw.turn_iff j, hturn]
        simp [hidle, Ne.symm hj]
      · rw [hw.ports, hturn]
        simp [Phase.port?]
  | @outside p hadvance hbefore hafter =>
      have hmoves := moves_of_advance hadvance
      have hturn : w.turn ≠ some i := fun hturn => hbefore ((hw.turn_iff i).mpr hturn)
      refine ⟨?_, hw.fits_update hmoves, hw.left_update hmoves, hw.system, hw.bindFault, ?_⟩
      · rw [Function.forall_update_iff w.phase fun j p => p.holds ↔ w.turn = some j]
        exact ⟨by simp [hafter, hturn], fun j _ => hw.turn_iff j⟩
      · rw [hw.ports]
        congr 2
        cases hholder : w.turn with
        | none => rfl
        | some j =>
            have hne : j ≠ i := fun hj => hturn (hj ▸ hholder)
            simp [Function.update_of_ne hne]
  | @inside p h hadvance hbefore =>
      have hmoves := moves_of_advance hadvance
      have hturn : w.turn = some i := (hw.turn_iff i).mp hbefore
      refine ⟨?_, hw.fits_update hmoves, hw.left_update hmoves, hmoves.system.trans hw.system,
        hmoves.bindFault.trans hw.bindFault, ?_⟩
      · rw [Function.forall_update_iff w.phase fun j p' =>
          p'.holds ↔ (if p.holds then w.turn else none) = some j]
        refine ⟨by simp [hturn], fun j hj => ?_⟩
        have hnot : ¬(w.phase j).holds := by simp [hw.turn_iff j, hturn, Ne.symm hj]
        simp [hnot, hturn, Ne.symm hj]
      · have hports : w.host.ports = (w.phase i).port?.toList ++ s.ports := by
          rw [hw.ports, hturn, Option.bind_some]
        rw [hmoves.ports hbefore hports, hturn]
        by_cases hafter : p.holds
        · simp [hafter]
        · simp [hafter, Phase.port?_of_not_holds hafter]

end Locked

/-! ## The journal -/

/-- The entries that some runs have in a journal, run after run. -/
def blocks {ι : Type} [DecidableEq ι] (runs : List ι) (journal : List (ι × Doing)) :
    List (ι × Doing) :=
  runs.flatMap fun i => journal.filter (·.1 = i)

/-- The runs did things on the network one after the other, each all of its own before the next one
began. -/
structure Journaled {ι : Type} [DecidableEq ι] (calls : ι → BrowserCall) (s : Host)
    (w : Shared ι) : Prop where
  last : ∀ i, w.turn = some i → ∃ before, w.turns = before ++ [i]
  early : ∀ i, (w.phase i).early → i ∉ w.turns
  checked : ∀ i ∈ w.turns, (calls i).browser.checkPlatform s.system = .ok ()
  nodup : w.turns.Nodup
  blocks : w.journal = blocks w.turns w.journal
  bound : ∀ e ∈ w.journal, (calls e.1).Bound s
  traffic : w.host.traffic = s.traffic ++ w.journal.filterMap fun e => e.2.traffic?

section Journaled

variable {ι : Type} [DecidableEq ι] {calls : ι → BrowserCall} {s : Host} {w w' : Shared ι} {i : ι}
  {runs : List ι} {journal : List (ι × Doing)}

theorem blocks_append (runs more : List ι) (journal : List (ι × Doing)) :
    blocks (runs ++ more) journal = blocks runs journal ++ blocks more journal :=
  List.flatMap_append

theorem mem_of_mem_blocks {e : ι × Doing} (he : e ∈ blocks runs journal) : e.1 ∈ runs := by
  simp only [blocks, List.mem_flatMap, List.mem_filter, decide_eq_true_eq] at he
  obtain ⟨j, hj, -, rfl⟩ := he
  exact hj

/-- A run that has no entry has no block. -/
theorem blocks_concat_of_not_mem (hjournal : journal = blocks runs journal) (hi : i ∉ runs) :
    journal = blocks (runs ++ [i]) journal := by
  have hnone : journal.filter (·.1 = i) = [] := by
    rw [List.filter_eq_nil_iff]
    intro e he hei
    rw [hjournal] at he
    exact hi (of_decide_eq_true hei ▸ mem_of_mem_blocks he)
  rw [blocks_append, ← hjournal]
  simp [blocks, hnone]

/-- New entries of the last run belong to the last block. -/
theorem blocks_concat_append {before : List ι} (hjournal : journal = blocks (before ++ [i]) journal)
    (hi : i ∉ before) (es : List Doing) :
    journal ++ es.map (i, ·) = blocks (before ++ [i]) (journal ++ es.map (i, ·)) := by
  have hbefore : blocks before (journal ++ es.map (i, ·)) = blocks before journal := by
    refine List.flatMap_congr fun j hj => ?_
    have hne : i ≠ j := fun hij => hi (hij ▸ hj)
    simp [List.filter_append, List.filter_map, Function.comp_def, hne]
  have hself : blocks [i] (journal ++ es.map (i, ·)) = blocks [i] journal ++ es.map (i, ·) := by
    simp [blocks, List.filter_append, List.filter_map, Function.comp_def]
  rw [blocks_append, hbefore, hself, ← List.append_assoc, ← blocks_append, ← hjournal]

theorem journaled_start (calls : ι → BrowserCall) (s : Host) : Journaled calls s (.start s) where
  last := nofun
  early _ _ := List.not_mem_nil
  checked := nofun
  nodup := .nil
  blocks := rfl
  bound := nofun
  traffic := (List.append_nil _).symm

/-- The run that has the lock was the last one to get it. -/
theorem Journaled.turns_eq (hw : Journaled calls s w) (hturn : w.turn = some i) :
    ∃ before, w.turns = before ++ [i] ∧ i ∉ before := by
  obtain ⟨before, hturns⟩ := hw.last i hturn
  have hnodup := hw.nodup
  rw [hturns, List.nodup_append'] at hnodup
  exact ⟨before, hturns, List.disjoint_singleton.mp hnodup.2.2⟩

theorem Journaled.early_update (hw : Journaled calls s w) {p : Phase} {h : Host}
    (hmoves : Moves (calls i) (w.phase i) w.host p h) :
    ∀ j, (Function.update w.phase i p j).early → j ∉ w.turns := by
  rw [Function.forall_update_iff w.phase fun j p => p.early → j ∉ w.turns]
  exact ⟨fun hp => hw.early i (hmoves.early hp), fun j _ => hw.early j⟩

theorem Journaled.stepped (hw : Journaled calls s w) (hlocked : Locked calls s w)
    (hstep : Stepped calls w i w') : Journaled calls s w' := by
  cases hstep with
  | waits hphase hturn => exact hw
  | enters hphase hturn =>
      have hi : i ∉ w.turns := hw.early i (by rw [hphase]; rfl)
      have hplatform := hlocked.fits i
      rw [hphase] at hplatform
      refine ⟨?_, ?_, ?_, ?_, blocks_concat_of_not_mem hw.blocks hi, hw.bound, hw.traffic⟩
      · rintro j ⟨rfl⟩
        exact ⟨w.turns, rfl⟩
      · rw [Function.forall_update_iff w.phase fun j p => p.early → j ∉ w.turns ++ [i]]
        refine ⟨nofun, fun j hj hearly => ?_⟩
        simp [hw.early j hearly, hj]
      · intro j hj
        rcases List.mem_append.mp hj with hj | hj
        · exact hw.checked j hj
        · obtain rfl := List.mem_singleton.mp hj
          exact hplatform
      · exact hw.nodup.append (List.nodup_singleton i) (List.disjoint_singleton.mpr hi)
  | outside hadvance hbefore hafter =>
      exact ⟨hw.last, hw.early_update (moves_of_advance hadvance), hw.checked, hw.nodup, hw.blocks,
        hw.bound, hw.traffic⟩
  | @inside p h hadvance hbefore =>
      have hmoves := moves_of_advance hadvance
      have hturn : w.turn = some i := (hlocked.turn_iff i).mp hbefore
      obtain ⟨before, hturns, hi⟩ := hw.turns_eq hturn
      refine ⟨fun j hj => ?_, hw.early_update hmoves, hw.checked, hw.nodup, ?_, ?_, ?_⟩
      · by_cases hafter : p.holds
        · exact hw.last j (by simpa [hafter] using hj)
        · simp [hafter] at hj
      · have hblocks := hw.blocks
        rw [hturns] at hblocks ⊢
        exact blocks_concat_append hblocks hi _
      · intro e he
        rcases List.mem_append.mp he with he | he
        · exact hw.bound e he
        · obtain ⟨d, hd, rfl⟩ := List.mem_map.mp he
          exact hmoves.bound (List.ne_nil_of_mem hd) (by simpa using hlocked.fits_update hmoves i)
      · rw [hmoves.traffic, hw.traffic, List.filterMap_append, List.filterMap_map,
          List.append_assoc]
        rfl

end Journaled

/-! ## What comes of the runs -/

/-- Some runs one after the other, each from its beginning to its end. -/
def serially {ι : Type} (calls : ι → BrowserCall) (s : Host) (runs : List ι) : Host :=
  runs.foldl (fun h i => ((calls i).execute.runOn h).2) s

/-- The outcome of a run that has ended is that of the whole run: on the host as the runs before it
left it, or, without the lock, on the first host, where it does nothing. -/
def Due {ι : Type} [DecidableEq ι] (calls : ι → BrowserCall) (s : Host) (turns : List ι) (i : ι)
    (p : Phase) : Prop :=
  ∀ outcome, p = .ended outcome →
    if i ∈ turns then
      ((calls i).execute.runOn (serially calls s (turns.takeWhile (· ≠ i)))).1 = outcome
    else (calls i).execute.runOn s = (outcome, s)

/-- The runs come to the same as they would one after the other. -/
structure Serial {ι : Type} [DecidableEq ι] (calls : ι → BrowserCall) (s : Host)
    (w : Shared ι) : Prop where
  idle : w.turn = none → w.host = serially calls s w.turns
  held : ∀ i before, w.turn = some i → w.turns = before ++ [i] →
    ((w.phase i).finish (calls i)).runOn w.host = (calls i).execute.runOn (serially calls s before)
  due : ∀ i, Due calls s w.turns i (w.phase i)

section Serial

variable {ι : Type} [DecidableEq ι] {calls : ι → BrowserCall} {s : Host} {w w' : Shared ι}
  {turns : List ι} {i j : ι} {p : Phase}

theorem serial_start (calls : ι → BrowserCall) (s : Host) : Serial calls s (.start s) where
  idle _ := rfl
  held := nofun
  due _ := nofun

theorem runOn_finish_of_advance {c : BrowserCall} {p p' : Phase} {h h' : Host}
    (hadvance : c.advance (p, h) = (p', h')) :
    (p'.finish c).runOn h' = (p.finish c).runOn h := by
  rw [← finish_advance c p h, hadvance]

theorem runOn_execute_of_refused {c : BrowserCall} {f : Failure}
    (hplatform : c.browser.checkPlatform s.system = .error f) :
    c.execute.runOn s = (.error f, s) := by
  have hadvance : c.advance (.begun, s) = (.ended (.error f), s) := by rw [advance, hplatform]
  exact (runOn_finish_of_advance hadvance).symm

theorem runOn_finish_admitted {c : BrowserCall}
    (hplatform : c.browser.checkPlatform s.system = .ok ()) :
    (Phase.admitted.finish c).runOn s = c.execute.runOn s := by
  have hadvance : c.advance (.begun, s) = (.queued, s) := by rw [advance, hplatform]
  exact runOn_finish_of_advance hadvance

theorem runOn_finish_ended (c : BrowserCall) (outcome : Except Failure ExecutionResult)
    (h : Host) : ((Phase.ended outcome).finish c).runOn h = (outcome, h) :=
  runOn_ofExcept outcome h

theorem takeWhile_append_cons {before : List ι} (hi : i ∉ before) (after : List ι) :
    (before ++ i :: after).takeWhile (· ≠ i) = before := by
  have hbefore : ∀ j ∈ before, decide (j ≠ i) = true := fun j hj =>
    decide_eq_true fun hji => hi (hji ▸ hj)
  rw [List.takeWhile_append_of_pos hbefore]
  simp

/-- Who has the lock later does not count. -/
theorem Due.concat (hdue : Due calls s turns i p) (hne : i ≠ j) : Due calls s (turns ++ [j]) i p := by
  intro outcome hp
  have hdue := hdue outcome hp
  by_cases hi : i ∈ turns
  · rw [if_pos hi] at hdue
    rw [if_pos (List.mem_append_left _ hi)]
    obtain ⟨before, after, rfl, hnot⟩ := List.eq_append_cons_of_mem hi
    rw [takeWhile_append_cons hnot] at hdue
    rwa [List.append_assoc, List.cons_append, takeWhile_append_cons hnot]
  · rw [if_neg hi] at hdue
    rwa [if_neg (by simp [hi, hne])]

theorem Due.outside {q : Phase} {h h' : Host} (hdue : Due calls s turns i p)
    (hmoves : Moves (calls i) p h q h') (hearly : p.early → i ∉ turns)
    (hsystem : h.system = s.system) (hbefore : ¬p.holds) (hafter : ¬q.holds) :
    Due calls s turns i q := by
  cases hmoves with
  | refused hplatform =>
      rintro outcome ⟨rfl⟩
      rw [hsystem] at hplatform
      rw [if_neg (hearly rfl)]
      exact runOn_execute_of_refused hplatform
  | queues => exact nofun
  | stays => exact hdue
  | enters | opens => exact absurd rfl hafter
  | unbound | sends | hears | leaves | tells | closes | ends => exact absurd rfl hbefore

theorem Serial.stepped (hw : Serial calls s w) (hlocked : Locked calls s w)
    (hjournaled : Journaled calls s w) (hstep : Stepped calls w i w') : Serial calls s w' := by
  cases hstep with
  | waits hphase hturn => exact hw
  | enters hphase hturn =>
      refine ⟨nofun, ?_, ?_⟩
      · rintro j before ⟨rfl⟩ hturns
        obtain rfl := List.append_cancel_right hturns
        have hplatform : (calls i).browser.checkPlatform w.host.system = .ok () := by
          have hfits := hlocked.fits i
          rw [hphase] at hfits
          rw [hlocked.system]
          exact hfits
        rw [← hw.idle hturn]
        simpa only [Function.update_self] using runOn_finish_admitted hplatform
      · rw [Function.forall_update_iff w.phase fun j p => Due calls s (w.turns ++ [i]) j p]
        exact ⟨nofun, fun j hj => (hw.due j).concat hj⟩
  | @outside p hadvance hbefore hafter =>
      have hmoves := moves_of_advance hadvance
      have hturn : w.turn ≠ some i := fun hturn => hbefore ((hlocked.turn_iff i).mpr hturn)
      refine ⟨hw.idle, fun j before hj hturns => ?_, ?_⟩
      · have hne : j ≠ i := fun hji => hturn (hji ▸ hj)
        simpa only [Function.update_of_ne hne] using hw.held j before hj hturns
      · rw [Function.forall_update_iff w.phase fun j p => Due calls s w.turns j p]
        exact ⟨(hw.due i).outside hmoves (hjournaled.early i) hlocked.system hbefore hafter,
          fun j _ => hw.due j⟩
  | @inside p h hadvance hbefore =>
      have hturn : w.turn = some i := (hlocked.turn_iff i).mp hbefore
      obtain ⟨before, hturns, hnot⟩ := hjournaled.turns_eq hturn
      have hheld := (runOn_finish_of_advance hadvance).trans (hw.held i before hturn hturns)
      refine ⟨fun hidle => ?_, fun j before' hj hturns' => ?_, ?_⟩
      · have hafter : ¬p.holds := fun hafter => by simp [hafter, hturn] at hidle
        obtain ⟨outcome, rfl⟩ := (moves_of_advance hadvance).ended hbefore hafter
        rw [runOn_finish_ended] at hheld
        show h = serially calls s w.turns
        rw [hturns, serially, List.foldl_append]
        exact congrArg Prod.snd hheld
      · have hafter : p.holds := by
          by_contra hafter
          simp [hafter] at hj
        obtain rfl : i = j := by simpa [hafter, hturn] using hj
        obtain rfl := List.append_cancel_right (hturns.symm.trans hturns')
        simpa only [Function.update_self] using hheld
      · rw [Function.forall_update_iff w.phase fun j p => Due calls s w.turns j p]
        refine ⟨?_, fun j _ => hw.due j⟩
        rintro outcome rfl
        rw [if_pos (by simp [hturns]), hturns, takeWhile_append_cons hnot, ← hheld,
          runOn_finish_ended]

end Serial

/-! ## Turns -/

section Turns

variable {ι : Type} [DecidableEq ι] {calls : ι → BrowserCall} {s : Host} {w w' : Shared ι} {i j : ι}

theorem Stepped.phase_of_ne (hstep : Stepped calls w i w') (hne : j ≠ i) :
    w'.phase j = w.phase j := by
  cases hstep with
  | waits hphase hturn => rfl
  | enters hphase hturn => exact Function.update_of_ne hne ..
  | outside hadvance hbefore hafter => exact Function.update_of_ne hne ..
  | inside hadvance hbefore => exact Function.update_of_ne hne ..

/-- A run that has had the lock is not held up. -/
theorem Stepped.left_le (hstep : Stepped calls w i w') (hlate : ¬(w.phase i).early) :
    ¬(w'.phase i).early ∧ (w'.phase i).left ≤ (w.phase i).left - 1 := by
  have hgoes : ∀ {p h}, (calls i).advance (w.phase i, w.host) = (p, h) →
      ¬p.early ∧ p.left ≤ (w.phase i).left - 1 := fun hadvance =>
    have hmoves := moves_of_advance hadvance
    ⟨fun hearly => hlate (hmoves.early hearly), hmoves.left_le⟩
  cases hstep with
  | waits hphase hturn => exact absurd (by rw [hphase]; rfl) hlate
  | enters hphase hturn => exact absurd (by rw [hphase]; rfl) hlate
  | outside hadvance hbefore hafter => simpa only [Function.update_self] using hgoes hadvance
  | inside hadvance hbefore => simpa only [Function.update_self] using hgoes hadvance

theorem eq_ended_of_left {p : Phase} (hleft : p.left = 0) : ∃ outcome, p = .ended outcome := by
  cases p with
  | ended outcome => exact ⟨outcome, rfl⟩
  | serving server task sent => cases sent <;> simp [Phase.left] at hleft
  | stopping server outcome told => cases told <;> simp [Phase.left] at hleft
  | begun | queued | admitted | stopped => simp [Phase.left] at hleft

/-- A run that has had the lock ends after some steps of its own, whatever the others do. -/
theorem ended_play (schedule : List ι) (hlate : ¬(w.phase i).early)
    (hcount : (w.phase i).left ≤ schedule.count i) :
    ∃ outcome, (play calls w schedule).phase i = .ended outcome := by
  induction schedule generalizing w with
  | nil => exact eq_ended_of_left (Nat.le_zero.mp hcount)
  | cons j rest ih =>
      have hstep := stepped_step calls w j
      by_cases hj : j = i
      · subst hj
        obtain ⟨hlate', hleft⟩ := hstep.left_le hlate
        rw [List.count_cons_self] at hcount
        exact ih hlate' (by omega)
      · have hphase := hstep.phase_of_ne (Ne.symm hj)
        rw [List.count_cons_of_ne hj] at hcount
        exact ih (by rwa [hphase]) (by rwa [hphase])

/-- The bind of a server comes out as it does without any other run. A run without a port ends and
gives up the lock. -/
theorem Locked.bind_step (hw : Locked calls s w) (hphase : w.phase i = .admitted) :
    (∃ server, PageServer.bind s (calls i).browser.config.port = .ok server.port ∧
      (step calls w i).phase i = .serving server .opening false) ∨
    (∃ fault, PageServer.bind s (calls i).browser.config.port = .error fault) ∧
      (step calls w i).turn = none ∧ ∃ f, (step calls w i).phase i = .ended (.error f) := by
  have hstep := stepped_step calls w i
  generalize step calls w i = w' at hstep ⊢
  cases hstep with
  | waits hphase' hturn => exact absurd (hphase.symm.trans hphase') nofun
  | enters hphase' hturn => exact absurd (hphase.symm.trans hphase') nofun
  | outside hadvance hbefore hafter => exact absurd (by rw [hphase]; rfl) hbefore
  | inside hadvance hbefore =>
      have hmoves := moves_of_advance hadvance
      rw [hphase] at hmoves
      simp only [Function.update_self]
      cases hmoves with
      | unbound hport => exact .inr ⟨⟨_, (hw.bind_eq hphase _).symm.trans hport⟩, rfl, _, rfl⟩
      | opens hport => exact .inl ⟨_, (hw.bind_eq hphase _).symm.trans hport, rfl⟩

/-- What every step keeps. -/
structure Orderly (calls : ι → BrowserCall) (s : Host) (w : Shared ι) : Prop where
  locked : Locked calls s w
  journaled : Journaled calls s w
  serial : Serial calls s w

theorem orderly_start (calls : ι → BrowserCall) (s : Host) : Orderly calls s (.start s) :=
  ⟨locked_start calls s, journaled_start calls s, serial_start calls s⟩

theorem Orderly.stepped (hw : Orderly calls s w) (hstep : Stepped calls w i w') :
    Orderly calls s w' where
  locked := hw.locked.stepped hstep
  journaled := hw.journaled.stepped hw.locked hstep
  serial := hw.serial.stepped hw.locked hw.journaled hstep

theorem Orderly.play (hw : Orderly calls s w) (schedule : List ι) :
    Orderly calls s (play calls w schedule) := by
  induction schedule generalizing w with
  | nil => exact hw
  | cons i rest ih => exact ih (hw.stepped (stepped_step calls w i))

/-- What holds of the runs in a state that they can come to from a host `s`. -/
structure TakesTurns (calls : ι → BrowserCall) (s : Host) (w : Shared ι) : Prop where
  /-- At most one run is between the bind of its server and the end of its stop. -/
  one_at_a_time : ∀ i j, (w.phase i).port?.isSome → (w.phase j).port?.isSome → i = j
  ports : w.host.ports = (w.turn.bind fun i => (w.phase i).port?).toList ++ s.ports
  /-- A server gets the port that it would get without any other run. -/
  binds : ∀ i, w.phase i = .admitted → ((step calls w i).phase i).port? =
    (PageServer.bind s (calls i).browser.config.port).toOption
  /-- What the runs do on the network is all theirs, and each run does all of its own in one go. -/
  traffic : w.host.traffic = s.traffic ++ w.journal.filterMap fun e => e.2.traffic?
  not_interleaved : w.journal = blocks w.turns w.journal ∧ w.turns.Nodup
  /-- A run on a wrong system or without a port is never among those that serve a page. -/
  bystanders : ∀ i, ¬(calls i).Bound s → (w.phase i).port? = none ∧ ∀ d, (i, d) ∉ w.journal
  /-- On a wrong system a run never has the lock and never waits for it. -/
  refused : ∀ i f, (calls i).browser.checkPlatform s.system = .error f →
    w.turn ≠ some i ∧ (w.phase i = .begun ∨ w.phase i = .ended (.error f))
  /-- Without a port a run gives up the lock in its next step. -/
  unbound : ∀ i fault, PageServer.bind s (calls i).browser.config.port = .error fault →
    w.turn = some i → (step calls w i).turn = none
  /-- The lock is free when nobody is in the part that is locked, and then a run gets it that waits
  for it. A run that has it is done with it after a number of steps of its own. -/
  holder : ∀ i, w.turn = some i ↔ (w.phase i).holds
  enters : ∀ i, w.phase i = .queued → w.turn = none → (step calls w i).turn = some i
  gives_up : ∀ i schedule, w.turn = some i → 28 ≤ schedule.count i →
    ∃ outcome, (play calls w schedule).phase i = .ended outcome
  /-- The runs come to what they would come to one after the other. -/
  idle : w.turn = none → w.host = serially calls s w.turns
  results : ∀ i outcome, w.phase i = .ended outcome →
    if i ∈ w.turns then
      ((calls i).execute.runOn (serially calls s (w.turns.takeWhile (· ≠ i)))).1 = outcome
    else (calls i).execute.runOn s = (outcome, s)

/-- **Runs of the browser take turns**, whatever the schedule and the endpoints. -/
theorem play_takesTurns (calls : ι → BrowserCall) (s : Host) (schedule : List ι) :
    TakesTurns calls s (play calls (.start s) schedule) := by
  obtain ⟨hlocked, hjournaled, hserial⟩ := (orderly_start calls s).play schedule
  generalize play calls (.start s) schedule = w at hlocked hjournaled hserial
  exact {
    one_at_a_time := fun i j hi hj => by
      have hturn := (hlocked.of_port hi).1.symm.trans (hlocked.of_port hj).1
      exact Option.some.inj hturn
    ports := hlocked.ports
    binds := fun i hphase => by
      rcases hlocked.bind_step hphase with ⟨server, hport, hnext⟩ | ⟨⟨fault, hport⟩, -, f, hnext⟩
      · rw [hnext, hport]
        rfl
      · rw [hnext, hport]
        rfl
    traffic := hjournaled.traffic
    not_interleaved := ⟨hjournaled.blocks, hjournaled.nodup⟩
    bystanders := fun i hbound => by
      refine ⟨?_, fun d hd => hbound (hjournaled.bound _ hd)⟩
      cases hport : (w.phase i).port? with
      | none => rfl
      | some port => exact absurd (hlocked.of_port (by simp [hport])).2 hbound
    refused := fun i f hplatform => by
      have hphase := hlocked.of_refused hplatform
      refine ⟨fun hturn => ?_, hphase⟩
      have hholds := (hlocked.turn_iff i).mpr hturn
      rcases hphase with hphase | hphase <;> exact absurd (hphase ▸ hholds) nofun
    unbound := fun i fault hport hturn => by
      rcases hlocked.bind_step (hlocked.of_unbound hport hturn) with ⟨server, hok, -⟩ | ⟨-, hnext, -⟩
      · exact absurd (hok.symm.trans hport) nofun
      · exact hnext
    holder := fun i => (hlocked.turn_iff i).symm
    enters := fun i hphase hturn => by
      simp [step, hphase, hturn, advance, Phase.holds]
    gives_up := fun i schedule hturn hcount => by
      have hlate : ¬(w.phase i).early := by
        have hholds := (hlocked.turn_iff i).mpr hturn
        cases hphase : w.phase i <;> simp_all [Phase.holds, Phase.early]
      exact ended_play schedule hlate ((hlocked.left i).trans hcount)
    idle := hserial.idle
    results := hserial.due }

end Turns

end GrammarBench.BrowserCall
