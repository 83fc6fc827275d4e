import InlineAudit.Proofs.Audit.Schedule
import Mathlib.Algebra.BigOperators.Fin

/-!
What an audit by several workers logs. A task logs with some of the things it does about its file.
Along a run without an error, what is in the log and what the tasks have still to log are together
always the same; so in the end the log holds what an audit of one file after the other logs, in an
order that depends on the schedule.
-/

namespace InlineAudit

open Files

/-- What some effects log. -/
def loggedBy (effects : List Effect) : List Log.Event := effects.flatMap Effect.logged

theorem loggedBy_effects (file : SourceFile) (outcome : Outcome) :
    loggedBy (outcome.effects file) = outcome.events file := by
  have hlogs (events : List Log.Event) : loggedBy (events.map Effect.log) = events := by
    rw [loggedBy, List.flatMap_map]
    exact List.flatMap_singleton' events
  cases outcome with
  | unreadable cause =>
    rw [Outcome.effects, loggedBy, List.flatMap_append]
    exact (congrArg (· ++ _) (hlogs _)).trans (List.append_nil _)
  | issues found =>
    rw [Outcome.effects, loggedBy, List.flatMap_append]
    exact hlogs _

/-- What a task has still to do about its file unless it is refused. -/
def Phase.todo (effects : List Effect) : Phase → List Effect
  | acting todo => todo
  | ended => []
  | _ => effects

namespace Plan

/-- What the task of a file does in the end. -/
def effects (plan : Plan) (i : Nat) : List Effect :=
  plan.files[i]?.elim [] fun file => (plan.outcome file).effects file

theorem effects_of_file {plan : Plan} {i : Nat} {file : SourceFile}
    (h : plan.files[i]? = some file) : plan.effects i = (plan.outcome file).effects file := by
  rw [effects, h]
  rfl

/-- How often the tasks have still to log an event. -/
def unlogged (plan : Plan) (event : Log.Event) (s : Pool) : Nat :=
  ∑ i ∈ Finset.range plan.files.length,
    (loggedBy ((s.phase i).todo (plan.effects i))).count event

/-- All that the files of a plan give to log, one after the other. -/
def events (plan : Plan) : List Log.Event :=
  plan.files.flatMap fun file => (plan.outcome file).events file

variable {plan : Plan} {s t : Pool} {i : Nat} {p : Phase}

theorem unlogged_update (event : Log.Event) (hi : i < plan.files.length)
    (hphase : t.phase = Function.update s.phase i p) :
    plan.unlogged event t + (loggedBy ((s.phase i).todo (plan.effects i))).count event =
      plan.unlogged event s + (loggedBy (p.todo (plan.effects i))).count event := by
  have hmem : i ∈ Finset.range plan.files.length := Finset.mem_range.mpr hi
  rw [unlogged, unlogged, ← Finset.add_sum_erase _ _ hmem, ← Finset.add_sum_erase _ _ hmem, hphase]
  have hrest : ∀ j ∈ (Finset.range plan.files.length).erase i,
      (loggedBy ((Function.update s.phase i p j).todo (plan.effects j))).count event =
        (loggedBy ((s.phase j).todo (plan.effects j))).count event := fun j hj => by
    rw [Function.update_of_ne (Finset.ne_of_mem_erase hj)]
  rw [Finset.sum_congr rfl hrest, Function.update_self]
  omega

/-- Before the start everything is still to be logged. -/
theorem unlogged_initial (plan : Plan) (metrics : Metrics) (event : Log.Event) :
    plan.unlogged event { metrics := metrics } = plan.events.count event := by
  have hfile : ∀ i : Fin plan.files.length,
      (loggedBy (plan.effects i)).count event =
        (((plan.outcome plan.files[i]).events plan.files[i])).count event := fun i => by
    rw [effects_of_file (List.getElem?_eq_getElem i.isLt), loggedBy_effects]
    rfl
  calc
    plan.unlogged event { metrics := metrics }
    _ = ∑ i : Fin plan.files.length, (loggedBy (plan.effects i)).count event :=
      Finset.sum_range fun i => (loggedBy (plan.effects i)).count event
    _ = ∑ i : Fin plan.files.length,
        ((plan.outcome plan.files[i]).events plan.files[i]).count event :=
      Finset.sum_congr rfl fun i _ => hfile i
    _ = (plan.files.map fun file => ((plan.outcome file).events file).count event).sum :=
      Fin.sum_univ_fun_getElem plan.files fun file => ((plan.outcome file).events file).count event
    _ = plan.events.count event := List.count_flatMap.symm

theorem unlogged_of_done (hdone : s.IsDone plan) (event : Log.Event) :
    plan.unlogged event s = 0 := by
  refine Finset.sum_eq_zero fun i hi => ?_
  rw [hdone.2 i (Finset.mem_range.mp hi)]
  rfl

end Plan

/-- Without an error, what is logged was to be logged. -/
theorem Step.logs {plan : Plan} {actions : List Action} {s t : Pool} {a : Action}
    (h : Step plan s a t) (hs : Sound plan actions s) (herror : t.error = none)
    (event : Log.Event) :
    s.error = none ∧ t.events.count event + plan.unlogged event t =
      s.events.count event + plan.unlogged event s := by
  have hlt {i : Nat} {p : Phase} (hp : s.phase i = p) (hwaiting : p ≠ .waiting) :
      i < plan.files.length := hs.lt_length (by rw [hp]; exact hwaiting)
  -- a task that moves on and logs nothing has as much to log as before
  have hmove {i : Nat} {p : Phase} {u : Pool} (hi : i < plan.files.length)
      (hphase : u.phase = Function.update s.phase i p) (hevents : u.events = s.events)
      (htodo : p.todo (plan.effects i) = (s.phase i).todo (plan.effects i)) :
      u.events.count event + plan.unlogged event u =
        s.events.count event + plan.unlogged event s := by
    have hupdate := Plan.unlogged_update event hi hphase
    rw [htodo] at hupdate
    rw [hevents]
    omega
  cases h with
  | cancel => exact ⟨herror, rfl⟩
  | start hnext hfree =>
    have hwaiting : s.phase s.next = .waiting := (hs.waiting_iff _).mpr le_rfl
    exact ⟨herror, hmove hnext rfl rfl (by rw [hwaiting]; rfl)⟩
  | allow hphase hopen =>
    exact ⟨herror, hmove (hlt hphase (by simp)) rfl rfl (by rw [hphase]; rfl)⟩
  | refuse hphase hcancelled =>
    exact ⟨herror, hmove (hlt hphase (by simp)) rfl rfl (by rw [hphase]; rfl)⟩
  | read hphase hfile =>
    refine ⟨herror, hmove (hlt hphase (by simp)) rfl rfl ?_⟩
    rw [hphase, Plan.effects_of_file hfile]
    rfl
  | @act i file effect todo hphase hfile =>
    refine ⟨herror, ?_⟩
    have hupdate := Plan.unlogged_update event (s := s) (p := .acting todo)
      (t := (s.perform i file effect).moveTo i (.acting todo)) (hlt hphase (by simp)) rfl
    rw [hphase] at hupdate
    simp only [Phase.todo, loggedBy, List.flatMap_cons, List.count_append] at hupdate
    simp only [Pool.moveTo, Pool.perform, List.count_append] at hupdate ⊢
    omega
  | finish hphase =>
    exact ⟨herror, hmove (hlt hphase (by simp)) rfl rfl (by rw [hphase]; rfl)⟩
  | fail hphase => simp at herror

theorem Run.logs {plan : Plan} {metrics : Metrics} {actions : List Action} {s : Pool}
    (h : Run plan { metrics := metrics } actions s) (herror : s.error = none)
    (event : Log.Event) :
    s.events.count event + plan.unlogged event s = plan.events.count event := by
  induction h with
  | nil => rw [plan.unlogged_initial, List.count_nil, Nat.zero_add]
  | snoc hrun hstep ih =>
    obtain ⟨hbefore, hlogs⟩ := hstep.logs hrun.sound herror event
    rw [hlogs, ih hbefore]

/-- A finished audit without an error has logged all that its files give to log. -/
theorem Run.events_perm {plan : Plan} {metrics : Metrics} {actions : List Action} {s : Pool}
    (h : Run plan { metrics := metrics } actions s) (hdone : s.IsDone plan)
    (herror : s.error = none) : s.events.Perm plan.events := by
  refine List.perm_iff_count.mpr fun event => ?_
  have hlogs := h.logs herror event
  rwa [Plan.unlogged_of_done hdone, Nat.add_zero] at hlogs

end InlineAudit
