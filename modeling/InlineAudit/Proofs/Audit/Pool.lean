import InlineAudit.Audit
import Mathlib.Data.Finset.Card
import Mathlib.Data.Finset.Range
import Mathlib.Logic.Function.Basic

/-!
An audit by several workers. Each file has a task, and the tasks are started in the order of the
files, as many at once as there are workers. A task asks whether the audit is cancelled, reads its
file and then does what the outcome asks for, one thing after the other. Tasks write to slots of
their own, to shared counters and to a shared log; between any two things that one task does,
others may go on and the caller may cancel the audit. When all tasks have ended, the audit returns
an error if one of them was refused, and otherwise collects the slots.

A run is any sequence of such steps. Main statement: what holds along every run (`Run.sound`), in
particular what each task has left in its slot, and that tasks are refused just if the caller has
cancelled the audit before they asked.
-/

namespace InlineAudit

open Files

theorem taskLimit_pos (workers : Int) {processors : Nat} (h : 0 < processors) :
    0 < taskLimit workers processors := by
  rw [taskLimit]
  split
  · exact h
  · omega

/-- One thing a task does about the outcome of its file. -/
inductive Effect where
  | log (event : Log.Event)
  | countReadError
  | markFailed
  | store (found : List Issue)
  | countFile (found : List Issue)

/-- What a task does about an outcome, in its order. -/
def Outcome.effects (file : SourceFile) : Outcome → List Effect
  | unreadable cause =>
    ((unreadable cause).events file).map .log ++ [.countReadError, .markFailed]
  | issues found => [.store found, .countFile found] ++ ((issues found).events file).map .log

theorem Outcome.length_effects_le (file : SourceFile) (outcome : Outcome) :
    (outcome.effects file).length ≤ 3 := by
  cases outcome with
  | unreadable cause => simp [effects, events]
  | issues found =>
    by_cases hfound : found.isEmpty <;> simp [effects, events, hfound]

/-- Where a task leaves what it found. -/
structure Slot where
  failed : Bool := false
  found : List Issue := []

namespace Effect

def onSlot (slot : Slot) : Effect → Slot
  | markFailed => { slot with failed := true }
  | store found => { slot with found := found }
  | _ => slot

def onMetrics (file : SourceFile) (metrics : Metrics) : Effect → Metrics
  | countReadError => metrics.countReadError
  | countFile found => metrics.countFile file.language found
  | _ => metrics

def logged : Effect → List Log.Event
  | log event => [event]
  | _ => []

end Effect

/-- Logging leaves the slot alone. -/
@[simp]
theorem foldl_onSlot_log (events : List Log.Event) (slot : Slot) :
    (events.map Effect.log).foldl Effect.onSlot slot = slot := by
  induction events with
  | nil => rfl
  | cons event rest ih => exact ih

/-- What a task has left in its slot in the end. -/
theorem Outcome.foldl_effects (file : SourceFile) (outcome : Outcome) :
    (outcome.effects file).foldl Effect.onSlot {} = ⟨outcome.isUnreadable, outcome.found⟩ := by
  cases outcome <;> simp [effects, Effect.onSlot, isUnreadable, found, -List.map_map]

/-- Where a task stands. -/
inductive Phase where
  | waiting
  /-- Before it asks whether the audit is cancelled. -/
  | started
  /-- Before it reads its file. -/
  | admitted
  | acting (todo : List Effect)
  /-- Told that the audit is cancelled. -/
  | refused
  | ended

namespace Phase

/-- A task that takes up a worker. -/
def isRunning : Phase → Bool
  | waiting => false
  | ended => false
  | _ => true

/-- A bound on the steps a task has before it. -/
def stepsLeft : Phase → Nat
  | waiting => 7
  | started => 6
  | admitted => 5
  | acting todo => todo.length + 1
  | refused => 1
  | ended => 0

end Phase

/-- What an audit is asked to do. -/
structure Plan where
  read : FileReader
  root : String
  files : List SourceFile
  /-- The number of tasks that may run at once. -/
  limit : Nat

def Plan.outcome (plan : Plan) (file : SourceFile) : Outcome := examine plan.read plan.root file

/-- The state of an audit. -/
structure Pool where
  /-- The number of tasks that were started. -/
  next : Nat := 0
  /-- Whether the caller has cancelled the audit. -/
  cancelled : Bool := false
  /-- The first error that a task ended with. -/
  error : Option AuditError := none
  phase : Nat → Phase := fun _ => .waiting
  slot : Nat → Slot := fun _ => {}
  metrics : Metrics
  events : List Log.Event := []

namespace Pool

/-- What tasks are told about the audit: an error of one of them cancels it for the others. -/
def isCancelled (s : Pool) : Bool := s.cancelled || s.error.isSome

def moveTo (s : Pool) (i : Nat) (phase : Phase) : Pool :=
  { s with phase := Function.update s.phase i phase }

def perform (s : Pool) (i : Nat) (file : SourceFile) (effect : Effect) : Pool :=
  { s with
    slot := Function.update s.slot i (effect.onSlot (s.slot i))
    metrics := effect.onMetrics file s.metrics
    events := s.events ++ effect.logged }

end Pool

/-- The tasks that take up a worker. -/
def Plan.busy (plan : Plan) (s : Pool) : Finset Nat :=
  (Finset.range plan.files.length).filter fun i => (s.phase i).isRunning

/-- What can happen next: the caller cancels, the next task is started, or the task of a file does
its next step. -/
inductive Action where
  | cancel
  | start
  | check (i : Nat)
  | read (i : Nat)
  | act (i : Nat)
  | finish (i : Nat)
  deriving DecidableEq

/-- The steps of an audit. -/
inductive Step (plan : Plan) (s : Pool) : Action → Pool → Prop
  | cancel : Step plan s .cancel { s with cancelled := true }
  | start (hnext : s.next < plan.files.length) (hfree : (plan.busy s).card < plan.limit) :
      Step plan s .start { s.moveTo s.next .started with next := s.next + 1 }
  | allow {i : Nat} (hphase : s.phase i = .started) (hopen : s.isCancelled = false) :
      Step plan s (.check i) (s.moveTo i .admitted)
  | refuse {i : Nat} (hphase : s.phase i = .started) (hcancelled : s.isCancelled = true) :
      Step plan s (.check i) (s.moveTo i .refused)
  | read {i : Nat} {file : SourceFile} (hphase : s.phase i = .admitted)
      (hfile : plan.files[i]? = some file) :
      Step plan s (.read i) (s.moveTo i (.acting ((plan.outcome file).effects file)))
  | act {i : Nat} {file : SourceFile} {effect : Effect} {todo : List Effect}
      (hphase : s.phase i = .acting (effect :: todo)) (hfile : plan.files[i]? = some file) :
      Step plan s (.act i) ((s.perform i file effect).moveTo i (.acting todo))
  | finish {i : Nat} (hphase : s.phase i = .acting []) :
      Step plan s (.finish i) (s.moveTo i .ended)
  | fail {i : Nat} (hphase : s.phase i = .refused) :
      Step plan s (.finish i)
        { s.moveTo i .ended with error := s.error.or (some .cancelled) }

/-- Any number of steps. -/
inductive Run (plan : Plan) (s : Pool) : List Action → Pool → Prop
  | nil : Run plan s [] s
  | snoc {actions : List Action} {middle t : Pool} {a : Action} (h : Run plan s actions middle)
      (hstep : Step plan middle a t) : Run plan s (actions ++ [a]) t

namespace Pool

/-- All tasks were started and have ended. -/
def IsDone (plan : Plan) (s : Pool) : Prop :=
  s.next = plan.files.length ∧ ∀ i < plan.files.length, s.phase i = .ended

/-- The report on the slots, file by file. -/
def collect (plan : Plan) (s : Pool) : Report :=
  plan.files.zipIdx.foldl (fun report (file, i) =>
    if (s.slot i).failed then { report with skipped := report.skipped ++ [file.path] }
    else
      { report with
        filesScanned := report.filesScanned + 1
        issues := report.issues ++ (s.slot i).found }) { root := plan.root }

/-- What a finished audit returns. -/
def result (plan : Plan) (s : Pool) : Except AuditError Report :=
  match s.error with
  | some error => .error error
  | none => .ok (s.collect plan)

end Pool

/-- A task asked whether the audit is cancelled after the caller had cancelled it. -/
def CheckedLate (actions : List Action) : Prop := ∃ i, [.cancel, .check i].Sublist actions

theorem checkedLate_concat {actions : List Action} {a : Action} :
    CheckedLate (actions ++ [a]) ↔
      CheckedLate actions ∨ (∃ i, a = .check i) ∧ .cancel ∈ actions := by
  constructor
  · rintro ⟨i, h⟩
    obtain ⟨front, last, hsplit, hfront, hlast⟩ := List.sublist_append_iff.mp h
    match front, hsplit with
    | [], hsplit =>
      have hlength := hlast.length_le
      rw [List.nil_append] at hsplit
      simp [← hsplit] at hlength
    | [b], hsplit =>
      obtain ⟨rfl, rfl⟩ : .cancel = b ∧ [.check i] = last := by simpa using hsplit
      have ha : .check i = a := by simpa using hlast
      exact Or.inr ⟨⟨i, ha.symm⟩, by simpa using hfront⟩
    | b :: c :: front, hsplit =>
      obtain ⟨rfl, rfl, rfl, -⟩ : .cancel = b ∧ .check i = c ∧ front = [] ∧ last = [] := by
        simpa using hsplit
      exact Or.inl ⟨i, hfront⟩
  · rintro (⟨i, h⟩ | ⟨⟨i, rfl⟩, h⟩)
    · exact ⟨i, h.trans (List.sublist_append_left actions [a])⟩
    · exact ⟨i, (List.singleton_sublist.mpr h).append (List.Sublist.refl [Action.check i])⟩

/-- What a task has left in its slot. Whoever ended has finished, unless it was refused. -/
def Phase.Leaves (effects : List Effect) (error : Option AuditError) (slot : Slot) :
    Phase → Prop
  | acting todo => ∃ finished, effects = finished ++ todo ∧ slot = finished.foldl Effect.onSlot {}
  | ended => error.isSome ∨ slot = effects.foldl Effect.onSlot {}
  | _ => slot = {}

theorem Phase.Leaves.mono {effects : List Effect} {error error' : Option AuditError} {slot : Slot}
    {phase : Phase} (h : phase.Leaves effects error slot) (herror : error.isSome → error'.isSome) :
    phase.Leaves effects error' slot := by
  cases phase with
  | ended => exact h.imp_left herror
  | _ => exact h

/-- What holds after any actions. -/
structure Sound (plan : Plan) (actions : List Action) (s : Pool) : Prop where
  waiting_iff : ∀ i, s.phase i = .waiting ↔ s.next ≤ i
  next_le : s.next ≤ plan.files.length
  busy_le : (plan.busy s).card ≤ plan.limit
  cancelled_iff : s.cancelled = true ↔ .cancel ∈ actions
  late_iff : (s.error.isSome ∨ ∃ i, s.phase i = .refused) ↔ CheckedLate actions
  leaves : ∀ i file, plan.files[i]? = some file →
    (s.phase i).Leaves ((plan.outcome file).effects file) s.error (s.slot i)

namespace Sound

variable {plan : Plan} {actions : List Action} {s t : Pool} {i : Nat}

theorem initial (plan : Plan) (metrics : Metrics) : Sound plan [] { metrics := metrics } where
  waiting_iff i := by simp
  next_le := Nat.zero_le _
  busy_le := by simp [Plan.busy, Phase.isRunning]
  cancelled_iff := by simp
  late_iff := by simp [CheckedLate]
  leaves i file _ := rfl

/-- An error has no other cause than the caller. -/
theorem cancelled_of_error (hs : Sound plan actions s) (h : s.error.isSome) :
    s.cancelled = true := by
  obtain ⟨i, hlate⟩ := hs.late_iff.mp (Or.inl h)
  exact hs.cancelled_iff.mpr (hlate.subset List.mem_cons_self)

theorem isCancelled_eq (hs : Sound plan actions s) : s.isCancelled = s.cancelled := by
  rw [Pool.isCancelled]
  cases herror : s.error.isSome with
  | false => rw [Bool.or_false]
  | true => rw [hs.cancelled_of_error herror, Bool.true_or]

theorem lt_next (hs : Sound plan actions s) (h : s.phase i ≠ .waiting) : i < s.next := by
  rw [Ne, hs.waiting_iff] at h
  omega

theorem lt_length (hs : Sound plan actions s) (h : s.phase i ≠ .waiting) :
    i < plan.files.length :=
  (hs.lt_next h).trans_le hs.next_le

end Sound

/-- A running task that moves on takes up no further worker. -/
theorem Plan.busy_subset (plan : Plan) {s t : Pool} {i : Nat} {p : Phase}
    (hrunning : (s.phase i).isRunning = true) (hphase : t.phase = Function.update s.phase i p) :
    plan.busy t ⊆ plan.busy s := by
  intro j hj
  rw [busy, Finset.mem_filter, hphase] at hj
  refine Finset.mem_filter.mpr ⟨hj.1, ?_⟩
  by_cases hij : j = i
  · rw [hij, hrunning]
  · rw [← Function.update_of_ne hij p s.phase, hj.2]

/-- A task that is started takes up one. -/
theorem Plan.busy_subset_insert (plan : Plan) {s t : Pool} {i : Nat} {p : Phase}
    (hphase : t.phase = Function.update s.phase i p) : plan.busy t ⊆ insert i (plan.busy s) := by
  intro j hj
  rw [busy, Finset.mem_filter, hphase] at hj
  by_cases hij : j = i
  · exact Finset.mem_insert.mpr (Or.inl hij)
  · rw [Function.update_of_ne hij] at hj
    exact Finset.mem_insert_of_mem (Finset.mem_filter.mpr hj)

theorem exists_refused_update {phase : Nat → Phase} {i : Nat} {p : Phase}
    (hi : phase i ≠ .refused) (hp : p ≠ .refused) :
    (∃ j, Function.update phase i p j = .refused) ↔ ∃ j, phase j = .refused := by
  refine exists_congr fun j => ?_
  by_cases hij : j = i
  · rw [hij, Function.update_self]
    exact iff_of_false hp hi
  · rw [Function.update_of_ne hij]

namespace Sound

variable {plan : Plan} {actions : List Action} {s t : Pool} {i : Nat}

/-- A running task moves on: what has to be shown is what it leaves and who was refused. -/
theorem move {a : Action} {p : Phase} (hs : Sound plan actions s)
    (hrunning : (s.phase i).isRunning = true) (hphase : t.phase = Function.update s.phase i p)
    (hp : p ≠ .waiting) (hnext : t.next = s.next) (hcancelled : t.cancelled = s.cancelled)
    (ha : a ≠ .cancel) (herror : s.error.isSome → t.error.isSome)
    (hslot : ∀ j, j ≠ i → t.slot j = s.slot j)
    (hlate : (t.error.isSome ∨ ∃ i, t.phase i = .refused) ↔ CheckedLate (actions ++ [a]))
    (hleaves : ∀ file, plan.files[i]? = some file →
      p.Leaves ((plan.outcome file).effects file) t.error (t.slot i)) :
    Sound plan (actions ++ [a]) t where
  waiting_iff j := by
    rw [hphase, hnext]
    by_cases hij : j = i
    · have hwaiting : s.phase i ≠ .waiting := by
        intro h
        simp [h, Phase.isRunning] at hrunning
      rw [hij, Function.update_self]
      exact iff_of_false hp (Nat.not_le.mpr (hs.lt_next hwaiting))
    · rw [Function.update_of_ne hij, hs.waiting_iff]
  next_le := hnext ▸ hs.next_le
  busy_le := (Finset.card_le_card (plan.busy_subset hrunning hphase)).trans hs.busy_le
  cancelled_iff := by
    rw [hcancelled, hs.cancelled_iff, List.mem_append, List.mem_singleton]
    exact ⟨Or.inl, fun h => h.resolve_right fun h => ha h.symm⟩
  late_iff := hlate
  leaves j file hfile := by
    by_cases hij : j = i
    · subst hij
      rw [hphase, Function.update_self]
      exact hleaves file hfile
    · rw [hphase, Function.update_of_ne hij, hslot j hij]
      exact (hs.leaves j file hfile).mono herror

/-- Nobody is refused by anything but a check. -/
theorem late_iff_of_no_check {a : Action} {p : Phase} (hs : Sound plan actions s)
    (ha : ∀ i, a ≠ .check i) (hi : s.phase i ≠ .refused) (hp : p ≠ .refused)
    (hphase : t.phase = Function.update s.phase i p) (herror : t.error = s.error) :
    (t.error.isSome ∨ ∃ i, t.phase i = .refused) ↔ CheckedLate (actions ++ [a]) := by
  rw [hphase, herror, exists_refused_update hi hp, hs.late_iff, checkedLate_concat]
  exact ⟨Or.inl, fun h => h.resolve_right fun ⟨⟨i, hcheck⟩, _⟩ => ha i hcheck⟩

theorem cancel (hs : Sound plan actions s) :
    Sound plan (actions ++ [.cancel]) { s with cancelled := true } :=
  { hs with
    cancelled_iff := by simp
    late_iff := by
      rw [checkedLate_concat]
      simpa using hs.late_iff }

theorem start (hs : Sound plan actions s) (hnext : s.next < plan.files.length)
    (hfree : (plan.busy s).card < plan.limit) :
    Sound plan (actions ++ [.start]) { s.moveTo s.next .started with next := s.next + 1 } where
  waiting_iff j := by
    show Function.update s.phase s.next .started j = .waiting ↔ s.next + 1 ≤ j
    by_cases hj : j = s.next
    · rw [hj, Function.update_self]
      exact iff_of_false (by simp) (by omega)
    · rw [Function.update_of_ne hj, hs.waiting_iff]
      omega
  next_le := hnext
  busy_le := by
    have hsub : plan.busy { s.moveTo s.next .started with next := s.next + 1 } ⊆
        insert s.next (plan.busy s) := plan.busy_subset_insert rfl
    have hcard := (Finset.card_le_card hsub).trans (Finset.card_insert_le _ _)
    omega
  cancelled_iff := by simpa [Pool.moveTo] using hs.cancelled_iff
  late_iff := by
    have hwaiting : s.phase s.next = .waiting := (hs.waiting_iff _).mpr le_rfl
    exact hs.late_iff_of_no_check (by simp) (by rw [hwaiting]; simp) (by simp) rfl rfl
  leaves j file hfile := by
    show (Function.update s.phase s.next .started j).Leaves _ s.error (s.slot j)
    have hleaves := hs.leaves j file hfile
    by_cases hj : j = s.next
    · have hwaiting : s.phase j = .waiting := (hs.waiting_iff j).mpr hj.ge
      rw [hwaiting] at hleaves
      rw [hj, Function.update_self, ← hj]
      exact hleaves
    · rwa [Function.update_of_ne hj]

/-- The answer to a check: the task is refused if the caller has cancelled. -/
theorem check {p : Phase} (hs : Sound plan actions s) (hphase : s.phase i = .started)
    (hp : p = if s.isCancelled then .refused else .admitted) :
    Sound plan (actions ++ [.check i]) (s.moveTo i p) := by
  refine hs.move (i := i) (p := p) (by rw [hphase]; rfl) rfl ?_ rfl rfl (by simp) id
    (fun _ _ => rfl) ?_ ?_
  · rw [hp]
    split <;> simp
  · rw [checkedLate_concat, ← hs.cancelled_iff, ← hs.isCancelled_eq, ← hs.late_iff]
    show (s.error.isSome ∨ ∃ j, Function.update s.phase i p j = .refused) ↔ _
    cases hcancelled : s.isCancelled with
    | false =>
      rw [exists_refused_update (by rw [hphase]; simp) (by simp [hp, hcancelled])]
      simp
    | true =>
      refine iff_of_true (Or.inr ⟨i, ?_⟩) (Or.inr ⟨⟨i, rfl⟩, rfl⟩)
      rw [Function.update_self, hp, hcancelled, if_pos rfl]
  · intro file hfile
    have hleaves := hs.leaves i file hfile
    rw [hphase] at hleaves
    rw [hp]
    split <;> exact hleaves

theorem read {file : SourceFile} (hs : Sound plan actions s) (hphase : s.phase i = .admitted)
    (hfile : plan.files[i]? = some file) :
    Sound plan (actions ++ [.read i])
      (s.moveTo i (.acting ((plan.outcome file).effects file))) := by
  refine hs.move (i := i) (by rw [hphase]; rfl) rfl (by simp) rfl rfl (by simp) id
    (fun _ _ => rfl) ?_ ?_
  · exact hs.late_iff_of_no_check (by simp) (by rw [hphase]; simp) (by simp) rfl rfl
  · intro other hother
    obtain rfl : file = other := Option.some.inj (hfile.symm.trans hother)
    have hleaves := hs.leaves i file hfile
    rw [hphase] at hleaves
    exact ⟨[], rfl, hleaves⟩

theorem act {file : SourceFile} {effect : Effect} {todo : List Effect}
    (hs : Sound plan actions s) (hphase : s.phase i = .acting (effect :: todo)) :
    Sound plan (actions ++ [.act i]) ((s.perform i file effect).moveTo i (.acting todo)) := by
  refine hs.move (i := i) (by rw [hphase]; rfl) rfl (by simp) rfl rfl (by simp) id
    (fun j hj => Function.update_of_ne hj _ _) ?_ ?_
  · exact hs.late_iff_of_no_check (by simp) (by rw [hphase]; simp) (by simp) rfl rfl
  · intro other hother
    have hleaves := hs.leaves i other hother
    rw [hphase] at hleaves
    obtain ⟨finished, heffects, hslot⟩ := hleaves
    refine ⟨finished ++ [effect], by simp [heffects], ?_⟩
    show Function.update s.slot i (effect.onSlot (s.slot i)) i = _
    rw [Function.update_self, hslot, List.foldl_append, List.foldl_cons, List.foldl_nil]

theorem finish (hs : Sound plan actions s) (hphase : s.phase i = .acting []) :
    Sound plan (actions ++ [.finish i]) (s.moveTo i .ended) := by
  refine hs.move (i := i) (by rw [hphase]; rfl) rfl (by simp) rfl rfl (by simp) id
    (fun _ _ => rfl) ?_ ?_
  · exact hs.late_iff_of_no_check (by simp) (by rw [hphase]; simp) (by simp) rfl rfl
  · intro file hfile
    have hleaves := hs.leaves i file hfile
    rw [hphase] at hleaves
    obtain ⟨finished, heffects, hslot⟩ := hleaves
    rw [List.append_nil] at heffects
    exact Or.inr (heffects ▸ hslot)

theorem fail (hs : Sound plan actions s) (hphase : s.phase i = .refused) :
    Sound plan (actions ++ [.finish i])
      { s.moveTo i .ended with error := s.error.or (some .cancelled) } := by
  have herror : (s.error.or (some .cancelled)).isSome = true := by simp
  refine hs.move (i := i) (by rw [hphase]; rfl) rfl (by simp) rfl rfl (by simp)
    (fun _ => herror) (fun _ _ => rfl) ?_ (fun _ _ => Or.inl herror)
  rw [checkedLate_concat, ← hs.late_iff]
  exact iff_of_true (Or.inl herror) (Or.inl (Or.inr ⟨i, hphase⟩))

end Sound

theorem Step.sound {plan : Plan} {actions : List Action} {s t : Pool} {a : Action}
    (h : Step plan s a t) (hs : Sound plan actions s) : Sound plan (actions ++ [a]) t := by
  cases h with
  | cancel => exact hs.cancel
  | start hnext hfree => exact hs.start hnext hfree
  | allow hphase hopen => exact hs.check hphase (by rw [hopen]; rfl)
  | refuse hphase hcancelled => exact hs.check hphase (by rw [hcancelled]; rfl)
  | read hphase hfile => exact hs.read hphase hfile
  | act hphase hfile => exact hs.act hphase
  | finish hphase => exact hs.finish hphase
  | fail hphase => exact hs.fail hphase

theorem Run.sound {plan : Plan} {metrics : Metrics} {actions : List Action} {s : Pool}
    (h : Run plan { metrics := metrics } actions s) : Sound plan actions s := by
  induction h with
  | nil => exact Sound.initial plan metrics
  | snoc _ hstep ih => exact hstep.sound ih

end InlineAudit
