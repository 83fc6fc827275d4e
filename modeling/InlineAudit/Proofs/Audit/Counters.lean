import InlineAudit.Proofs.Audit.Schedule
import Mathlib.Algebra.GroupWithZero.Nat
import Mathlib.Data.List.Nodup

/-!
Audits that share their counters. A task counts its file with one of the things it does about its
outcome, so after any steps of an audit the counters are those of the files counted so far, each
file at most once: the invariant `Counted`, carried along every run. An audit that ends without an
error has counted all its files, in whatever order. How many files of a language or how many
directives that makes does not depend on the order either, since counters only add.
-/

namespace InlineAudit

open Files

/-! ### Counters and what a file adds to them -/

/-- A counter with its labels. -/
inductive Counter where
  | readErrors
  | files (language : String)
  | directives (language : String) (category : Category)

def Metrics.value (metrics : Metrics) : Counter → Nat
  | .readErrors => metrics.readErrors
  | .files language => metrics.filesIn language
  | .directives language category => metrics.directivesIn language category

/-- What a file adds to a counter: either one read error, or one file and its issues. -/
def Outcome.adds (file : SourceFile) : Outcome → Counter → Nat
  | unreadable _, .readErrors => 1
  | unreadable _, _ => 0
  | issues _, .readErrors => 0
  | issues _, .files language => if file.language = language then 1 else 0
  | issues found, .directives language category =>
    if file.language = language then found.countP (·.category = category) else 0

theorem count_labels (found : List Issue) (own language : String) (category : Category) :
    (found.map fun issue => (issue.category.name, own)).count (category.name, language) =
      if own = language then found.countP (·.category = category) else 0 := by
  rw [List.count_eq_countP, List.countP_map]
  split
  · rename_i h
    refine List.countP_congr fun issue _ => ?_
    cases hissue : issue.category
    cases category
    simp [hissue, h]
  · rename_i h
    simp [List.countP_eq_zero, h]

theorem Metrics.value_count (metrics : Metrics) (file : SourceFile) (outcome : Outcome)
    (counter : Counter) :
    (metrics.count file outcome).value counter =
      metrics.value counter + outcome.adds file counter := by
  cases outcome with
  | unreadable cause => cases counter <;> rfl
  | issues found =>
    cases counter with
    | readErrors => rfl
    | files language =>
      simp [count, countFile, value, filesIn, Outcome.adds, List.count_cons]
    | directives language category =>
      simp only [count, countFile, value, directivesIn, Outcome.adds, List.count_append,
        count_labels]

/-- The counters with some files of a plan counted in addition. -/
def Plan.countAll (plan : Plan) (files : List SourceFile) (metrics : Metrics) : Metrics :=
  files.foldl (fun metrics file => metrics.count file (plan.outcome file)) metrics

/-- What some files of a plan add to a counter together. -/
def Plan.adds (plan : Plan) (files : List SourceFile) (counter : Counter) : Nat :=
  (files.map fun file => (plan.outcome file).adds file counter).sum

theorem Plan.value_countAll (plan : Plan) (files : List SourceFile) (metrics : Metrics)
    (counter : Counter) :
    (plan.countAll files metrics).value counter =
      metrics.value counter + plan.adds files counter := by
  induction files generalizing metrics with
  | nil => rfl
  | cons file rest ih =>
    have hrest := ih (metrics.count file (plan.outcome file))
    rw [Metrics.value_count, Nat.add_assoc] at hrest
    exact hrest

/-! ### The one effect that counts -/

def Effect.isCount : Effect → Bool
  | countReadError => true
  | countFile _ => true
  | _ => false

theorem Effect.onMetrics_of_not_isCount {effect : Effect} (h : effect.isCount = false)
    (file : SourceFile) (metrics : Metrics) : effect.onMetrics file metrics = metrics := by
  cases effect with
  | countReadError => cases h
  | countFile found => cases h
  | _ => rfl

/-- A task counts with just one of its effects. -/
theorem Outcome.countP_isCount (file : SourceFile) (outcome : Outcome) :
    (outcome.effects file).countP (·.isCount) = 1 := by
  cases outcome with
  | unreadable cause => simp [effects, events, Effect.isCount]
  | issues found =>
    by_cases hfound : found.isEmpty <;> simp [effects, events, Effect.isCount, hfound]

theorem Outcome.onMetrics_of_isCount {file : SourceFile} {outcome : Outcome} {effect : Effect}
    (h : effect ∈ outcome.effects file) (hcount : effect.isCount = true) (metrics : Metrics) :
    effect.onMetrics file metrics = metrics.count file outcome := by
  cases effect with
  | countReadError =>
    cases outcome with
    | unreadable cause => rfl
    | issues found => simp [effects] at h
  | countFile found =>
    cases outcome with
    | unreadable cause => simp [effects] at h
    | issues others =>
      obtain rfl : found = others := by simpa [effects] using h
      rfl
  | _ => cases hcount

theorem Effect.value_le (effect : Effect) (file : SourceFile) (metrics : Metrics)
    (counter : Counter) :
    metrics.value counter ≤ (effect.onMetrics file metrics).value counter := by
  cases effect with
  | countReadError =>
    cases counter with
    | readErrors => exact Nat.le_succ _
    | _ => exact le_rfl
  | countFile found =>
    have hcount := metrics.value_count file (.issues found) counter
    exact hcount ▸ Nat.le_add_right _ _
  | _ => exact le_rfl

/-- Counters never go down. -/
theorem Run.value_le {plan : Plan} {s t : Pool} {actions : List Action}
    (h : Run plan s actions t) (counter : Counter) :
    s.metrics.value counter ≤ t.metrics.value counter := by
  induction h with
  | nil => exact le_rfl
  | snoc _ hstep ih =>
    refine ih.trans ?_
    cases hstep with
    | act hphase hfile => exact Effect.value_le _ _ _ counter
    | _ => exact le_rfl

/-! ### What has been counted so far -/

/-- Whether a task can have counted its file, from where it stands: while it acts, it has just if
the effect that counts is behind it; and whoever ended has, unless it was refused. -/
def Phase.Tells (error : Option AuditError) (counted : Prop) : Phase → Prop
  | acting todo => counted ↔ todo.countP (·.isCount) = 0
  | ended => error.isSome ∨ counted
  | _ => ¬counted

theorem Phase.Tells.mono {error error' : Option AuditError} {counted : Prop} {phase : Phase}
    (h : phase.Tells error counted) (herror : error.isSome → error'.isSome) :
    phase.Tells error' counted := by
  cases phase with
  | ended => exact h.imp_left herror
  | _ => exact h

/-- The counters show the files of `counted`, which are files of the plan with their places, none
of them twice. -/
structure Counted (plan : Plan) (before : Metrics) (s : Pool) (counted : List (SourceFile × Nat)) :
    Prop where
  nodup : counted.Nodup
  planned : counted ⊆ plan.files.zipIdx
  metrics_eq : s.metrics = plan.countAll (counted.map (·.1)) before
  tells : ∀ i file, plan.files[i]? = some file →
    (s.phase i).Tells s.error ((file, i) ∈ counted)

namespace Counted

variable {plan : Plan} {before : Metrics} {s t : Pool} {counted : List (SourceFile × Nat)}
  {i : Nat} {p : Phase}

theorem initial (plan : Plan) (before : Metrics) :
    Counted plan before { metrics := before } [] where
  nodup := List.nodup_nil
  planned := List.nil_subset _
  metrics_eq := rfl
  tells _ _ _ := List.not_mem_nil

/-- A task moves on and counts nothing. -/
theorem move (hs : Counted plan before s counted) (hmetrics : t.metrics = s.metrics)
    (hphase : t.phase = Function.update s.phase i p) (herror : s.error.isSome → t.error.isSome)
    (htells : ∀ file, plan.files[i]? = some file → p.Tells t.error ((file, i) ∈ counted)) :
    Counted plan before t counted where
  nodup := hs.nodup
  planned := hs.planned
  metrics_eq := hmetrics.trans hs.metrics_eq
  tells j file hfile := by
    rw [hphase]
    by_cases hij : j = i
    · subst hij
      rw [Function.update_self]
      exact htells file hfile
    · rw [Function.update_of_ne hij]
      exact (hs.tells j file hfile).mono herror

/-- A task counts its file. -/
theorem count {file : SourceFile} {todo : List Effect} (hs : Counted plan before s counted)
    (hfile : plan.files[i]? = some file) (hnew : (file, i) ∉ counted)
    (hmetrics : t.metrics = s.metrics.count file (plan.outcome file))
    (hphase : t.phase = Function.update s.phase i (.acting todo)) (herror : t.error = s.error)
    (htodo : todo.countP (·.isCount) = 0) :
    Counted plan before t (counted ++ [(file, i)]) where
  nodup := by
    rw [List.nodup_append]
    refine ⟨hs.nodup, by simp, ?_⟩
    rintro entry hentry _ hlast rfl
    exact hnew (List.mem_singleton.mp hlast ▸ hentry)
  planned := by
    refine List.append_subset.mpr ⟨hs.planned, ?_⟩
    simpa [List.mem_zipIdx_iff_getElem?] using hfile
  metrics_eq := by
    rw [hmetrics, hs.metrics_eq, List.map_append, Plan.countAll, Plan.countAll, List.foldl_append]
    rfl
  tells j other hother := by
    rw [hphase, herror]
    by_cases hij : j = i
    · subst hij
      obtain rfl : file = other := Option.some.inj (hfile.symm.trans hother)
      rw [Function.update_self]
      exact iff_of_true (by simp) htodo
    · have hmem : (other, j) ∈ counted ++ [(file, i)] ↔ (other, j) ∈ counted := by simp [hij]
      rw [Function.update_of_ne hij, propext hmem]
      exact hs.tells j other hother

theorem act {actions : List Action} {file : SourceFile} {effect : Effect} {todo : List Effect}
    (hs : Counted plan before s counted) (hsound : Sound plan actions s)
    (hphase : s.phase i = .acting (effect :: todo)) (hfile : plan.files[i]? = some file) :
    ∃ counted, Counted plan before ((s.perform i file effect).moveTo i (.acting todo)) counted := by
  have htells := hs.tells i file hfile
  rw [hphase, Phase.Tells, List.countP_cons] at htells
  cases heffect : effect.isCount with
  | false =>
    refine ⟨counted, hs.move (i := i) (effect.onMetrics_of_not_isCount heffect file _) rfl id ?_⟩
    intro other hother
    obtain rfl : file = other := Option.some.inj (hfile.symm.trans hother)
    exact htells.trans (by rw [heffect]; rfl)
  | true =>
    -- the effect is the only one that counts, so it was not behind the task and none is before it
    have hleaves := hsound.leaves i file hfile
    rw [hphase] at hleaves
    obtain ⟨finished, heffects, -⟩ := hleaves
    have hmem : effect ∈ (plan.outcome file).effects file := by simp [heffects]
    have hone := (plan.outcome file).countP_isCount file
    rw [heffects, List.countP_append, List.countP_cons, if_pos heffect] at hone
    refine ⟨_, hs.count hfile ?_ (Outcome.onMetrics_of_isCount hmem heffect _) rfl rfl
      (by omega)⟩
    rw [htells, if_pos heffect]
    omega

end Counted

theorem Step.counted {plan : Plan} {before : Metrics} {actions : List Action} {s t : Pool}
    {a : Action} {counted : List (SourceFile × Nat)} (h : Step plan s a t)
    (hsound : Sound plan actions s) (hs : Counted plan before s counted) :
    ∃ counted, Counted plan before t counted := by
  have htells {i : Nat} {p : Phase} {file : SourceFile} (hp : s.phase i = p)
      (hfile : plan.files[i]? = some file) : p.Tells s.error ((file, i) ∈ counted) :=
    hp ▸ hs.tells i file hfile
  cases h with
  | cancel => exact ⟨counted, { hs with }⟩
  | start hnext hfree =>
    have hwaiting : s.phase s.next = .waiting := (hsound.waiting_iff _).mpr le_rfl
    exact ⟨counted, hs.move rfl rfl id fun _ hfile => (htells hwaiting hfile :)⟩
  | allow hphase hopen =>
    exact ⟨counted, hs.move rfl rfl id fun _ hfile => (htells hphase hfile :)⟩
  | refuse hphase hcancelled =>
    exact ⟨counted, hs.move rfl rfl id fun _ hfile => (htells hphase hfile :)⟩
  | @read i file hphase hfile =>
    refine ⟨counted, hs.move rfl rfl id fun other hother => ?_⟩
    obtain rfl : file = other := Option.some.inj (hfile.symm.trans hother)
    refine iff_of_false (htells hphase hfile) ?_
    rw [Outcome.countP_isCount]
    exact Nat.one_ne_zero
  | act hphase hfile => exact hs.act hsound hphase hfile
  | finish hphase =>
    exact ⟨counted, hs.move rfl rfl id fun _ hfile => Or.inr ((htells hphase hfile).mpr rfl)⟩
  | fail hphase =>
    have herror : (s.error.or (some .cancelled)).isSome = true := by simp
    exact ⟨counted, hs.move rfl rfl (fun _ => herror) fun _ _ => Or.inl herror⟩

theorem Run.counted {plan : Plan} {before : Metrics} {actions : List Action} {s : Pool}
    (h : Run plan { metrics := before } actions s) : ∃ counted, Counted plan before s counted := by
  induction h with
  | nil => exact ⟨[], Counted.initial plan before⟩
  | snoc hrun hstep ih =>
    obtain ⟨counted, hs⟩ := ih
    exact hstep.counted hrun.sound hs

/-- The files that were counted are files of the plan, none more often than it stands there. -/
theorem Counted.subperm {plan : Plan} {before : Metrics} {s : Pool}
    {counted : List (SourceFile × Nat)} (hs : Counted plan before s counted) :
    (counted.map (·.1)).Subperm plan.files := by
  obtain ⟨same, hsame, hsub⟩ := hs.nodup.subperm hs.planned
  refine ⟨same.map (·.1), hsame.map _, ?_⟩
  simpa [List.zipIdx_map_fst] using hsub.map Prod.fst

/-- In the end all of them are, unless there was an error. -/
theorem Counted.perm {plan : Plan} {before : Metrics} {s : Pool}
    {counted : List (SourceFile × Nat)} (hs : Counted plan before s counted)
    (hdone : s.IsDone plan) (herror : s.error = none) :
    (counted.map (·.1)).Perm plan.files := by
  have hall : plan.files.zipIdx ⊆ counted := by
    intro ⟨file, i⟩ hentry
    have hfile : plan.files[i]? = some file := List.mem_zipIdx_iff_getElem?.mp hentry
    have htells := hs.tells i file hfile
    rw [hdone.2 i (List.getElem?_eq_some_iff.mp hfile).1, herror] at htells
    exact htells.resolve_left (by simp)
  have hindices : plan.files.zipIdx.Nodup := by
    refine List.Nodup.of_map Prod.snd ?_
    rw [List.zipIdx_map_snd]
    exact List.nodup_range'
  have hperm : counted.Perm plan.files.zipIdx :=
    (hs.nodup.subperm hs.planned).antisymm (hindices.subperm hall)
  simpa [List.zipIdx_map_fst] using hperm.map Prod.fst

end InlineAudit
