import Stepwise.Proofs.Explained
import Stepwise.Proofs.Reading
import Stepwise.Proofs.Settled

/-!
# What each call finds

The store and the session go through a run as one thread. Only handlers change them,
and nothing puts them back: not the end of an attempt, of a scenario or of a run, and
not a handler that fails or gives up in disorder. So every call finds what the last
one has left, and so does everyone who fills placeholders (`Runner.Threaded`). This is
said of the entries of a history and of what came before each of them. It is kept by
everything that a runner does, since a world is settled whenever no handler is at work
(`World.Settled`).

On the other side are the results. Of an attempt they tell which handlers were called
in it: those of the steps that have a time, with the steps as they were filled, and no
others (`Runner.Made`). The stores that the placeholders were filled from are those in
the history, so they are the current ones in every attempt. All of this is about the
attempts themselves, found by their numbers in the worlds where they began and ended,
and it holds of the attempts that were thrown away as well as of the last one.
-/

namespace Stepwise

variable {σ : Type}

/-! ## Explaining calls by calls -/

/-- The handler that was called last is that of a definition, and this is what it
leaves of the store and the session in the world in which it was called. -/
def Runner.Handled (r : Runner σ) (past done : List (Entry σ)) (context : Context σ) :
    Prop :=
  ∃ start groups step d mid w₁,
    done = start ++ .called groups step w₁.context w₁.cancelled :: mid ∧ Handlings mid ∧
    r.registry.resolve step = .ok (d, groups) ∧
    w₁.history = past ++ (start ++ [.called groups step w₁.context w₁.cancelled]) ∧
    ((d.handle groups step).run r.reporter w₁).2.history = past ++ done ∧
    ((d.handle groups step).run r.reporter w₁).2.context = context

/-- What stands in an entry of the store and the session is what the calls before it
have left. -/
def Runner.Threaded (r : Runner σ) (past : List (Entry σ)) (c : Context σ)
    (done : List (Entry σ)) : Entry σ → Prop
  | .binding _ store =>
    (calls done).length = (endings done).length ∧ store = (contextAfter c done).store
  | .called _ _ context _ =>
    (calls done).length = (endings done).length ∧ context = contextAfter c done
  | .ended context => r.Handled past done context
  | _ => True

/-- What was added behind `past` is threaded, and so is the world. -/
structure World.Threads (r : Runner σ) (past : List (Entry σ)) (c : Context σ)
    (w : World σ) : Prop where
  settled : w.Settled past c
  explained : ∃ es, w.history = past ++ es ∧ Explained (r.Threaded past c) [] es

section Threads

variable {r : Runner σ} {past : List (Entry σ)} {c : Context σ} {w w' : World σ}

theorem World.Settled.of_history {es : List (Entry σ)} (h : w.Settled past c)
    (hes : w.history = past ++ es) :
    w.context = contextAfter c es ∧ (calls es).length = (endings es).length := by
  obtain ⟨fs, hfs, hcontext, hlength⟩ := h
  obtain rfl := List.append_cancel_left (hes.symm.trans hfs)
  exact ⟨hcontext, hlength⟩

theorem Handlings.explained {es : List (Entry σ)} (h : Handlings es)
    {done : List (Entry σ)} : Explained (r.Threaded past c) done es := by
  refine explained_of_forall fun e he _ => ?_
  have hhandling := h e he
  cases e <;> trivial

namespace World.Threads

theorem begin (w : World σ) : w.Threads r w.history w.context :=
  ⟨Settled.begin w, [], (List.append_nil _).symm, trivial⟩

theorem leads (h : w.Threads r past c) {es : List (Entry σ)} {cut : Bool}
    (hw : w.Leads es cut w') (hcontext : w'.context = w.context) (hes : Callless es)
    (hthreaded : ∀ {done}, w.history = past ++ done →
      Explained (r.Threaded past c) done es) : w'.Threads r past c := by
  obtain ⟨hsettled, fs, hfs, hexplained⟩ := h
  refine ⟨hsettled.leads hw hcontext hes, fs ++ es, ?_, ?_⟩
  · rw [hw.history, hfs, List.append_assoc]
  · exact explained_append.mpr ⟨hexplained, hthreaded hfs⟩

/-- What a handler leaves is what it does in the world in which it is called. -/
theorem callHandler (h : w.Threads r past c) {d : StepDefinition σ} {groups : Groups}
    {step : BoundStep} (hresolve : r.registry.resolve step = .ok (d, groups)) :
    (r.callHandler d.handle groups step w).2.Threads r past c := by
  refine ⟨h.settled.callHandler r d.handle groups step, ?_⟩
  obtain ⟨hsettled, fs, hfs, hexplained⟩ := h
  obtain ⟨hcontext, hlength⟩ := hsettled.of_history hfs
  -- the handler is at work in the world behind the entry of its call
  let called : Entry σ := .called groups step w.context w.cancelled
  let w₁ := w.record called
  obtain ⟨hs, hhs, hrun⟩ := (d.handle groups step).leads_run r.reporter w₁
  let w₂ := ((d.handle groups step).run r.reporter w₁).2
  have hbegin : w₁.history = past ++ (fs ++ [called]) := by
    rw [history_record, hfs, List.append_assoc]
  have hend : w₂.history = past ++ (fs ++ called :: hs) := by
    rw [hrun.history, hbegin]
    simp
  refine ⟨fs ++ called :: hs ++ [.ended w₂.context], ?_, ?_⟩
  · refine (history_record w₂ _).trans ?_
    rw [hend]
    exact List.append_assoc _ _ _
  · rw [explained_append, explained_append]
    refine ⟨⟨hexplained, ⟨hlength, hcontext⟩, hhs.explained⟩, ?_, trivial⟩
    exact ⟨fs, groups, step, d, hs, w₁, rfl, hhs, hresolve, hbegin, hend, rfl⟩

end World.Threads

end Threads

namespace Runner

variable (r : Runner σ)

open World

theorem threads_keeps (past : List (Entry σ)) (c : Context σ) :
    r.Keeps (World.Threads r past c) where
  binding step h := by
    refine h.leads (leads_record _ rfl) rfl (callless_single rfl rfl) fun hdone => ?_
    obtain ⟨hcontext, hlength⟩ := h.settled.of_history hdone
    exact ⟨⟨hlength, congrArg Context.store hcontext⟩, trivial⟩
  log l h := h.leads (leads_log _ l) rfl (callless_single rfl rfl) fun _ => ⟨trivial, trivial⟩
  wait ms h := h.leads (leads_wait _ ms) rfl (callless_single rfl rfl)
    fun _ => ⟨trivial, trivial⟩
  emit {w} event h := by
    obtain ⟨ts, hts, hleads⟩ := w.leads_send r.reporter .runner event
    exact h.leads hleads (w.context_send _ _ _)
      ((callless_single rfl rfl).append hts.handlings.callless)
      fun _ => ⟨trivial, hts.handlings.explained⟩
  call hresolve h := h.callHandler hresolve
  look h := h.leads (r.leads_checkCancelled _) rfl ⟨rfl, rfl⟩ fun _ => trivial

theorem threads_run {past : List (Entry σ)} {c : Context σ} (features : List Feature)
    {w : World σ} (h : w.Threads r past c) : (r.run features w).2.Threads r past c := by
  have hbegin : World.Threads r past c { w with cutShort := false } := ⟨h.settled, h.explained⟩
  have hrun := (r.threads_keeps past c).runFeatures features hbegin
  obtain ⟨ts, hts, hreport⟩ := leads_report
    (r.runFeatures features { w with cutShort := false }).2 r.reporter (r.run features w).1
  exact hrun.leads hreport (context_report _ _ _)
    ((callless_single rfl rfl).append hts.handlings.callless)
    fun _ => ⟨trivial, hts.handlings.explained⟩

theorem threads_runs {past : List (Entry σ)} {c : Context σ} (batches : List (List Feature)) :
    ∀ {w : World σ}, w.Threads r past c →
      (inTurn r.run batches w).2.Threads r past c := by
  induction batches with
  | nil => exact fun h => h
  | cons features rest ih => exact fun h => ih (r.threads_run features h)

end Runner

/-! ## The calls of an attempt -/

def Entry.binding? : Entry σ → Option (Step × Store)
  | .binding step store => some (step, store)
  | _ => none

/-- The steps whose placeholders were going to be filled, with the stores. -/
def bindings (es : List (Entry σ)) : List (Step × Store) := es.filterMap Entry.binding?

@[simp] theorem bindings_append (es fs : List (Entry σ)) :
    bindings (es ++ fs) = bindings es ++ bindings fs := List.filterMap_append

/-- The result is that of a step whose placeholders are filled from a store. If a value
is missing there, the step fails for that. -/
def Runner.Fills (r : Runner σ) (b : Step × Store) (x : StepResult) : Prop :=
  match b.1.bind ⟨b.2, r.environment, r.config.useEnvironment⟩ with
  | .ok bound => x.step = bound
  | .error missing => x = ⟨b.1.verbatim, .failed (.missingValue missing) none⟩

/-- These are the results of an attempt in which this has happened. For each step that
was not left out the placeholders were filled, and for each with a time the handler was
called, with the step as it was filled. No other handlers were called. -/
structure Runner.Made (r : Runner σ) (results : List StepResult) (es : List (Entry σ)) :
    Prop where
  filled : List.Forall₂ r.Fills (bindings es) (results.filter fun x => !x.skipped)
  called : (calls es).map Call.step =
    (results.filter fun x => x.time?.isSome).map StepResult.step

/-- From the one world to the other these steps were filled from these stores, and with
these steps handlers were called. -/
def World.Does (w : World σ) (filled : List (Step × Store)) (called : List BoundStep)
    (w' : World σ) : Prop :=
  ∃ es, w'.history = w.history ++ es ∧ bindings es = filled ∧
    (calls es).map Call.step = called

theorem Handlings.bindings_eq {es : List (Entry σ)} (h : Handlings es) : bindings es = [] := by
  refine List.filterMap_eq_nil_iff.mpr fun e he => ?_
  have hhandling := h e he
  cases e <;> first | rfl | cases hhandling

namespace World

variable {w w₁ w₂ w₃ : World σ}

theorem Does.trans {bs bs' : List (Step × Store)} {steps steps' : List BoundStep}
    (h : w₁.Does bs steps w₂) (h' : w₂.Does bs' steps' w₃) :
    w₁.Does (bs ++ bs') (steps ++ steps') w₃ := by
  obtain ⟨es, hes, rfl, rfl⟩ := h
  obtain ⟨fs, hfs, rfl, rfl⟩ := h'
  refine ⟨es ++ fs, by rw [hfs, hes, List.append_assoc], bindings_append es fs, ?_⟩
  rw [calls_append, List.map_append]

/-- A leg on which nothing is filled and nobody is called. -/
theorem Does.quiet {bs : List (Step × Store)} {steps : List BoundStep}
    (h : w₁.Does bs steps w₂) (h' : w₂.Does [] [] w₃) : w₁.Does bs steps w₃ := by
  have hall := h.trans h'
  rwa [List.append_nil, List.append_nil] at hall

theorem does_binding (w : World σ) (step : Step) :
    w.Does [(step, w.context.store)] [] (w.record (.binding step w.context.store)) :=
  ⟨_, history_record _ _, rfl, rfl⟩

theorem does_log (w : World σ) (l : LogRecord) : w.Does [] [] (w.log l) :=
  ⟨_, history_record _ _, rfl, rfl⟩

end World

namespace Runner

variable (r : Runner σ)

open World

theorem does_emit (w : World σ) (event : Event) : w.Does [] [] (r.emit event w) := by
  obtain ⟨ts, hts, hleads⟩ := r.leads_emit w event
  have hcalls : calls (.sent .runner event :: ts) = [] := hts.handlings.callless.1
  refine ⟨_, hleads.history, hts.handlings.bindings_eq, ?_⟩
  rw [hcalls, List.map_nil]

theorem does_callHandler (handle : Handler σ) (groups : Groups) (step : BoundStep)
    (w : World σ) : w.Does [] [step] (r.callHandler handle groups step w).2 := by
  obtain ⟨hs, context', hhs, hleads⟩ := r.leads_callHandler handle groups step w
  refine ⟨_, hleads.history, ?_, ?_⟩
  · rw [bindings_append]
    exact congrArg (· ++ []) hhs.bindings_eq
  · have hcalls : calls (.called groups step w.context w.cancelled :: hs) =
        ⟨groups, step, w.context⟩ :: calls hs := rfl
    rw [calls_append, hcalls, hhs.callless.1]
    rfl

theorem does_failStep (step : BoundStep) (failure : Failure) (time : Option Nat)
    (w : World σ) : w.Does [] [] (r.failStep step failure time w).2 :=
  (w.does_log _).quiet (r.does_emit _ _)

theorem does_passStep (step : BoundStep) (value : Option Value) (time : Nat)
    (w : World σ) : w.Does [] [] (r.passStep step value time w).2 :=
  (w.does_log _).quiet (r.does_emit _ _)

theorem fills_bound {step : Step} {store : Store} {bound : BoundStep}
    (h : step.bind ⟨store, r.environment, r.config.useEnvironment⟩ = .ok bound)
    (outcome : StepOutcome) : r.Fills (step, store) ⟨bound, outcome⟩ := by
  simp only [Fills, h]

theorem fills_missing {step : Step} {store : Store} {missing : MissingValue}
    (h : step.bind ⟨store, r.environment, r.config.useEnvironment⟩ = .error missing) :
    r.Fills (step, store) ⟨step.verbatim, .failed (.missingValue missing) none⟩ := by
  simp only [Fills, h]

/-- The step was filled from the store as it was, and with a time in the result its
handler was called. -/
structure StepDone (step : Step) (w : World σ) (x : StepResult × World σ) : Prop where
  does : w.Does [(step, w.context.store)] (if x.1.time?.isSome then [x.1.step] else []) x.2
  fills : r.Fills (step, w.context.store) x.1
  run : x.1.skipped = false

theorem runStep_done (step : Step) (w : World σ) : r.StepDone step w (r.runStep step w) := by
  have hbinding := w.does_binding step
  simp only [runStep]
  split
  · next missing hbind =>
      have hstart := hbinding.quiet (r.does_emit _ (.stepStarted step.text))
      exact ⟨hstart.quiet (r.does_failStep _ _ _ _), r.fills_missing hbind, rfl⟩
  · next bound hbind =>
      have hlog := hbinding.quiet (does_log _ (.stepStarted bound.text))
      have hstart := hlog.quiet (r.does_emit _ (.stepStarted bound.text))
      split
      · exact ⟨hstart.quiet (r.does_failStep _ _ _ _), r.fills_bound hbind _, rfl⟩
      · next d groups hresolve =>
          have hcall := hstart.trans (r.does_callHandler d.handle groups bound _)
          split
          · exact ⟨hcall.quiet (r.does_passStep _ _ _ _), r.fills_bound hbind _, rfl⟩
          · exact ⟨hcall.quiet (r.does_failStep _ _ _ _), r.fills_bound hbind _, rfl⟩
          · exact ⟨hcall.quiet (r.does_failStep _ _ _ _), r.fills_bound hbind _, rfl⟩

theorem StepDone.made {r : Runner σ} {step : Step} {w : World σ} {x : StepResult × World σ}
    (h : r.StepDone step w x) :
    ∃ es, x.2.history = w.history ++ es ∧ r.Made [x.1] es := by
  obtain ⟨⟨es, hes, hbindings, hcalls⟩, hfills, hrun⟩ := h
  refine ⟨es, hes, ?_, ?_⟩
  · rw [hbindings, List.filter_cons_of_pos (by simp [hrun])]
    exact .cons hfills .nil
  · rw [hcalls]
    cases htime : x.1.time?.isSome <;> simp [htime]

theorem Made.append {r : Runner σ} {xs ys : List StepResult} {es fs : List (Entry σ)}
    (h : r.Made xs es) (h' : r.Made ys fs) : r.Made (xs ++ ys) (es ++ fs) where
  filled := by
    rw [bindings_append, List.filter_append]
    exact List.rel_append h.filled h'.filled
  called := by
    rw [calls_append, List.map_append, List.filter_append, List.map_append, h.called,
      h'.called]

/-- Where nothing is done there is nothing but results of steps that were left out. -/
theorem made_skip (steps : List Step) {es : List (Entry σ)} (hbindings : bindings es = [])
    (hcalls : calls es = []) : r.Made (steps.map StepResult.skip) es where
  filled := by
    rw [hbindings, List.filter_eq_nil_iff.mpr (by simp [StepResult.skip, StepResult.skipped])]
    exact .nil
  called := by
    rw [hcalls, List.filter_eq_nil_iff.mpr (by simp [StepResult.skip, StepResult.time?])]
    rfl

theorem runSteps_made (name : String) (steps : List Step) :
    ∀ w : World σ, ∃ es, (r.runSteps name steps w).2.history = w.history ++ es ∧
      r.Made (r.runSteps name steps w).1.steps es := by
  induction steps with
  | nil => exact fun w => ⟨[], (List.append_nil _).symm, r.made_skip [] rfl rfl⟩
  | cons step rest ih =>
      intro w
      simp only [runSteps]
      split
      · exact ⟨_, history_record _ _, r.made_skip (step :: rest) rfl rfl⟩
      · obtain ⟨es, hes, hmade⟩ := (r.runStep_done step (r.checkCancelled w).2).made
        split
        · obtain ⟨fs, hfs, hrest⟩ := ih (r.runStep step (r.checkCancelled w).2).2
          refine ⟨es ++ fs, ?_, hmade.append hrest⟩
          rw [hfs, hes, ← List.append_assoc]
          rfl
        · have hleft := hmade.append (r.made_skip rest (rfl : bindings [] = []) rfl)
          rw [List.append_nil] at hleft
          exact ⟨es, hes, hleft⟩

end Runner

/-! ## Runs on the same store and session -/

namespace Runner

variable (r : Runner σ)

open World

/-- The attempt at a scenario that has `k` others before it is a piece of what was added
behind `past`, and its results are those of this piece. -/
def AttemptIn (s : Scenario) (w₀ : World σ) (k : Nat) (past es : List (Entry σ)) : Prop :=
  ∃ before attempt after, es = before ++ attempt ++ after ∧
    (r.worldBefore s w₀ k).history = past ++ before ∧
    (r.worldAfter s w₀ k).history = past ++ (before ++ attempt) ∧
    r.Made (r.attemptAt s w₀ k).steps attempt

theorem before_worldAfter (s : Scenario) (w : World σ) (k : Nat) :
    (r.worldBefore s w k).Before (r.worldAfter s w k) := by
  obtain ⟨es, -, hleads⟩ := r.attemptAt_course s w k
  exact hleads.before

theorem before_next (s : Scenario) (w : World σ) (k : Nat) :
    (r.worldAfter s w k).Before (r.worldBefore s w (k + 1)) := by
  obtain ⟨fs, -, hleads⟩ := r.prepareRetry_course s (k + 2) (r.worldAfter s w k)
  exact hleads.before

theorem before_worldBefore (s : Scenario) (w : World σ) (k : Nat) :
    w.Before (r.worldBefore s w k) := by
  induction k with
  | zero => exact Before.refl w
  | succ k ih => exact (ih.trans (r.before_worldAfter s w k)).trans (r.before_next s w k)

theorem worldAfter_before (s : Scenario) (w : World σ) {k n : Nat} (h : k ≤ n) :
    (r.worldAfter s w k).Before (r.worldAfter s w n) := by
  induction h with
  | refl => exact Before.refl _
  | @step n _ ih => exact (ih.trans (r.before_next s w n)).trans (r.before_worldAfter s w (n + 1))

theorem before_run (features : List Feature) (w : World σ) :
    w.Before (r.run features w).2 := by
  obtain ⟨es, hes⟩ := r.run_adds features w
  exact ⟨es, hes.symm⟩

/-- The last attempt at a scenario is the one whose results are kept. -/
theorem tryScenario_last_attempt (s : Scenario) (begun : Nat) (w : World σ) :
    ∃ last, (r.tryScenario s begun (s.limit - 1) w).1.tries = last + 1 ∧
      (r.tryScenario s begun (s.limit - 1) w).1.steps = (r.attemptAt s w last).steps ∧
      (r.worldAfter s w last).Before (r.tryScenario s begun (s.limit - 1) w).2 := by
  obtain ⟨last, -, -, -, heq⟩ := r.exists_kept s begun w
  have hend := finishScenario_course s (r.attemptAt s w last) (last + 1)
    ((r.worldAfter s w last).clock - begun) (r.worldAfter s w last)
  rw [heq]
  exact ⟨last, rfl, rfl, hend.before⟩

theorem attemptIn_of_before {s : Scenario} {w w₀ w' : World σ} {k : Nat}
    {es : List (Entry σ)} (hbegin : w.Before w₀) (hend : (r.worldAfter s w₀ k).Before w')
    (hes : w'.history = w.history ++ es) : r.AttemptIn s w₀ k w.history es := by
  -- the attempt lies between its two worlds, and these lie within the run
  obtain ⟨before, hbefore⟩ := hbegin.trans (r.before_worldBefore s w₀ k)
  obtain ⟨attempt, hattempt, hmade⟩ :=
    r.runSteps_made s.displayName s.steps (r.worldBefore s w₀ k)
  obtain ⟨after, hafter⟩ := hend
  have hworld : (r.worldAfter s w₀ k).history = w.history ++ (before ++ attempt) := by
    rw [← List.append_assoc, hbefore]
    exact hattempt
  refine ⟨before, attempt, after, ?_, hbefore.symm, hworld, hmade⟩
  rw [hes, hworld, List.append_assoc] at hafter
  exact (List.append_cancel_left hafter).symm

/-- Only handlers change the store and the session, and nothing puts them back, in one
run or in several after one another. At the end they are as the last call has left
them, and every call and everyone who fills placeholders finds what the calls before
have left. In every attempt at a scenario that was not left out the handlers called are
those of the steps with a time, in order and with the steps as they were filled. -/
theorem run_threaded (batches : List (List Feature)) (w : World σ) :
    let runs := inTurn r.run batches w
    ∃ es, runs.2.history = w.history ++ es ∧ runs.2.context = contextAfter w.context es ∧
      (calls es).length = (endings es).length ∧
      Explained (r.Threaded w.history w.context) [] es ∧
      ∀ result ∈ runs.1, ∀ f ∈ result.features, f.skipped = false →
        ∀ s ∈ f.scenarios, s.skipped = false →
          ∃ w₀ last, s = (r.tryScenario s.scenario w₀.clock (s.scenario.limit - 1) w₀).1 ∧
            s.tries = last + 1 ∧ s.steps = (r.attemptAt s.scenario w₀ last).steps ∧
            ∀ k ≤ last, r.AttemptIn s.scenario w₀ k w.history es := by
  intro runs
  obtain ⟨hsettled, es, hes, hexplained⟩ := r.threads_runs batches (Threads.begin w)
  obtain ⟨hcontext, hlength⟩ := hsettled.of_history hes
  refine ⟨es, hes, hcontext, hlength, hexplained, fun result hresult f hf hrun s hs htried => ?_⟩
  obtain ⟨features, w₁, hw₁, rfl, hafter₁⟩ :=
    exists_of_mem_inTurn r.before_run batches w hresult
  obtain ⟨w₀, hw₀, hafter₀, heq⟩ := r.exists_tries hf hrun hs htried
  obtain ⟨last, htries, hsteps, hlast⟩ :=
    r.tryScenario_last_attempt s.scenario w₀.clock w₀
  rw [← heq] at htries hsteps
  refine ⟨w₀, last, heq, htries, hsteps, fun k hk => ?_⟩
  have hend := (r.worldAfter_before s.scenario w₀ hk).trans hlast
  exact r.attemptIn_of_before (hw₁.trans hw₀) ((hend.trans hafter₀).trans hafter₁) hes

end Runner

end Stepwise
