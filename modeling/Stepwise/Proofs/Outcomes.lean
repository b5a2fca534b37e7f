import Stepwise.Proofs.Audience
import Stepwise.Proofs.Precedence

/-!
# How a step ends

There are six ways. A value may be missing for a placeholder of the text, or of the
argument; there may be no definition that takes the step; and if there is one, its handler
returns, fails or gives up in disorder. `Runner.StepEnds` has a rule for each of the first
three, and one for the call, where the ways of a handler to end come to ways of a step to
end (`Ending.ComesTo`).

In every rule the result is about the step whose text was told: the step as it was
written where a value is missing, and the step as it was filled otherwise. What differs
between the rules is who had a part in it. Where a value is missing the registry might as
well have been another one. Where no definition takes the step nobody was called. And
where a handler was called it found the store and the session as they had been, and left
them as they are now, however it ended.
-/

namespace Stepwise

variable {σ : Type}

/-! ## Filling a step -/

/-- The step, filled from the sources: its text, and its argument if it has one. -/
structure Step.FillsTo (step : Step) (sources : Sources) (bound : BoundStep) : Prop where
  written : bound.step = step
  text : sources.fill step.text = .ok bound.text
  argument : step.argument.mapM sources.fill = .ok bound.argument

namespace Step

variable {step : Step} {sources : Sources}

theorem fillsTo_of_bind {bound : BoundStep} (h : step.bind sources = .ok bound) :
    step.FillsTo sources bound := by
  unfold bind at h
  split at h
  · cases h
  · next filled htext =>
      split at h
      · next hargument =>
          cases h
          exact ⟨rfl, htext, by rw [hargument]; rfl⟩
      · next written hargument =>
          split at h
          · cases h
          · next filled' hfilled =>
              cases h
              refine ⟨rfl, htext, ?_⟩
              rw [hargument, Option.mapM_some, hfilled]
              rfl

/-- A value is missing for the text, or the text can be filled and one is missing for the
argument. -/
theorem missing_of_bind {missing : MissingValue} (h : step.bind sources = .error missing) :
    sources.fill step.text = .error missing ∨
      ∃ text argument, sources.fill step.text = .ok text ∧ step.argument = some argument ∧
        sources.fill argument = .error missing := by
  unfold bind at h
  split at h
  · next htext =>
      cases h
      exact .inl htext
  · next text htext =>
      split at h
      · cases h
      · next argument hargument =>
          split at h
          · next hmissing =>
              cases h
              exact .inr ⟨text, argument, htext, hargument, hmissing⟩
          · cases h

end Step

/-! ## The ways to end -/

/-- What a step comes to whose handler has ended so, after so many milliseconds. Disorder
is a failure, with the text that was left. -/
inductive Ending.ComesTo (time : Nat) : Ending (Option Value) → StepOutcome → Prop
  | returned {value} : ComesTo time (.returned value) (.passed value time)
  | failed {failure} : ComesTo time (.failed failure) (.failed failure (some time))
  | crashed {text} : ComesTo time (.crashed (some text))
      (.failed (.handler ("Step 핸들러 panic: " ++ text)) (some time))
  | crashedSilently : ComesTo time (.crashed none)
      (.failed (.handler "Step 핸들러 panic") (some time))

/-- These entries were added, no handler was called, and the store and the session are
what they were. -/
structure World.Untouched (w : World σ) (es : List (Entry σ)) (w' : World σ) : Prop where
  leads : w.Leads es false w'
  calls : calls es = []
  context : w'.context = w.context

/-- A handler is called once on the way from `w` to `w'`, with these groups and this step.
It is at work from `w₁` to `w₂`, finds the store and the session of `w`, and leaves those
of `w'`. -/
structure Runner.CallsOnce (r : Runner σ) (handle : Handler σ) (groups : Groups)
    (bound : BoundStep) (w : World σ) (es : List (Entry σ)) (ending : Ending (Option Value))
    (time : Nat) (w' : World σ) : Prop where
  calls : calls es = [⟨groups, bound, w.context⟩]
  work : ∃ start w₁ w₂ finish, w.Leads start false w₁ ∧ w₁.context = w.context ∧
    (handle groups bound).run r.reporter w₁ = (ending, w₂) ∧ time = w₂.clock - w₁.clock ∧
    w₂.Leads finish false w' ∧ w'.context = w₂.context

/-- The registry has no part in what becomes of the step. -/
def Runner.Unconsulted (r : Runner σ) (step : Step) (w : World σ) : Prop :=
  ∀ registry, { r with registry }.runStep step w = r.runStep step w

/-- How a step that is begun in the world `w` may end: with which result, in which world,
and with which entries added to the history. -/
inductive Runner.StepEnds (r : Runner σ) (step : Step) (w : World σ)
    (es : List (Entry σ)) : StepResult × World σ → Prop
  | textMissing {missing w'} : (r.sources w).fill step.text = .error missing →
      r.Unconsulted step w → w.Untouched es w' →
      StepEnds r step w es (⟨step.verbatim, .failed (.missingValue missing) none⟩, w')
  | argumentMissing {text argument missing w'} : (r.sources w).fill step.text = .ok text →
      step.argument = some argument → (r.sources w).fill argument = .error missing →
      r.Unconsulted step w → w.Untouched es w' →
      StepEnds r step w es (⟨step.verbatim, .failed (.missingValue missing) none⟩, w')
  | undefined {bound w'} : step.FillsTo (r.sources w) bound →
      (∀ d ∈ r.registry.definitions, d.takes bound.text = false) → w.Untouched es w' →
      StepEnds r step w es (⟨bound, .failed (.undefinedStep bound) none⟩, w')
  | called {bound before d after groups ending time outcome w'} :
      step.FillsTo (r.sources w) bound →
      r.registry.definitions = before ++ d :: after →
      (∀ d' ∈ before, d'.takes bound.text = false) → d.takes bound.text = true →
      groups = (d.groups? bound.text).getD Groups.empty →
      r.CallsOnce d.handle groups bound w es ending time w' → ending.ComesTo time outcome →
      StepEnds r step w es (⟨bound, outcome⟩, w')

namespace World.Untouched

variable {w w₁ w₂ w₃ : World σ} {es fs : List (Entry σ)}

theorem trans (h : w₁.Untouched es w₂) (h' : w₂.Untouched fs w₃) :
    w₁.Untouched (es ++ fs) w₃ where
  leads := h.leads.andThen h'.leads
  calls := by rw [calls_append, h.calls, h'.calls, List.append_nil]
  context := h'.context.trans h.context

theorem record (w : World σ) {e : Entry σ} (hcancel : e.isCancel = false)
    (hcall : e.call? = none) : w.Untouched [e] (w.record e) :=
  ⟨w.leads_record hcancel, List.filterMap_cons_none hcall, rfl⟩

end World.Untouched

namespace Runner

variable (r : Runner σ)

open World

theorem untouched_emit (w : World σ) (event : Event) :
    ∃ es, w.Untouched es (r.emit event w) := by
  obtain ⟨ts, hts, hleads⟩ := r.leads_emit w event
  refine ⟨_, hleads, ?_, w.context_send _ _ _⟩
  exact (List.filterMap_cons_none rfl).trans hts.handlings.callless.1

theorem untouched_announce (w : World σ) (l : LogRecord) (event : Event) :
    ∃ es, w.Untouched es (r.emit event (w.log l)) := by
  obtain ⟨es, hes⟩ := r.untouched_emit (w.log l) event
  exact ⟨_, (Untouched.record w rfl rfl).trans hes⟩

theorem untouched_failStep (step : BoundStep) (failure : Failure) (time : Option Nat)
    (w : World σ) : ∃ es, w.Untouched es (r.failStep step failure time w).2 :=
  r.untouched_announce w _ _

theorem untouched_passStep (step : BoundStep) (value : Option Value) (time : Nat)
    (w : World σ) : ∃ es, w.Untouched es (r.passStep step value time w).2 :=
  r.untouched_announce w _ _

/-! ## The step itself -/

/-- The world in which the start of a step has been told. -/
def stepStarted (step : Step) (bound : BoundStep) (w : World σ) : World σ :=
  r.emit (.stepStarted bound.text)
    ((w.record (.binding step w.context.store)).log (.stepStarted bound.text))

variable {r} {step : Step} {w : World σ}

theorem runStep_of_missing {missing : MissingValue}
    (h : step.bind (r.sources w) = .error missing) :
    r.runStep step w = r.failStep step.verbatim (.missingValue missing) none
      (r.emit (.stepStarted step.text) (w.record (.binding step w.context.store))) := by
  have hbind : step.bind (r.sources (w.record (.binding step w.context.store))) =
      .error missing := h
  simp only [runStep, hbind]

theorem runStep_of_undefined {bound : BoundStep} {failure : Failure}
    (h : step.bind (r.sources w) = .ok bound)
    (hresolve : r.registry.resolve bound = .error failure) :
    r.runStep step w = r.failStep bound failure none (r.stepStarted step bound w) := by
  have hbind : step.bind (r.sources (w.record (.binding step w.context.store))) =
      .ok bound := h
  simp only [runStep, hbind, hresolve]
  rfl

/-- The end of a step of which the handler has ended. -/
def endStep (r : Runner σ) (bound : BoundStep) (time : Nat) (ending : Ending (Option Value))
    (w : World σ) : StepResult × World σ :=
  match ending with
  | .returned value => r.passStep bound value time w
  | .failed failure => r.failStep bound failure (some time) w
  | .crashed text => r.failStep bound (.ofCrash text) (some time) w

theorem runStep_of_found {bound : BoundStep} {d : StepDefinition σ} {groups : Groups}
    (h : step.bind (r.sources w) = .ok bound)
    (hresolve : r.registry.resolve bound = .ok (d, groups)) :
    r.runStep step w =
      let w₀ := r.stepStarted step bound w
      let x := r.callHandler d.handle groups bound w₀
      r.endStep bound (x.2.clock - w₀.clock) x.1 x.2 := by
  have hbind : step.bind (r.sources (w.record (.binding step w.context.store))) =
      .ok bound := h
  simp only [runStep, hbind, hresolve]
  rfl

theorem endStep_comesTo (r : Runner σ) (bound : BoundStep) (time : Nat)
    (ending : Ending (Option Value)) (w : World σ) :
    ∃ outcome es, (r.endStep bound time ending w).1 = ⟨bound, outcome⟩ ∧
      ending.ComesTo time outcome ∧ w.Untouched es (r.endStep bound time ending w).2 := by
  cases ending with
  | returned value =>
      obtain ⟨es, hes⟩ := r.untouched_passStep bound value time w
      exact ⟨_, es, rfl, .returned, hes⟩
  | failed failure =>
      obtain ⟨es, hes⟩ := r.untouched_failStep bound failure (some time) w
      exact ⟨_, es, rfl, .failed, hes⟩
  | crashed text =>
      obtain ⟨es, hes⟩ := r.untouched_failStep bound (.ofCrash text) (some time) w
      cases text with
      | none => exact ⟨_, es, rfl, .crashedSilently, hes⟩
      | some text => exact ⟨_, es, rfl, .crashed, hes⟩

theorem untouched_stepStarted (r : Runner σ) (step : Step) (bound : BoundStep) (w : World σ) :
    ∃ es, w.Untouched es (r.stepStarted step bound w) := by
  obtain ⟨es, hes⟩ := r.untouched_announce (w.record (.binding step w.context.store))
    (.stepStarted bound.text) (.stepStarted bound.text)
  exact ⟨_, (Untouched.record w rfl rfl).trans hes⟩

theorem runStep_unconsulted {missing : MissingValue}
    (h : step.bind (r.sources w) = .error missing) : r.Unconsulted step w := by
  intro registry
  have h' : step.bind (Runner.sources { r with registry } w) = .error missing := h
  rw [runStep_of_missing h, runStep_of_missing h']
  rfl

theorem untouched_of_missing {missing : MissingValue}
    (h : step.bind (r.sources w) = .error missing) :
    ∃ es, w.Untouched es (r.runStep step w).2 := by
  obtain ⟨es, hes⟩ := r.untouched_emit (w.record (.binding step w.context.store))
    (.stepStarted step.text)
  obtain ⟨fs, hfs⟩ := r.untouched_failStep step.verbatim (.missingValue missing) none
    (r.emit (.stepStarted step.text) (w.record (.binding step w.context.store)))
  rw [runStep_of_missing h]
  exact ⟨_, ((Untouched.record w rfl rfl).trans hes).trans hfs⟩

theorem stepEnds_of_found {bound : BoundStep} {before after : List (StepDefinition σ)}
    {d : StepDefinition σ} (h : step.bind (r.sources w) = .ok bound)
    (hsplit : r.registry.definitions = before ++ d :: after)
    (hbefore : ∀ d' ∈ before, d'.takes bound.text = false) (htakes : d.takes bound.text = true)
    (hresolve : r.registry.resolve bound = .ok (d, (d.groups? bound.text).getD Groups.empty)) :
    ∃ es, (r.runStep step w).2.history = w.history ++ es ∧
      r.StepEnds step w es (r.runStep step w) := by
  let groups := (d.groups? bound.text).getD Groups.empty
  let w₀ := r.stepStarted step bound w
  let called : Entry σ := .called groups bound w₀.context w₀.cancelled
  let w₁ := w₀.record called
  let x := (d.handle groups bound).run r.reporter w₁
  let ended : Entry σ := .ended x.2.context
  obtain ⟨es, hes⟩ := r.untouched_stepStarted step bound w
  obtain ⟨hs, hhs, hrun⟩ := (d.handle groups bound).leads_run r.reporter w₁
  obtain ⟨outcome, fs, hresult, hcomes, hfs⟩ :=
    r.endStep_comesTo bound (x.2.clock - w₁.clock) x.1 (x.2.record ended)
  have hend : r.runStep step w = (⟨bound, outcome⟩,
      (r.endStep bound (x.2.clock - w₁.clock) x.1 (x.2.record ended)).2) := by
    rw [runStep_of_found h hresolve]
    exact Prod.ext hresult rfl
  -- the step is begun, the handler is at work from `w₁` to `x.2`, and then the end is told
  have hbegin : w.Leads (es ++ [called]) false w₁ := hes.leads.andThen (leads_record _ rfl)
  have hfinish := (x.2.leads_record (e := ended) rfl).andThen hfs.leads
  refine ⟨es ++ [called] ++ hs ++ ([ended] ++ fs), ?_, ?_⟩
  · rw [hend]
    exact ((hbegin.andThen hrun).andThen hfinish).history
  · rw [hend]
    refine .called (Step.fillsTo_of_bind h) hsplit hbefore htakes rfl ⟨?_, ?_⟩ hcomes
    · simp only [calls_append, hes.calls, hhs.callless.1, hfs.calls, ← hes.context]
      rfl
    · exact ⟨_, w₁, x.2, _, hbegin, hes.context, rfl, rfl, hfinish, hfs.context⟩

theorem exists_stepEnds (r : Runner σ) (step : Step) (w : World σ) :
    ∃ es, (r.runStep step w).2.history = w.history ++ es ∧
      r.StepEnds step w es (r.runStep step w) := by
  cases hbind : step.bind (r.sources w) with
  | error missing =>
      obtain ⟨es, hes⟩ := untouched_of_missing hbind
      have hresult : (r.runStep step w).1 =
          ⟨step.verbatim, .failed (.missingValue missing) none⟩ := by
        rw [runStep_of_missing hbind]
        rfl
      refine ⟨es, hes.leads.history, ?_⟩
      rw [← Prod.eta (r.runStep step w), hresult]
      obtain htext | ⟨text, argument, htext, hargument, hmissing⟩ := Step.missing_of_bind hbind
      · exact .textMissing htext (runStep_unconsulted hbind) hes
      · exact .argumentMissing htext hargument hmissing (runStep_unconsulted hbind) hes
  | ok bound =>
      obtain ⟨hnone, hresolve⟩ | ⟨before, d, after, hsplit, hbefore, htakes, hresolve⟩ :=
        r.registry.resolve_cases bound
      · obtain ⟨es, hes⟩ := r.untouched_stepStarted step bound w
        obtain ⟨fs, hfs⟩ := r.untouched_failStep bound (.undefinedStep bound) none
          (r.stepStarted step bound w)
        rw [runStep_of_undefined hbind hresolve]
        exact ⟨_, (hes.trans hfs).leads.history,
          .undefined (Step.fillsTo_of_bind hbind) hnone (hes.trans hfs)⟩
      · exact stepEnds_of_found hbind hsplit hbefore htakes hresolve

end Runner

/-! ## What is told of it -/

theorem Handlings.fst_of_mem_events {es : List (Entry σ)} (h : Handlings es) :
    ∀ e ∈ events es, e.1 = .handler := by
  intro e he
  obtain ⟨entry, hentry, hevent⟩ := List.mem_filterMap.mp he
  have hhandling := h entry hentry
  cases entry with
  | sent sender event =>
      cases hevent
      cases sender with
      | runner => cases hhandling
      | handler => rfl
  | _ => cases hevent

theorem StepEnd.events_eq {step : BoundStep} {outcome : StepOutcome} {es : List (Entry σ)}
    (h : StepEnd step outcome es) :
    ∃ last, (StepResult.mk step outcome).events = [.stepStarted step.text, last] ∧
      events es = [(.runner, last)] := by
  cases h with
  | passed hts => exact ⟨_, rfl, congrArg (_ :: ·) hts.events_eq⟩
  | failed hts => exact ⟨_, rfl, congrArg (_ :: ·) hts.events_eq⟩

/-- Between the two events of a step there are those that its handler sends. -/
theorem StepCourse.events_eq {c : Bool} {step : Step} {result : StepResult}
    {es : List (Entry σ)} (h : StepCourse c step result es) :
    ∃ first mid last, result.events = [first, last] ∧
      events es = (.runner, first) :: mid ++ [(.runner, last)] ∧
      ∀ e ∈ mid, e.1 = .handler := by
  cases h with
  | unbound hts hend =>
      obtain ⟨last, hevents, hes⟩ := hend.events_eq
      refine ⟨_, [], last, hevents, ?_, by simp⟩
      rw [events_append, hes]
      exact congrArg (_ :: · ++ _) hts.events_eq
  | undefined _ hts hend =>
      obtain ⟨last, hevents, hes⟩ := hend.events_eq
      refine ⟨_, [], last, hevents, ?_, by simp⟩
      rw [events_append, hes]
      exact congrArg (_ :: · ++ _) hts.events_eq
  | @called _ bound ts groups context hs context' _ es _ hts hhs hend =>
      obtain ⟨last, hevents, hes⟩ := hend.events_eq
      refine ⟨_, events hs, last, hevents, ?_, hhs.fst_of_mem_events⟩
      have hended : events (.ended context' :: es) = [(.runner, last)] := hes
      rw [events_append, events_append, hended]
      show (_ :: events ts) ++ events hs ++ _ = _
      rw [hts.events_eq]
      rfl

/-- A step ends in one of six ways, and whichever it is, the runner tells of the step
twice: first of all that it starts, and last of all how it has ended, both by the text
that the result has. -/
theorem Runner.runStep_ends (r : Runner σ) (step : Step) (w : World σ) :
    ∃ es first mid last, (r.runStep step w).2.history = w.history ++ es ∧
      (r.runStep step w).1.events = [first, last] ∧
      events es = (.runner, first) :: mid ++ [(.runner, last)] ∧
      (∀ e ∈ mid, e.1 = .handler) ∧
      r.StepEnds step w es (r.runStep step w) := by
  obtain ⟨es, hhistory, hends⟩ := r.exists_stepEnds step w
  obtain ⟨fs, hcourse, hleads⟩ := r.runStep_course step w
  obtain rfl : es = fs := List.append_cancel_left (hhistory.symm.trans hleads.history)
  obtain ⟨first, mid, last, hresult, hevents, hmid⟩ := hcourse.events_eq
  exact ⟨es, first, mid, last, hhistory, hresult, hevents, hmid, hends⟩

end Stepwise
