import Stepwise.Proofs.Cancellation
import Stepwise.Proofs.Reading
import Stepwise.Proofs.Settled

/-!
# A cancelled run starts nothing any more

Before the runner tells that a feature, a scenario or a step begins it has looked at
the token, and nothing lies between the two but a record of its own. So whatever
begins, begins before the token is cancelled. Of what has begun a step may still be
under way. It is brought to its end and that is told, but there is only one: before
its start the token was not cancelled, and nothing was told since then.

So of every start and every end of a step one can say what came before it
(`Runner.Heeded`), and that this holds for all of a run is the induction over courses
that explanations have in common. What did not begin is found in the results as left
out, since the results tell what began.

The next run finds the token cancelled at the first feature that is not marked, and
leaves out everything.
-/

namespace Stepwise

variable {σ : Type}

/-! ## Starts and ends -/

/-- A feature or a scenario begins. -/
def Event.startsUnit : Event → Bool
  | .featureStarted _ | .scenarioStarted _ => true
  | _ => false

/-- A feature, a scenario or a step begins. -/
def Event.isStart : Event → Bool
  | .stepStarted _ => true
  | event => event.startsUnit

theorem isStart_of_startsUnit {event : Event} (h : event.startsUnit = true) :
    event.isStart = true := by
  cases event <;> first | rfl | cases h

def Event.isStepEnd : Event → Bool
  | .stepPassed _ | .stepFailed .. => true
  | _ => false

/-- The units of the tree that were not left out, by the events with which they
begin. -/
def ScenarioResult.started (r : ScenarioResult) : List Event :=
  if r.skipped then [] else [.scenarioStarted r.scenario.displayName]

def FeatureResult.started (r : FeatureResult) : List Event :=
  if r.skipped then []
  else .featureStarted r.feature.name :: r.scenarios.flatMap ScenarioResult.started

def RunResult.started (r : RunResult) : List Event := r.features.flatMap FeatureResult.started

/-! ## What began is found in the tree -/

theorem startsUnit_eq_false_of_mem_events {r : StepResult} {event : Event} (h : event ∈ r.events) :
    event.startsUnit = false := by
  rw [StepResult.events] at h
  split at h
  · cases h
  · rcases List.mem_pair.mp h with rfl | rfl <;> rfl
  · rcases List.mem_pair.mp h with rfl | rfl <;> rfl

theorem startsUnit_eq_false_of_mem_attemptEvents {s : Scenario} {k : Nat}
    {results : List StepResult} {event : Event} (h : event ∈ s.attemptEvents k results) :
    event.startsUnit = false := by
  rcases List.mem_append.mp h with h | h
  · split at h
    · cases h
    · obtain rfl := List.mem_singleton.mp h
      rfl
  · obtain ⟨r, -, hr⟩ := List.mem_flatMap.mp h
    exact startsUnit_eq_false_of_mem_events hr

theorem ScenarioResult.Tells.started_eq {r : ScenarioResult} {events : List Event}
    (h : r.Tells events) : events.filter Event.startsUnit = r.started := by
  unfold ScenarioResult.Tells at h
  unfold ScenarioResult.started
  split at h
  · next hskip => rw [if_pos hskip, h, List.filter_nil]
  · next hran =>
      obtain ⟨n, attempt, -, -, -, -, rfl⟩ := h
      have hattempts : ((List.range (n + 1)).flatMap fun k =>
          r.scenario.attemptEvents k (attempt k)).filter Event.startsUnit = [] := by
        refine List.filter_eq_nil_iff.mpr fun event hevent => ?_
        obtain ⟨k, -, hk⟩ := List.mem_flatMap.mp hevent
        simp [startsUnit_eq_false_of_mem_attemptEvents hk]
      rw [if_neg hran, List.filter_cons_of_pos rfl, hattempts]

theorem filter_flatten_of_tells {β : Type} {Tells : β → List Event → Prop}
    {started : β → List Event}
    (hone : ∀ b events, Tells b events → events.filter Event.startsUnit = started b)
    {bs : List β} {parts : List (List Event)} (h : List.Forall₂ Tells bs parts) :
    parts.flatten.filter Event.startsUnit = bs.flatMap started := by
  induction h with
  | nil => rfl
  | cons hfirst _ ih =>
      rw [List.flatten_cons, List.filter_append, hone _ _ hfirst, ih, List.flatMap_cons]

theorem FeatureResult.Tells.started_eq {r : FeatureResult} {events : List Event}
    (h : r.Tells events) : events.filter Event.startsUnit = r.started := by
  unfold FeatureResult.Tells at h
  unfold FeatureResult.started
  split at h
  · next hskip => rw [if_pos hskip, h, List.filter_nil]
  · next hran =>
      obtain ⟨parts, htells, rfl⟩ := h
      rw [if_neg hran, List.filter_cons_of_pos rfl,
        filter_flatten_of_tells (fun _ _ h => h.started_eq) htells]

theorem RunResult.Tells.started_eq {r : RunResult} {events : List Event}
    (h : r.Tells events) : events.filter Event.startsUnit = r.started := by
  obtain ⟨parts, htells, rfl⟩ := h
  exact filter_flatten_of_tells (fun _ _ h => h.started_eq) htells

theorem ownEvents_eq_of_ownNotices {es : List (Entry σ)} {events : List Event}
    {result : RunResult} (h : ownNotices es = events.map .progress ++ [.report result]) :
    ownEvents es = events := by
  have hown : ∀ e : Entry σ, e.ownNotice?.bind Notice.event? = e.ownEvent? := by
    intro e
    cases e with
    | sent sender event => cases sender <;> rfl
    | _ => rfl
  have hevents : ownEvents es = (ownNotices es).filterMap Notice.event? := by
    rw [ownEvents, ownNotices, List.filterMap_filterMap]
    exact congrArg (es.filterMap ·) (funext fun e => (hown e).symm)
  rw [hevents, h, List.filterMap_append, List.filterMap_map]
  simp [Function.comp_def, Notice.event?]

/-- What begins in a run are the units that are not left out in its results. -/
theorem Runner.started_run (r : Runner σ) {features : List Feature} {w : World σ}
    {es : List (Entry σ)} (hes : (r.run features w).2.history = w.history ++ es) :
    (ownEvents es).filter Event.startsUnit = (r.run features w).1.started := by
  obtain ⟨events, hsaid, htells⟩ := r.run_tells_of_history hes
  rw [ownEvents_eq_of_ownNotices hsaid]
  exact htells.started_eq

/-! ## What came before starts and ends -/

namespace Runner

variable {r : Runner σ} {c : Bool} {done : List (Entry σ)}

/-- A step was started, with the token looked at before, and the runner has told
nothing since. -/
def Underway (r : Runner σ) (c : Bool) (done : List (Entry σ)) : Prop :=
  ∃ start text rest, done = start ++ .sent .runner (.stepStarted text) :: rest ∧
    r.heeds (tokenAfter c start) = false ∧ ownEvents rest = []

/-- Starts come where the token is not found cancelled, and the end of a step while it
is under way. -/
def Heeded (r : Runner σ) (c : Bool) (done : List (Entry σ)) : Entry σ → Prop
  | .sent .runner event =>
    (event.isStart = true → r.heeds (tokenAfter c done) = false) ∧
      (event.isStepEnd = true → r.Underway c done)
  | _ => True

/-- Where the runner tells nothing there is nothing to explain. -/
theorem explained_of_ownEvents {es : List (Entry σ)} (h : ownEvents es = []) :
    Explained (r.Heeded c) done es := by
  refine explained_of_forall fun e he _ => ?_
  have hown := List.filterMap_eq_nil_iff.mp h e he
  cases e with
  | sent sender event =>
      cases sender with
      | runner => cases hown
      | handler => trivial
  | _ => trivial

theorem heeded_stepCourse {step : Step} {result : StepResult} {es : List (Entry σ)}
    (hnot : r.heeds (tokenAfter c done) = false)
    (h : StepCourse (tokenAfter c done) step result es) :
    Explained (r.Heeded c) done es := by
  obtain ⟨first, text, mid, event, ts, rfl, hfirst, hquiet, hmid, hts, hevent⟩ :=
    h.told_twice
  have hbegin : r.heeds (tokenAfter c (done ++ first)) = false := by
    rw [tokenAfter_append, tokenAfter, hfirst, Bool.or_false, hnot]
  have hunder : r.Underway c (done ++ (first ++ .sent .runner (.stepStarted text) :: mid)) :=
    ⟨done ++ first, text, mid, by simp, hbegin, hmid⟩
  have hstart : event.isStart = false := by
    rcases hevent with ⟨-, rfl⟩ | ⟨-, message, rfl⟩ <;> rfl
  rw [explained_append, explained_append]
  refine ⟨⟨explained_of_ownEvents hquiet, ⟨fun _ => hbegin, fun h => absurd h Bool.false_ne_true⟩,
    explained_of_ownEvents hmid⟩, ⟨fun h => ?_, fun _ => hunder⟩, explained_of_ownEvents hts⟩
  rw [hstart] at h
  cases h

theorem heeded_retryCourse {s : Scenario} {number : Nat} {es : List (Entry σ)}
    (h : RetryCourse s number es) : Explained (r.Heeded c) done es := by
  obtain ⟨hts, hws⟩ := h
  have hwaits : Handlings _ := fun e he => by
    obtain ⟨ms, rfl⟩ := hws e he
    rfl
  rw [explained_append]
  exact ⟨⟨trivial, ⟨nofun, nofun⟩, explained_of_ownEvents hts.handlings.ownEvents_eq⟩,
    explained_of_ownEvents hwaits.ownEvents_eq⟩

theorem heeded_explains : r.Explains c (r.Heeded c) where
  handling {done e} h := by
    have hquiet : Handlings [e] := by simpa [Handlings] using h
    exact (explained_of_ownEvents hquiet.ownEvents_eq).1
  logged := trivial
  reported := trivial
  featureSent hnot := ⟨fun _ => hnot, nofun⟩
  scenarioSent hnot := ⟨fun _ => hnot, nofun⟩
  stepCourse hnot h := heeded_stepCourse hnot h
  retryCourse _ _ h := heeded_retryCourse h

end Runner

/-! ## After the cancellation -/

section Cancelled

variable {r : Runner σ} {c : Bool} {before after : List (Entry σ)}
  (h : Explained (r.Heeded c) [] (before ++ after))
  (hheeds : r.heeds (tokenAfter c before) = true)

include h hheeds

theorem not_isStart_of_heeds : ∀ event ∈ ownEvents after, event.isStart = false := by
  intro event hevent
  cases hstart : event.isStart with
  | false => rfl
  | true =>
      obtain ⟨mid, rest, rfl⟩ := List.append_of_mem (mem_ownEvents.mp hevent)
      rw [← List.append_assoc] at h
      have hnot := h.at.1 hstart
      rw [List.nil_append, tokenAfter_append, Runner.heeds_tokenAfter_of_heeds hheeds] at hnot
      cases hnot

/-- Behind the end of a step there is no other one. -/
theorem not_isStepEnd_of_heeds {l₁ l₂ : List Event} {event : Event}
    (hafter : ownEvents after = l₁ ++ event :: l₂) (hend : event.isStepEnd = true) :
    ∀ event' ∈ l₂, event'.isStepEnd = false := by
  intro event' hevent'
  cases hend' : event'.isStepEnd with
  | false => rfl
  | true =>
      obtain ⟨us, vs, rfl, rfl⟩ := split_of_ownEvents hafter
      obtain ⟨mid, rest, rfl⟩ := List.append_of_mem (mem_ownEvents.mp hevent')
      rw [← List.cons_append, ← List.append_assoc, ← List.append_assoc] at h
      -- the second step was started behind the end of the first one
      obtain ⟨start, text, quiet, heq, hbegin, hquiet⟩ := h.at.2 hend'
      have hnone : Entry.sent .runner event ∉ quiet := by
        rw [← mem_ownEvents, hquiet]
        exact List.not_mem_nil
      have hnot := Runner.not_heeds_before heq hbegin (by rintro ⟨⟩; cases hend) hnone
      rw [tokenAfter_append, Runner.heeds_tokenAfter_of_heeds hheeds] at hnot
      cases hnot

end Cancelled

theorem countP_le_one {α : Type} {p : α → Bool} {l : List α}
    (h : ∀ l₁ a l₂, l = l₁ ++ a :: l₂ → p a = true → ∀ b ∈ l₂, p b = false) :
    l.countP p ≤ 1 := by
  induction l with
  | nil => exact Nat.zero_le 1
  | cons a rest ih =>
      rw [List.countP_cons]
      cases ha : p a with
      | false => exact ih fun l₁ b l₂ hrest => h (a :: l₁) b l₂ (congrArg (a :: ·) hrest)
      | true =>
          have hnone : rest.countP p = 0 :=
            List.countP_eq_zero.mpr fun b hb => by simp [h [] a rest rfl ha b hb]
          rw [hnone]
          exact Nat.le_refl 1

/-! ## What is left out -/

/-- If the feature was left out, or a scenario of it, then so was all that is
below. -/
structure FeatureResult.LeftWhole (r : FeatureResult) : Prop where
  feature : r.skipped = true → r = FeatureResult.skip r.feature
  scenarios : ∀ s ∈ r.scenarios, s.skipped = true → s = ScenarioResult.skip s.scenario

section Courses

variable {r : Runner σ} {c : Bool} {es : List (Entry σ)} {cut : Bool}

theorem ScenarioCourse.leftWhole {s : Scenario} {result : ScenarioResult}
    (h : ScenarioCourse r c s result es cut) (hskip : result.skipped = true) :
    result = ScenarioResult.skip result.scenario := by
  cases h with
  | marked => rfl
  | cut => rfl
  | ran => cases hskip

theorem FeatureCourse.leftWhole {f : Feature} {result : FeatureResult}
    (h : FeatureCourse r c f result es cut) : result.LeftWhole := by
  have hleft : (FeatureResult.skip f).LeftWhole := by
    refine ⟨fun _ => rfl, fun s hs _ => ?_⟩
    obtain ⟨scenario, -, rfl⟩ := List.mem_map.mp hs
    rfl
  cases h with
  | marked => exact hleft
  | cut => exact hleft
  | ran _ _ _ hscenarios =>
      exact ⟨nofun, hscenarios.forall_mem ScenarioCourse.leftWhole⟩

theorem ScenarioCourse.of_heeds {s : Scenario} {result : ScenarioResult}
    (h : ScenarioCourse r c s result es cut) (hheeds : r.heeds c = true) :
    result = ScenarioResult.skip s ∧ es = [] ∧ cut = !s.skip := by
  cases h with
  | marked hskip => exact ⟨rfl, rfl, by simp [hskip]⟩
  | cut hskip _ => exact ⟨rfl, rfl, by simp [hskip]⟩
  | ran _ hnot =>
      rw [hheeds] at hnot
      cases hnot

theorem FeatureCourse.of_heeds {f : Feature} {result : FeatureResult}
    (h : FeatureCourse r c f result es cut) (hheeds : r.heeds c = true) :
    result = FeatureResult.skip f ∧ es = [.logged (.featureSkipped f.name)] ∧
      cut = !f.skip := by
  cases h with
  | marked hskip => exact ⟨rfl, rfl, by simp [hskip]⟩
  | cut hskip _ => exact ⟨rfl, rfl, by simp [hskip]⟩
  | ran _ hnot =>
      rw [hheeds] at hnot
      cases hnot

theorem Courses.of_heeds {fs : List Feature} {results : List FeatureResult}
    (h : Courses (FeatureCourse r) c fs results es cut) (hheeds : r.heeds c = true) :
    results = fs.map FeatureResult.skip ∧
      es = (fs.map fun f => .logged (.featureSkipped f.name)) ∧
      cut = fs.any fun f => !f.skip := by
  induction h with
  | nil => exact ⟨rfl, rfl, rfl⟩
  | cons hfirst _ ih =>
      obtain ⟨rfl, rfl, rfl⟩ := hfirst.of_heeds hheeds
      obtain ⟨rfl, rfl, rfl⟩ := ih (Runner.heeds_tokenAfter_of_heeds hheeds)
      exact ⟨rfl, rfl, rfl⟩

end Courses

/-! ## Runs -/

namespace Runner

variable (r : Runner σ)

open World

/-- A run that begins with the token cancelled does nothing. -/
theorem run_of_heeds {features : List Feature} {w : World σ} {es : List (Entry σ)}
    (hes : (r.run features w).2.history = w.history ++ es)
    (hheeds : r.heeds w.cancelled = true) :
    events es = [] ∧ calls es = [] ∧ (r.run features w).2.context = w.context ∧
      (r.run features w).1.features = features.map FeatureResult.skip ∧
      ((r.run features w).1.error = some .cancelled ↔ ∃ f ∈ features, f.skip = false) := by
  obtain ⟨results, fs, cut, time, ts, hfs, hresult, hts, hhistory⟩ := r.run_course features w
  obtain ⟨rfl, rfl, rfl⟩ := hfs.of_heeds hheeds
  obtain rfl := List.append_cancel_left (hes.symm.trans hhistory)
  -- what is left in the history are records and the report
  have hquiet : ∀ e ∈ (features.map fun f => Entry.logged (.featureSkipped f.name)) ++
      .reported (r.run features w).1 :: ts,
      e.event? = none ∧ e.call? = none ∧ e.ending? = none := by
    intro e he
    rcases List.mem_append.mp he with he | he
    · obtain ⟨f, -, rfl⟩ := List.mem_map.mp he
      exact ⟨rfl, rfl, rfl⟩
    · rcases List.mem_cons.mp he with rfl | he
      · exact ⟨rfl, rfl, rfl⟩
      · have htelling := hts e he
        cases e <;> first | exact ⟨rfl, rfl, rfl⟩ | cases htelling
  refine ⟨List.filterMap_eq_nil_iff.mpr fun e he => (hquiet e he).1,
    List.filterMap_eq_nil_iff.mpr fun e he => (hquiet e he).2.1, ?_, ?_, ?_⟩
  · obtain ⟨es, hes', hcontext, -⟩ := r.settled_run features w
    obtain rfl := List.append_cancel_left (hes.symm.trans hes')
    have hnone : endings _ = [] :=
      List.filterMap_eq_nil_iff.mpr fun e he => (hquiet e he).2.2
    rw [hcontext, contextAfter, hnone, List.getLastD_nil]
  · rw [hresult]
    rfl
  · rw [hresult]
    cases hcut : features.any fun f => !f.skip with
    | true => simpa [RunResult.ofFeatures] using hcut
    | false => simpa [RunResult.ofFeatures] using hcut

/-- Once the token is cancelled, the runner tells of no start any more and of at most
one end of a step. All that is not left out in the results had begun by then, and
what is left out is left out as a whole. A run that begins with the token cancelled
sends nothing, calls nobody and changes nothing, and it has an error exactly if there
is a feature without a mark. -/
theorem run_stops_of_cancelled (features : List Feature) (w : World σ) :
    ∃ es, (r.run features w).2.history = w.history ++ es ∧
      (∀ before after, es = before ++ after →
        r.heeds (tokenAfter w.cancelled before) = true →
        (∀ event ∈ ownEvents after, event.isStart = false) ∧
          (ownEvents after).countP Event.isStepEnd ≤ 1 ∧
          (ownEvents before).filter Event.startsUnit = (r.run features w).1.started ∧
          r.heeds (r.run features w).2.cancelled = true) ∧
      (r.run features w).1.Mirrors features ∧
      (∀ f ∈ (r.run features w).1.features, f.LeftWhole) ∧
      (r.heeds w.cancelled = true →
        events es = [] ∧ calls es = [] ∧ (r.run features w).2.context = w.context ∧
          (r.run features w).1.features = features.map FeatureResult.skip ∧
          ((r.run features w).1.error = some .cancelled ↔
            ∃ f ∈ features, f.skip = false)) := by
  obtain ⟨es, hes⟩ := r.run_adds features w
  obtain ⟨results, fs, cut, time, ts, hfs, hresult, -, -⟩ := r.run_course features w
  refine ⟨es, hes, ?_, ?_, ?_, r.run_of_heeds hes⟩
  · rintro before after rfl hheeds
    have hheeded := heeded_explains.run hes
    have hstarts := not_isStart_of_heeds hheeded hheeds
    refine ⟨hstarts, ?_, ?_, ?_⟩
    · exact countP_le_one fun _ _ _ hafter => not_isStepEnd_of_heeds hheeded hheeds hafter
    · have hnone : (ownEvents after).filter Event.startsUnit = [] := by
        refine List.filter_eq_nil_iff.mpr fun event hevent hunit => ?_
        have hstart := hstarts event hevent
        rw [isStart_of_startsUnit hunit] at hstart
        cases hstart
      rw [← r.started_run hes, ownEvents_append, List.filter_append, hnone, List.append_nil]
    · rw [r.run_cancelled hes, tokenAfter_append]
      exact heeds_tokenAfter_of_heeds hheeds
  · rw [hresult]
    exact ⟨hfs.map_eq FeatureCourse.feature_eq, hfs.forall_mem FeatureCourse.mirrors⟩
  · rw [hresult]
    exact hfs.forall_mem FeatureCourse.leftWhole

/-- An observer that cancels the run on being told that the first step starts: this step
is brought to its end, and the second feature is left out. -/
example :
    let run := (single (.recorder fun told => told.length == 3) (.done none)).run
      [singleStep 1, singleStep 1] (World.ofContext ⟨Store.empty, ()⟩)
    ownEvents run.2.history = [.featureStarted "f", .scenarioStarted "s", .stepStarted "x",
        .stepPassed "x"] ∧
      run.1.features.map FeatureResult.skipped = [false, true] := by
  decide +kernel

end Runner

end Stepwise
