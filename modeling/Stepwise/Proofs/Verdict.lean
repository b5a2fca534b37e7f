import Stepwise.Proofs.Course

/-!
# What the verdict of a run says

The success of a run is put together bottom-up by three rules: an attempt passes
if no step failed and none was left out, a feature passes if all its scenarios
have that were not left out, and a run passes if all features have and the run
has no error. A unit that was left out counts as passed. So the tree alone does
not say that everything was run; the error has to.

It does, because a unit is left out for two reasons only, and the tree tells
them apart. A unit that is marked is left out by that mark. Everything else that
is left out is a cut: a feature or a scenario without a mark, or the rest of an
attempt in which no step has failed. The runner leaves a cut where it finds the
token cancelled and nowhere else (`run_error_of_hasCut`), and with that a run is
green exactly if all that is not marked was run and passed
(`run_success_iff_passed`).

Handlers and observers may cancel whenever they are called. Between two looks at
the token that find nothing the runner always sends an event, so there is no
moment at which a run could be cancelled and none of them could have done it.
-/

namespace Stepwise

variable {σ : Type}

/-! ## The shape of a tree -/

/-- A result for every step of the scenario, in order. -/
def ScenarioResult.Mirrors (r : ScenarioResult) : Prop :=
  (r.steps.map fun step => step.step.step) = r.scenario.steps

/-- A result for every scenario of the feature, in order. -/
def FeatureResult.Mirrors (r : FeatureResult) : Prop :=
  r.scenarios.map ScenarioResult.scenario = r.feature.scenarios ∧
    ∀ s ∈ r.scenarios, s.Mirrors

/-- A result for every feature, in order. -/
def RunResult.Mirrors (r : RunResult) (features : List Feature) : Prop :=
  r.features.map FeatureResult.feature = features ∧ ∀ f ∈ r.features, f.Mirrors

/-! ## What passed and what was cut -/

/-- The scenario is marked, or all its steps were run and passed. -/
def ScenarioResult.Passed (r : ScenarioResult) : Prop :=
  r.scenario.skip = false →
    r.skipped = false ∧ ∀ step ∈ r.steps, step.success = true

/-- The feature is marked, or it was run and its scenarios have passed. -/
def FeatureResult.Passed (r : FeatureResult) : Prop :=
  r.feature.skip = false → r.skipped = false ∧ ∀ s ∈ r.scenarios, s.Passed

/-- A scenario that was left out without a mark, or that has steps that were left
out though none failed. -/
def ScenarioResult.isCut (r : ScenarioResult) : Bool :=
  if r.skipped then !r.scenario.skip
  else r.steps.any StepResult.skipped && r.steps.all fun step => step.failure?.isNone

/-- A feature that was left out without a mark, or one with such a scenario. -/
def FeatureResult.hasCut (r : FeatureResult) : Bool :=
  if r.skipped then !r.feature.skip else r.scenarios.any ScenarioResult.isCut

def RunResult.hasCut (r : RunResult) : Bool := r.features.any FeatureResult.hasCut

/-! ## Steps and attempts -/

theorem StepEnd.not_skipped {step bound : BoundStep} {outcome : StepOutcome}
    {es : List (Entry σ)} (h : StepEnd step outcome es) :
    (StepResult.mk bound outcome).skipped = false := by
  cases h <;> rfl

theorem StepEnd.isNone_failure? {step bound : BoundStep} {outcome : StepOutcome}
    {es : List (Entry σ)} (h : StepEnd step outcome es) :
    (StepResult.mk bound outcome).failure?.isNone =
      (StepResult.mk bound outcome).success := by
  cases h <;> rfl

theorem StepCourse.step_eq {c : Bool} {step : Step} {result : StepResult}
    {es : List (Entry σ)} (h : StepCourse c step result es) :
    result.step.step = step := by
  cases h with
  | unbound => rfl
  | undefined hstep => exact hstep
  | called hstep => exact hstep

/-- A step that is run is not left out. -/
theorem StepCourse.not_skipped {c : Bool} {step : Step} {result : StepResult}
    {es : List (Entry σ)} (h : StepCourse c step result es) :
    result.skipped = false := by
  cases h with
  | unbound => rfl
  | undefined => rfl
  | called _ _ _ hend => exact hend.not_skipped

/-- A step that is run has passed or has a failure. -/
theorem StepCourse.isNone_failure? {c : Bool} {step : Step} {result : StepResult}
    {es : List (Entry σ)} (h : StepCourse c step result es) :
    result.failure?.isNone = result.success := by
  cases h with
  | unbound => rfl
  | undefined => rfl
  | called _ _ _ hend => exact hend.isNone_failure?

theorem map_step_skip (steps : List Step) :
    ((steps.map StepResult.skip).map fun step => step.step.step) = steps := by
  rw [List.map_map]
  exact List.map_id steps

theorem AttemptCourse.mirrors {r : Runner σ} {name : String} {c : Bool}
    {steps : List Step} {attempt : Attempt} {es : List (Entry σ)}
    (h : AttemptCourse r name c steps attempt es) :
    (attempt.steps.map fun step => step.step.step) = steps := by
  induction h with
  | done => rfl
  | interrupted _ => exact map_step_skip _
  | passed _ hstep _ _ ih =>
      simp only [Attempt.after, List.map_cons, hstep.step_eq, ih]
  | failed _ hstep _ =>
      rw [List.map_cons, hstep.step_eq, map_step_skip]

theorem success_after (attempt : Attempt) (result : StepResult) :
    (attempt.after result).success = attempt.success := rfl

/-- An attempt has passed exactly if all its steps have. -/
theorem AttemptCourse.success_iff {r : Runner σ} {name : String} {c : Bool}
    {steps : List Step} {attempt : Attempt} {es : List (Entry σ)}
    (h : AttemptCourse r name c steps attempt es) :
    attempt.success = true ↔ ∀ step ∈ attempt.steps, step.success = true := by
  induction h with
  | done => simp [Attempt.success]
  | interrupted _ => simp [Attempt.success, StepResult.skip, StepResult.success]
  | passed _ _ hpass _ ih =>
      rw [success_after, ih]
      simp [Attempt.after, hpass]
  | failed _ _ hfail => simp [Attempt.success, hfail]

/-- An attempt was interrupted exactly if steps were left out and none failed. -/
theorem AttemptCourse.interrupted_eq {r : Runner σ} {name : String} {c : Bool}
    {steps : List Step} {attempt : Attempt} {es : List (Entry σ)}
    (h : AttemptCourse r name c steps attempt es) :
    (attempt.steps.any StepResult.skipped &&
      attempt.steps.all fun step => step.failure?.isNone) = attempt.interrupted := by
  induction h with
  | done => rfl
  | interrupted _ =>
      simp [StepResult.skip, StepResult.skipped, StepResult.failure?]
  | passed _ hstep hpass _ ih =>
      rw [← hstep.isNone_failure?] at hpass
      simpa [Attempt.after, hstep.not_skipped, hpass] using ih
  | failed _ hstep hfail =>
      rw [← hstep.isNone_failure?] at hfail
      simp [hfail]

/-- What is kept of a scenario is the result of an attempt. -/
theorem TriesCourse.exists_attempt {r : Runner σ} {s : Scenario} {number : Nat}
    {c : Bool} {attempt : Attempt} {tries : Nat} {es : List (Entry σ)}
    (h : TriesCourse r s number c attempt tries es) :
    ∃ c' fs, AttemptCourse r s.displayName c' s.steps attempt fs := by
  induction h with
  | last hattempt _ => exact ⟨_, _, hattempt⟩
  | again _ _ _ _ _ ih => exact ih

/-! ## Several units -/

section Units

variable {α β : Type} {course : Bool → α → β → List (Entry σ) → Bool → Prop}
  {c : Bool} {as : List α} {bs : List β} {es : List (Entry σ)} {cut : Bool}

theorem Courses.forall_mem {P : β → Prop} (h : Courses course c as bs es cut)
    (hone : ∀ {c a b es cut}, course c a b es cut → P b) : ∀ b ∈ bs, P b := by
  induction h with
  | nil => simp
  | cons hfirst _ ih => simpa using ⟨hone hfirst, ih⟩

theorem Courses.map_eq {g : β → α} (h : Courses course c as bs es cut)
    (hone : ∀ {c a b es cut}, course c a b es cut → g b = a) : bs.map g = as := by
  induction h with
  | nil => rfl
  | cons hfirst _ ih => rw [List.map_cons, hone hfirst, ih]

/-- The run was cut short in several units if it was in one of them. -/
theorem Courses.any_eq {p : β → Bool} (h : Courses course c as bs es cut)
    (hone : ∀ {c a b es cut}, course c a b es cut → p b = cut) : bs.any p = cut := by
  induction h with
  | nil => rfl
  | cons hfirst _ ih => rw [List.any_cons, hone hfirst, ih]

/-- If of each unit two things are the same as long as the run is not cut short
in it, then so they are of several. -/
theorem Courses.forall_iff {P Q : β → Prop} (h : Courses course c as bs es cut)
    (hone : ∀ {c a b es cut}, course c a b es cut → (P b ↔ cut = false ∧ Q b)) :
    (∀ b ∈ bs, P b) ↔ cut = false ∧ ∀ b ∈ bs, Q b := by
  induction h with
  | nil => simp
  | cons hfirst _ ih =>
      simp only [List.forall_mem_cons, hone hfirst, ih, Bool.or_eq_false_iff]
      exact and_and_and_comm

end Units

/-! ## Scenarios and features -/

theorem ScenarioCourse.mirrors {r : Runner σ} {c : Bool} {s : Scenario}
    {result : ScenarioResult} {es : List (Entry σ)} {cut : Bool}
    (h : ScenarioCourse r c s result es cut) : result.Mirrors := by
  cases h with
  | marked _ => exact map_step_skip s.steps
  | cut _ _ => exact map_step_skip s.steps
  | ran _ _ _ htries =>
      obtain ⟨c', fs, hattempt⟩ := htries.exists_attempt
      exact hattempt.mirrors

theorem ScenarioCourse.isCut_eq {r : Runner σ} {c : Bool} {s : Scenario}
    {result : ScenarioResult} {es : List (Entry σ)} {cut : Bool}
    (h : ScenarioCourse r c s result es cut) : result.isCut = cut := by
  cases h with
  | marked hskip => simp [ScenarioResult.isCut, ScenarioResult.skip, hskip]
  | cut hskip _ => simp [ScenarioResult.isCut, ScenarioResult.skip, hskip]
  | ran _ _ _ htries =>
      obtain ⟨c', fs, hattempt⟩ := htries.exists_attempt
      exact hattempt.interrupted_eq

/-- A scenario has passed if the run was not cut short in it, and it counts as
passed where it was run. -/
theorem ScenarioCourse.passed_iff {r : Runner σ} {c : Bool} {s : Scenario}
    {result : ScenarioResult} {es : List (Entry σ)} {cut : Bool}
    (h : ScenarioCourse r c s result es cut) :
    result.Passed ↔
      cut = false ∧ (result.skipped = false → result.success = true) := by
  cases h with
  | marked hskip => simp [ScenarioResult.Passed, ScenarioResult.skip, hskip]
  | cut hskip _ => simp [ScenarioResult.Passed, ScenarioResult.skip, hskip]
  | @ran _ attempt _ _ _ hskip _ _ htries =>
      obtain ⟨c', fs, hattempt⟩ := htries.exists_attempt
      have hwhole : attempt.success = true → attempt.interrupted = false := by
        simp [Attempt.success]
      simp only [ScenarioResult.Passed, hskip, true_implies, true_and]
      rw [← hattempt.success_iff]
      exact ⟨fun hs => ⟨hwhole hs, hs⟩, fun hs => hs.2⟩

theorem mirrors_skip (f : Feature) : (FeatureResult.skip f).Mirrors := by
  refine ⟨?_, ?_⟩
  · simp only [FeatureResult.skip, List.map_map]
    exact List.map_id f.scenarios
  · intro s hs
    obtain ⟨scenario, -, rfl⟩ := List.mem_map.mp hs
    exact map_step_skip scenario.steps

theorem FeatureCourse.mirrors {r : Runner σ} {c : Bool} {f : Feature}
    {result : FeatureResult} {es : List (Entry σ)} {cut : Bool}
    (h : FeatureCourse r c f result es cut) : result.Mirrors := by
  cases h with
  | marked _ => exact mirrors_skip f
  | cut _ _ => exact mirrors_skip f
  | ran _ _ _ hscenarios =>
      exact ⟨hscenarios.map_eq ScenarioCourse.scenario_eq,
        hscenarios.forall_mem ScenarioCourse.mirrors⟩

theorem FeatureCourse.hasCut_eq {r : Runner σ} {c : Bool} {f : Feature}
    {result : FeatureResult} {es : List (Entry σ)} {cut : Bool}
    (h : FeatureCourse r c f result es cut) : result.hasCut = cut := by
  cases h with
  | marked hskip => simp [FeatureResult.hasCut, FeatureResult.skip, hskip]
  | cut hskip _ => simp [FeatureResult.hasCut, FeatureResult.skip, hskip]
  | ran _ _ _ hscenarios => exact hscenarios.any_eq ScenarioCourse.isCut_eq

/-- A feature that was run counts as passed if its scenarios do, save those that
were left out. -/
theorem success_ofScenarios (f : Feature) (results : List ScenarioResult)
    (time : Nat) :
    (FeatureResult.ofScenarios f results time).success = true ↔
      ∀ s ∈ results, s.skipped = false → s.success = true := by
  simp only [FeatureResult.ofScenarios, List.all_eq_true, List.mem_filter,
    Bool.not_eq_true', and_imp]

/-- A feature has passed if the run was not cut short in it, and it counts as
passed. -/
theorem FeatureCourse.passed_iff {r : Runner σ} {c : Bool} {f : Feature}
    {result : FeatureResult} {es : List (Entry σ)} {cut : Bool}
    (h : FeatureCourse r c f result es cut) :
    result.Passed ↔ cut = false ∧ result.success = true := by
  cases h with
  | marked hskip => simp [FeatureResult.Passed, FeatureResult.skip, hskip]
  | cut hskip _ => simp [FeatureResult.Passed, FeatureResult.skip, hskip]
  | ran hskip _ _ hscenarios =>
      rw [success_ofScenarios, ← hscenarios.forall_iff ScenarioCourse.passed_iff]
      exact ⟨fun h => (h hskip).2, fun h _ => ⟨rfl, h⟩⟩

/-! ## Runs -/

namespace Runner

theorem run_mirrors (r : Runner σ) (features : List Feature) (w : World σ) :
    (r.run features w).1.Mirrors features := by
  obtain ⟨results, es, cut, time, ts, hes, hresult, -⟩ := r.run_course features w
  rw [hresult]
  exact ⟨hes.map_eq FeatureCourse.feature_eq, hes.forall_mem FeatureCourse.mirrors⟩

/-- A run is green exactly if all that is not marked was run and passed. Its tree
has a result for every step, so nothing can be missing from it. -/
theorem run_success_iff_passed (r : Runner σ) (features : List Feature)
    (w : World σ) :
    (r.run features w).1.Mirrors features ∧
      ((r.run features w).1.success = true ↔
        ∀ f ∈ (r.run features w).1.features, f.Passed) := by
  obtain ⟨results, es, cut, time, ts, hes, hresult, -⟩ := r.run_course features w
  rw [hresult]
  refine ⟨⟨hes.map_eq FeatureCourse.feature_eq, hes.forall_mem FeatureCourse.mirrors⟩, ?_⟩
  simp only [RunResult.ofFeatures, hes.forall_iff FeatureCourse.passed_iff]
  cases cut <;> simp

/-- A run has the error that it was cancelled exactly if its tree has a cut, and
no other error. Without a cut the features alone decide, whether or not the token
is cancelled by then. -/
theorem run_error_of_hasCut (r : Runner σ) (features : List Feature)
    (w : World σ) :
    (r.run features w).1.error =
        (if (r.run features w).1.hasCut then some .cancelled else none) ∧
      ((r.run features w).1.hasCut = false →
        (r.run features w).1.success =
          (r.run features w).1.features.all FeatureResult.success) := by
  obtain ⟨results, es, cut, time, ts, hes, hresult, -⟩ := r.run_course features w
  have hcut : (r.run features w).1.hasCut = cut := by
    rw [hresult]
    exact hes.any_eq FeatureCourse.hasCut_eq
  rw [hcut, hresult]
  refine ⟨rfl, ?_⟩
  rintro rfl
  rfl

end Runner

end Stepwise
