import Stepwise.Proofs.Reading

/-!
# The shape of a tree of results

Whatever happens in a run, its tree has one shape. It mirrors the features, and at
every unit the parts of the result go together: a unit that was left out has only
units below it that were left out as well, a scenario that was tried has steps that
passed, then one that failed, perhaps, and then steps that were left out, and times,
failures and values are found where something was run, failed or passed
(`FeatureResult.Shaped`).

Most of it can be read off the courses of a run, rule by rule. What needs a word is
that a scenario with a failed step was tried as often as it may be, with or without
a cancellation. An attempt in which a step fails is not an interrupted one, since the
token is not looked at behind a failed step; so only the limit ends the loop there.
-/

namespace Stepwise

variable {σ : Type}

/-! ## What is found in a result -/

/-- A step has a failure if it failed, a value only if it passed, and a time if it
passed and none if it was left out. -/
structure StepResult.Shaped (r : StepResult) : Prop where
  exclusive : ¬(r.success = true ∧ r.skipped = true)
  failure : r.failure?.isSome = true ↔ r.status = .failed
  value : r.value?.isSome = true → r.status = .passed
  timed : r.status = .passed → r.time?.isSome = true
  untimed : r.time?.isSome = true → r.skipped = false

structure ScenarioResult.Shaped (r : ScenarioResult) : Prop where
  steps : ∀ x ∈ r.steps, x.Shaped
  leftOut : r.skipped = true → r.tries = 1 ∧ ∀ x ∈ r.steps, x.skipped = true
  order : r.skipped = false → ∃ passed failed left, failed ≤ 1 ∧
    r.steps.map StepResult.status = List.replicate passed .passed ++
      List.replicate failed .failed ++ List.replicate left .skipped
  success : r.skipped = false → (r.success = true ↔ ∀ x ∈ r.steps, x.status = .passed)
  tries : 1 ≤ r.tries ∧ r.tries ≤ r.scenario.limit
  exhausted : (∃ x ∈ r.steps, x.status = .failed) → r.tries = r.scenario.limit
  timed : r.time.isSome = true ↔ r.skipped = false

structure FeatureResult.Shaped (r : FeatureResult) : Prop where
  scenarios : ∀ s ∈ r.scenarios, s.Shaped
  leftOut : r.skipped = true → ∀ s ∈ r.scenarios, s.skipped = true
  timed : r.time.isSome = true ↔ r.skipped = false

/-! ## Steps -/

theorem StepResult.shaped (r : StepResult) : r.Shaped := by
  obtain ⟨step, outcome⟩ := r
  constructor <;>
    cases outcome <;>
      simp [success, skipped, failure?, value?, time?, status, Status.settled]

theorem StepResult.status_eq_passed {r : StepResult} :
    r.status = .passed ↔ r.success = true := by
  obtain ⟨step, outcome⟩ := r
  cases outcome <;> simp [success, skipped, status, Status.settled]

theorem StepResult.status_eq_failed {r : StepResult} :
    r.status = .failed ↔ r.failure?.isSome = true := r.shaped.failure.symm

theorem StepResult.status_eq_skipped {r : StepResult} :
    r.status = .skipped ↔ r.skipped = true := by
  obtain ⟨step, outcome⟩ := r
  cases outcome <;> simp [success, skipped, status, Status.settled]

theorem map_status_eq_replicate {results : List StepResult} {s : Status}
    (h : ∀ x ∈ results, x.status = s) :
    results.map StepResult.status = List.replicate results.length s := by
  rw [List.eq_replicate_iff]
  refine ⟨List.length_map _, fun status hstatus => ?_⟩
  obtain ⟨x, hx, rfl⟩ := List.mem_map.mp hstatus
  exact h x hx

/-! ## Attempts -/

section Courses

variable {r : Runner σ} {c : Bool} {es : List (Entry σ)}

theorem AttemptCourse.statuses {name : String} {steps : List Step} {attempt : Attempt}
    (h : AttemptCourse r name c steps attempt es) :
    ∃ passed failed left, failed ≤ 1 ∧ attempt.steps.map StepResult.status =
      List.replicate passed .passed ++ List.replicate failed .failed ++
        List.replicate left .skipped := by
  obtain ⟨passed, failed, left, heq, hpassed, hfailed, hleft⟩ := h.order
  have hp := map_status_eq_replicate fun x hx => StepResult.status_eq_passed.mpr (hpassed x hx)
  have hl := map_status_eq_replicate fun x hx => StepResult.status_eq_skipped.mpr (hleft x hx)
  have hf : failed.toList.map StepResult.status =
      List.replicate failed.toList.length .failed := by
    refine map_status_eq_replicate fun x hx => StepResult.status_eq_failed.mpr ?_
    exact hfailed x (Option.mem_toList.mp hx)
  refine ⟨passed.length, failed.toList.length, left.length, Option.length_toList_le, ?_⟩
  rw [heq, List.map_append, List.map_append, hp, hf, hl]

/-- An attempt with a failed step is one that failed. -/
theorem AttemptCourse.failed_of_mem {name : String} {steps : List Step}
    {attempt : Attempt} (h : AttemptCourse r name c steps attempt es) {x : StepResult}
    (hx : x ∈ attempt.steps) (hfail : x.failure?.isSome = true) :
    attempt.failed = true := by
  have hskip : ∀ steps : List Step, x ∉ steps.map StepResult.skip := by
    intro steps hmem
    obtain ⟨step, -, rfl⟩ := List.mem_map.mp hmem
    cases hfail
  induction h with
  | done => cases hx
  | interrupted _ => exact absurd hx (hskip _)
  | passed _ hstep hpass _ ih =>
      rcases List.mem_cons.mp hx with rfl | hx
      · rw [← hstep.isNone_failure?] at hpass
        rw [Option.isNone_iff_eq_none.mp hpass] at hfail
        cases hfail
      · exact ih hx
  | failed _ _ _ => rfl

/-- The number of the last attempt. -/
theorem TriesCourse.bounds {s : Scenario} {number tries : Nat} {attempt : Attempt}
    (h : TriesCourse r s number c attempt tries es) (hnumber : number ≤ s.limit) :
    number ≤ tries ∧ tries ≤ s.limit ∧ (attempt.failed = true → tries = s.limit) := by
  induction h with
  | last _ hend =>
      refine ⟨Nat.le_refl _, hnumber, fun hfailed => ?_⟩
      rcases hend with hnot | hlimit
      · rw [hfailed] at hnot
        cases hnot
      · exact hlimit
  | again _ _ hlt _ _ ih =>
      obtain ⟨hlower, hupper, hexhausted⟩ := ih hlt
      exact ⟨by omega, hupper, hexhausted⟩

/-! ## Scenarios and features -/

theorem shaped_skip (s : Scenario) : (ScenarioResult.skip s).Shaped := by
  have hskipped : ∀ x ∈ (ScenarioResult.skip s).steps, x.skipped = true :=
    List.forall_mem_map.mpr fun _ _ => rfl
  have hlimit : 1 ≤ s.limit := Nat.le_max_right _ _
  constructor
  case steps => exact fun x _ => x.shaped
  case leftOut => exact fun _ => ⟨rfl, hskipped⟩
  case order => exact fun h => absurd h.symm Bool.false_ne_true
  case success => exact fun h => absurd h.symm Bool.false_ne_true
  case tries => exact ⟨Nat.le_refl 1, hlimit⟩
  case exhausted =>
    rintro ⟨x, hx, hfailed⟩
    rw [StepResult.status_eq_skipped.mpr (hskipped x hx)] at hfailed
    cases hfailed
  case timed => simp [ScenarioResult.skip]

theorem ScenarioCourse.shaped {s : Scenario} {result : ScenarioResult} {cut : Bool}
    (h : ScenarioCourse r c s result es cut) : result.Shaped := by
  cases h with
  | marked => exact shaped_skip s
  | cut => exact shaped_skip s
  | ran _ _ _ htries =>
      obtain ⟨c', fs, hattempt⟩ := htries.exists_attempt
      obtain ⟨hlower, hupper, hexhausted⟩ := htries.bounds (Nat.le_max_right _ _)
      constructor
      case steps => exact fun x _ => x.shaped
      case leftOut => exact fun h => absurd h Bool.false_ne_true
      case order => exact fun _ => hattempt.statuses
      case success =>
        intro _
        simp only [StepResult.status_eq_passed]
        exact hattempt.success_iff
      case tries => exact ⟨hlower, hupper⟩
      case exhausted =>
        -- a failed step is in a failed attempt, and that one was the last one allowed
        rintro ⟨x, hx, hfailed⟩
        exact hexhausted (hattempt.failed_of_mem hx (StepResult.status_eq_failed.mp hfailed))
      case timed => simp

theorem FeatureCourse.shaped {f : Feature} {result : FeatureResult} {cut : Bool}
    (h : FeatureCourse r c f result es cut) : result.Shaped := by
  have hleft : (FeatureResult.skip f).Shaped := by
    refine ⟨List.forall_mem_map.mpr fun s _ => shaped_skip s, fun _ => ?_,
      by simp [FeatureResult.skip]⟩
    exact List.forall_mem_map.mpr fun _ _ => rfl
  cases h with
  | marked => exact hleft
  | cut => exact hleft
  | ran _ _ _ hscenarios =>
      refine ⟨hscenarios.forall_mem ScenarioCourse.shaped,
        fun h => absurd h Bool.false_ne_true, ?_⟩
      simp [FeatureResult.ofScenarios]

end Courses

/-! ## Runs -/

/-- The tree of a run has a result for every feature, scenario and step, in order,
each with what it is a result of, and in every result the parts go together. -/
theorem Runner.run_shaped (r : Runner σ) (features : List Feature) (w : World σ) :
    (r.run features w).1.Mirrors features ∧
      ∀ f ∈ (r.run features w).1.features, f.Shaped := by
  obtain ⟨results, es, cut, time, ts, hes, hresult, -⟩ := r.run_course features w
  refine ⟨r.run_mirrors features w, ?_⟩
  rw [hresult]
  exact hes.forall_mem FeatureCourse.shaped

end Stepwise
