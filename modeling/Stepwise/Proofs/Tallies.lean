import Stepwise.Proofs.Verdict

/-!
# What the summary of a run counts

The summary and the verdict are put together by different rules. The summary counts, and a
scenario below a feature that was left out counts as left out whatever its result says. The
verdict looks at flags: a feature that was left out counts as passed, a scenario that was
left out has no part in it, and an error overrules them all.

That the two agree is not true of any tree whatever. It is of the trees of runs, because
there a feature that was left out has the flag of one that passed, and the flag of a feature
that was run says whether one of its scenarios failed (`FeatureResult.Judged`). So a feature
has failed exactly if it has a failed scenario to show for it, and then the numbers cannot
disagree.
-/

namespace Stepwise

variable {σ : Type}

/-! ## Counting -/

/-- The tally of units that ended in these ways. -/
def Tally.ofStatuses (ss : List Status) : Tally :=
  ⟨ss.count .passed, ss.count .failed, ss.count .skipped, ss.length⟩

instance : Add Tally :=
  ⟨fun s t => ⟨s.passed + t.passed, s.failed + t.failed, s.skipped + t.skipped,
    s.total + t.total⟩⟩

instance : Add Summary := ⟨fun s t => ⟨s.features + t.features, s.scenarios + t.scenarios⟩⟩

/-- As what the scenarios of a feature count. -/
def FeatureResult.scenarioStatuses (f : FeatureResult) : List Status :=
  f.scenarios.map fun s => if f.skipped then .skipped else s.status

namespace Tally

theorem ofStatuses_append (ss ts : List Status) :
    ofStatuses (ss ++ ts) = ofStatuses ss + ofStatuses ts := by
  simp only [ofStatuses, List.count_append, List.length_append]
  rfl

theorem count_ofStatuses (ss : List Status) (skipped success : Bool) :
    (ofStatuses ss).count skipped success =
      ofStatuses (ss ++ [Status.settled success skipped]) := by
  cases skipped <;> cases success <;>
    simp [count, ofStatuses, Status.settled, List.count_append]

theorem foldl_count {α : Type} (skipped success : α → Bool) (xs : List α) :
    ∀ ss : List Status,
      xs.foldl (fun t x => t.count (skipped x) (success x)) (ofStatuses ss) =
        ofStatuses (ss ++ xs.map fun x => Status.settled (success x) (skipped x)) := by
  induction xs with
  | nil => simp
  | cons x rest ih =>
      intro ss
      rw [List.foldl_cons, count_ofStatuses, ih, List.append_assoc]
      rfl

/-- Nothing is counted twice, and nothing that was done with is forgotten. -/
theorem ofStatuses_accounts {ss : List Status}
    (h : ∀ s ∈ ss, ∃ success skipped, s = Status.settled success skipped) :
    (ofStatuses ss).passed + (ofStatuses ss).failed + (ofStatuses ss).skipped =
      (ofStatuses ss).total := by
  induction ss with
  | nil => rfl
  | cons s rest ih =>
      obtain ⟨⟨success, skipped, rfl⟩, hrest⟩ := List.forall_mem_cons.mp h
      have hcounts := ih hrest
      simp only [ofStatuses, List.count_cons, List.length_cons] at hcounts ⊢
      cases skipped <;> cases success <;> simp [Status.settled] <;> omega

end Tally

theorem FeatureResult.settled_of_mem_scenarioStatuses {f : FeatureResult} {status : Status}
    (h : status ∈ f.scenarioStatuses) :
    ∃ success skipped, status = Status.settled success skipped := by
  obtain ⟨s, -, rfl⟩ := List.mem_map.mp h
  split
  · exact ⟨true, true, rfl⟩
  · exact ⟨s.success, s.skipped, rfl⟩

theorem Summary.count_ofStatuses (ss ts : List Status) (f : FeatureResult) :
    Summary.count ⟨.ofStatuses ss, .ofStatuses ts⟩ f =
      ⟨.ofStatuses (ss ++ [f.status]), .ofStatuses (ts ++ f.scenarioStatuses)⟩ := by
  rw [Summary.count, Tally.count_ofStatuses, Tally.foldl_count]
  congr 3
  refine List.map_congr_left fun s _ => ?_
  cases hf : f.skipped <;> simp [ScenarioResult.status, Status.settled]

/-- The summary of some results is the tally of their statuses. -/
theorem RunResult.summary_eq (r : RunResult) :
    r.summary = ⟨.ofStatuses (r.features.map FeatureResult.status),
      .ofStatuses (r.features.flatMap FeatureResult.scenarioStatuses)⟩ := by
  have hfold : ∀ (fs : List FeatureResult) (ss ts : List Status),
      fs.foldl Summary.count ⟨.ofStatuses ss, .ofStatuses ts⟩ =
        ⟨.ofStatuses (ss ++ fs.map FeatureResult.status),
          .ofStatuses (ts ++ fs.flatMap FeatureResult.scenarioStatuses)⟩ := by
    intro fs
    induction fs with
    | nil => simp
    | cons f rest ih =>
        intro ss ts
        rw [List.foldl_cons, Summary.count_ofStatuses, ih]
        simp
  exact hfold r.features [] []

theorem RunResult.summary_append (r : RunResult) (xs ys : List FeatureResult) :
    { r with features := xs ++ ys }.summary =
      { r with features := xs }.summary + { r with features := ys }.summary := by
  simp only [RunResult.summary_eq, List.map_append, List.flatMap_append,
    Tally.ofStatuses_append]
  rfl

/-! ## Flags and statuses -/

/-- The flags of a feature fit the statuses of its scenarios. -/
structure FeatureResult.Judged (f : FeatureResult) : Prop where
  failed : f.status = .failed ↔ .failed ∈ f.scenarioStatuses
  success : f.success = true ↔ f.status ≠ .failed

theorem Status.settled_eq_failed {success skipped : Bool} :
    settled success skipped = .failed ↔ skipped = false ∧ success = false := by
  cases skipped <;> cases success <;> simp [settled]

theorem judged_skip (f : Feature) : (FeatureResult.skip f).Judged := by
  have hstatus : (FeatureResult.skip f).status ≠ .failed := by
    simp [FeatureResult.status, FeatureResult.skip, Status.settled]
  have hleft : .failed ∉ (FeatureResult.skip f).scenarioStatuses := by
    intro h
    obtain ⟨s, -, hs⟩ := List.mem_map.mp h
    cases hs
  exact ⟨iff_of_false hstatus hleft, iff_of_true rfl hstatus⟩

theorem judged_ofScenarios (f : Feature) (results : List ScenarioResult) (time : Nat) :
    (FeatureResult.ofScenarios f results time).Judged := by
  have hsuccess := success_ofScenarios f results time
  have hstatus : (FeatureResult.ofScenarios f results time).status = .failed ↔
      (FeatureResult.ofScenarios f results time).success = false :=
    Status.settled_eq_failed.trans (and_iff_right rfl)
  have hshown : .failed ∈ (FeatureResult.ofScenarios f results time).scenarioStatuses ↔
      ∃ s ∈ results, s.skipped = false ∧ s.success = false := by
    simp only [← Status.settled_eq_failed]
    exact List.mem_map
  constructor
  case failed =>
    rw [hstatus, hshown, ← Bool.not_eq_true, hsuccess]
    simp
  case success => rw [Ne, hstatus, Bool.not_eq_false]

theorem FeatureCourse.judged {r : Runner σ} {c : Bool} {f : Feature}
    {result : FeatureResult} {es : List (Entry σ)} {cut : Bool}
    (h : FeatureCourse r c f result es cut) : result.Judged := by
  cases h with
  | marked => exact judged_skip f
  | cut => exact judged_skip f
  | ran => exact judged_ofScenarios f _ _

section Judged

variable {fs : List FeatureResult}

theorem count_failed_eq_zero_iff (h : ∀ f ∈ fs, f.Judged) :
    (fs.map FeatureResult.status).count .failed = 0 ↔
      (fs.flatMap FeatureResult.scenarioStatuses).count .failed = 0 := by
  rw [List.count_eq_zero, List.count_eq_zero, List.mem_map, List.mem_flatMap]
  refine not_congr ?_
  exact exists_congr fun f => and_congr_right fun hf => (h f hf).failed

theorem count_failed_le (h : ∀ f ∈ fs, f.Judged) :
    (fs.map FeatureResult.status).count .failed ≤
      (fs.flatMap FeatureResult.scenarioStatuses).count .failed := by
  induction fs with
  | nil => simp
  | cons f rest ih =>
      obtain ⟨hf, hrest⟩ := List.forall_mem_cons.mp h
      rw [List.map_cons, List.count_cons, List.flatMap_cons, List.count_append]
      have hshown : f.status = .failed → 0 < f.scenarioStatuses.count .failed :=
        fun hfailed => List.count_pos_iff.mpr (hf.failed.mp hfailed)
      have hle := ih hrest
      -- a failed feature adds one on the left, and one at least on the right
      by_cases hfailed : f.status = .failed
      · have hpos := hshown hfailed
        simp only [hfailed, beq_self_eq_true, if_true]
        omega
      · simp only [beq_iff_eq, hfailed, if_false]
        omega

theorem all_success_iff (h : ∀ f ∈ fs, f.Judged) :
    (fs.all fun f => f.success) = true ↔ (fs.map FeatureResult.status).count .failed = 0 := by
  rw [List.all_eq_true, List.count_eq_zero, List.mem_map]
  constructor
  · rintro hall ⟨f, hf, hfailed⟩
    exact (h f hf).success.mp (hall f hf) hfailed
  · intro hnone f hf
    exact (h f hf).success.mpr fun hfailed => hnone ⟨f, hf, hfailed⟩

end Judged

theorem RunResult.Mirrors.length_scenarioStatuses {r : RunResult} {features : List Feature}
    (h : r.Mirrors features) :
    (r.features.flatMap FeatureResult.scenarioStatuses).length =
      (features.flatMap fun f => f.scenarios).length := by
  obtain ⟨rfl, hfeatures⟩ := h
  rw [List.length_flatMap, List.length_flatMap, List.map_map]
  congr 1
  refine List.map_congr_left fun f hf => ?_
  rw [Function.comp_apply, ← (hfeatures f hf).1, List.length_map]
  exact List.length_map _

/-! ## Runs -/

/-- The summary of a run accounts for every feature and for every scenario that was declared,
each by its status, and it agrees with the verdict: a feature has failed only if a scenario
has, and the run was a success exactly if nothing is wrong with it as a whole and no scenario
has failed. The counts of results that are put together are the sums of the counts. -/
theorem Runner.run_summary (r : Runner σ) (features : List Feature) (w : World σ) :
    let result := (r.run features w).1
    let summary := result.summary
    (summary.features = .ofStatuses (result.features.map FeatureResult.status) ∧
      summary.scenarios =
        .ofStatuses (result.features.flatMap FeatureResult.scenarioStatuses)) ∧
    (summary.features.passed + summary.features.failed + summary.features.skipped =
        summary.features.total ∧ summary.features.total = features.length) ∧
    (summary.scenarios.passed + summary.scenarios.failed + summary.scenarios.skipped =
        summary.scenarios.total ∧
      summary.scenarios.total = (features.flatMap fun f => f.scenarios).length) ∧
    (summary.features.failed = 0 ↔ summary.scenarios.failed = 0) ∧
    summary.features.failed ≤ summary.scenarios.failed ∧
    (result.success = true ↔ result.error = none ∧ summary.scenarios.failed = 0) ∧
    ∀ xs ys, { result with features := xs ++ ys }.summary =
      { result with features := xs }.summary + { result with features := ys }.summary := by
  intro result summary
  obtain ⟨results, es, cut, time, ts, hes, hresult, -⟩ := r.run_course features w
  have hmirrors : result.Mirrors features := r.run_mirrors features w
  have hsummary : summary = _ := result.summary_eq
  have hresults : result = RunResult.ofFeatures results _ _ := hresult
  have hjudged : ∀ f ∈ result.features, f.Judged := by
    rw [hresults]
    exact hes.forall_mem FeatureCourse.judged
  have hsuccess : result.success =
      (result.error.isNone && result.features.all fun f => f.success) := by
    rw [hresults]
    rfl
  rw [hsummary]
  refine ⟨⟨rfl, rfl⟩, ⟨?_, ?_⟩, ⟨?_, ?_⟩, count_failed_eq_zero_iff hjudged,
    count_failed_le hjudged, ?_, result.summary_append⟩
  · refine Tally.ofStatuses_accounts (List.forall_mem_map.mpr fun f _ => ?_)
    exact ⟨f.success, f.skipped, rfl⟩
  · show (List.map _ _).length = _
    rw [List.length_map, ← hmirrors.1, List.length_map]
  · refine Tally.ofStatuses_accounts fun status hstatus => ?_
    obtain ⟨f, -, hf⟩ := List.mem_flatMap.mp hstatus
    exact f.settled_of_mem_scenarioStatuses hf
  · exact hmirrors.length_scenarioStatuses
  · rw [hsuccess, Bool.and_eq_true, all_success_iff hjudged, Option.isNone_iff_eq_none,
      count_failed_eq_zero_iff hjudged]
    rfl

end Stepwise
