import Stepwise.Proofs.Course

/-!
# The attempts at a scenario

The loop that tries a scenario counts down what is left and throws every attempt
away but the last. To speak of the others, this file gives them names: each
attempt has a world in which it begins and one in which it ends, and the next
one begins where the one before has ended, after the announcement and the wait.
These are defined for every number, whether or not the loop comes to it.

`tryScenario_eq_finish` then says how far the loop comes: to the first attempt
that does not fail, or to the last one allowed. `exists_tries` leads back from a
result in the tree of a run to the world in which its first attempt began.
-/

namespace Stepwise

variable {σ : Type}

namespace World

/-- What has happened in `w` has happened in `w'` as well, and before the rest. -/
def Before (w w' : World σ) : Prop := w.history <+: w'.history

theorem Before.refl (w : World σ) : w.Before w := List.prefix_rfl

theorem Before.trans {w₁ w₂ w₃ : World σ} (h : w₁.Before w₂) (h' : w₂.Before w₃) :
    w₁.Before w₃ := List.IsPrefix.trans h h'

theorem Leads.before {w w' : World σ} {es : List (Entry σ)} {cut : Bool}
    (h : w.Leads es cut w') : w.Before w' := ⟨es, h.history.symm⟩

end World

section InTurn

variable {α β : Type} {one : α → World σ → β × World σ}

theorem before_inTurn (hone : ∀ a (w : World σ), w.Before (one a w).2) (as : List α) :
    ∀ w : World σ, w.Before (inTurn one as w).2 := by
  induction as with
  | nil => exact World.Before.refl
  | cons a rest ih => exact fun w => (hone a w).trans (ih (one a w).2)

/-- Each result of several units is the result of one of them. -/
theorem exists_of_mem_inTurn (hone : ∀ a (w : World σ), w.Before (one a w).2) {b : β}
    (as : List α) :
    ∀ w : World σ, b ∈ (inTurn one as w).1 →
      ∃ a w₁, w.Before w₁ ∧ b = (one a w₁).1 ∧
        (one a w₁).2.Before (inTurn one as w).2 := by
  induction as with
  | nil => exact fun w h => absurd h List.not_mem_nil
  | cons a rest ih =>
      intro w h
      rcases List.mem_cons.mp h with rfl | h
      · exact ⟨a, w, World.Before.refl w, rfl, before_inTurn hone rest (one a w).2⟩
      · obtain ⟨a', w₁, hbefore, hb, hafter⟩ := ih (one a w).2 h
        exact ⟨a', w₁, (hone a w).trans hbefore, hb, hafter⟩

end InTurn

/-- An attempt that begins with the run cancelled does nothing, and if there was
something to do, it does not pass. -/
theorem AttemptCourse.of_heeds {r : Runner σ} {name : String} {c : Bool}
    {steps : List Step} {attempt : Attempt} {es : List (Entry σ)}
    (h : AttemptCourse r name c steps attempt es) (hheeds : r.heeds c = true) :
    attempt.failed = false ∧ attempt.steps = steps.map StepResult.skip ∧
      (steps ≠ [] → attempt.success = false) := by
  cases h with
  | done => exact ⟨rfl, rfl, fun hne => absurd rfl hne⟩
  | interrupted _ => exact ⟨rfl, rfl, fun _ => rfl⟩
  | passed hnot => rw [hheeds] at hnot; cases hnot
  | failed hnot => rw [hheeds] at hnot; cases hnot

theorem AttemptCourse.ne_nil_of_failed {r : Runner σ} {name : String} {c : Bool}
    {steps : List Step} {attempt : Attempt} {es : List (Entry σ)}
    (h : AttemptCourse r name c steps attempt es) (hfailed : attempt.failed = true) :
    steps ≠ [] := by
  rintro rfl
  cases h
  cases hfailed

namespace Runner

variable (r : Runner σ)

open World

/-! ## Attempts by number -/

/-- The world in which an attempt begins that has `k` attempts before it, if the
first one begins in `w`. -/
def worldBefore (s : Scenario) (w : World σ) : Nat → World σ
  | 0 => w
  | k + 1 =>
    r.prepareRetry s (k + 2) (r.runSteps s.displayName s.steps (worldBefore s w k)).2

/-- The attempt that has `k` attempts before it. -/
def attemptAt (s : Scenario) (w : World σ) (k : Nat) : Attempt :=
  (r.runSteps s.displayName s.steps (r.worldBefore s w k)).1

/-- The world in which that attempt ends. -/
def worldAfter (s : Scenario) (w : World σ) (k : Nat) : World σ :=
  (r.runSteps s.displayName s.steps (r.worldBefore s w k)).2

theorem worldBefore_succ (s : Scenario) (w : World σ) (k : Nat) :
    r.worldBefore s w (k + 1) = r.prepareRetry s (k + 2) (r.worldAfter s w k) := rfl

theorem attemptAt_course (s : Scenario) (w : World σ) (k : Nat) :
    ∃ es, AttemptCourse r s.displayName (r.worldBefore s w k).cancelled s.steps
        (r.attemptAt s w k) es ∧
      (r.worldBefore s w k).Leads es (r.attemptAt s w k).interrupted
        (r.worldAfter s w k) :=
  r.runSteps_course s.displayName s.steps (r.worldBefore s w k)

theorem finishScenario_fst (s : Scenario) (attempt : Attempt) (tries time : Nat)
    (w : World σ) :
    (finishScenario s attempt tries time w).1 =
      ⟨s, attempt.steps, attempt.success, false, tries, some time⟩ := rfl

/-- The loop makes the attempts one after another, up to the first one that does
not fail or the last one allowed, and keeps that one. -/
theorem tryScenario_eq_finish (s : Scenario) (begun : Nat) (w : World σ) :
    ∀ left k, left + k + 1 = s.limit →
      ∃ n, k ≤ n ∧ n < s.limit ∧
        (∀ j, k ≤ j → j < n → (r.attemptAt s w j).failed = true) ∧
        ((r.attemptAt s w n).failed = false ∨ n + 1 = s.limit) ∧
        r.tryScenario s begun left (r.worldBefore s w k) =
          finishScenario s (r.attemptAt s w n) (n + 1)
            ((r.worldAfter s w n).clock - begun) (r.worldAfter s w n) := by
  intro left
  induction left with
  | zero =>
      intro k hk
      refine ⟨k, Nat.le_refl k, by omega, fun j h h' => by omega, .inr (by omega), ?_⟩
      rw [r.tryScenario_last (.inr rfl), show s.limit - 0 = k + 1 by omega]
      rfl
  | succ left ih =>
      intro k hk
      cases hfailed : (r.attemptAt s w k).failed with
      | false =>
          refine ⟨k, Nat.le_refl k, by omega, fun j h h' => by omega, .inl hfailed, ?_⟩
          rw [r.tryScenario_last (.inl hfailed),
            show s.limit - (left + 1) = k + 1 by omega]
          rfl
      | true =>
          obtain ⟨n, hkn, hn, hbefore, hlast, heq⟩ := ih (k + 1) (by omega)
          refine ⟨n, by omega, hn, fun j h h' => ?_, hlast, ?_⟩
          · rcases Nat.eq_or_lt_of_le h with rfl | h
            · exact hfailed
            · exact hbefore j h h'
          · rw [r.tryScenario_again hfailed, show s.limit - (left + 1) + 1 = k + 2 by omega]
            exact heq

/-- The loop from its beginning. -/
theorem exists_kept (s : Scenario) (begun : Nat) (w : World σ) :
    ∃ n, n < s.limit ∧ (∀ k < n, (r.attemptAt s w k).failed = true) ∧
      ((r.attemptAt s w n).failed = false ∨ n + 1 = s.limit) ∧
      r.tryScenario s begun (s.limit - 1) w =
        finishScenario s (r.attemptAt s w n) (n + 1)
          ((r.worldAfter s w n).clock - begun) (r.worldAfter s w n) := by
  have hlimit : 1 ≤ s.limit := Nat.le_max_right _ _
  obtain ⟨n, -, hn, hearlier, hlast, heq⟩ :=
    r.tryScenario_eq_finish s begun w (s.limit - 1) 0 (by omega)
  exact ⟨n, hn, fun k => hearlier k (Nat.zero_le k), hlast, heq⟩

/-- The world in which the first attempt begins, if the scenario is begun in `w`. -/
def worldStarted (s : Scenario) (w : World σ) : World σ :=
  r.emit (.scenarioStarted s.displayName)
    ((r.checkCancelled w).2.log (.scenarioStarted s.displayName s.limit))

theorem before_worldStarted (s : Scenario) (w : World σ) : w.Before (r.worldStarted s w) := by
  obtain ⟨ts, -, hsaid⟩ := r.leads_announce (r.checkCancelled w).2
    (.scenarioStarted s.displayName s.limit) (.scenarioStarted s.displayName)
  exact ((r.leads_checkCancelled w).trans hsaid).before

theorem runScenario_of_heeds {s : Scenario} {w : World σ} (hskip : s.skip = false)
    (h : r.heeds w.cancelled = true) :
    r.runScenario s w = (ScenarioResult.skip s, (r.checkCancelled w).2) := by
  simp only [runScenario]
  rw [hskip, checkCancelled_fst, h]
  rfl

theorem runScenario_of_not_heeds {s : Scenario} {w : World σ} (hskip : s.skip = false)
    (h : r.heeds w.cancelled = false) :
    r.runScenario s w =
      r.tryScenario s (r.worldStarted s w).clock (s.limit - 1) (r.worldStarted s w) := by
  simp only [runScenario]
  rw [hskip, checkCancelled_fst, h]
  rfl

/-! ## From a result back to its first attempt -/

theorem before_runScenario (s : Scenario) (w : World σ) :
    w.Before (r.runScenario s w).2 := by
  obtain ⟨es, cut, -, hleads⟩ := r.runScenario_course s w
  exact hleads.before

theorem before_runFeature (f : Feature) (w : World σ) :
    w.Before (r.runFeature f w).2 := by
  obtain ⟨es, cut, -, hleads⟩ := r.runFeature_course f w
  exact hleads.before

/-- A scenario that was not left out was tried. -/
theorem runScenario_eq_tryScenario {s : Scenario} {w : World σ}
    (h : (r.runScenario s w).1.skipped = false) :
    ∃ w₀, w.Before w₀ ∧
      r.runScenario s w = r.tryScenario s w₀.clock (s.limit - 1) w₀ := by
  refine ⟨r.worldStarted s w, r.before_worldStarted s w, ?_⟩
  cases hskip : s.skip with
  | true =>
      rw [show r.runScenario s w = (ScenarioResult.skip s, w) from if_pos hskip] at h
      cases h
  | false =>
      cases hstart : r.heeds w.cancelled with
      | true =>
          rw [r.runScenario_of_heeds hskip hstart] at h
          cases h
      | false => exact r.runScenario_of_not_heeds hskip hstart

/-- A feature that was not left out has the results of its scenarios. -/
theorem runFeature_eq_runScenarios {f : Feature} {w : World σ}
    (h : (r.runFeature f w).1.skipped = false) :
    ∃ w₁, w.Before w₁ ∧
      (r.runFeature f w).1.scenarios = (r.runScenarios f.scenarios w₁).1 ∧
      (r.runFeature f w).2 = (r.runScenarios f.scenarios w₁).2 := by
  have hlook := r.leads_checkCancelled w
  simp only [runFeature] at h ⊢
  split at h
  · cases h
  · next hskip =>
      rw [if_neg hskip]
      split at h
      · cases h
      · next hcancelled =>
          rw [if_neg hcancelled]
          obtain ⟨ts, -, hsaid⟩ := r.leads_announce (r.checkCancelled w).2
            (.featureStarted f.name f.scenarios.length) (.featureStarted f.name)
          exact ⟨_, (hlook.trans hsaid).before, rfl, rfl⟩

/-- Behind every scenario in the tree of a run that was not left out there are
attempts, and what happened from the first of them to the last happened in that
run. -/
theorem exists_tries {features : List Feature} {w : World σ} {f : FeatureResult}
    {s : ScenarioResult} (hf : f ∈ (r.run features w).1.features)
    (hrun : f.skipped = false) (hs : s ∈ f.scenarios) (htried : s.skipped = false) :
    ∃ w₀, w.Before w₀ ∧
      (r.tryScenario s.scenario w₀.clock (s.scenario.limit - 1) w₀).2.Before
        (r.run features w).2 ∧
      s = (r.tryScenario s.scenario w₀.clock (s.scenario.limit - 1) w₀).1 := by
  change f ∈ (r.runFeatures features { w with cutShort := false }).1 at hf
  rw [runFeatures_eq_inTurn] at hf
  obtain ⟨feature, w₁, hw₁, rfl, hafter₁⟩ :=
    exists_of_mem_inTurn r.before_runFeature features _ hf
  obtain ⟨w₂, hw₂, hscenarios, hworld⟩ := r.runFeature_eq_runScenarios hrun
  rw [hscenarios, runScenarios_eq_inTurn] at hs
  obtain ⟨scenario, w₃, hw₃, rfl, hafter₂⟩ :=
    exists_of_mem_inTurn r.before_runScenario feature.scenarios _ hs
  obtain ⟨w₀, hw₀, heq⟩ := r.runScenario_eq_tryScenario htried
  obtain ⟨ts, -, hreport⟩ := leads_report
    (r.runFeatures features { w with cutShort := false }).2 r.reporter (r.run features w).1
  obtain ⟨es, cut, hcourse, -⟩ := r.runScenario_course scenario w₃
  rw [← runFeatures_eq_inTurn] at hafter₁
  rw [← runScenarios_eq_inTurn, ← hworld, heq] at hafter₂
  rw [hcourse.scenario_eq]
  exact ⟨w₀, ((hw₁.trans hw₂).trans hw₃).trans hw₀,
    (hafter₂.trans hafter₁).trans hreport.before, congrArg Prod.fst heq⟩

end Runner

end Stepwise
