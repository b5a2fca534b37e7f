import Stepwise.Proofs.Audience

/-!
# Marked units are as good as not there

A feature or a scenario that is marked is left out before anything is asked or told
about it. So the run goes on behind it as if it were not there, and one may as well
take the marked units away beforehand: the events, the calls and the waits are the
same, the store and the session, and the token up to the report, and the results are
those that are left when the ones of marked units are taken away (`run_unmarked`).

The one place where marked units can be seen is the log, in which a feature is said to
be left out, and of every other one it is said how many scenarios it has. So the two
runs are followed as twins whose log records are not looked at (`Entry.unlogged?`).
Since observers are told the same in both they do the same, whatever they do. Only
what they do on the report at the very end may differ, because they are told the
results there, and those of marked units are among them in one of the two. An observer
that counts them can cancel the one run and not the other
(`cancelled_of_marked_in_report`), so the token at the end is the same for observers that
take the two reports alike (`Observer.TakesAlike`).
-/

namespace Stepwise

variable {σ : Type}

/-! ## Taking marked units away -/

def Feature.unmarked (f : Feature) : Feature :=
  { f with scenarios := f.scenarios.filter fun s => !s.skip }

/-- The features without those that are marked and without the marked scenarios of
the others. -/
def unmarked (fs : List Feature) : List Feature :=
  (fs.filter fun f => !f.skip).map Feature.unmarked

def FeatureResult.unmarked (r : FeatureResult) : FeatureResult :=
  { r with
    feature := r.feature.unmarked
    scenarios := r.scenarios.filter fun s => !s.scenario.skip }

/-- The results of what is not marked. -/
def unmarkedResults (rs : List FeatureResult) : List FeatureResult :=
  (rs.filter fun r => !r.feature.skip).map FeatureResult.unmarked

/-- The marked units were left out. -/
structure FeatureResult.LeavesMarked (r : FeatureResult) : Prop where
  feature : r.feature.skip = true → r.skipped = true
  scenarios : ∀ s ∈ r.scenarios, s.scenario.skip = true → s.skipped = true

section Courses

variable {r : Runner σ} {c : Bool} {es : List (Entry σ)} {cut : Bool}

theorem ScenarioCourse.skipped_of_marked {s : Scenario} {result : ScenarioResult}
    (h : ScenarioCourse r c s result es cut) (hmarked : result.scenario.skip = true) :
    result.skipped = true := by
  cases h with
  | marked => rfl
  | cut => rfl
  | ran hskip =>
      rw [hskip] at hmarked
      cases hmarked

theorem FeatureCourse.leavesMarked {f : Feature} {result : FeatureResult}
    (h : FeatureCourse r c f result es cut) : result.LeavesMarked := by
  have hleft : (FeatureResult.skip f).LeavesMarked :=
    ⟨fun _ => rfl, List.forall_mem_map.mpr fun _ _ _ => rfl⟩
  cases h with
  | marked => exact hleft
  | cut => exact hleft
  | ran hskip _ _ hscenarios =>
      refine ⟨fun hmarked => ?_, hscenarios.forall_mem ScenarioCourse.skipped_of_marked⟩
      exact absurd (hskip.symm.trans hmarked) Bool.false_ne_true

end Courses

theorem unmarked_skip (f : Feature) :
    (FeatureResult.skip f).unmarked = FeatureResult.skip f.unmarked := by
  simp only [FeatureResult.skip, FeatureResult.unmarked, Feature.unmarked, List.filter_map]
  rfl

/-- A feature counts as passed with its marked scenarios or without them, if these
were left out. -/
theorem unmarked_ofScenarios (f : Feature) {results : List ScenarioResult} (time : Nat)
    (hmarked : ∀ s ∈ results, s.scenario.skip = true → s.skipped = true) :
    (FeatureResult.ofScenarios f results time).unmarked =
      FeatureResult.ofScenarios f.unmarked (results.filter fun s => !s.scenario.skip)
        time := by
  have hrun : results.filter (fun s => !s.skipped) =
      (results.filter fun s => !s.scenario.skip).filter fun s => !s.skipped := by
    rw [List.filter_filter]
    refine List.filter_congr fun s hs => ?_
    cases hskipped : s.skipped with
    | true => rfl
    | false =>
        cases hskip : s.scenario.skip with
        | false => rfl
        | true => exact absurd (hmarked s hs hskip) (by simp [hskipped])
  simp only [FeatureResult.ofScenarios, FeatureResult.unmarked, hrun]

/-! ## All but the log -/

def Entry.unlogged? : Entry σ → Option (Entry σ)
  | .logged _ => none
  | e => some e

/-- What has happened, log records aside. -/
def unlogged (es : List (Entry σ)) : List (Entry σ) := es.filterMap Entry.unlogged?

theorem bind_unlogged? {β : Type} {f : Entry σ → Option β} (hf : ∀ l, f (.logged l) = none)
    (e : Entry σ) : e.unlogged?.bind f = f e := by
  cases e with
  | logged l => exact (hf l).symm
  | _ => rfl

namespace World.Twin

variable {w w' : World σ}

theorem log (h : w.Twin Entry.unlogged? w') (l l' : LogRecord) :
    (w.log l).Twin Entry.unlogged? (w'.log l') := h.record rfl

theorem log_left (h : w.Twin Entry.unlogged? w') (l : LogRecord) :
    (w.log l).Twin Entry.unlogged? w' := h.record_left rfl

theorem notices_eq (h : w.Twin Entry.unlogged? w') (i : Nat) : w.notices i = w'.notices i :=
  h.filterMap_eq (bind_unlogged? fun _ => rfl) (List.nil_append _).symm
    (List.nil_append _).symm

/-- An observer does the same in both, since it has been told the same. -/
theorem tell (h : w.Twin Entry.unlogged? w') (i : Nat) (o : Observer) (event : Event) :
    (w.tell i o (.progress event)).Twin Entry.unlogged? (w'.tell i o (.progress event)) := by
  have htold : (w.record (.told i w.clock (.progress event))).Twin Entry.unlogged?
      (w'.record (.told i w'.clock (.progress event))) := by
    rw [h.clock]
    exact h.record rfl
  cases o with
  | silent => exact h
  | recorder cancels =>
      simp only [World.tell]
      rw [htold.notices_eq]
      split
      · exact htold.cancel
      · exact htold
  | channel isOpen =>
      cases isOpen with
      | false => exact h
      | true => exact htold
  | logger => exact h.log _ _

theorem send (h : w.Twin Entry.unlogged? w') (reporter : Reporter) (sender : Sender)
    (event : Event) :
    (w.send reporter sender event).Twin Entry.unlogged? (w'.send reporter sender event) :=
  tellAll_related (fun o _ _ _ i h => h.tell i o event) 0 (h.record rfl)

end World.Twin

/-! ## Marked units in a run -/

open World

/-- Units in turn, of which some are marked: they are as the others in turn. -/
theorem inTurn_unmarked {α β : Type} {R : World σ → World σ → Prop}
    {one : α → World σ → β × World σ} (marked : α → Bool) (markedResult : β → Bool)
    (bare : α → α) (bareResult : β → β)
    (hresult : ∀ a w, markedResult (one a w).1 = marked a)
    (hmarked : ∀ a {w w'}, marked a = true → R w w' → R (one a w).2 w')
    (hbare : ∀ a {w w'}, marked a = false → R w w' →
      bareResult (one a w).1 = (one (bare a) w').1 ∧ R (one a w).2 (one (bare a) w').2)
    (as : List α) :
    ∀ {w w'}, R w w' →
      ((inTurn one as w).1.filter fun b => !markedResult b).map bareResult =
          (inTurn one ((as.filter fun a => !marked a).map bare) w').1 ∧
        R (inTurn one as w).2
          (inTurn one ((as.filter fun a => !marked a).map bare) w').2 := by
  induction as with
  | nil => exact fun hw => ⟨rfl, hw⟩
  | cons a rest ih =>
      intro w w' hw
      have hfirst := hresult a w
      cases ha : marked a with
      | true =>
          -- there is no such unit on the other side, where nothing is done
          have hrest := ih (hmarked a ha hw)
          rw [ha] at hfirst
          simpa [inTurn, ha, hfirst] using hrest
      | false =>
          obtain ⟨hone, hworld⟩ := hbare a ha hw
          obtain ⟨hresults, hrest⟩ := ih hworld
          rw [ha] at hfirst
          refine ⟨?_, by simpa [inTurn, ha] using hrest⟩
          simp [inTurn, ha, hfirst, hone, hresults]

namespace Runner

variable (r : Runner σ)

theorem unlogged_lockstep : r.Lockstep r (World.Twin Entry.unlogged?) :=
  r.twin_lockstep fun sender event h => h.send r.reporter sender event

theorem runScenario_of_marked {s : Scenario} (h : s.skip = true) (w : World σ) :
    r.runScenario s w = (ScenarioResult.skip s, w) := if_pos h

theorem runFeature_of_marked {f : Feature} (h : f.skip = true) (w : World σ) :
    r.runFeature f w = (FeatureResult.skip f, w.log (.featureSkipped f.name)) := if_pos h

variable {w w' : World σ}

theorem runScenarios_unmarked (ss : List Scenario) (hw : w.Twin Entry.unlogged? w') :
    ((r.runScenarios ss w).1.filter fun s => !s.scenario.skip) =
        (r.runScenarios (ss.filter fun s => !s.skip) w').1 ∧
      (r.runScenarios ss w).2.Twin Entry.unlogged?
        (r.runScenarios (ss.filter fun s => !s.skip) w').2 := by
  have hresult : ∀ (s : Scenario) (w : World σ),
      (r.runScenario s w).1.scenario.skip = s.skip := by
    intro s w
    obtain ⟨es, cut, hcourse, -⟩ := r.runScenario_course s w
    rw [hcourse.scenario_eq]
  have hall := inTurn_unmarked (R := World.Twin Entry.unlogged?) Scenario.skip
    (fun s => s.scenario.skip) id id hresult
    (fun s w w' hskip hw => by rwa [r.runScenario_of_marked hskip])
    (fun s w w' _ hw => r.unlogged_lockstep.runScenario s hw) ss hw
  rwa [List.map_id, List.map_id, ← runScenarios_eq_inTurn] at hall

/-- A feature that is not marked does the same without its marked scenarios. -/
theorem runFeature_unmarked {f : Feature} (hskip : f.skip = false)
    (hw : w.Twin Entry.unlogged? w') :
    (r.runFeature f w).1.unmarked = (r.runFeature f.unmarked w').1 ∧
      (r.runFeature f w).2.Twin Entry.unlogged? (r.runFeature f.unmarked w').2 := by
  have hsame := r.unlogged_lockstep
  have hlook := hsame.look hw
  have hskip' : f.unmarked.skip = false := hskip
  simp only [runFeature, hskip, hskip', ← hsame.looks hw]
  cases (r.checkCancelled w).1 with
  | true => exact ⟨unmarked_skip f, hlook.log _ _⟩
  | false =>
      -- the records tell different numbers of scenarios, and the events are the same
      have hbegin := hsame.emit (.featureStarted f.name)
        (hlook.log (.featureStarted f.name f.scenarios.length)
          (.featureStarted f.name f.unmarked.scenarios.length))
      obtain ⟨hresults, hscenarios⟩ := r.runScenarios_unmarked f.scenarios hbegin
      refine ⟨?_, hscenarios⟩
      let w₁ := r.emit (.featureStarted f.name)
        ((r.checkCancelled w).2.log (.featureStarted f.name f.scenarios.length))
      let x := r.runScenarios f.scenarios w₁
      obtain ⟨es, cut, hcourse, -⟩ := r.runScenarios_course f.scenarios w₁
      have hmarked := hcourse.forall_mem ScenarioCourse.skipped_of_marked
      have hbare := unmarked_ofScenarios f (x.2.clock - w₁.clock) hmarked
      refine hbare.trans ?_
      rw [hresults, hscenarios.clock, hbegin.clock]
      rfl

theorem runFeatures_unmarked (fs : List Feature) (hw : w.Twin Entry.unlogged? w') :
    unmarkedResults (r.runFeatures fs w).1 = (r.runFeatures (unmarked fs) w').1 ∧
      (r.runFeatures fs w).2.Twin Entry.unlogged? (r.runFeatures (unmarked fs) w').2 := by
  have hresult : ∀ (f : Feature) (w : World σ),
      (r.runFeature f w).1.feature.skip = f.skip := by
    intro f w
    obtain ⟨es, cut, hcourse, -⟩ := r.runFeature_course f w
    rw [hcourse.feature_eq]
  have hall := inTurn_unmarked (R := World.Twin Entry.unlogged?) Feature.skip
    (fun f => f.feature.skip) Feature.unmarked FeatureResult.unmarked hresult
    (fun f w w' hskip hw => by
      rw [r.runFeature_of_marked hskip]
      exact hw.log_left _)
    (fun f w w' hskip hw => r.runFeature_unmarked hskip hw) fs hw
  rwa [← runFeatures_eq_inTurn] at hall

end Runner

/-! ## The report -/

/-- The observer cancels the run on the one exactly if it does on the other. -/
def Observer.TakesAlike (o : Observer) (n n' : Notice) : Prop :=
  ∀ notices, o.cancelsOn (notices ++ [n]) = o.cancelsOn (notices ++ [n'])

namespace World

theorem cancelled_tellAll_of_takesAlike {n n' : Notice} {os : List Observer}
    (hos : ∀ o ∈ os, o.TakesAlike n n') {w w' : World σ} (i : Nat)
    (hcancelled : w.cancelled = w'.cancelled)
    (hnotices : ∀ j, i ≤ j → w.notices j = w'.notices j) :
    (w.tellAll n i os).cancelled = (w'.tellAll n' i os).cancelled := by
  have hsame : w.cancelsAmong n i os = w'.cancelsAmong n' i os :=
    cancelsAmong_congr fun o ho j hj => by rw [hnotices j hj, hos o ho]
  rw [cancelled_tellAll_eq, cancelled_tellAll_eq, hcancelled, hsame]

end World

/-! ## Runs -/

namespace Runner

theorem success_unmarkedResults {rs : List FeatureResult}
    (h : ∀ r ∈ rs, r.feature.skip = true → r.success = true) :
    (unmarkedResults rs).all FeatureResult.success = rs.all FeatureResult.success := by
  rw [unmarkedResults, List.all_map, List.all_filter, Bool.eq_iff_iff, List.all_eq_true,
    List.all_eq_true]
  refine forall₂_congr fun r hr => ?_
  cases hskip : r.feature.skip with
  | true => simp [h r hr hskip]
  | false => simp [FeatureResult.unmarked]

theorem conclude_unmarked (r : Runner σ) (begun : Nat) {x y : List FeatureResult × World σ}
    (hresults : unmarkedResults x.1 = y.1) (hworld : x.2.Twin Entry.unlogged? y.2)
    (hsuccess : ∀ f ∈ x.1, f.feature.skip = true → f.success = true) :
    (r.conclude begun y).1 =
      { (r.conclude begun x).1 with features := unmarkedResults x.1 } := by
  simp only [conclude, RunResult.ofFeatures, ← hresults, success_unmarkedResults hsuccess,
    hworld.clock, hworld.cutShort]

/-- A run is the same with the marked features and scenarios or without them. The
events and the calls are the same, and the store and the session; all that happens up
to the report is the same, log records aside, and so is the token. The results are those
of the units that are not marked, and the others have been left out with all that is
below them. Behind the report the token is the same too, provided that no observer
cancels on the one report and not on the other. -/
theorem run_unmarked (r : Runner σ) (features : List Feature) (w : World σ) :
    let whole := r.run features w
    let bare := r.run (unmarked features) w
    bare.1 = { whole.1 with features := unmarkedResults whole.1.features } ∧
      bare.2.context = whole.2.context ∧
      (∃ es es', whole.2.history = w.history ++ es ∧ bare.2.history = w.history ++ es' ∧
        events es = events es' ∧ calls es = calls es' ∧
        ∃ before after before' after', es = before ++ .reported whole.1 :: after ∧
          es' = before' ++ .reported bare.1 :: after' ∧
          Tellings after ∧ Tellings after' ∧ unlogged before = unlogged before' ∧
          tokenAfter w.cancelled before = tokenAfter w.cancelled before') ∧
      ((∀ o ∈ r.reporter.observers, o.TakesAlike (.report whole.1) (.report bare.1)) →
        whole.2.cancelled = bare.2.cancelled) ∧
      whole.1.Mirrors features ∧
      ∀ f ∈ whole.1.features, f.LeftWhole ∧ f.LeavesMarked := by
  intro whole bare
  let begun : World σ := { w with cutShort := false }
  let x := r.runFeatures features begun
  let y := r.runFeatures (unmarked features) begun
  obtain ⟨hresults, hworld⟩ : unmarkedResults x.1 = y.1 ∧ x.2.Twin Entry.unlogged? y.2 :=
    r.runFeatures_unmarked features (Twin.refl begun)
  obtain ⟨before, cut, hcourse, hx⟩ := r.runFeatures_course features begun
  obtain ⟨before', cut', -, hy⟩ := r.runFeatures_course (unmarked features) begun
  obtain ⟨after, hafter, hreport⟩ := leads_report x.2 r.reporter whole.1
  obtain ⟨after', hafter', hreport'⟩ := leads_report y.2 r.reporter bare.1
  have hleft : ∀ f ∈ x.1, f.LeftWhole ∧ f.LeavesMarked :=
    hcourse.forall_mem fun h => ⟨h.leftWhole, h.leavesMarked⟩
  have hsuccess : ∀ f ∈ x.1, f.feature.skip = true → f.success = true := by
    intro f hf hskip
    obtain ⟨hwhole, hmarked⟩ := hleft f hf
    rw [hwhole.feature (hmarked.feature hskip)]
    rfl
  -- up to the reports whatever can be told without the log is the same in both
  have hseen : ∀ {β : Type} {f : Entry σ → Option β}, (∀ l, f (.logged l) = none) →
      before.filterMap f = before'.filterMap f :=
    fun hf => hworld.filterMap_eq (bind_unlogged? hf) hx.history hy.history
  refine ⟨?_, ?_, ⟨_, _, (hx.trans hreport).history, (hy.trans hreport').history, ?_, ?_,
    before, after, before', after', rfl, rfl, hafter, hafter', ?_, ?_⟩, fun halike => ?_,
    r.run_mirrors features w, hleft⟩
  · exact r.conclude_unmarked w.clock hresults hworld hsuccess
  · have hwhole : whole.2.context = x.2.context := context_report _ _ _
    have hbare : bare.2.context = y.2.context := context_report _ _ _
    rw [hwhole, hbare, hworld.context]
  · have hquiet : events (.reported whole.1 :: after) = [] := hafter.events_eq
    have hquiet' : events (.reported bare.1 :: after') = [] := hafter'.events_eq
    rw [events_append, events_append, hquiet, hquiet']
    exact congrArg (· ++ []) (hseen fun _ => rfl)
  · have hquiet : calls (.reported whole.1 :: after) = [] := hafter.handlings.callless.1
    have hquiet' : calls (.reported bare.1 :: after') = [] := hafter'.handlings.callless.1
    rw [calls_append, calls_append, hquiet, hquiet']
    exact congrArg (· ++ []) (hseen fun _ => rfl)
  · exact hseen fun _ => rfl
  · exact (hx.cancelled.symm.trans hworld.cancelled).trans hy.cancelled
  · refine cancelled_tellAll_of_takesAlike halike 0 hworld.cancelled fun j _ => ?_
    rw [notices_record_of_untold x.2 rfl, notices_record_of_untold y.2 rfl,
      hworld.notices_eq]

/-- An observer that cancels the run on its third event, which is the start of the
only step that is not marked. -/
theorem run_unmarked_cancelled :
    let r := single (.recorder fun told => told.length == 3) (.done none)
    let features : List Feature := [{ singleStep 1 with skip := true },
      { singleStep 1 with
        scenarios := { Scenario.named "t" [] with skip := true } :: (singleStep 1).scenarios }]
    let w : World Unit := World.ofContext ⟨Store.empty, ()⟩
    unmarked features = [singleStep 1] ∧
      (∀ o ∈ r.reporter.observers, o.TakesAlike (.report (r.run features w).1)
        (.report (r.run (unmarked features) w).1)) ∧
      (r.run features w).2.cancelled = (r.run (unmarked features) w).2.cancelled ∧
      (r.run features w).2.cancelled = true ∧
      (r.run features w).1.features.map FeatureResult.skipped = [true, false] := by
  intro r features w
  have halike : ∀ o ∈ r.reporter.observers, o.TakesAlike (.report (r.run features w).1)
      (.report (r.run (unmarked features) w).1) := by
    intro o ho notices
    obtain rfl := List.mem_singleton.mp ho
    simp [Observer.cancelsOn]
  obtain ⟨-, -, -, htoken, -⟩ := run_unmarked r features w
  exact ⟨rfl, halike, htoken halike, by decide +kernel, by decide +kernel⟩

/-- Observers that cancel the run on a report of one feature, and on a report of none. The
only feature is marked. -/
theorem cancelled_of_marked_in_report :
    let run (count : Nat) (features : List Feature) :=
      (single (.recorder fun told => told.any (Notice.reports count)) (.done none)).run
        features (World.ofContext ⟨Store.empty, ()⟩)
    let features : List Feature := [{ singleStep 1 with skip := true }]
    unmarked features = [] ∧
      (run 1 features).2.cancelled = true ∧
      (run 1 (unmarked features)).2.cancelled = false ∧
      (run 0 features).2.cancelled = false ∧
      (run 0 (unmarked features)).2.cancelled = true := by
  decide +kernel

end Runner

end Stepwise
