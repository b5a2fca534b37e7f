import Stepwise.Proofs.Cancellation
import Stepwise.Proofs.Halt

/-!
# A cancelled run is the beginning of the whole one

If handlers do not mind the token, all that a cancellation can do to a run is to
end it early. To see this one follows two runs from the same world, one that is
never cancelled and one that may be, by its observers or from the beginning.

As long as neither has found the token cancelled they go in step: the worlds have
the same store, session and clock, and the same has been done in them, which are
the events, the calls and what the calls have left (`Entry.deed?`). The token may
already be cancelled in one of them, since a step that is under way is brought to
its end all the same. Where the cancelled run looks at the token next it stops,
and does nothing from then on; the other one goes on, so that what the first one
did is the beginning of what the second one does (`Runner.Behind`).

The scenario in which this happens is the only one whose results may differ. The
ones before it were run in step, and the ones behind it are left out
(`Truncated`). What is to be shown of one unit (`Runner.Truncates`) is passed on to
units in turn, and in this way from scenarios to features and to all of a run.
-/

namespace Stepwise

variable {σ : Type}

/-! ## What is done in a run -/

/-- What handlers do and are asked to do, and what is sent. Whether the token was
cancelled at a call is not seen. -/
def Entry.deed? : Entry σ → Option (Entry σ)
  | .sent sender event => some (.sent sender event)
  | .called groups step context _ => some (.called groups step context false)
  | .ended context => some (.ended context)
  | _ => none

def deeds (es : List (Entry σ)) : List (Entry σ) := es.filterMap Entry.deed?

@[simp] theorem deeds_append (es fs : List (Entry σ)) :
    deeds (es ++ fs) = deeds es ++ deeds fs := List.filterMap_append

theorem Tellings.deeds_eq {ts : List (Entry σ)} (h : Tellings ts) : deeds ts = [] := by
  refine List.filterMap_eq_nil_iff.mpr fun e he => ?_
  have htelling := h e he
  cases e <;> first | rfl | cases htelling

theorem call?_of_deed? (e : Entry σ) : e.deed?.bind Entry.call? = e.call? := by
  cases e <;> rfl

theorem event?_of_deed? (e : Entry σ) : e.deed?.bind Entry.event? = e.event? := by
  cases e <;> rfl

theorem ending?_of_deed? (e : Entry σ) : e.deed?.bind Entry.ending? = e.ending? := by
  cases e <;> rfl

/-- What can be told from what is done is the same where the same is done. -/
theorem filterMap_eq_of_deeds {β : Type} {f : Entry σ → Option β}
    (hf : ∀ e : Entry σ, e.deed?.bind f = f e) {es es' : List (Entry σ)}
    (h : deeds es = deeds es') : es.filterMap f = es'.filterMap f := by
  have hdeeds : ∀ l : List (Entry σ), (deeds l).filterMap f = l.filterMap f := by
    intro l
    rw [deeds, List.filterMap_filterMap]
    exact congrArg (l.filterMap ·) (funext hf)
  rw [← hdeeds es, ← hdeeds es', h]

/-- Where what is done is the beginning of what is done in `all`, it is what is done up
to some point of `all`. -/
theorem split_of_deeds {es all : List (Entry σ)} (h : deeds es <+: deeds all) :
    ∃ before after, all = before ++ after ∧ deeds es = deeds before := by
  obtain ⟨rest, hrest⟩ := h
  obtain ⟨before, after, hall, hbefore, -⟩ := List.filterMap_eq_append_iff.mp hrest.symm
  exact ⟨before, after, hall, hbefore.symm⟩

namespace World

/-- The worlds are in step: the same has been done in them. -/
abbrev InStep (a b : World σ) : Prop := a.Alike Entry.deed? b

theorem Leads.inStep {w w' : World σ} {es : List (Entry σ)} {cut : Bool}
    (h : w.Leads es cut w') (hcontext : w'.context = w.context)
    (hclock : w'.clock = w.clock) (hes : deeds es = []) : w'.InStep w := by
  refine ⟨hcontext, hclock, ?_⟩
  change deeds _ = deeds _
  rw [h.history, deeds_append, hes, List.append_nil]

theorem inStep_tellAll (w : World σ) (n : Notice) (i : Nat) (os : List Observer) :
    (w.tellAll n i os).InStep w := by
  obtain ⟨ts, hts, hleads⟩ := leads_tellAll n os w i
  obtain ⟨hcontext, hclock⟩ := tellAll_keeps n os w i
  exact hleads.inStep hcontext hclock hts.deeds_eq

theorem InStep.send {a b : World σ} (h : a.InStep b) (reporter reporter' : Reporter)
    (sender : Sender) (event : Event) :
    (a.send reporter sender event).InStep (b.send reporter' sender event) :=
  (inStep_tellAll _ _ _ _).trans ((h.record rfl).trans (inStep_tellAll _ _ _ _).symm)

theorem inStep_likeness (reporter reporter' : Reporter) :
    reporter.Likeness reporter' (@InStep σ) where
  context h := h.context
  replace context h := h.replace context
  send sender event h := h.send _ _ sender event
  wait ms h := h.wait ms

end World

namespace Runner

variable {r : Runner σ}

open World

/-- The handlers of the runner neither cancel the run nor look whether it has been
cancelled. -/
def LeavesToken (r : Runner σ) : Prop :=
  ∀ d ∈ r.registry.definitions, ∀ groups step, (d.handle groups step).LeavesToken

/-- Steps keep in step, whoever observes them. -/
theorem LeavesToken.likeness (hr : r.LeavesToken) (reporter : Reporter) :
    r.Likeness { r with reporter } InStep where
  registry := rfl
  config := rfl
  environment := rfl
  context h := h.context
  clock h := h.clock
  binding step h := by
    rw [h.context]
    exact h.record rfl
  log l h := h.record rfl
  wait ms h := h.wait ms
  emit event h := h.send _ _ .runner event
  call hresolve h := by
    have hmem := Registry.mem_of_resolve hresolve
    refine callHandler_same (inStep_likeness _ _) ?_ ?_ (.inl (hr _ hmem _ _)) h
    · intro a b groups step h
      rw [h.context]
      exact h.record rfl
    · intro a b h
      rw [h.context]
      exact h.record rfl

/-! ## Behind the cut -/

/-- The run in `b` finds itself cancelled, and what has been done in it is the
beginning of what has been done in `a`. -/
structure Behind (r : Runner σ) (a b : World σ) : Prop where
  heeds : r.heeds b.cancelled = true
  done : deeds b.history <+: deeds a.history

variable {a b a' b' : World σ}

theorem Behind.of_inStep (h : a.InStep b) (hheeds : r.heeds b.cancelled = true) :
    r.Behind a b := by
  have hseen : deeds a.history = deeds b.history := h.seen
  exact ⟨hheeds, hseen ▸ List.prefix_rfl⟩

/-- The one run goes on, and in the other one nothing is done. -/
theorem Behind.leads (h : r.Behind a b) {es fs : List (Entry σ)} {cut cut' : Bool}
    (ha : a.Leads es cut a') (hb : b.Leads fs cut' b') (hfs : deeds fs = []) :
    r.Behind a' b' where
  heeds := by
    rw [hb.cancelled]
    exact heeds_tokenAfter_of_heeds h.heeds
  done := by
    rw [hb.history, deeds_append, hfs, List.append_nil, ha.history, deeds_append]
    exact h.done.trans (List.prefix_append _ _)

/-- A run that is not cancelled was not so before. -/
theorem not_heeds_of_leads {es : List (Entry σ)} {cut : Bool} (h : a.Leads es cut a')
    (hnot : r.heeds a'.cancelled = false) : r.heeds a.cancelled = false := by
  cases hheeds : r.heeds a.cancelled with
  | false => rfl
  | true =>
      rw [h.cancelled, heeds_tokenAfter_of_heeds hheeds] at hnot
      cases hnot

/-- What comes behind the first of the attempts that are left leads on from it. -/
theorem leads_tryScenario (r : Runner σ) {s : Scenario} {begun left : Nat} {w : World σ}
    (hleft : left < s.limit) :
    ∃ es cut, (r.runSteps s.displayName s.steps w).2.Leads es cut
      (r.tryScenario s begun left w).2 := by
  rcases left with _ | left
  · rw [r.tryScenario_last (.inr rfl)]
    exact ⟨_, _, finishScenario_course _ _ _ _ _⟩
  · cases hfailed : (r.runSteps s.displayName s.steps w).1.failed with
    | false =>
        rw [r.tryScenario_last (.inl hfailed)]
        exact ⟨_, _, finishScenario_course _ _ _ _ _⟩
    | true =>
        rw [r.tryScenario_again hfailed]
        obtain ⟨fs, -, hretry⟩ := r.prepareRetry_course s (s.limit - (left + 1) + 1)
          (r.runSteps s.displayName s.steps w).2
        obtain ⟨_, _, _, _, -, -, hrest⟩ := r.tryScenario_course s begun left
          (r.prepareRetry s (s.limit - (left + 1) + 1)
            (r.runSteps s.displayName s.steps w).2) (by omega)
        exact ⟨_, _, hretry.trans hrest⟩

/-- An attempt that is interrupted is the last one. -/
theorem Behind.tryScenario {r' : Runner σ} {s : Scenario} {begun left : Nat}
    (h : r'.Behind (r.runSteps s.displayName s.steps a).2
      (r'.runSteps s.displayName s.steps b).2)
    (hinterrupted : (r'.runSteps s.displayName s.steps b).1.interrupted = true)
    (hleft : left < s.limit) :
    r'.Behind (r.tryScenario s begun left a).2 (r'.tryScenario s begun left b).2 := by
  obtain ⟨es, hes, -⟩ := r'.runSteps_course s.displayName s.steps b
  -- no step of it has failed, so it is not followed by another one
  have hfailed : (r'.runSteps s.displayName s.steps b).1.failed = false := by
    cases hfailed : (r'.runSteps s.displayName s.steps b).1.failed with
    | false => rfl
    | true =>
        rw [hes.not_interrupted hfailed] at hinterrupted
        cases hinterrupted
  obtain ⟨fs, cut, hleads⟩ := r.leads_tryScenario hleft
  rw [r'.tryScenario_last (.inl hfailed)]
  refine h.leads hleads (finishScenario_course _ _ _ _ _) ?_
  rw [scenarioEnd]
  split <;> rfl

/-! ## Attempts and scenarios -/

section InStep

variable {r' : Runner σ} (hr : r.Likeness r' InStep)

include hr

/-- An attempt in a run that is not cancelled, and the same attempt in the other run:
both do the same, or the other one is interrupted. -/
theorem runSteps_inStep (name : String) (steps : List Step) :
    ∀ {a b : World σ}, a.InStep b →
      r.heeds (r.runSteps name steps a).2.cancelled = false →
      Same InStep (r.runSteps name steps a) (r'.runSteps name steps b) ∨
        (r'.runSteps name steps b).1.interrupted = true ∧
          r'.Behind (r.runSteps name steps a).2 (r'.runSteps name steps b).2 := by
  induction steps with
  | nil => exact fun h _ => .inl ⟨rfl, h⟩
  | cons step rest ih =>
      intro a b h hnot
      obtain ⟨es, -, hleads⟩ := r.runSteps_course name (step :: rest) a
      have ha : r.heeds a.cancelled = false := not_heeds_of_leads hleads hnot
      cases hb : r'.heeds b.cancelled with
      | true =>
          -- the other run looks at the token and stops here
          rw [r'.runSteps_of_heeds hb]
          have hstop := (r'.leads_checkCancelled b).trans (leads_log _ (.interrupted name))
          exact .inr ⟨rfl, (Behind.of_inStep h hb).leads hleads hstop rfl⟩
      | false =>
          have hlook : (r.checkCancelled a).2.InStep (r'.checkCancelled b).2 :=
            ⟨h.context, h.clock, h.seen⟩
          obtain ⟨hresult, hstep⟩ := hr.runStep step hlook
          rw [r.runSteps_of_not_heeds ha] at hnot ⊢
          rw [r'.runSteps_of_not_heeds hb]
          simp only [← hresult] at hnot ⊢
          split
          · next hpass =>
              rw [if_pos hpass] at hnot
              rcases ih hstep hnot with ⟨hattempt, hrest⟩ | ⟨hinterrupted, hbehind⟩
              · exact .inl ⟨congrArg (Attempt.after · _) hattempt, hrest⟩
              · exact .inr ⟨hinterrupted, hbehind⟩
          · exact .inl ⟨rfl, hstep⟩

/-- A scenario that is tried in a run that is not cancelled, and the same scenario in
the other run. -/
theorem tryScenario_inStep (s : Scenario) (begun left : Nat) :
    ∀ {a b : World σ}, left < s.limit → a.InStep b →
      r.heeds (r.tryScenario s begun left a).2.cancelled = false →
      Same InStep (r.tryScenario s begun left a) (r'.tryScenario s begun left b) ∨
        r'.Behind (r.tryScenario s begun left a).2 (r'.tryScenario s begun left b).2 := by
  induction left with
  | zero =>
      intro a b hleft h hnot
      obtain ⟨es, cut, hleads⟩ := r.leads_tryScenario hleft
      rcases runSteps_inStep hr s.displayName s.steps h (not_heeds_of_leads hleads hnot) with
        hsteps | ⟨hinterrupted, hbehind⟩
      · exact .inl (hr.tryScenario_last hsteps (.inr rfl))
      · exact .inr (hbehind.tryScenario hinterrupted hleft)
  | succ left ih =>
      intro a b hleft h hnot
      obtain ⟨es, cut, hleads⟩ := r.leads_tryScenario hleft
      rcases runSteps_inStep hr s.displayName s.steps h (not_heeds_of_leads hleads hnot) with
        hsteps | ⟨hinterrupted, hbehind⟩
      · cases hfailed : (r.runSteps s.displayName s.steps a).1.failed with
        | false => exact .inl (hr.tryScenario_last hsteps (.inl hfailed))
        | true =>
            rw [r.tryScenario_again hfailed] at hnot ⊢
            rw [r'.tryScenario_again (hsteps.1 ▸ hfailed)]
            exact ih (by omega) (hr.prepareRetry s _ hsteps.2) hnot
      · exact .inr (hbehind.tryScenario hinterrupted hleft)

end InStep

end Runner

/-! ## Results -/

/-- As many results, and all of them left out. -/
def LeftOut (as bs : List ScenarioResult) : Prop :=
  as.length = bs.length ∧ ∀ s ∈ bs, s.skipped = true

/-- The results are the same up to one, which may be any, and behind that they are left
out. -/
def Truncated (as bs : List ScenarioResult) : Prop :=
  ∃ same as' bs', as = same ++ as' ∧ bs = same ++ bs' ∧ as'.length = bs'.length ∧
    ∀ s ∈ bs'.tail, s.skipped = true

section Results

variable {as bs as' bs' : List ScenarioResult}

theorem LeftOut.append (h : LeftOut as bs) (h' : LeftOut as' bs') :
    LeftOut (as ++ as') (bs ++ bs') := by
  refine ⟨by rw [List.length_append, List.length_append, h.1, h'.1], fun s hs => ?_⟩
  rcases List.mem_append.mp hs with hs | hs
  · exact h.2 s hs
  · exact h'.2 s hs

theorem LeftOut.truncated (h : LeftOut as bs) : Truncated as bs :=
  ⟨[], as, bs, rfl, rfl, h.1, fun s hs => h.2 s (List.mem_of_mem_tail hs)⟩

theorem Truncated.refl (as : List ScenarioResult) : Truncated as as :=
  ⟨as, [], [], by simp, by simp, rfl, nofun⟩

theorem Truncated.single (a b : ScenarioResult) : Truncated [a] [b] :=
  ⟨[], [a], [b], rfl, rfl, rfl, nofun⟩

theorem Truncated.append_left (h : Truncated as bs) (same : List ScenarioResult) :
    Truncated (same ++ as) (same ++ bs) := by
  obtain ⟨first, cs, ds, rfl, rfl, hlength, hleft⟩ := h
  exact ⟨same ++ first, cs, ds, by simp, by simp, hlength, hleft⟩

theorem Truncated.append (h : Truncated as bs) (h' : LeftOut as' bs') :
    Truncated (as ++ as') (bs ++ bs') := by
  obtain ⟨same, cs, ds, rfl, rfl, hlength, hleft⟩ := h
  refine ⟨same, cs ++ as', ds ++ bs', by simp, by simp, ?_, fun s hs => ?_⟩
  · rw [List.length_append, List.length_append, hlength, h'.1]
  · cases ds with
    | nil => exact h'.2 s (List.mem_of_mem_tail hs)
    | cons d rest =>
        rcases List.mem_append.mp hs with hs | hs
        · exact hleft s hs
        · exact h'.2 s hs

theorem Truncated.exists_take (h : Truncated as bs) :
    as.length = bs.length ∧
      ∃ i, as.take i = bs.take i ∧ ∀ s ∈ bs.drop (i + 1), s.skipped = true := by
  obtain ⟨same, cs, ds, rfl, rfl, hlength, hleft⟩ := h
  refine ⟨by rw [List.length_append, List.length_append, hlength], same.length, ?_, ?_⟩
  · rw [List.take_left, List.take_left]
  · intro s hs
    rw [← List.drop_drop, List.drop_left, List.drop_one] at hs
    exact hleft s hs

end Results

/-! ## Units in turn -/

namespace Runner

variable {r r' : Runner σ}

open World

/-- What is to be shown of a unit that is run in both runs. If both are in step and
find the token not cancelled, then they stay in step, or the other one falls behind
with its results truncated; and once it is behind, the unit is left out in it. -/
structure Truncates (r r' : Runner σ) {α β : Type} (one one' : α → World σ → β × World σ)
    (scenarios : β → List ScenarioResult) : Prop where
  leads (x : α) (w : World σ) : ∃ es cut, w.Leads es cut (one x w).2
  inStep (x : α) {a b : World σ} : a.InStep b → r'.heeds b.cancelled = false →
    r.heeds (one x a).2.cancelled = false →
    Same InStep (one x a) (one' x b) ∨
      Truncated (scenarios (one x a).1) (scenarios (one' x b).1) ∧
        r'.Behind (one x a).2 (one' x b).2
  behind (x : α) {a b : World σ} : r'.Behind a b →
    LeftOut (scenarios (one x a).1) (scenarios (one' x b).1) ∧
      r'.Behind (one x a).2 (one' x b).2

namespace Truncates

variable {α β : Type} {one one' : α → World σ → β × World σ}
  {scenarios : β → List ScenarioResult} (h : r.Truncates r' one one' scenarios)

include h

theorem inTurn_leads (xs : List α) :
    ∀ w : World σ, ∃ es cut, w.Leads es cut (inTurn one xs w).2 := by
  induction xs with
  | nil => exact fun w => ⟨_, _, Leads.refl w⟩
  | cons x rest ih =>
      intro w
      obtain ⟨es, cut, hfirst⟩ := h.leads x w
      obtain ⟨fs, cut', hrest⟩ := ih (one x w).2
      exact ⟨_, _, hfirst.trans hrest⟩

theorem inTurn_behind (xs : List α) :
    ∀ {a b : World σ}, r'.Behind a b →
      LeftOut ((inTurn one xs a).1.flatMap scenarios) ((inTurn one' xs b).1.flatMap scenarios) ∧
        r'.Behind (inTurn one xs a).2 (inTurn one' xs b).2 := by
  induction xs with
  | nil => exact fun hbehind => ⟨⟨rfl, nofun⟩, hbehind⟩
  | cons x rest ih =>
      intro a b hbehind
      obtain ⟨hleft, hfirst⟩ := h.behind x hbehind
      obtain ⟨hleft', hrest⟩ := ih hfirst
      exact ⟨hleft.append hleft', hrest⟩

theorem inTurn_inStep (xs : List α) :
    ∀ {a b : World σ}, a.InStep b →
      r.heeds (inTurn one xs a).2.cancelled = false →
      Same InStep (inTurn one xs a) (inTurn one' xs b) ∨
        Truncated ((inTurn one xs a).1.flatMap scenarios)
            ((inTurn one' xs b).1.flatMap scenarios) ∧
          r'.Behind (inTurn one xs a).2 (inTurn one' xs b).2 := by
  induction xs with
  | nil => exact fun hworld _ => .inl ⟨rfl, hworld⟩
  | cons x rest ih =>
      intro a b hworld hnot
      cases hb : r'.heeds b.cancelled with
      | true =>
          -- the other run stops before this unit, and leaves out all that are left
          obtain ⟨hleft, hbehind⟩ :=
            h.inTurn_behind (x :: rest) (Behind.of_inStep hworld hb)
          exact .inr ⟨hleft.truncated, hbehind⟩
      | false =>
          obtain ⟨es, cut, hleads⟩ := h.inTurn_leads rest (one x a).2
          have hfirst : r.heeds (one x a).2.cancelled = false :=
            not_heeds_of_leads hleads hnot
          rcases h.inStep x hworld hb hfirst with ⟨hresult, hnext⟩ | ⟨htruncated, hbehind⟩
          · rcases ih hnext hnot with ⟨hresults, hend⟩ | ⟨htruncated, hbehind⟩
            · refine .inl ⟨?_, hend⟩
              change _ :: _ = _ :: _
              rw [hresult, hresults]
            · refine .inr ⟨?_, hbehind⟩
              change Truncated (scenarios _ ++ _) (scenarios _ ++ _)
              rw [hresult]
              exact htruncated.append_left _
          · obtain ⟨hleft, hend⟩ := h.inTurn_behind rest hbehind
            exact .inr ⟨htruncated.append hleft, hend⟩

theorem inTurn : r.Truncates r' (inTurn one) (inTurn one') (·.flatMap scenarios) where
  leads := h.inTurn_leads
  inStep xs _ _ hworld _ hnot := h.inTurn_inStep xs hworld hnot
  behind xs _ _ hbehind := h.inTurn_behind xs hbehind

end Truncates

section InStep

variable (hr : r.Likeness r' InStep)

include hr

theorem scenario_truncates : r.Truncates r' r.runScenario r'.runScenario fun s => [s] where
  leads s w := by
    obtain ⟨es, cut, -, hleads⟩ := r.runScenario_course s w
    exact ⟨es, cut, hleads⟩
  inStep s a b h hb hnot := by
    obtain ⟨es, cut, -, hleads⟩ := r.runScenario_course s a
    have ha : r.heeds a.cancelled = false := not_heeds_of_leads hleads hnot
    have hlook : (r.checkCancelled a).2.InStep (r'.checkCancelled b).2 :=
      ⟨h.context, h.clock, h.seen⟩
    simp only [runScenario, checkCancelled_fst, ha, hb, Bool.false_eq_true, if_false] at hnot ⊢
    split at hnot
    · next hskip =>
        rw [if_pos hskip, if_pos hskip]
        exact .inl ⟨rfl, h⟩
    · next hskip =>
        rw [if_neg hskip, if_neg hskip]
        have hbegin := hr.emit (.scenarioStarted s.displayName)
          (hr.log (.scenarioStarted s.displayName s.limit) hlook)
        have hlimit : s.limit - 1 < s.limit := Nat.sub_lt (Nat.le_max_right _ _) Nat.one_pos
        rw [← hr.clock hbegin]
        exact (tryScenario_inStep hr s _ _ hlimit hbegin hnot).imp_right
          fun hbehind => ⟨.single _ _, hbehind⟩
  behind s a b h := by
    obtain ⟨es, cut, -, hleads⟩ := r.runScenario_course s a
    obtain ⟨fs, cut', hcourse, hleads'⟩ := r'.runScenario_course s b
    obtain ⟨hresult, rfl, -⟩ := hcourse.of_heeds h.heeds
    refine ⟨⟨rfl, fun x hx => ?_⟩, h.leads hleads hleads' rfl⟩
    rw [List.mem_singleton.mp hx, hresult]
    rfl

theorem feature_truncates :
    r.Truncates r' r.runFeature r'.runFeature FeatureResult.scenarios where
  leads f w := by
    obtain ⟨es, cut, -, hleads⟩ := r.runFeature_course f w
    exact ⟨es, cut, hleads⟩
  inStep f a b h hb hnot := by
    obtain ⟨es, cut, -, hleads⟩ := r.runFeature_course f a
    have ha : r.heeds a.cancelled = false := not_heeds_of_leads hleads hnot
    have hlook : (r.checkCancelled a).2.InStep (r'.checkCancelled b).2 :=
      ⟨h.context, h.clock, h.seen⟩
    simp only [runFeature, checkCancelled_fst, ha, hb, Bool.false_eq_true, if_false,
      runScenarios_eq_inTurn] at hnot ⊢
    split at hnot
    · next hskip =>
        rw [if_pos hskip, if_pos hskip]
        exact .inl ⟨rfl, hr.log _ h⟩
    · next hskip =>
        rw [if_neg hskip, if_neg hskip]
        have hbegin := hr.emit (.featureStarted f.name)
          (hr.log (.featureStarted f.name f.scenarios.length) hlook)
        rcases (scenario_truncates hr).inTurn_inStep f.scenarios hbegin hnot with
          ⟨hresults, hscenarios⟩ | ⟨htruncated, hbehind⟩
        · rw [← hr.clock hbegin, ← hresults, ← hr.clock hscenarios]
          exact .inl ⟨rfl, hscenarios⟩
        · rw [List.flatMap_singleton', List.flatMap_singleton'] at htruncated
          exact .inr ⟨htruncated, hbehind⟩
  behind f a b h := by
    obtain ⟨es, cut, hcourse, hleads⟩ := r.runFeature_course f a
    obtain ⟨fs, cut', hcourse', hleads'⟩ := r'.runFeature_course f b
    obtain ⟨hresult, rfl, -⟩ := hcourse'.of_heeds h.heeds
    refine ⟨⟨?_, fun s hs => ?_⟩, h.leads hleads hleads' rfl⟩
    · have hall := hcourse.mirrors.1
      rw [hcourse.feature_eq] at hall
      rw [hresult, ← List.length_map ScenarioResult.scenario, hall]
      exact (List.length_map _).symm
    · rw [hresult] at hs
      obtain ⟨scenario, -, rfl⟩ := List.mem_map.mp hs
      rfl

theorem runFeatures_truncated (fs : List Feature) {a b : World σ} (h : a.InStep b)
    (hnot : r.heeds (r.runFeatures fs a).2.cancelled = false) :
    Truncated ((r.runFeatures fs a).1.flatMap FeatureResult.scenarios)
        ((r'.runFeatures fs b).1.flatMap FeatureResult.scenarios) ∧
      deeds (r'.runFeatures fs b).2.history <+: deeds (r.runFeatures fs a).2.history := by
  rw [runFeatures_eq_inTurn] at hnot ⊢
  rw [runFeatures_eq_inTurn]
  rcases (feature_truncates hr).inTurn_inStep fs h hnot with
    ⟨hresults, hworld⟩ | ⟨htruncated, hbehind⟩
  · rw [hresults]
    have hseen : deeds _ = deeds _ := hworld.seen
    exact ⟨.refl _, hseen ▸ List.prefix_rfl⟩
  · exact ⟨htruncated, hbehind.done⟩

end InStep

/-! ## Runs -/

theorem deeds_report (r : Runner σ) (w : World σ) (result : RunResult) :
    deeds (w.report r.reporter result).history = deeds w.history := by
  obtain ⟨ts, hts, hreport⟩ := leads_report w r.reporter result
  rw [hreport.history, deeds_append]
  have hnone : deeds (.reported result :: ts) = [] := hts.deeds_eq
  rw [hnone, List.append_nil]

/-- If handlers do not mind the token, a run that is cancelled does what it does up to
some point if it is not cancelled, however that is done: before it begins, or by an
observer at any event. The events and the calls are those of the whole run up to that
point, and the store and the session are as the calls up to that point leave them. The
results of the scenarios are the same up to one, and behind that they are left out. -/
theorem run_truncated (r : Runner σ) (reporter : Reporter) (features : List Feature)
    (w : World σ) (cancelled : Bool) (hr : r.LeavesToken)
    (hwhole : r.heeds (r.run features w).2.cancelled = false) :
    let whole := r.run features w
    let cut := { r with reporter }.run features { w with cancelled }
    (∃ before after es, whole.2.history = w.history ++ (before ++ after) ∧
      cut.2.history = w.history ++ es ∧
      events es = events before ∧ calls es = calls before ∧
      (calls before).length = (endings before).length ∧
      cut.2.context = contextAfter w.context before) ∧
    whole.1.Mirrors features ∧ cut.1.Mirrors features ∧
    ∃ i, (whole.1.features.flatMap FeatureResult.scenarios).take i =
        (cut.1.features.flatMap FeatureResult.scenarios).take i ∧
      ∀ s ∈ (cut.1.features.flatMap FeatureResult.scenarios).drop (i + 1),
        s.skipped = true := by
  intro whole cut
  obtain ⟨all, hall⟩ := r.run_adds features w
  obtain ⟨es, hes, hcontext, hlength⟩ :=
    { r with reporter }.settled_run features { w with cancelled }
  -- all is settled when the features have been run; the reports behind them do nothing
  let x := r.runFeatures features { w with cutShort := false }
  let y := { r with reporter }.runFeatures features { w with cancelled, cutShort := false }
  have hx : deeds whole.2.history = deeds x.2.history := r.deeds_report x.2 whole.1
  have hy : deeds cut.2.history = deeds y.2.history :=
    { r with reporter }.deeds_report y.2 cut.1
  obtain ⟨ts, -, hreport⟩ := leads_report x.2 r.reporter whole.1
  have hnot : r.heeds x.2.cancelled = false := not_heeds_of_leads hreport hwhole
  have hstart : InStep { w with cutShort := false } { w with cancelled, cutShort := false } :=
    ⟨rfl, rfl, rfl⟩
  obtain ⟨htruncated, hdone⟩ :=
    runFeatures_truncated (hr.likeness reporter) features hstart hnot
  rw [← hx, ← hy, hall, hes, deeds_append, deeds_append] at hdone
  have hadded : deeds es <+: deeds all := (List.prefix_append_right_inj _).mp hdone
  obtain ⟨before, after, rfl, hdeeds⟩ := split_of_deeds hadded
  have hcalls : calls es = calls before := filterMap_eq_of_deeds call?_of_deed? hdeeds
  have hendings : endings es = endings before :=
    filterMap_eq_of_deeds ending?_of_deed? hdeeds
  refine ⟨⟨before, after, es, hall, hes, filterMap_eq_of_deeds event?_of_deed? hdeeds, hcalls,
    ?_, ?_⟩, r.run_mirrors features w, run_mirrors _ features _, htruncated.exists_take.2⟩
  · rw [← hcalls, ← hendings, hlength]
  · rw [hcontext, contextAfter, contextAfter, hendings]

/-- An observer that cancels the run when a step has failed that may be tried again: the
next attempt is announced, as in the whole run, and then left out. -/
theorem run_truncated_after_failure :
    let r := single .silent (.fail (.handler "boom"))
    let reporter := Reporter.one (.recorder fun told => told.length == 4)
    let w : World Unit := World.ofContext ⟨Store.empty, ()⟩
    let whole := r.run [singleStep 2] w
    let cut := { r with reporter }.run [singleStep 2] w
    r.LeavesToken ∧ r.heeds whole.2.cancelled = false ∧
      events cut.2.history <+: events whole.2.history ∧
      calls cut.2.history <+: calls whole.2.history ∧
      (events whole.2.history).length = 7 ∧ (events cut.2.history).length = 5 ∧
      (calls whole.2.history).length = 2 ∧ (calls cut.2.history).length = 1 ∧
      cut.1.error = some .cancelled := by
  intro r reporter w whole cut
  have hr : r.LeavesToken := by
    intro d hd groups step
    obtain rfl := List.mem_singleton.mp hd
    trivial
  have hwhole : r.heeds whole.2.cancelled = false := by decide +kernel
  obtain ⟨⟨before, after, es, hes, hes', hevents, hcalls, -⟩, -⟩ :=
    run_truncated r reporter [singleStep 2] w false hr hwhole
  have hbegin : w.history = [] := rfl
  rw [hbegin, List.nil_append] at hes hes'
  have hall : whole.2.history = before ++ after := hes
  have hcut : cut.2.history = es := hes'
  refine ⟨hr, hwhole, ?_, ?_, ?_⟩
  · rw [hcut, hall, hevents, events_append]
    exact List.prefix_append _ _
  · rw [hcut, hall, hcalls, calls_append]
    exact List.prefix_append _ _
  · decide +kernel

end Runner

end Stepwise
