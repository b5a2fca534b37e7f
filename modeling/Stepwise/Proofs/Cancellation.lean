import Stepwise.Proofs.Attempts
import Stepwise.Proofs.Explained

/-!
# Where a cancellation goes unnoticed

The runner looks at the token before features, scenarios and steps, and what it
does between two looks it does whatever the token says. There are two places
where this can be seen from outside.

The first lies between the look before a step and the call of its handler. The
observers are told there that the step starts, and one of them may cancel; the
handler is called all the same. `run_called_of_cancelled` says that there is no
other way for a handler to be called with the token cancelled.

The second lies behind a step that fails. Nobody looks at the token after it, so
if the run was cancelled while that step was under way, the scenario is tried
again, if it may be: the attempt is announced, finds the token cancelled, and is
kept in place of the one that failed. `run_retry_of_cancelled` says when this
happens, and that otherwise the attempt in which the run was cancelled is the one
that is kept.

Both rest on one induction over the courses of a run. It shows of every call and
every announcement that what came before it explains it (`Explained`).
-/

namespace Stepwise

variable {σ : Type}

/-! ## Calls and announcements -/

/-- A step was started, and the runner has sent nothing since but that it failed;
the token was cancelled after that start and not before. -/
def Runner.FailedLate (r : Runner σ) (c : Bool) (done : List (Entry σ)) : Prop :=
  ∃ start text rest message, done = start ++ .sent .runner (.stepStarted text) :: rest ∧
    r.heeds (tokenAfter c start) = false ∧
    (∀ event, .sent .runner event ∈ rest ↔ event = .stepFailed text message) ∧
    .cancelled ∈ rest

/-- The start of the step was the last thing sent, the token was not cancelled
before that, and observers have been told since. -/
def Runner.JustStarted (r : Runner σ) (c : Bool) (step : BoundStep)
    (done : List (Entry σ)) : Prop :=
  ∃ start ts, done = start ++ .sent .runner (.stepStarted step.text) :: ts ∧
    r.heeds (tokenAfter c start) = false ∧ Tellings ts

/-- What explains a call, and what explains that a scenario is tried again though
the token is cancelled. -/
def Runner.Accounted (r : Runner σ) (c : Bool) (done : List (Entry σ)) :
    Entry σ → Prop
  | .called _ step _ cancelled =>
    r.JustStarted c step done ∧ cancelled = tokenAfter c done
  | .sent .runner (.retrying ..) =>
    r.heeds (tokenAfter c done) = true → r.FailedLate c done
  | _ => True

theorem eq_cancelled_of_isCancel {e : Entry σ} (h : e.isCancel = true) :
    e = .cancelled := by
  cases e <;> first | rfl | cases h

theorem mem_cancelled_iff {es : List (Entry σ)} :
    .cancelled ∈ es ↔ es.any Entry.isCancel = true := by
  rw [List.any_eq_true]
  constructor
  · exact fun h => ⟨_, h, rfl⟩
  · rintro ⟨e, he, hcancel⟩
    rwa [← eq_cancelled_of_isCancel hcancel]

namespace Runner

variable {r : Runner σ} {c : Bool}

theorem heeds_tokenAfter {es : List (Entry σ)} (h : r.heeds c = false) :
    r.heeds (tokenAfter c es) = true ↔ r.watchesToken = true ∧ .cancelled ∈ es := by
  rw [mem_cancelled_iff]
  cases hw : r.watchesToken <;> simp_all [heeds, tokenAfter]

theorem FailedLate.append {done es : List (Entry σ)} (h : r.FailedLate c done)
    (hes : ∀ event, .sent .runner event ∉ es) : r.FailedLate c (done ++ es) := by
  obtain ⟨start, text, rest, message, rfl, hbegin, hsent, hcancel⟩ := h
  refine ⟨start, text, rest ++ es, message, by simp, hbegin, ?_,
    List.mem_append_left _ hcancel⟩
  simp [hsent, hes]

/-- An attempt announced before a failure that comes late was announced before the
token was cancelled. -/
theorem FailedLate.not_heeds {before mid : List (Entry σ)} {name : String}
    {number limit : Nat}
    (h : r.FailedLate c (before ++ .sent .runner (.retrying name number limit) :: mid)) :
    r.heeds (tokenAfter c before) = false := by
  obtain ⟨start, text, rest, message, heq, hbegin, hsent, -⟩ := h
  refine not_heeds_before heq hbegin nofun fun hmem => ?_
  cases (hsent _).mp hmem

theorem accounted_of_isHandling {e : Entry σ} (h : e.isHandling = true)
    (done : List (Entry σ)) : r.Accounted c done e := by
  cases e with
  | sent sender event => cases sender with
      | runner => cases h
      | handler => trivial
  | called => cases h
  | _ => trivial

theorem explained_handlings {es : List (Entry σ)} (h : Handlings es)
    {done : List (Entry σ)} : Explained (r.Accounted c) done es :=
  explained_of_forall fun e he => accounted_of_isHandling (h e he)

theorem explained_tellings {es : List (Entry σ)} (h : Tellings es)
    {done : List (Entry σ)} : Explained (r.Accounted c) done es :=
  explained_handlings h.handlings

end Runner

/-! ## Steps -/

section Courses

variable {r : Runner σ} {c : Bool} {done : List (Entry σ)}

theorem StepEnd.explained {step : BoundStep} {outcome : StepOutcome}
    {es : List (Entry σ)} (h : StepEnd step outcome es) :
    Explained (r.Accounted c) done es := by
  cases h with
  | passed hts => exact ⟨trivial, trivial, Runner.explained_tellings hts⟩
  | failed hts => exact ⟨trivial, trivial, Runner.explained_tellings hts⟩

theorem StepCourse.explained {step : Step} {result : StepResult}
    {es : List (Entry σ)} (h : StepCourse (tokenAfter c done) step result es)
    (hnot : r.heeds (tokenAfter c done) = false) :
    Explained (r.Accounted c) done es := by
  cases h with
  | unbound hts hend =>
      rw [explained_append]
      exact ⟨⟨trivial, trivial, Runner.explained_tellings hts⟩, hend.explained⟩
  | undefined _ hts hend =>
      rw [explained_append]
      exact ⟨⟨trivial, trivial, trivial, Runner.explained_tellings hts⟩, hend.explained⟩
  | @called store bound ts groups context hs context' outcome es _ hts hhs hend =>
      rw [explained_append, explained_append]
      refine ⟨⟨⟨trivial, trivial, trivial, Runner.explained_tellings hts⟩,
        ⟨⟨?_, ?_⟩, Runner.explained_handlings hhs⟩⟩, ⟨trivial, hend.explained⟩⟩
      · refine ⟨done ++ [.binding step store, .logged (.stepStarted bound.text)], ts,
          by simp, ?_, hts⟩
        simpa [Entry.isCancel] using hnot
      · simp [Entry.isCancel]

/-! ## Scenarios -/

/-- An attempt that failed and behind which the token is cancelled: the failed
step is the last one that it started, and the token was looked at before it. -/
theorem AttemptCourse.failedLate {name : String} {c' : Bool} {steps : List Step}
    {attempt : Attempt} {es : List (Entry σ)}
    (h : AttemptCourse r name c' steps attempt es) (hc : c' = tokenAfter c done)
    (hfailed : attempt.failed = true)
    (hheeds : r.heeds (tokenAfter c (done ++ es)) = true) :
    r.FailedLate c (done ++ es) := by
  induction h generalizing done with
  | done => cases hfailed
  | interrupted _ => cases hfailed
  | @passed c' step rest result attempt es fs hnot hstep _ _ ih =>
      rw [← List.append_assoc] at hheeds ⊢
      exact ih (by rw [hc, tokenAfter_append]) hfailed hheeds
  | @failed c' step rest result es hnot hstep hfail =>
      subst hc
      obtain ⟨first, text, mid, event, ts, rfl, hfirst, -, hmid, hts, hevent⟩ :=
        hstep.told_twice
      obtain ⟨message, rfl⟩ : ∃ message, event = .stepFailed text message := by
        rcases hevent with ⟨hpass, -⟩ | ⟨-, hevent⟩
        · rw [hfail] at hpass
          cases hpass
        · exact hevent
      have hbegin : r.heeds (tokenAfter c (done ++ first)) = false := by
        rw [tokenAfter_append, tokenAfter, hfirst, Bool.or_false, hnot]
      refine ⟨done ++ first, text, mid ++ .sent .runner (.stepFailed text message) :: ts,
        message, by simp, hbegin, fun event => ?_, ?_⟩
      · rw [← mem_ownEvents, ownEvents_append, ownEvents_cons, hmid, hts]
        exact List.mem_singleton
      · rw [List.append_assoc, ← List.append_assoc, tokenAfter_append,
          Runner.heeds_tokenAfter hbegin] at hheeds
        simpa using hheeds.2

theorem RetryCourse.explained {s : Scenario} {number : Nat} {es : List (Entry σ)}
    (h : RetryCourse s number es)
    (hlate : r.heeds (tokenAfter c done) = true → r.FailedLate c done) :
    Explained (r.Accounted c) done es := by
  obtain ⟨hts, hws⟩ := h
  rw [explained_append]
  refine ⟨⟨trivial, fun hheeds => ?_, Runner.explained_tellings hts⟩, ?_⟩
  · refine (hlate ?_).append (by simp)
    simpa [Entry.isCancel] using hheeds
  · refine explained_of_forall fun e he _ => ?_
    obtain ⟨ms, rfl⟩ := hws e he
    trivial

theorem Runner.accounted_explains : r.Explains c (r.Accounted c) where
  handling h := accounted_of_isHandling h _
  logged := trivial
  reported := trivial
  featureSent _ := trivial
  scenarioSent _ := trivial
  stepCourse hnot h := h.explained hnot
  retryCourse hattempt hfailed hretry :=
    hretry.explained (hattempt.failedLate rfl hfailed)

end Courses

namespace Runner

variable (r : Runner σ)

open World

theorem run_explained (features : List Feature) (w : World σ) :
    ∃ es, (r.run features w).2.history = w.history ++ es ∧
      Explained (r.Accounted w.cancelled) [] es := by
  obtain ⟨es, hes⟩ := r.run_adds features w
  exact ⟨es, hes, accounted_explains.run hes⟩

/-! ## Calls of handlers -/

/-- A handler is called right after the observers were told that its step starts,
and before they were told the token was not cancelled. So a handler is called with
the token cancelled exactly if one of these observers has just cancelled it. -/
theorem run_called_of_cancelled (features : List Feature) (w : World σ) :
    ∃ es, (r.run features w).2.history = w.history ++ es ∧
      ∀ before groups step context cancelled after,
        es = before ++ .called groups step context cancelled :: after →
        ∃ start ts, before = start ++ .sent .runner (.stepStarted step.text) :: ts ∧
          Tellings ts ∧ cancelled = tokenAfter w.cancelled before ∧
          r.heeds (tokenAfter w.cancelled start) = false ∧
          (r.heeds cancelled = true ↔ r.watchesToken = true ∧ .cancelled ∈ ts) := by
  obtain ⟨es, hhistory, hes⟩ := r.run_explained features w
  refine ⟨es, hhistory, ?_⟩
  rintro before groups step context cancelled after rfl
  obtain ⟨⟨start, ts, hbefore, hnot, hts⟩, hcancelled⟩ := hes.at
  rw [List.nil_append] at hbefore hcancelled
  refine ⟨start, ts, hbefore, hts, hcancelled, hnot, ?_⟩
  rw [hcancelled, hbefore, tokenAfter_append, heeds_tokenAfter hnot]
  simp

/-- A runner that knows the token and handles every step in one way. -/
def single (observer : Observer) (handling : Handling Unit (Option Value)) : Runner Unit :=
  ⟨⟨[⟨fun _ => true, fun _ => none, fun _ _ => handling⟩]⟩, .one observer,
    Config.standard, Environment.empty, true⟩

/-- A feature with one scenario of one step. -/
def singleStep (maxTries : UInt32) : Feature :=
  ⟨"f", Tags.empty, false, [(Scenario.named "s" [Step.ofText "x"]).withMaxTries maxTries]⟩

/-- Puts a mark into the store, waits and fails; where the mark is found already, all is
well. -/
def failingOnce : Handling Unit (Option Value) := .look fun context =>
  if context.store.contains "mark" then .done none
  else .replace ⟨(context.store.set "mark" (.text "")).2, ()⟩ (.wait 7 (.fail (.handler "boom")))

/-- A call of a handler with the token cancelled. -/
def isLateCall : Entry σ → Bool
  | .called _ _ _ cancelled => cancelled
  | _ => false

/-- The third thing that observers are told is that the first step starts. -/
theorem called_though_cancelled :
    ((single (.recorder fun told => told.length == 3) (.done none)).run [singleStep 1]
      (World.ofContext ⟨Store.empty, ()⟩)).2.history.any isLateCall = true := by
  decide +kernel

/-! ## Announcements of attempts -/

/-- What is kept of a scenario if the run was cancelled before the end of the
attempt that has `k` others before it. That attempt is kept; but if it failed and
another one was allowed, that one is announced and is kept, with nothing done. -/
def Kept (s : ScenarioResult) (w₀ w' : World σ) (k : Nat) : Prop :=
  if (r.attemptAt s.scenario w₀ k).failed = true ∧ k + 1 < s.scenario.limit then
    s.tries = k + 2 ∧ s.steps = s.scenario.steps.map StepResult.skip ∧
      s.success = false ∧
      (r.worldAfter s.scenario w₀ k).history ++
        [.logged (.retrying s.scenario.displayName (k + 2) s.scenario.limit),
          .sent .runner (.retrying s.scenario.displayName (k + 2) s.scenario.limit)]
        <+: w'.history
  else
    s.tries = k + 1 ∧ s.steps = (r.attemptAt s.scenario w₀ k).steps ∧
      s.success = (r.attemptAt s.scenario w₀ k).success

theorem Kept.mono {r : Runner σ} {s : ScenarioResult} {w₀ w₁ w₂ : World σ} {k : Nat}
    (h : r.Kept s w₀ w₁ k) (hafter : w₁.Before w₂) : r.Kept s w₀ w₂ k := by
  unfold Kept at h ⊢
  split
  · next hlost =>
      rw [if_pos hlost] at h
      exact ⟨h.1, h.2.1, h.2.2.1, h.2.2.2.trans hafter⟩
  · next hkept => rwa [if_neg hkept] at h

theorem announced_worldBefore (s : Scenario) (w : World σ) (k : Nat) :
    (r.worldAfter s w k).history ++
        [.logged (.retrying s.displayName (k + 2) s.limit),
          .sent .runner (.retrying s.displayName (k + 2) s.limit)]
      <+: (r.worldBefore s w (k + 1)).history := by
  rw [worldBefore_succ]
  obtain ⟨fs, hfs, hleads⟩ := r.prepareRetry_course s (k + 2) (r.worldAfter s w k)
  obtain @⟨ts, ws, -, -⟩ := hfs
  exact ⟨ts ++ ws, by rw [hleads.history]; simp⟩

theorem tryScenario_kept {s : Scenario} {begun : Nat} {w₀ : World σ} {k : Nat}
    (hk : k < (r.tryScenario s begun (s.limit - 1) w₀).1.tries)
    (hheeds : r.heeds (r.worldAfter s w₀ k).cancelled = true) :
    r.Kept (r.tryScenario s begun (s.limit - 1) w₀).1 w₀
      (r.tryScenario s begun (s.limit - 1) w₀).2 k := by
  obtain ⟨n, hn, hearlier, hlast, heq⟩ := r.exists_kept s begun w₀
  rw [heq] at hk ⊢
  have hkn : k < n + 1 := hk
  rw [finishScenario_fst]
  unfold Kept
  rcases Nat.eq_or_lt_of_le (Nat.le_of_lt_succ hkn) with rfl | hkn
  · -- the attempt that is kept
    have hnone : ¬((r.attemptAt s w₀ k).failed = true ∧ k + 1 < s.limit) := by
      rintro ⟨hfailed, hleft⟩
      rcases hlast with hlast | hlast
      · rw [hfailed] at hlast
        cases hlast
      · omega
    rw [if_neg hnone]
    exact ⟨rfl, rfl, rfl⟩
  · -- an attempt that was followed by another one, which did nothing
    have hfailed := hearlier k hkn
    obtain ⟨es, hes, -⟩ := r.attemptAt_course s w₀ k
    obtain ⟨fs, hfs, hnext⟩ := r.attemptAt_course s w₀ (k + 1)
    obtain ⟨gs, -, hretry⟩ := r.prepareRetry_course s (k + 2) (r.worldAfter s w₀ k)
    have hstill : r.heeds (r.worldBefore s w₀ (k + 1)).cancelled = true := by
      rw [worldBefore_succ, hretry.cancelled]
      exact heeds_tokenAfter_of_heeds hheeds
    obtain ⟨hpassed, hsteps, hsuccess⟩ := hfs.of_heeds hstill
    obtain rfl : n = k + 1 := by
      rcases Nat.eq_or_lt_of_le (Nat.succ_le_of_lt hkn) with hn | hn
      · exact hn.symm
      · rw [hearlier (k + 1) hn] at hpassed
        cases hpassed
    rw [if_pos ⟨hfailed, hn⟩]
    refine ⟨rfl, hsteps, hsuccess (hes.ne_nil_of_failed hfailed), ?_⟩
    have hend := finishScenario_course s (r.attemptAt s w₀ (k + 1)) (k + 2)
      ((r.worldAfter s w₀ (k + 1)).clock - begun) (r.worldAfter s w₀ (k + 1))
    exact (r.announced_worldBefore s w₀ k).trans (hnext.before.trans hend.before)

/-- An attempt is announced with the token cancelled only if the step that failed
before it was under way when the token was cancelled, and at most once in a run.
Of a scenario the attempt in which the run was cancelled is kept, but for this one
case, in which another attempt is announced and the failure is lost. -/
theorem run_retry_of_cancelled (features : List Feature) (w : World σ) :
    (∃ es, (r.run features w).2.history = w.history ++ es ∧
      ∀ before name number limit after,
        es = before ++ .sent .runner (.retrying name number limit) :: after →
        r.heeds (tokenAfter w.cancelled before) = true →
        r.FailedLate w.cancelled before ∧
          ∀ name' number' limit',
            .sent .runner (.retrying name' number' limit') ∉ after) ∧
      ∀ f ∈ (r.run features w).1.features, f.skipped = false →
        ∀ s ∈ f.scenarios, s.skipped = false →
          ∃ w₀, w.Before w₀ ∧
            (r.tryScenario s.scenario w₀.clock (s.scenario.limit - 1) w₀).2.Before
              (r.run features w).2 ∧
            s = (r.tryScenario s.scenario w₀.clock (s.scenario.limit - 1) w₀).1 ∧
            ∀ k < s.tries, r.heeds (r.worldAfter s.scenario w₀ k).cancelled = true →
              r.Kept s w₀ (r.run features w).2 k := by
  constructor
  · obtain ⟨es, hhistory, hes⟩ := r.run_explained features w
    refine ⟨es, hhistory, ?_⟩
    rintro before name number limit after rfl hheeds
    refine ⟨hes.at hheeds, fun name' number' limit' hmem => ?_⟩
    obtain ⟨mid, after, rfl⟩ := List.append_of_mem hmem
    rw [← List.cons_append, ← List.append_assoc] at hes
    have hlate : r.FailedLate w.cancelled
        (before ++ .sent .runner (.retrying name number limit) :: mid) := by
      refine hes.at ?_
      rw [List.nil_append, tokenAfter_append]
      exact heeds_tokenAfter_of_heeds hheeds
    rw [hlate.not_heeds] at hheeds
    cases hheeds
  · intro f hf hrun s hs htried
    obtain ⟨w₀, hw₀, hafter, hresult⟩ := r.exists_tries hf hrun hs htried
    refine ⟨w₀, hw₀, hafter, hresult, fun k hk hheeds => ?_⟩
    rw [hresult] at hk
    have hkept := r.tryScenario_kept hk hheeds
    rw [← hresult] at hkept
    exact hkept.mono hafter

/-- What the runner sends, and none where somebody cancels the run. -/
def milestone? : Entry σ → Option (Option Event)
  | .sent .runner event => some (some event)
  | .cancelled => some none
  | _ => none

/-- The handler cancels the run and fails. -/
theorem retried_though_cancelled :
    let run := (single .silent (.cancel (.fail (.handler "boom")))).run [singleStep 2]
      (World.ofContext ⟨Store.empty, ()⟩)
    run.2.history.filterMap milestone? =
        [some (.featureStarted "f"), some (.scenarioStarted "s"), some (.stepStarted "x"),
          none, some (.stepFailed "x" "boom"), some (.retrying "s" 2 2)] ∧
      run.1.features.flatMap (fun f => f.scenarios.map fun s =>
        (s.tries, s.steps.map StepResult.skipped)) = [(2, [true])] := by
  decide +kernel

end Runner

end Stepwise
