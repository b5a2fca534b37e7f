import Stepwise.Proofs.Course

/-!
# Entries and what came before them

Much of what is said of runs has one form: whenever something is found in the
history, something else is found before it. `Explained P done es` says that every
entry of `es` stands in the relation `P` to all that came before it, of which
`done` came before `es`.

Such a statement follows the courses of a run in always the same way, and this
file follows them once. What depends on `P` are a few obligations, collected in
`Runner.Explains`: that an event with which a feature or a scenario begins is
explained where the token has just been looked at, that a step explains all its
entries if the token was looked at before it, and that an announcement is
explained behind an attempt that failed. With them all that a run adds is
explained (`Runner.Explains.run`).

Of a step it mostly matters only when the runner tells of it, which is twice
(`StepCourse.told_twice`).
-/

namespace Stepwise

variable {σ : Type}

/-- What holds of every entry when one looks at what happened before it; `done`
came before them all. -/
def Explained (P : List (Entry σ) → Entry σ → Prop) (done : List (Entry σ)) :
    List (Entry σ) → Prop
  | [] => True
  | e :: es => P done e ∧ Explained P (done ++ [e]) es

section Explained

variable {P : List (Entry σ) → Entry σ → Prop}

theorem explained_append {es fs : List (Entry σ)} :
    ∀ {done : List (Entry σ)}, Explained P done (es ++ fs) ↔
      Explained P done es ∧ Explained P (done ++ es) fs := by
  induction es with
  | nil => intro done; simp [Explained]
  | cons e es ih =>
      intro done
      simp only [List.cons_append, Explained, ih, List.append_assoc, and_assoc]
      rfl

theorem Explained.at {done before after : List (Entry σ)} {e : Entry σ}
    (h : Explained P done (before ++ e :: after)) : P (done ++ before) e :=
  (explained_append.mp h).2.1

/-- Entries that need no explanation are explained. -/
theorem explained_of_forall {es : List (Entry σ)}
    (h : ∀ e ∈ es, ∀ done, P done e) : ∀ {done}, Explained P done es := by
  induction es with
  | nil => exact trivial
  | cons e es ih =>
      exact ⟨h e List.mem_cons_self _, ih fun e' he' => h e' (List.mem_cons_of_mem _ he')⟩

end Explained

/-- A token that the runner finds cancelled is found so ever after. -/
theorem Runner.heeds_tokenAfter_of_heeds {r : Runner σ} {c : Bool} {es : List (Entry σ)}
    (h : r.heeds c = true) : r.heeds (tokenAfter c es) = true := by
  simp only [heeds, Bool.and_eq_true] at h ⊢
  rw [h.2, tokenAfter_true]
  exact ⟨h.1, rfl⟩

/-- Behind an entry `x`, before which the token was not found cancelled, there is no
`e`. So an `e` that is followed by such an `x` came before the token was cancelled. -/
theorem Runner.not_heeds_before {r : Runner σ} {c : Bool}
    {before mid start rest : List (Entry σ)} {e x : Entry σ}
    (heq : before ++ e :: mid = start ++ x :: rest)
    (hstart : r.heeds (tokenAfter c start) = false) (hx : e ≠ x) (hrest : e ∉ rest) :
    r.heeds (tokenAfter c before) = false := by
  rcases List.append_eq_append_iff.mp heq with ⟨xs, rfl, -⟩ | ⟨xs, -, hxs⟩
  · cases hheeds : r.heeds (tokenAfter c before) with
    | false => rfl
    | true =>
        rw [tokenAfter_append, heeds_tokenAfter_of_heeds hheeds] at hstart
        cases hstart
  · cases xs with
    | nil => exact absurd (List.cons.inj hxs).1.symm hx
    | cons y ys =>
        refine absurd ?_ hrest
        rw [(List.cons.inj hxs).2]
        exact List.mem_append_right _ List.mem_cons_self

/-! ## What is told of a step -/

/-- The event with which a step ends. -/
def StepResult.EndsWith (r : StepResult) (text : String) (event : Event) : Prop :=
  (r.success = true ∧ event = .stepPassed text) ∨
    (r.success = false ∧ ∃ message, event = .stepFailed text message)

theorem StepEnd.told_once {step : BoundStep} {outcome : StepOutcome} {es : List (Entry σ)}
    (h : StepEnd step outcome es) :
    ∃ l event ts, es = .logged l :: .sent .runner event :: ts ∧ ownEvents ts = [] ∧
      (StepResult.mk step outcome).EndsWith step.text event := by
  cases h with
  | passed hts => exact ⟨_, _, _, rfl, hts.handlings.ownEvents_eq, .inl ⟨rfl, rfl⟩⟩
  | failed hts => exact ⟨_, _, _, rfl, hts.handlings.ownEvents_eq, .inr ⟨rfl, _, rfl⟩⟩

/-- Of a step it is told that it starts and how it ends, and nobody cancels before the
first. -/
theorem StepCourse.told_twice {c : Bool} {step : Step} {result : StepResult}
    {es : List (Entry σ)} (h : StepCourse c step result es) :
    ∃ first text mid event ts,
      es = first ++ .sent .runner (.stepStarted text) :: mid ++ .sent .runner event :: ts ∧
      first.any Entry.isCancel = false ∧ ownEvents first = [] ∧ ownEvents mid = [] ∧
      ownEvents ts = [] ∧ result.EndsWith text event := by
  cases h with
  | @unbound store missing ts es hts hend =>
      obtain ⟨l, event, us, rfl, hus, hevent⟩ := hend.told_once
      refine ⟨[.binding step store], step.text, ts ++ [.logged l], event, us, by simp, rfl,
        rfl, ?_, hus, hevent⟩
      rw [ownEvents_append, hts.handlings.ownEvents_eq]
      rfl
  | @undefined store bound failure ts es _ hts hend =>
      obtain ⟨l, event, us, rfl, hus, hevent⟩ := hend.told_once
      refine ⟨[.binding step store, .logged (.stepStarted bound.text)], bound.text,
        ts ++ [.logged l], event, us, by simp, rfl, rfl, ?_, hus, hevent⟩
      rw [ownEvents_append, hts.handlings.ownEvents_eq]
      rfl
  | @called store bound ts groups context hs context' outcome es _ hts hhs hend =>
      obtain ⟨l, event, us, rfl, hus, hevent⟩ := hend.told_once
      refine ⟨[.binding step store, .logged (.stepStarted bound.text)], bound.text,
        ts ++ .called groups bound context (tokenAfter c ts) :: hs ++
          [.ended context', .logged l], event, us, by simp, rfl, rfl, ?_, hus, hevent⟩
      simp only [ownEvents_append, ownEvents_cons, hts.handlings.ownEvents_eq,
        hhs.ownEvents_eq]
      rfl

/-! ## Explanations that every run gives -/

/-- The obligations for a relation in which every entry of a run stands to what
came before it; `c` says whether the token was cancelled before the run. -/
structure Runner.Explains (r : Runner σ) (c : Bool)
    (P : List (Entry σ) → Entry σ → Prop) : Prop where
  handling {done : List (Entry σ)} {e : Entry σ} : e.isHandling = true → P done e
  logged {done : List (Entry σ)} {l : LogRecord} : P done (.logged l)
  reported {done : List (Entry σ)} {result : RunResult} : P done (.reported result)
  featureSent {done : List (Entry σ)} {name : String} :
    r.heeds (tokenAfter c done) = false → P done (.sent .runner (.featureStarted name))
  scenarioSent {done : List (Entry σ)} {name : String} :
    r.heeds (tokenAfter c done) = false → P done (.sent .runner (.scenarioStarted name))
  stepCourse {done es : List (Entry σ)} {step : Step} {result : StepResult} :
    r.heeds (tokenAfter c done) = false →
      StepCourse (tokenAfter c done) step result es → Explained P done es
  retryCourse {done es fs : List (Entry σ)} {s : Scenario} {attempt : Attempt}
    {number : Nat} :
    AttemptCourse r s.displayName (tokenAfter c done) s.steps attempt es →
      attempt.failed = true → RetryCourse s number fs → Explained P (done ++ es) fs

theorem Courses.explained {c : Bool} {P : List (Entry σ) → Entry σ → Prop} {α β : Type}
    {course : Bool → α → β → List (Entry σ) → Bool → Prop}
    (hcourse : ∀ {done a b es cut}, course (tokenAfter c done) a b es cut →
      Explained P done es)
    {done : List (Entry σ)} {c' : Bool} {as : List α} {bs : List β}
    {es : List (Entry σ)} {cut : Bool} (h : Courses course c' as bs es cut)
    (hc : c' = tokenAfter c done) : Explained P done es := by
  induction h generalizing done with
  | nil => trivial
  | cons hfirst _ ih =>
      subst hc
      rw [explained_append]
      exact ⟨hcourse hfirst, ih (tokenAfter_append ..).symm⟩

namespace Runner.Explains

variable {r : Runner σ} {c : Bool} {P : List (Entry σ) → Entry σ → Prop}
  (hP : r.Explains c P) {done : List (Entry σ)}

include hP

theorem tellings {es : List (Entry σ)} (h : Tellings es) : Explained P done es :=
  explained_of_forall fun e he _ => hP.handling (h.handlings e he)

theorem attempt {name : String} {c' : Bool} {steps : List Step} {attempt : Attempt}
    {es : List (Entry σ)} (h : AttemptCourse r name c' steps attempt es)
    (hc : c' = tokenAfter c done) : Explained P done es := by
  induction h generalizing done with
  | done => trivial
  | interrupted _ => exact ⟨hP.logged, trivial⟩
  | passed hnot hstep _ _ ih =>
      subst hc
      rw [explained_append]
      exact ⟨hP.stepCourse hnot hstep, ih (tokenAfter_append ..).symm⟩
  | failed hnot hstep _ =>
      subst hc
      exact hP.stepCourse hnot hstep

theorem tries {s : Scenario} {number tries : Nat} {c' : Bool} {attempt : Attempt}
    {es : List (Entry σ)} (h : TriesCourse r s number c' attempt tries es)
    (hc : c' = tokenAfter c done) : Explained P done es := by
  induction h generalizing done with
  | last hattempt _ => exact hP.attempt hattempt hc
  | again hattempt hfailed _ hretry _ ih =>
      subst hc
      rw [explained_append, explained_append]
      refine ⟨⟨hP.attempt hattempt rfl, hP.retryCourse hattempt hfailed hretry⟩, ih ?_⟩
      simp only [tokenAfter_append]

theorem scenario {s : Scenario} {result : ScenarioResult} {cut : Bool}
    {es : List (Entry σ)} (h : ScenarioCourse r (tokenAfter c done) s result es cut) :
    Explained P done es := by
  cases h with
  | marked => trivial
  | cut => trivial
  | ran _ hnot hts htries =>
      rw [explained_append, explained_append]
      refine ⟨⟨⟨hP.logged, hP.scenarioSent ?_, hP.tellings hts⟩, ?_⟩, ?_⟩
      · simpa [Entry.isCancel] using hnot
      · exact hP.tries htries (by simp [Entry.isCancel])
      · rw [scenarioEnd]
        split
        · trivial
        · exact ⟨hP.logged, trivial⟩

theorem feature {f : Feature} {result : FeatureResult} {cut : Bool}
    {es : List (Entry σ)} (h : FeatureCourse r (tokenAfter c done) f result es cut) :
    Explained P done es := by
  cases h with
  | marked => exact ⟨hP.logged, trivial⟩
  | cut => exact ⟨hP.logged, trivial⟩
  | ran _ hnot hts hscenarios =>
      rw [explained_append]
      refine ⟨⟨hP.logged, hP.featureSent ?_, hP.tellings hts⟩, ?_⟩
      · simpa [Entry.isCancel] using hnot
      · exact hscenarios.explained hP.scenario (by simp [Entry.isCancel])

theorem features {fs : List Feature} {results : List FeatureResult} {cut : Bool}
    {es : List (Entry σ)} (h : Courses (FeatureCourse r) c fs results es cut) :
    Explained P [] es :=
  h.explained hP.feature (tokenAfter_nil c).symm

end Runner.Explains

/-- Whatever a run adds to the history is explained. -/
theorem Runner.Explains.run {r : Runner σ} {w : World σ}
    {P : List (Entry σ) → Entry σ → Prop} (hP : r.Explains w.cancelled P)
    {features : List Feature} {es : List (Entry σ)}
    (hes : (r.run features w).2.history = w.history ++ es) : Explained P [] es := by
  obtain ⟨results, fs, cut, time, ts, hfs, -, hts, hhistory⟩ := r.run_course features w
  obtain rfl := List.append_cancel_left (hes.symm.trans hhistory)
  exact explained_append.mpr ⟨hP.features hfs, hP.reported, hP.tellings hts⟩

end Stepwise
