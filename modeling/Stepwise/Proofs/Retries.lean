import Stepwise.Proofs.Cancellation
import Stepwise.Proofs.Reading
import Stepwise.Proofs.Waiting

/-!
# The loop that tries a scenario

The loop ends for one of three reasons: an attempt passes, an attempt finds the run
cancelled, or no other one is allowed. This file says what each of them means for the
steps of the attempt (`Runner.Passes`, `Runner.FindsCancelled`), and what lies between two
attempts: one announcement, and the wait that the configuration asks for
(`World.Interlude`). Attempts have numbers, as in `Stepwise.Proofs.Attempts`, and
`Runner.Retried` is the account of the whole loop in terms of these numbers.

The loop counts down what is left, so its number cannot run over. Counting up with a
number of thirty-two bits, and looking at it before adding one, comes to the same
(`tryScenario_eq_countUp`), since the number never gets beyond the last one allowed.
-/

namespace Stepwise

variable {σ : Type}

/-! ## The steps of an attempt -/

namespace Runner

variable (r : Runner σ)

open World

/-- An attempt at the scenario that begins here passes all steps. -/
def Passes (s : Scenario) (w : World σ) : Prop :=
  ∀ x ∈ (r.runSteps s.displayName s.steps w).1.steps, x.success = true

/-- An attempt at the scenario that begins here passes some steps, and finds the run
cancelled in front of the next one. -/
def FindsCancelled (s : Scenario) (w : World σ) : Prop :=
  ∃ before step after, s.steps = before ++ step :: after ∧
    (∀ x ∈ (r.runSteps s.displayName before w).1.steps, x.success = true) ∧
    r.heeds (r.runSteps s.displayName before w).2.cancelled = true

/-- An attempt is interrupted exactly if it finds the run cancelled in front of a step
and all before it have passed: behind a step that has failed nobody looks. -/
theorem runSteps_interrupted_iff (name : String) (steps : List Step) :
    ∀ w : World σ, (r.runSteps name steps w).1.interrupted = true ↔
      ∃ before step after, steps = before ++ step :: after ∧
        (∀ x ∈ (r.runSteps name before w).1.steps, x.success = true) ∧
        r.heeds (r.runSteps name before w).2.cancelled = true := by
  induction steps with
  | nil =>
      refine fun w => ⟨fun h => absurd h Bool.false_ne_true, ?_⟩
      rintro ⟨before, step, after, h, -⟩
      simp at h
  | cons step rest ih =>
      intro w
      cases hheeds : r.heeds w.cancelled with
      | true =>
          rw [r.runSteps_of_heeds hheeds]
          exact iff_of_true rfl ⟨[], step, rest, rfl, by simp [runSteps], hheeds⟩
      | false =>
          let x := r.runStep step (r.checkCancelled w).2
          have hfirst (before : List Step) : r.runSteps name (step :: before) w =
              if x.1.success then
                ((r.runSteps name before x.2).1.after x.1, (r.runSteps name before x.2).2)
              else (⟨x.1 :: before.map StepResult.skip, true, false⟩, x.2) :=
            r.runSteps_of_not_heeds hheeds
          -- no step of this attempt is left out before the first one
          have hsplit {before after : List Step} {next : Step}
              (hsteps : step :: rest = before ++ next :: after)
              (hfound : r.heeds (r.runSteps name before w).2.cancelled = true) :
              ∃ before', before = step :: before' ∧ rest = before' ++ next :: after := by
            cases before with
            | nil =>
                change r.heeds w.cancelled = true at hfound
                rw [hheeds] at hfound
                cases hfound
            | cons b before' =>
                obtain ⟨rfl, hrest⟩ := List.cons.inj hsteps
                exact ⟨before', rfl, hrest⟩
          cases hpass : x.1.success with
          | false =>
              rw [hfirst, hpass]
              refine ⟨fun h => absurd h Bool.false_ne_true, ?_⟩
              rintro ⟨before, next, after, hsteps, hpassed, hfound⟩
              obtain ⟨before, rfl, -⟩ := hsplit hsteps hfound
              rw [hfirst, hpass] at hpassed
              exact absurd (hpassed x.1 List.mem_cons_self) (by simp [hpass])
          | true =>
              rw [hfirst, hpass]
              refine (ih x.2).trans ⟨?_, ?_⟩
              · rintro ⟨before, next, after, rfl, hpassed, hfound⟩
                refine ⟨step :: before, next, after, rfl, ?_, ?_⟩
                · rw [hfirst, hpass]
                  exact List.forall_mem_cons.mpr ⟨hpass, hpassed⟩
                · rw [hfirst, hpass]
                  exact hfound
              · rintro ⟨before, next, after, hsteps, hpassed, hfound⟩
                obtain ⟨before, rfl, hrest⟩ := hsplit hsteps hfound
                rw [hfirst, hpass] at hpassed hfound
                exact ⟨before, next, after, hrest, (List.forall_mem_cons.mp hpassed).2, hfound⟩

/-! ## Between attempts -/

end Runner

/-- From the one world to the other the runner only makes a record, tells of an event and
waits. The store and the session are left as they are, and the token unless an observer
cancels the run. -/
structure World.Interlude (w : World σ) (l : LogRecord) (event : Event) (ms : Nat)
    (w' : World σ) : Prop where
  context : w'.context = w.context
  clock : w'.clock = w.clock + ms
  entries : ∃ ts, Tellings ts ∧
    w'.history = w.history ++ (.logged l :: .sent .runner event :: ts ++
      if ms = 0 then [] else [.waited ms]) ∧
    w'.cancelled = tokenAfter w.cancelled ts

namespace World.Interlude

variable {w w' : World σ} {l : LogRecord} {event : Event} {ms : Nat}

/-- All that is waited is waited by the runner. -/
theorem idle (h : w.Interlude l event ms w') :
    ∃ es, w'.history = w.history ++ es ∧ IdleFor ms es := by
  obtain ⟨ts, hts, hhistory, -⟩ := h.entries
  refine ⟨_, hhistory, ?_⟩
  have htold := hts.idle [.logged l, .sent .runner event] (by simp [Entry.isQuiet])
  have hwait : IdleFor ms (if ms = 0 then [] else [(.waited ms : Entry σ)]) := by
    split
    · next hms => exact hms ▸ .nil
    · exact .wait ms
  simpa using htold.append hwait

end World.Interlude

namespace Runner

variable (r : Runner σ)

open World

theorem interlude_emit (w : World σ) (l : LogRecord) (event : Event) :
    w.Interlude l event 0 (r.emit event (w.log l)) := by
  obtain ⟨ts, hts, hsaid⟩ := r.leads_announce w l event
  refine ⟨context_send _ _ _ _, (tellAll_keeps _ _ _ _).2, ts, hts, ?_, ?_⟩
  · rw [hsaid.history, if_pos rfl, List.append_nil]
  · simpa [Entry.isCancel] using hsaid.cancelled

theorem interlude_prepareRetry (s : Scenario) (number : Nat) (w : World σ) :
    w.Interlude (.retrying s.displayName number s.limit) (.retrying s.displayName number s.limit)
      r.config.retryDelay.toNat (r.prepareRetry s number w) := by
  have hsaid := r.interlude_emit w (.retrying s.displayName number s.limit)
    (.retrying s.displayName number s.limit)
  simp only [prepareRetry]
  split
  · next hdelay => rwa [hdelay]
  · next hdelay =>
      have hms : r.config.retryDelay.toNat ≠ 0 := fun h =>
        hdelay (UInt64.toNat_inj.mp h)
      obtain ⟨ts, hts, hhistory, hcancelled⟩ := hsaid.entries
      refine ⟨hsaid.context, congrArg (· + _) hsaid.clock, ts, hts, ?_, hcancelled⟩
      rw [(leads_wait _ _).history, hhistory, if_pos rfl, if_neg hms, List.append_nil,
        List.append_assoc]

/-- Up to the end of an attempt handlers have waited, and the runner in front of every
attempt but the first. -/
theorem idle_worldAfter (s : Scenario) (w : World σ) (k : Nat) :
    ∃ es, (r.worldAfter s w k).history = w.history ++ es ∧
      IdleFor (k * r.config.retryDelay.toNat) es := by
  induction k with
  | zero =>
      obtain ⟨es, hes, hleads⟩ := r.attemptAt_course s w 0
      exact ⟨es, hleads.history, by simpa using hes.idle⟩
  | succ k ih =>
      obtain ⟨before, hbefore, hidle⟩ := ih
      obtain ⟨pause, hpause, hwait⟩ :=
        (r.interlude_prepareRetry s (k + 2) (r.worldAfter s w k)).idle
      obtain ⟨es, hes, hleads⟩ := r.attemptAt_course s w (k + 1)
      refine ⟨before ++ pause ++ es, ?_, ?_⟩
      · rw [hleads.history, worldBefore_succ, hpause, hbefore]
        simp
      · rw [Nat.succ_mul]
        exact (hidle.append hwait).append hes.idle

/-! ## Counting up -/

end Runner

/-- The number of the last attempt that is allowed. -/
def Scenario.lastNumber (s : Scenario) : UInt32 := max s.maxTries 1

theorem Scenario.toNat_lastNumber (s : Scenario) : s.lastNumber.toNat = s.limit := by
  change (if s.maxTries ≤ 1 then 1 else s.maxTries).toNat = _
  rw [limit, Nat.max_def, apply_ite UInt32.toNat]
  exact if_congr UInt32.le_iff_toNat_le rfl rfl

theorem toNat_add_one_of_lt {n last : UInt32} (h : n < last) :
    (n + 1).toNat = n.toNat + 1 := by
  have hlt := UInt32.lt_iff_toNat_lt.mp h
  have hlast := last.toNat_lt
  rw [UInt32.toNat_add]
  exact Nat.mod_eq_of_lt (Nat.lt_of_le_of_lt hlt hlast)

namespace Runner

variable (r : Runner σ)

open World

/-- Tries a scenario with the attempts numbered from the first one on. The number is
compared with the last one allowed before it is raised. -/
def countUp (s : Scenario) (begun : Nat) (number : UInt32) (w : World σ) :
    ScenarioResult × World σ :=
  let attempt := r.runSteps s.displayName s.steps w
  if h : attempt.1.success ∨ attempt.1.interrupted ∨ s.lastNumber ≤ number then
    finishScenario s attempt.1 number.toNat (attempt.2.clock - begun) attempt.2
  else countUp s begun (number + 1) (r.prepareRetry s (number + 1).toNat attempt.2)
termination_by s.limit - number.toNat
decreasing_by
  simp only [not_or, UInt32.not_le] at h
  rw [toNat_add_one_of_lt h.2.2, ← s.toNat_lastNumber]
  have hlt := UInt32.lt_iff_toNat_lt.mp h.2.2
  omega

/-- Counting down what is left comes to the same as counting up, since the number never
gets beyond the last one allowed. -/
theorem tryScenario_eq_countUp (s : Scenario) (begun left : Nat) :
    ∀ (number : UInt32) (w : World σ), number.toNat + left = s.limit →
      r.tryScenario s begun left w = r.countUp s begun number w := by
  induction left with
  | zero =>
      intro number w hnumber
      have hlast : s.lastNumber ≤ number := by
        rw [UInt32.le_iff_toNat_le, s.toNat_lastNumber]
        omega
      rw [r.tryScenario_last (.inr rfl), countUp, dif_pos (.inr (.inr hlast)), ← hnumber]
      rfl
  | succ left ih =>
      intro number w hnumber
      have hlast : ¬ s.lastNumber ≤ number := by
        rw [UInt32.le_iff_toNat_le, s.toNat_lastNumber]
        omega
      have hnext : (number + 1).toNat = number.toNat + 1 :=
        toNat_add_one_of_lt (UInt32.not_le.mp hlast)
      have hnow : s.limit - (left + 1) = number.toNat := by omega
      obtain ⟨es, hes, -⟩ := r.runSteps_course s.displayName s.steps w
      have hstops := hes.stops
      rw [countUp]
      cases hfailed : (r.runSteps s.displayName s.steps w).1.failed with
      | false =>
          rw [hfailed, Bool.not_false, Bool.or_eq_true] at hstops
          rw [r.tryScenario_last (.inl hfailed), dif_pos (by tauto), hnow]
      | true =>
          rw [hfailed, Bool.not_true, Bool.or_eq_false_iff] at hstops
          rw [r.tryScenario_again hfailed, hnow, ← hnext,
            dif_neg (by simp [hstops.1, hstops.2, hlast])]
          exact ih (number + 1) _ (by omega)

/-! ## Tries -/

/-- The result `x` comes of attempts of which the first began in the world `w₀`, and `n`
were made in front of the one that is kept. -/
structure Retried (s : Scenario) (w₀ : World σ) (n : Nat) (x : ScenarioResult × World σ) :
    Prop where
  allowed : n + 1 ≤ s.limit
  /-- Whoever counts the attempts in thirty-two bits counts right. -/
  counted : ∀ k < n, (UInt32.ofNat (k + 1) + 1).toNat = k + 2
  /-- No attempt in front of the one that is kept has ended the loop. -/
  goesOn : ∀ k < n, ¬ r.Passes s (r.worldBefore s w₀ k) ∧
    ¬ r.FindsCancelled s (r.worldBefore s w₀ k)
  /-- The next attempt begins where the one before has ended. -/
  between : ∀ k < n, (r.worldAfter s w₀ k).Interlude
    (.retrying s.displayName (k + 2) s.limit) (.retrying s.displayName (k + 2) s.limit)
    r.config.retryDelay.toNat (r.worldBefore s w₀ (k + 1))
  stops : r.Passes s (r.worldBefore s w₀ n) ∨ r.FindsCancelled s (r.worldBefore s w₀ n) ∨
    n + 1 = s.limit
  result : x.1 = ⟨s, (r.attemptAt s w₀ n).steps, (r.attemptAt s w₀ n).success, false, n + 1,
    some ((r.worldAfter s w₀ n).clock - w₀.clock)⟩
  success_iff : x.1.success = true ↔ r.Passes s (r.worldBefore s w₀ n)
  context : x.2.context = (r.worldAfter s w₀ n).context
  cancelled : x.2.cancelled = (r.worldAfter s w₀ n).cancelled
  clock : x.2.clock = (r.worldAfter s w₀ n).clock
  history : x.2.history = (r.worldAfter s w₀ n).history ++
    scenarioEnd s (r.attemptAt s w₀ n) (n + 1)

theorem passes_iff (s : Scenario) (w : World σ) :
    (r.runSteps s.displayName s.steps w).1.success = true ↔ r.Passes s w := by
  obtain ⟨es, hes, -⟩ := r.runSteps_course s.displayName s.steps w
  exact hes.success_iff

theorem findsCancelled_iff (s : Scenario) (w : World σ) :
    (r.runSteps s.displayName s.steps w).1.interrupted = true ↔ r.FindsCancelled s w :=
  r.runSteps_interrupted_iff s.displayName s.steps w

/-- An attempt that has not failed passes or finds the run cancelled. -/
theorem failed_eq_false_iff (s : Scenario) (w : World σ) :
    (r.runSteps s.displayName s.steps w).1.failed = false ↔
      r.Passes s w ∨ r.FindsCancelled s w := by
  obtain ⟨es, hes, -⟩ := r.runSteps_course s.displayName s.steps w
  rw [← passes_iff, ← findsCancelled_iff, ← Bool.or_eq_true, hes.stops, Bool.not_eq_true']

theorem finishScenario_keeps (s : Scenario) (attempt : Attempt) (tries time : Nat)
    (w : World σ) :
    (finishScenario s attempt tries time w).2.context = w.context ∧
      (finishScenario s attempt tries time w).2.cancelled = w.cancelled ∧
      (finishScenario s attempt tries time w).2.clock = w.clock := by
  simp only [finishScenario]
  split <;> exact ⟨rfl, rfl, rfl⟩

/-- A number that is not the last one can be raised. -/
theorem toNat_succ_of_lt_limit {s : Scenario} {k : Nat} (h : k + 1 < s.limit) :
    (UInt32.ofNat (k + 1) + 1).toNat = k + 2 := by
  have hsize := s.lastNumber.toNat_lt
  rw [s.toNat_lastNumber] at hsize
  have hnumber : (UInt32.ofNat (k + 1)).toNat = k + 1 :=
    UInt32.toNat_ofNat_of_lt' (Nat.lt_trans h hsize)
  have hlt : UInt32.ofNat (k + 1) < s.lastNumber := by
    rwa [UInt32.lt_iff_toNat_lt, hnumber, s.toNat_lastNumber]
  rw [toNat_add_one_of_lt hlt, hnumber]

/-- The loop makes attempts up to the first one that ends it. -/
theorem tryScenario_retried (s : Scenario) (w₀ : World σ) :
    ∃ n, r.Retried s w₀ n (r.tryScenario s w₀.clock (s.limit - 1) w₀) := by
  obtain ⟨n, hn, hearlier, hlast, heq⟩ := r.exists_kept s w₀.clock w₀
  obtain ⟨hcontext, hcancelled, hclock⟩ := finishScenario_keeps s (r.attemptAt s w₀ n)
    (n + 1) ((r.worldAfter s w₀ n).clock - w₀.clock) (r.worldAfter s w₀ n)
  have hend := finishScenario_course s (r.attemptAt s w₀ n) (n + 1)
    ((r.worldAfter s w₀ n).clock - w₀.clock) (r.worldAfter s w₀ n)
  rw [heq]
  refine ⟨n, hn, fun k hk => toNat_succ_of_lt_limit (s := s) (by omega),
    fun k hk => ?_,
    fun k _ => r.interlude_prepareRetry s (k + 2) (r.worldAfter s w₀ k), ?_, rfl,
    r.passes_iff s (r.worldBefore s w₀ n), hcontext, hcancelled, hclock, hend.history⟩
  · have hfailed : (r.attemptAt s w₀ k).failed = true := hearlier k hk
    rw [← not_or, ← failed_eq_false_iff]
    exact Bool.not_eq_false _ ▸ hfailed
  · rw [← or_assoc, ← failed_eq_false_iff]
    exact hlast

/-- In a whole scenario handlers have waited, and the runner in front of every attempt but
the first. -/
theorem clock_of_retried {s : Scenario} {w₀ : World σ} {n : Nat}
    {x : ScenarioResult × World σ} (h : r.Retried s w₀ n x)
    (htimed : x.2.Timed w₀.history w₀.clock) :
    ∃ es, x.2.history = w₀.history ++ es ∧
      x.2.clock = w₀.clock + n * r.config.retryDelay.toNat + slept false es := by
  obtain ⟨es, hes, hidle⟩ := r.idle_worldAfter s w₀ n
  have hend : IdleFor 0 (scenarioEnd s (r.attemptAt s w₀ n) (n + 1) : List (Entry σ)) := by
    refine .of_quiet fun e he => ?_
    rw [scenarioEnd] at he
    split at he
    · cases he
    · rw [List.mem_singleton.mp he]
      rfl
  obtain ⟨fs, hfs, hclock⟩ := htimed
  have hadded : fs = es ++ scenarioEnd s (r.attemptAt s w₀ n) (n + 1) := by
    refine List.append_cancel_left (hfs.symm.trans ?_)
    rw [h.history, hes, List.append_assoc]
  refine ⟨fs, hfs, ?_⟩
  rw [hclock, hadded, (hidle.append hend).waited_eq, Nat.add_zero, Nat.add_assoc]

/-- A scenario that is neither marked to be left out nor cut before its start is tried
until an attempt passes, finds the run cancelled or is the last one allowed, and what is
kept is the result of that attempt. Each attempt begins with what the one before has left;
between the two the next one is announced once, and then the runner waits for the time
that is set, or not at all. So the clock goes on by the waits between the attempts and by
what the handlers have waited themselves. -/
theorem runScenario_retried (s : Scenario) (w : World σ) (hskip : s.skip = false)
    (hstart : r.heeds w.cancelled = false) :
    ∃ w₀ n, w.Interlude (.scenarioStarted s.displayName s.limit)
        (.scenarioStarted s.displayName) 0 w₀ ∧
      r.Retried s w₀ n (r.runScenario s w) ∧
      r.runScenario s w = r.countUp s w₀.clock 1 w₀ ∧
      w.Announces (.scenarioStarted s.displayName ::
        (List.range (n + 1)).flatMap fun k =>
          s.attemptEvents k (r.attemptAt s w₀ k).steps) (r.runScenario s w).2 ∧
      ∃ es, (r.runScenario s w).2.history = w₀.history ++ es ∧
        (r.runScenario s w).2.clock =
          w.clock + n * r.config.retryDelay.toNat + slept false es := by
  have hlimit : 1 ≤ s.limit := Nat.le_max_right _ _
  let w₁ := (r.checkCancelled w).2
  let w₀ := r.worldStarted s w
  have hrun : r.runScenario s w = r.tryScenario s w₀.clock (s.limit - 1) w₀ :=
    r.runScenario_of_not_heeds hskip hstart
  have hbegin : w₁.Interlude (.scenarioStarted s.displayName s.limit)
      (.scenarioStarted s.displayName) 0 w₀ := r.interlude_emit w₁ _ _
  obtain ⟨n, hn⟩ := r.tryScenario_retried s w₀
  have htimed := ((r.timed_keeps w₀.history w₀.clock).lockstep.tryScenario s w₀.clock
    (s.limit - 1) ⟨rfl, Timed.begin w₀⟩).2.2
  rw [← hrun] at hn htimed
  refine ⟨w₀, n, ⟨hbegin.context, hbegin.clock, hbegin.entries⟩, hn, ?_, ?_, ?_⟩
  · rw [hrun]
    exact r.tryScenario_eq_countUp s _ _ 1 w₀ (by simp; omega)
  · have hlook := (r.leads_checkCancelled w).announces (List.map_nil).symm
    have hannounced := r.announces_emit w₁ (.scenarioStarted s.displayName s.limit)
      (.scenarioStarted s.displayName)
    have hend : (r.worldAfter s w₀ n).Announces [] (r.runScenario s w).2 := by
      refine ⟨_, hn.history, ?_⟩
      rw [scenarioEnd]
      split <;> rfl
    simpa using ((hlook.trans hannounced).trans (r.announces_attempts s w₀ n)).trans hend
  · obtain ⟨es, hes, hclock⟩ := r.clock_of_retried hn htimed
    have hw₀ : w₀.clock = w.clock := hbegin.clock
    rw [hw₀] at hclock
    exact ⟨es, hes, hclock⟩

/-- The first attempt fails, and of three that are allowed the second one is kept. -/
theorem runScenario_retried_once :
    let r : Runner Unit := { single .silent failingOnce with config := ⟨5, false⟩ }
    let s := (Scenario.named "s" [Step.ofText "x"]).withMaxTries 3
    let w : World Unit := World.ofContext ⟨Store.empty, ()⟩
    s.skip = false ∧ r.heeds w.cancelled = false ∧
      ∃ w₀, r.Retried s w₀ 1 (r.runScenario s w) ∧ (r.runScenario s w).1.success = true ∧
        (r.runScenario s w).2.clock = 7 + 5 := by
  intro r s w
  obtain ⟨w₀, n, -, hretried, -⟩ := r.runScenario_retried s w rfl rfl
  have htries : (r.runScenario s w).1.tries = 2 := by decide +kernel
  obtain rfl : n = 1 := by
    rw [hretried.result] at htries
    exact Nat.succ.inj htries
  exact ⟨rfl, rfl, w₀, hretried, by decide +kernel, by decide +kernel⟩

end Runner

end Stepwise
