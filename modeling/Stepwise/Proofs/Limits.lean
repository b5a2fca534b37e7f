import Stepwise.Proofs.Thread
import Stepwise.Proofs.Twins

/-!
# Raising the number of tries

A scenario that came to its end within the tries it was allowed does the same if it is
allowed more of them. The number of tries is looked at in one place only, behind an attempt
that has failed; everything else that a scenario does is done without it. But it is also
said, in the announcement of an attempt and in the log, so the two runs are not the same
world for world: they are the same up to what is said of the limit (`Entry.unlimited?`).
Observers hear of it, and the claim is about observers that do not mind
(`Reporter.IgnoresLimits`).

So attempts are compared by their numbers. The one of each number begins in worlds that
look alike, whatever the two limits are (`twin_worldBefore`), and which of them is kept is
then a question about the limits alone.
-/

namespace Stepwise

variable {σ : Type}

/-! ## Events up to the limit -/

/-- The event without the number of tries that it tells of. -/
def Event.unlimited : Event → Event
  | .retrying scenario attempt _ => .retrying scenario attempt 0
  | e => e

def Notice.unlimited : Notice → Notice
  | .progress event => .progress event.unlimited
  | .report result => .report result

/-- Whether the observer cancels the run does not depend on the number of tries that it has
been told. -/
def Observer.IgnoresLimits : Observer → Prop
  | .recorder cancels => ∀ told, cancels (told.map Notice.unlimited) = cancels told
  | _ => True

def Reporter.IgnoresLimits (reporter : Reporter) : Prop :=
  ∀ o ∈ reporter.observers, o.IgnoresLimits

/-- What is left of an entry if nothing is said of the number of tries. Records of the log
are left out. -/
def Entry.unlimited? : Entry σ → Option (Entry σ)
  | .logged _ => none
  | .sent sender event => some (.sent sender event.unlimited)
  | .told i clock notice => some (.told i clock notice.unlimited)
  | e => some e

theorem Event.unlimited_unlimited (e : Event) : e.unlimited.unlimited = e.unlimited := by
  cases e <;> rfl

theorem Notice.unlimited_unlimited (n : Notice) : n.unlimited.unlimited = n.unlimited := by
  cases n with
  | progress event => exact congrArg Notice.progress event.unlimited_unlimited
  | report => rfl

/-- What can be told from a history without the number of tries. -/
theorem bind_unlimited? {β : Type} {f : Entry σ → Option β} (hlog : ∀ l, f (.logged l) = none)
    (hsent : ∀ sender event, f (.sent sender event.unlimited) = f (.sent sender event))
    (htold : ∀ i clock notice, f (.told i clock notice.unlimited) = f (.told i clock notice))
    (e : Entry σ) : e.unlimited?.bind f = f e := by
  cases e with
  | logged l => exact (hlog l).symm
  | sent sender event => exact hsent sender event
  | told i clock notice => exact htold i clock notice
  | _ => rfl

/-- What is sent, up to the number of tries. -/
def Entry.unlimitedEvent? (e : Entry σ) : Option (Sender × Event) :=
  e.event?.map fun sent => (sent.1, sent.2.unlimited)

theorem bind_call? (e : Entry σ) : e.unlimited?.bind Entry.call? = e.call? :=
  bind_unlimited? (fun _ => rfl) (fun _ _ => rfl) (fun _ _ _ => rfl) e

theorem bind_unlimitedEvent? (e : Entry σ) :
    e.unlimited?.bind Entry.unlimitedEvent? = e.unlimitedEvent? := by
  refine bind_unlimited? (fun _ => rfl) (fun sender event => ?_) (fun _ _ _ => rfl) e
  exact congrArg (fun event => some (sender, event)) event.unlimited_unlimited

/-! ## Worlds of two runs -/

namespace World.Twin

variable {w w' : World σ}

theorem notices_unlimited (h : w.Twin Entry.unlimited? w') (i : Nat) :
    (w.notices i).map Notice.unlimited = (w'.notices i).map Notice.unlimited := by
  simp only [notices, List.map_filterMap]
  refine h.filterMap_eq (bind_unlimited? (fun _ => rfl) (fun _ _ => rfl) fun j clock notice => ?_)
    (List.nil_append _).symm (List.nil_append _).symm
  by_cases hj : j = i <;> simp [hj, notice.unlimited_unlimited]

/-- An observer does the same on events that differ in the number of tries, if that does
not matter to it. -/
theorem tell_unlimited (h : w.Twin Entry.unlimited? w') {o : Observer}
    (ho : o.IgnoresLimits) (i : Nat) {event event' : Event}
    (he : event.unlimited = event'.unlimited) :
    (w.tell i o (.progress event)).Twin Entry.unlimited?
      (w'.tell i o (.progress event')) := by
  have htold : (w.record (.told i w.clock (.progress event))).Twin Entry.unlimited?
      (w'.record (.told i w'.clock (.progress event'))) := by
    refine h.record ?_
    simp only [Entry.unlimited?, Notice.unlimited, h.clock, he]
  cases o with
  | silent => exact h
  | recorder cancels =>
      simp only [World.tell]
      rw [← ho, htold.notices_unlimited, ho]
      split
      · exact htold.cancel
      · exact htold
  | channel isOpen =>
      cases isOpen with
      | false => exact h
      | true => exact htold
  | logger => exact h.record rfl

theorem send_unlimited (h : w.Twin Entry.unlimited? w') {reporter : Reporter}
    (hr : reporter.IgnoresLimits) (sender : Sender) {event event' : Event}
    (he : event.unlimited = event'.unlimited) :
    (w.send reporter sender event).Twin Entry.unlimited?
      (w'.send reporter sender event') := by
  refine tellAll_related (fun o ho _ _ i h => h.tell_unlimited (hr o ho) i he) 0 (h.record ?_)
  simp only [Entry.unlimited?, he]

end World.Twin

namespace Runner

variable (r : Runner σ)

open World

/-! ## Attempts at two limits -/

section Attempts

variable {r} (hr : r.reporter.IgnoresLimits) {w w' : World σ}

include hr

theorem unlimited_lockstep : r.Lockstep r (World.Twin Entry.unlimited?) :=
  r.twin_lockstep fun sender _ h => h.send_unlimited hr sender rfl

theorem twin_announce (h : w.Twin Entry.unlimited? w') (l l' : LogRecord) (event event' : Event)
    (he : event.unlimited = event'.unlimited) :
    (r.emit event (w.log l)).Twin Entry.unlimited? (r.emit event' (w'.log l')) := by
  have hlog : (w.log l).Twin Entry.unlimited? (w'.log l') := h.record rfl
  exact hlog.send_unlimited hr .runner he

/-- An attempt is announced with different limits. -/
theorem twin_prepareRetry (s : Scenario) (m : UInt32) (number : Nat)
    (h : w.Twin Entry.unlimited? w') :
    (r.prepareRetry s number w).Twin Entry.unlimited?
      (r.prepareRetry { s with maxTries := m } number w') := by
  let s' : Scenario := { s with maxTries := m }
  have hsaid := twin_announce hr h (.retrying s.displayName number s.limit)
    (.retrying s'.displayName number s'.limit) (.retrying s.displayName number s.limit)
    (.retrying s'.displayName number s'.limit) rfl
  simp only [prepareRetry]
  split
  · exact hsaid
  · exact (unlimited_lockstep hr).wait _ hsaid

/-- Whatever the two limits are, the attempts of one number are the same, and begin in
worlds that look alike. -/
theorem twin_worldBefore (s : Scenario) (m : UInt32) (h : w.Twin Entry.unlimited? w')
    (k : Nat) :
    (r.worldBefore s w k).Twin Entry.unlimited?
      (r.worldBefore { s with maxTries := m } w' k) := by
  induction k with
  | zero => exact h
  | succ k ih =>
      exact twin_prepareRetry hr s m (k + 2)
        ((unlimited_lockstep hr).runSteps s.displayName s.steps ih).2

theorem same_attemptAt (s : Scenario) (m : UInt32) (h : w.Twin Entry.unlimited? w')
    (k : Nat) :
    r.attemptAt s w k = r.attemptAt { s with maxTries := m } w' k ∧
      (r.worldAfter s w k).Twin Entry.unlimited?
        (r.worldAfter { s with maxTries := m } w' k) :=
  (unlimited_lockstep hr).runSteps s.displayName s.steps (twin_worldBefore hr s m h k)

end Attempts

/-! ## The attempt that is kept -/

/-- Of the attempts that are kept at two limits the one at the higher limit is not the
earlier one. If the other one has not failed, they are the same. -/
theorem kept_of_le {failed : Nat → Bool} {n n' limit limit' : Nat} (hlimit : limit ≤ limit')
    (hn : n < limit) (hearlier : ∀ k < n, failed k = true)
    (hlast' : failed n' = false ∨ n' + 1 = limit') (hearlier' : ∀ k < n', failed k = true) :
    n ≤ n' ∧ (failed n = false → n' = n) := by
  have hle : n ≤ n' := by
    by_contra hlt
    rcases hlast' with hfailed | hlast
    · rw [hearlier n' (by omega)] at hfailed
      cases hfailed
    · omega
  refine ⟨hle, fun hfailed => ?_⟩
  by_contra hne
  rw [hearlier' n (by omega)] at hfailed
  cases hfailed

/-- A scenario has passed or was interrupted exactly if the attempt that is kept has not
failed. -/
theorem settled_iff (s : Scenario) (w : World σ) (n time : Nat) :
    let x : ScenarioResult := ⟨s, (r.attemptAt s w n).steps, (r.attemptAt s w n).success,
      false, n + 1, some time⟩
    x.success = true ∨ x.isCut = true ↔ (r.attemptAt s w n).failed = false := by
  intro x
  obtain ⟨es, hes, -⟩ := r.attemptAt_course s w n
  have hcut : x.isCut = (r.attemptAt s w n).interrupted := hes.interrupted_eq
  rw [hcut, ← Bool.or_eq_true]
  change ((r.attemptAt s w n).success || (r.attemptAt s w n).interrupted) = true ↔ _
  rw [hes.stops, Bool.not_eq_true']

theorem twin_finishScenario {w w' : World σ} (h : w.Twin Entry.unlimited? w') (s s' : Scenario)
    (attempt : Attempt) (tries time time' : Nat) :
    (finishScenario s attempt tries time w).2.Twin Entry.unlimited?
      (finishScenario s' attempt tries time' w').2 := by
  simp only [finishScenario]
  split
  · exact h
  · exact h.record rfl

/-- The end of a scenario leaves nothing but a record of the log. -/
theorem twin_finishScenario_left {w w' : World σ} (h : w.Twin Entry.unlimited? w')
    (s : Scenario) (attempt : Attempt) (tries time : Nat) :
    (finishScenario s attempt tries time w).2.Twin Entry.unlimited? w' := by
  simp only [finishScenario]
  split
  · exact h
  · exact h.record_left rfl

/-- What `y` has of `x`, if it comes of the same scenario with a higher limit. If the lower
limit was enough, they are the same; if not, there is a world behind `w` on the way to `y` up
to which they are. -/
structure Raised (w : World σ) (s s' : Scenario) (x y : ScenarioResult × World σ) : Prop where
  settled : x.1.success = true ∨ x.1.isCut = true →
    y.1 = { x.1 with scenario := s' } ∧ x.2.Twin Entry.unlimited? y.2
  exhausted : ¬ (x.1.success = true ∨ x.1.isCut = true) →
    x.1.tries = s.limit ∧
      ∃ w₁, x.2.Twin Entry.unlimited? w₁ ∧ w.Before w₁ ∧ w₁.Before y.2

theorem Raised.of_before {w₀ w : World σ} {s s' : Scenario} {x y : ScenarioResult × World σ}
    (h : Raised w s s' x y) (hbefore : w₀.Before w) : Raised w₀ s s' x y where
  settled := h.settled
  exhausted hnot := by
    obtain ⟨htries, w₁, htwin, hw₁, hy⟩ := h.exhausted hnot
    exact ⟨htries, w₁, htwin, hbefore.trans hw₁, hy⟩

theorem tryScenario_raised (hr : r.reporter.IgnoresLimits) {s : Scenario} {m : UInt32}
    (hlimit : s.limit ≤ Scenario.limit { s with maxTries := m }) {w w' : World σ}
    (h : w.Twin Entry.unlimited? w') (begun : Nat) :
    let s' : Scenario := { s with maxTries := m }
    Raised w' s s' (r.tryScenario s begun (s.limit - 1) w)
      (r.tryScenario s' begun (s'.limit - 1) w') := by
  intro s'
  obtain ⟨n, hn, hearlier, hlast, hx⟩ := r.exists_kept s begun w
  obtain ⟨n', hn', hearlier', hlast', hy⟩ := r.exists_kept s' begun w'
  have hsame (k : Nat) := same_attemptAt hr s m h k
  obtain ⟨hle, heq⟩ := kept_of_le hlimit hn hearlier
    (by rw [(hsame n').1]; exact hlast') (fun k hk => by rw [(hsame k).1]; exact hearlier' k hk)
  obtain ⟨hattempt, hworld⟩ := hsame n
  have hsettled := r.settled_iff s w n ((r.worldAfter s w n).clock - begun)
  rw [← finishScenario_fst s _ _ _ (r.worldAfter s w n)] at hsettled
  rw [hx, hy]
  constructor
  case settled =>
    intro h
    obtain rfl := heq (hsettled.mp h)
    refine ⟨?_, hattempt ▸ twin_finishScenario hworld _ _ _ _ _ _⟩
    rw [finishScenario_fst, finishScenario_fst, hattempt, hworld.clock]
  case exhausted =>
    intro h
    refine ⟨hlast.resolve_left fun hfailed => h (hsettled.mpr hfailed), r.worldAfter s' w' n,
      twin_finishScenario_left hworld _ _ _ _, ?_, ?_⟩
    · exact (r.before_worldBefore s' w' n).trans (r.before_worldAfter s' w' n)
    · exact (r.worldAfter_before s' w' hle).trans (finishScenario_course _ _ _ _ _).before

/-! ## Scenarios -/

/-- A scenario is begun in the same way whatever its limit is. -/
theorem twin_worldStarted (hr : r.reporter.IgnoresLimits) (s : Scenario) (m : UInt32)
    (w : World σ) :
    (r.worldStarted s w).Twin Entry.unlimited?
      (r.worldStarted { s with maxTries := m } w) :=
  twin_announce hr (Twin.refl _) _ _ _ _ rfl

theorem runScenario_raised (hr : r.reporter.IgnoresLimits) {s : Scenario} {m : UInt32}
    (hlimit : s.limit ≤ Scenario.limit { s with maxTries := m }) (w : World σ) :
    let s' : Scenario := { s with maxTries := m }
    Raised w s s' (r.runScenario s w) (r.runScenario s' w) := by
  intro s'
  cases hskip : s.skip with
  | true =>
      have hx : r.runScenario s w = (ScenarioResult.skip s, w) := if_pos hskip
      have hy : r.runScenario s' w = (ScenarioResult.skip s', w) := if_pos hskip
      rw [hx, hy]
      exact ⟨fun _ => ⟨rfl, Twin.refl w⟩, fun h => absurd (.inl rfl) h⟩
  | false =>
      cases hstart : r.heeds w.cancelled with
      | true =>
          rw [r.runScenario_of_heeds hskip hstart,
            r.runScenario_of_heeds (show s'.skip = false from hskip) hstart]
          exact ⟨fun _ => ⟨rfl, Twin.refl _⟩, fun h => absurd (.inl rfl) h⟩
      | false =>
          have hbegin := r.twin_worldStarted hr s m w
          have htries := r.tryScenario_raised hr hlimit hbegin (r.worldStarted s w).clock
          rw [r.runScenario_of_not_heeds hskip hstart,
            r.runScenario_of_not_heeds (show s'.skip = false from hskip) hstart, ← hbegin.clock]
          exact htries.of_before (r.before_worldStarted s' w)

/-- A scenario that passes or is interrupted within the tries it is allowed does the same if
more are allowed: the result is the same, and so are the calls with the store and the session
that they find, and the events up to the number of tries they tell of. If it fails all the
tries it is allowed, the calls are made in the other run as well, and before any others. -/
theorem runScenario_same_of_raised (hr : r.reporter.IgnoresLimits) (s : Scenario) (m : UInt32)
    (hlimit : s.limit ≤ Scenario.limit { s with maxTries := m }) (w : World σ) :
    let s' : Scenario := { s with maxTries := m }
    let x := r.runScenario s w
    let y := r.runScenario s' w
    ∃ es es', x.2.history = w.history ++ es ∧ y.2.history = w.history ++ es' ∧
      (x.1.success = true ∨ x.1.isCut = true →
        y.1 = { x.1 with scenario := s' } ∧ y.2.context = x.2.context ∧
          y.2.cancelled = x.2.cancelled ∧ calls es' = calls es ∧
          es'.filterMap Entry.unlimitedEvent? = es.filterMap Entry.unlimitedEvent?) ∧
      (¬ (x.1.success = true ∨ x.1.isCut = true) →
        x.1.tries = s.limit ∧ calls es <+: calls es') := by
  intro s' x y
  have hraised : Raised w s s' x y := r.runScenario_raised hr hlimit w
  obtain ⟨es, hes⟩ : w.Before x.2 := r.before_runScenario s w
  obtain ⟨es', hes'⟩ : w.Before y.2 := r.before_runScenario s' w
  refine ⟨es, es', hes.symm, hes'.symm, fun h => ?_, fun h => ?_⟩
  · obtain ⟨hresult, hworld⟩ := hraised.settled h
    refine ⟨hresult, hworld.context.symm, hworld.cancelled.symm, ?_, ?_⟩
    · exact hworld.symm.filterMap_eq bind_call? hes'.symm hes.symm
    · exact hworld.symm.filterMap_eq bind_unlimitedEvent? hes'.symm hes.symm
  · obtain ⟨htries, w₁, hworld, ⟨fs, hfs⟩, gs, hgs⟩ := hraised.exhausted h
    refine ⟨htries, ?_⟩
    have hcalls : calls es = calls fs := hworld.filterMap_eq bind_call? hes.symm hfs.symm
    have hadded : es' = fs ++ gs := by
      refine List.append_cancel_left (hes'.trans ?_)
      rw [← hgs, ← hfs, List.append_assoc]
    rw [hcalls, hadded, calls_append]
    exact List.prefix_append _ _

/-- The second attempt is announced, whatever the number of tries. -/
def isSecondTry : Notice → Bool
  | .progress (.retrying _ attempt _) => attempt == 2
  | _ => false

/-- An observer that cancels the run when the second attempt is announced. That attempt is
interrupted, whether three are allowed or five. -/
theorem runScenario_same_of_raised_cut :
    let r := single (.recorder fun told => told.any isSecondTry) failingOnce
    let s := (Scenario.named "s" [Step.ofText "x"]).withMaxTries 3
    let s' : Scenario := { s with maxTries := 5 }
    let w : World Unit := World.ofContext ⟨Store.empty, ()⟩
    r.reporter.IgnoresLimits ∧ s.limit ≤ s'.limit ∧ (r.runScenario s w).1.isCut = true ∧
      (r.runScenario s w).1.tries = 2 ∧
      (r.runScenario s' w).1 = { (r.runScenario s w).1 with scenario := s' } := by
  intro r s s' w
  have hr : r.reporter.IgnoresLimits := by
    intro o ho
    obtain rfl := List.mem_singleton.mp ho
    intro told
    refine List.any_map.trans (congrArg told.any (funext fun n => ?_))
    cases n with
    | report => rfl
    | progress event => cases event <;> rfl
  have hlimit : s.limit ≤ s'.limit := by decide
  have hcut : (r.runScenario s w).1.isCut = true := by decide +kernel
  obtain ⟨_, _, -, -, hsame, -⟩ := r.runScenario_same_of_raised hr s 5 hlimit w
  exact ⟨hr, hlimit, hcut, by decide +kernel, (hsame (.inr hcut)).1⟩

end Runner

end Stepwise
