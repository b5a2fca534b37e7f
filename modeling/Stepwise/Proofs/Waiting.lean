import Stepwise.Proofs.Likeness

/-!
# Who waits

Handlers wait while they are called, and the runner waits between attempts. Both leave
the same kind of entry, and both make the clock go on, by which it is not seen who has
waited. It is the place of the entry that tells: `slept` adds up the waits that lie
between a call and its end.

`IdleFor` says of a stretch of history how much of its waiting is not of that sort. It is
made so that stretches can be put one behind the other: no handler is at work at the ends
of a stretch. That the clock shows what has been waited (`World.Timed`) is kept by all
that the runner does, since waiting is the one thing that moves it.
-/

namespace Stepwise

variable {σ : Type}

/-- The milliseconds that have been waited, whoever has waited. -/
def waited : List (Entry σ) → Nat
  | [] => 0
  | .waited ms :: es => ms + waited es
  | _ :: es => waited es

/-- The milliseconds that handlers have waited: those that are waited between a call
and its end. A handler may be at work when the entries begin. -/
def slept (calling : Bool) : List (Entry σ) → Nat
  | [] => 0
  | .called .. :: es => slept true es
  | .ended _ :: es => slept false es
  | .waited ms :: es => (if calling then ms else 0) + slept calling es
  | _ :: es => slept calling es

/-- No handler is at work when the entries begin, nor when they end, and of what is
waited in them so much is not waited by handlers. -/
def IdleFor (own : Nat) (es : List (Entry σ)) : Prop :=
  ∀ fs, waited es + slept false fs = own + slept false (es ++ fs)

@[simp] theorem waited_append (es fs : List (Entry σ)) :
    waited (es ++ fs) = waited es + waited fs := by
  induction es with
  | nil => simp [waited]
  | cons e es ih => cases e <;> simp [waited, ih, Nat.add_assoc]

/-- While a handler is at work, all waiting is its own. -/
theorem Handlings.slept_append {hs : List (Entry σ)} (h : Handlings hs)
    (fs : List (Entry σ)) : slept true (hs ++ fs) = waited hs + slept true fs := by
  induction hs with
  | nil => simp [waited]
  | cons e hs ih =>
      have hrest := ih fun e he => h e (List.mem_cons_of_mem _ he)
      have he := h e List.mem_cons_self
      cases e with
      | called => cases he
      | ended => cases he
      | waited ms => simp [slept, waited, hrest, Nat.add_assoc]
      | _ => exact hrest

namespace IdleFor

variable {own own' : Nat} {es fs : List (Entry σ)}

theorem waited_eq (h : IdleFor own es) : waited es = own + slept false es := by
  simpa [slept] using h []

theorem nil : IdleFor 0 ([] : List (Entry σ)) := fun _ => rfl

theorem append (h : IdleFor own es) (h' : IdleFor own' fs) :
    IdleFor (own + own') (es ++ fs) := by
  intro gs
  have hes := h (fs ++ gs)
  have hfs := h' gs
  rw [waited_append, List.append_assoc]
  omega

/-- Stretches in which only handlers wait. -/
theorem andThen (h : IdleFor 0 es) (h' : IdleFor 0 fs) : IdleFor 0 (es ++ fs) := h.append h'

/-- The runner waits. -/
theorem wait (ms : Nat) : IdleFor ms [(.waited ms : Entry σ)] := by
  intro fs
  simp [waited, slept]

end IdleFor

/-- Neither the call of a handler, nor its end, nor waiting. -/
def Entry.isQuiet : Entry σ → Bool
  | .called .. | .ended _ | .waited _ => false
  | _ => true

theorem IdleFor.of_quiet {es : List (Entry σ)} (h : ∀ e ∈ es, e.isQuiet = true) :
    IdleFor 0 es := by
  intro fs
  induction es with
  | nil => rfl
  | cons e es ih =>
      have hrest := ih fun e he => h e (List.mem_cons_of_mem _ he)
      have he := h e List.mem_cons_self
      cases e with
      | called => cases he
      | ended => cases he
      | waited => cases he
      | _ => exact hrest

theorem waited_eq_zero {es : List (Entry σ)} (h : ∀ e ∈ es, e.isQuiet = true) :
    waited es = 0 := by
  induction es with
  | nil => rfl
  | cons e es ih =>
      have hrest := ih fun e he => h e (List.mem_cons_of_mem _ he)
      have he := h e List.mem_cons_self
      cases e with
      | waited => cases he
      | _ => exact hrest

theorem Tellings.isQuiet {ts : List (Entry σ)} (h : Tellings ts) :
    ∀ e ∈ ts, e.isQuiet = true := by
  intro e he
  have htelling := h e he
  cases e with
  | called => cases htelling
  | ended => cases htelling
  | waited => cases htelling
  | _ => rfl

/-- What observers are told leaves the waiting as it is, and so do records and events
in front of it. -/
theorem Tellings.idle {ts : List (Entry σ)} (h : Tellings ts) (before : List (Entry σ))
    (hbefore : ∀ e ∈ before, e.isQuiet = true) : IdleFor 0 (before ++ ts) :=
  .of_quiet fun e he => (List.mem_append.mp he).elim (hbefore e) (h.isQuiet e)

/-- All waiting in a call is the handler's. -/
theorem Handlings.idle_call {hs : List (Entry σ)} (h : Handlings hs) (groups : Groups)
    (step : BoundStep) (context context' : Context σ) (c : Bool) :
    IdleFor 0 (.called groups step context c :: hs ++ [.ended context']) := by
  intro fs
  simp [waited, slept, h.slept_append]

theorem StepEnd.idle {step : BoundStep} {outcome : StepOutcome} {es : List (Entry σ)}
    (h : StepEnd step outcome es) : IdleFor 0 es := by
  cases h with
  | passed hts => exact hts.idle [_, _] (by simp [Entry.isQuiet])
  | failed hts => exact hts.idle [_, _] (by simp [Entry.isQuiet])

theorem StepCourse.idle {c : Bool} {step : Step} {result : StepResult}
    {es : List (Entry σ)} (h : StepCourse c step result es) : IdleFor 0 es := by
  cases h with
  | @unbound store _ _ _ hts hend =>
      have hbegin := hts.idle [.binding step store, .sent .runner (.stepStarted step.text)]
        (by simp [Entry.isQuiet])
      exact hbegin.andThen hend.idle
  | @undefined store bound _ _ _ _ hts hend =>
      have hbegin := hts.idle [.binding step store, .logged (.stepStarted bound.text),
        .sent .runner (.stepStarted bound.text)] (by simp [Entry.isQuiet])
      exact hbegin.andThen hend.idle
  | @called store bound ts groups context _ context' _ _ _ hts hhs hend =>
      have hbegin := hts.idle [.binding step store, .logged (.stepStarted bound.text),
        .sent .runner (.stepStarted bound.text)] (by simp [Entry.isQuiet])
      have hcall := hhs.idle_call groups bound context context' (tokenAfter c ts)
      simpa using (hbegin.andThen hcall).andThen hend.idle

theorem AttemptCourse.idle {r : Runner σ} {name : String} {c : Bool}
    {steps : List Step} {attempt : Attempt} {es : List (Entry σ)}
    (h : AttemptCourse r name c steps attempt es) : IdleFor 0 es := by
  induction h with
  | done => exact .nil
  | interrupted _ => exact .of_quiet (by simp [Entry.isQuiet])
  | passed _ hstep _ _ ih => exact hstep.idle.andThen ih
  | failed _ hstep _ => exact hstep.idle

/-! ## The clock -/

/-- Since there were these entries and the clock stood there, it has gone on by as much
as has been waited. -/
def World.Timed (past : List (Entry σ)) (begun : Nat) (w : World σ) : Prop :=
  ∃ es, w.history = past ++ es ∧ w.clock = begun + waited es

namespace World.Timed

variable {past : List (Entry σ)} {begun : Nat} {w : World σ}

theorem begin (w : World σ) : w.Timed w.history w.clock := ⟨[], by simp, rfl⟩

/-- Quiet entries leave the clock where it is. -/
theorem add (h : w.Timed past begun) {w' : World σ} {fs : List (Entry σ)}
    (hhistory : w'.history = w.history ++ fs) (hquiet : waited fs = 0)
    (hclock : w'.clock = w.clock) : w'.Timed past begun := by
  obtain ⟨es, hes, hbegun⟩ := h
  refine ⟨es ++ fs, by rw [hhistory, hes, List.append_assoc], ?_⟩
  rw [hclock, hbegun, waited_append, hquiet, Nat.add_zero]

theorem record (h : w.Timed past begun) {e : Entry σ} (hquiet : waited [e] = 0) :
    (w.record e).Timed past begun := h.add (history_record w e) hquiet rfl

theorem wait (h : w.Timed past begun) (ms : Nat) : (w.wait ms).Timed past begun := by
  obtain ⟨es, hes, hbegun⟩ := h
  refine ⟨es ++ [.waited ms], ?_, ?_⟩
  · rw [(w.leads_wait ms).history, hes, List.append_assoc]
  · rw [waited_append, ← Nat.add_assoc, ← hbegun]
    rfl

theorem send (h : w.Timed past begun) (reporter : Reporter) (sender : Sender)
    (event : Event) : (w.send reporter sender event).Timed past begun := by
  obtain ⟨ts, hts, hsend⟩ := w.leads_send reporter sender event
  refine h.add hsend.history ?_ (tellAll_keeps _ _ _ _).2
  exact waited_eq_zero (List.forall_mem_cons.mpr ⟨rfl, hts.isQuiet⟩)

end World.Timed

theorem timed_keeps (reporter : Reporter) (past : List (Entry σ)) (begun : Nat) :
    reporter.Keeps (World.Timed past begun) where
  replace _ h := h
  send sender event h := h.send reporter sender event
  cancel h := h.add (World.leads_cancel _).history rfl rfl
  wait ms h := h.wait ms

/-- Whatever the runner does, the clock goes on by as much as is waited. -/
theorem Runner.timed_keeps (r : Runner σ) (past : List (Entry σ)) (begun : Nat) :
    r.Keeps (World.Timed past begun) where
  binding _ h := h.record rfl
  log _ h := h.record rfl
  wait ms h := h.wait ms
  emit event h := h.send r.reporter .runner event
  call {w d groups step} _ h := by
    have hcalled : (w.record (.called groups step w.context w.cancelled)).Timed past begun :=
      h.record rfl
    exact ((d.handle groups step).run_keeps (Stepwise.timed_keeps r.reporter past begun)
      hcalled).record rfl
  look h := h

end Stepwise
