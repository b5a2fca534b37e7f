import Stepwise.Proofs.Likeness

/-!
# The store and the session between calls

Handlers run one at a time, and nobody else changes what they share. So whenever
no handler is at work, the store and the session are those that the last call has
left, or the ones from the beginning if there was none. `World.Settled` says this
of a world, and that every call has come to its end.

It holds at the end of every run (`Runner.settled_run`): the runner itself cannot
break it, and a call restores it at its end, whatever the handler did.
-/

namespace Stepwise

variable {σ : Type}

/-- The store and the session after some entries, if they were `c` before. -/
def contextAfter (c : Context σ) (es : List (Entry σ)) : Context σ :=
  (endings es).getLastD c

/-- Since `past` all calls have ended, and the store and the session, which were `c`
then, are as the last of them has left them. -/
def World.Settled (past : List (Entry σ)) (c : Context σ) (w : World σ) : Prop :=
  ∃ es, w.history = past ++ es ∧ w.context = contextAfter c es ∧
    (calls es).length = (endings es).length

/-- Entries among which there is neither a call nor the end of one. -/
def Callless (es : List (Entry σ)) : Prop := calls es = [] ∧ endings es = []

theorem Handlings.callless {es : List (Entry σ)} (h : Handlings es) : Callless es := by
  constructor <;>
  · refine List.filterMap_eq_nil_iff.mpr fun e he => ?_
    have hhandling := h e he
    cases e <;> first | rfl | cases hhandling

theorem callless_single {e : Entry σ} (hcall : e.call? = none)
    (hending : e.ending? = none) : Callless [e] :=
  ⟨List.filterMap_cons_none hcall, List.filterMap_cons_none hending⟩

theorem Callless.append {es fs : List (Entry σ)} (h : Callless es) (h' : Callless fs) :
    Callless (es ++ fs) := by
  rw [Callless, calls_append, endings_append, h.1, h.2, h'.1, h'.2]
  exact ⟨rfl, rfl⟩

namespace World.Settled

variable {past : List (Entry σ)} {c : Context σ} {w w' : World σ}

theorem begin (w : World σ) : w.Settled w.history w.context :=
  ⟨[], by simp, rfl, rfl⟩

theorem leads (h : w.Settled past c) {es : List (Entry σ)} {cut : Bool}
    (hw : w.Leads es cut w') (hcontext : w'.context = w.context) (hes : Callless es) :
    w'.Settled past c := by
  obtain ⟨fs, hhistory, hsettled, hlength⟩ := h
  refine ⟨fs ++ es, by rw [hw.history, hhistory, List.append_assoc], ?_, ?_⟩
  · rw [hcontext, hsettled, contextAfter, contextAfter, endings_append, hes.2,
      List.append_nil]
  · rw [calls_append, endings_append, hes.1, hes.2, List.append_nil, List.append_nil]
    exact hlength

theorem record (h : w.Settled past c) {e : Entry σ} (he : e.isCancel = false)
    (hcall : e.call? = none) (hending : e.ending? = none) :
    (w.record e).Settled past c :=
  h.leads (w.leads_record he) rfl (callless_single hcall hending)

theorem send (h : w.Settled past c) (reporter : Reporter) (sender : Sender)
    (event : Event) : (w.send reporter sender event).Settled past c := by
  obtain ⟨ts, hts, hleads⟩ := w.leads_send reporter sender event
  exact h.leads hleads (w.context_send reporter sender event)
    ((callless_single rfl rfl).append hts.handlings.callless)

/-- A call puts down the store and the session as it leaves them. -/
theorem callHandler (h : w.Settled past c) (r : Runner σ) (handle : Handler σ)
    (groups : Groups) (step : BoundStep) :
    (r.callHandler handle groups step w).2.Settled past c := by
  obtain ⟨fs, hhistory, -, hlength⟩ := h
  obtain ⟨hs, hhs, hrun⟩ := (handle groups step).leads_run r.reporter
    (w.record (.called groups step w.context w.cancelled))
  obtain ⟨hcalls, hendings⟩ := hhs.callless
  let called : Entry σ := .called groups step w.context w.cancelled
  let ended : Entry σ := .ended (r.callHandler handle groups step w).2.context
  have hworld : (r.callHandler handle groups step w).2.history =
      past ++ (fs ++ ([called] ++ hs ++ [ended])) := by
    refine (history_record _ ended).trans ?_
    rw [hrun.history, history_record, hhistory]
    simp [called]
  refine ⟨_, hworld, ?_, ?_⟩
  · rw [contextAfter, ← List.append_assoc, endings_append]
    exact List.getLastD_concat.symm
  · simp only [calls_append, endings_append, hcalls, hendings, List.length_append, hlength]
    rfl

end World.Settled

namespace Runner

variable (r : Runner σ) (past : List (Entry σ)) (c : Context σ)

open World

theorem settled_keeps : r.Keeps (World.Settled past c) where
  binding _ h := h.record rfl rfl rfl
  log _ h := h.record rfl rfl rfl
  wait ms h := h.leads (leads_wait _ ms) rfl (callless_single rfl rfl)
  emit _ h := h.send _ _ _
  call _ h := h.callHandler r _ _ _
  look h := h.leads (r.leads_checkCancelled _) rfl ⟨rfl, rfl⟩

/-- At the end of a run the store and the session are as the last call has left
them, and all calls have ended. -/
theorem settled_run (features : List Feature) (w : World σ) :
    (r.run features w).2.Settled w.history w.context := by
  have hrun := (r.settled_keeps w.history w.context).runFeatures features
    (Settled.begin { w with cutShort := false })
  obtain ⟨ts, hts, hreport⟩ := leads_report
    (r.runFeatures features { w with cutShort := false }).2 r.reporter (r.run features w).1
  exact hrun.leads hreport (context_report _ _ _)
    ((callless_single rfl rfl).append hts.handlings.callless)

end Runner

end Stepwise
