import Stepwise.Proofs.Pieces

/-!
# Runs that have the token in common

Two runs may differ in who observes them, or in what they have to do, and still do
the same as long as the token is the same in both wherever somebody looks at it. So
one follows worlds that look alike and have the token in common, and the mark that
the run was cut short with it, since that mark becomes the error at the end.

Nearly everything keeps such worlds together whatever one wants to see of a history:
two runs that record the same entry, wait or cancel are together after it if they
were before. Only an event has to be looked at, because observers are told of it, and
they may not be the same. That is the one thing that `Runner.twin_lockstep` asks for.
-/

namespace Stepwise

variable {σ : Type} {view : Entry σ → Option (Entry σ)}

/-- The worlds look alike, with the token and the mark of a cut in common. -/
structure World.Twin (view : Entry σ → Option (Entry σ)) (w w' : World σ) : Prop
    extends w.Alike view w' where
  cancelled : w.cancelled = w'.cancelled
  cutShort : w.cutShort = w'.cutShort

namespace World.Twin

variable {w w' : World σ}

theorem refl (w : World σ) : w.Twin view w := ⟨Alike.refl w, rfl, rfl⟩

theorem record (h : w.Twin view w') {e e' : Entry σ} (he : view e = view e') :
    (w.record e).Twin view (w'.record e') :=
  ⟨h.toAlike.record he, h.cancelled, h.cutShort⟩

theorem record_left (h : w.Twin view w') {e : Entry σ} (he : view e = none) :
    (w.record e).Twin view w' :=
  ⟨h.toAlike.record_left he, h.cancelled, h.cutShort⟩

theorem cancel (h : w.Twin view w') : w.cancel.Twin view w'.cancel := by
  have hrecord := h.record (rfl : view .cancelled = view .cancelled)
  exact ⟨⟨h.context, h.clock, hrecord.seen⟩, rfl, h.cutShort⟩

end World.Twin

section Reporters

variable {reporter reporter' : Reporter}
  (hsend : ∀ {w w' : World σ} (sender : Sender) (event : Event), w.Twin view w' →
    (w.send reporter sender event).Twin view (w'.send reporter' sender event))

include hsend

theorem twin_likeness : reporter.Likeness reporter' (World.Twin view) where
  context h := h.context
  replace context h := ⟨h.toAlike.replace context, h.cancelled, h.cutShort⟩
  send := hsend
  wait ms h := ⟨h.toAlike.wait ms, h.cancelled, h.cutShort⟩

/-- If events keep two worlds together, then so does everything that a runner
does. -/
theorem Runner.twin_lockstep (r : Runner σ) :
    { r with reporter }.Lockstep { r with reporter := reporter' } (World.Twin view) where
  registry := rfl
  config := rfl
  environment := rfl
  context h := h.context
  clock h := h.clock
  binding step h := by
    rw [h.context]
    exact h.record rfl
  log l h := h.record rfl
  wait ms h := (twin_likeness hsend).wait ms h
  emit event h := hsend .runner event h
  call _ h := by
    have htoken : KeepsToken (World.Twin view) := ⟨fun h => h.cancelled, fun h => h.cancel⟩
    refine callHandler_same (twin_likeness hsend) ?_ ?_ (.inr htoken) h
    · intro w w' groups step h
      rw [h.context, h.cancelled]
      exact h.record rfl
    · intro w w' h
      rw [h.context]
      exact h.record rfl
  heeds h := by
    rw [h.cancelled]
    rfl
  look h := by
    refine ⟨⟨h.context, h.clock, h.seen⟩, h.cancelled, ?_⟩
    simp only [checkCancelled, h.cutShort, h.cancelled]

end Reporters

end Stepwise
