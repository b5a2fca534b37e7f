import Mathlib.Data.List.Nodup
import Stepwise.Proofs.Truncation
import Stepwise.Proofs.Twins

/-!
# Those who are told of a run

Observers may do one thing to a run, which is to cancel it. Those that never do are
of no consequence: put any others of that kind in their place, or none, and the
results, the calls and the store and session stay as they are
(`run_same_of_neverCancels`). The two runs are followed together as twins. They see
the same deeds, and the token stays the same in both, because an event changes it only
by way of an observer that cancels.

What they are told does not depend on what they do. Whatever is issued, by the runner
or by a handler, is handed round at once to all that listen, in the order in which
they were added, also when one of them cancels in the middle of it (`Relayed`). So
every listener has the same account of a run. This is a property of entries that is
kept when more entries are added behind them, and all that a run adds are single
entries of which nobody is told and issues with the round behind them.
-/

namespace Stepwise

variable {σ : Type}

/-! ## What an observer does -/

/-- The observer keeps or passes on what it is told. -/
def Observer.listens : Observer → Bool
  | .recorder _ => true
  | .channel isOpen => isOpen
  | _ => false

/-- The observer cancels the run when it has been told all this, the last of it
now. -/
def Observer.cancelsOn : Observer → List Notice → Bool
  | .recorder cancels, notices => cancels notices
  | _, _ => false

/-- A report of so many features. -/
def Notice.reports (count : Nat) : Notice → Bool
  | .report result => result.features.length == count
  | .progress _ => false

def Observer.NeverCancels (o : Observer) : Prop := ∀ notices, o.cancelsOn notices = false

def Reporter.NeverCancels (reporter : Reporter) : Prop :=
  ∀ o ∈ reporter.observers, o.NeverCancels

/-- The numbers of the observers that listen, counted from `i`. -/
def listenersFrom (i : Nat) (os : List Observer) : List Nat :=
  ((os.zipIdx i).filter fun x => x.1.listens).map Prod.snd

def Reporter.listeners (reporter : Reporter) : List Nat :=
  listenersFrom 0 reporter.observers

def Entry.told? : Entry σ → Option (Nat × Notice)
  | .told observer _ notice => some (observer, notice)
  | _ => none

/-- Who is told what. -/
def told (es : List (Entry σ)) : List (Nat × Notice) := es.filterMap Entry.told?

@[simp] theorem told_append (es fs : List (Entry σ)) :
    told (es ++ fs) = told es ++ told fs := List.filterMap_append

namespace World

theorem notices_eq_told (w : World σ) (i : Nat) :
    w.notices i = (told w.history).filterMap fun x => if x.1 = i then some x.2 else none := by
  rw [notices, told, List.filterMap_filterMap]
  refine congrArg (List.filterMap · w.history) (funext fun e => ?_)
  cases e <;> rfl

theorem told_record (w : World σ) (e : Entry σ) :
    told (w.record e).history = told w.history ++ e.told?.toList := by
  rw [history_record, told_append]
  cases h : e.told? <;> simp [told, h]

theorem told_cancel (w : World σ) : told w.cancel.history = told w.history := by
  rw [cancel, told_record]
  exact List.append_nil _

theorem told_logNotice (w : World σ) (n : Notice) :
    told (w.logNotice n).history = told w.history := by
  cases n with
  | progress event => simp [logNotice, log, told_record, Entry.told?]
  | report result =>
      cases h : result.error <;> simp [logNotice, log, told_record, Entry.told?, h]

theorem told_tell (w : World σ) (i : Nat) (o : Observer) (n : Notice) :
    told (w.tell i o n).history =
      told w.history ++ if o.listens then [(i, n)] else [] := by
  cases o with
  | silent => simp [tell, Observer.listens]
  | recorder cancels =>
      simp only [tell]
      split
      · simp [told_cancel, told_record, Entry.told?, Observer.listens]
      · simp [told_record, Entry.told?, Observer.listens]
  | channel isOpen =>
      cases isOpen with
      | false => simp [tell, Observer.listens]
      | true => simp [tell, told_record, Entry.told?, Observer.listens]
  | logger => simp [tell, told_logNotice, Observer.listens]

theorem cancelled_logNotice (w : World σ) (n : Notice) :
    (w.logNotice n).cancelled = w.cancelled := by
  cases n with
  | progress event => rfl
  | report result => cases h : result.error <;> simp [logNotice, log, record, h]

/-- An observer that is told something changes the token if it cancels on all that it
has been told by then, and not otherwise. -/
theorem cancelled_tell (w : World σ) (i : Nat) (o : Observer) (n : Notice) :
    (w.tell i o n).cancelled = (w.cancelled || o.cancelsOn (w.notices i ++ [n])) := by
  cases o with
  | silent => simp [tell, Observer.cancelsOn]
  | recorder cancels =>
      simp only [tell, Observer.cancelsOn, notices_told]
      cases h : cancels (w.notices i ++ [n]) <;> simp [cancel, record]
  | channel isOpen => cases isOpen <;> simp [tell, record, Observer.cancelsOn]
  | logger => simp [tell, cancelled_logNotice, Observer.cancelsOn]

theorem told_tellAll (n : Notice) (os : List Observer) :
    ∀ (w : World σ) (i : Nat), told (w.tellAll n i os).history =
      told w.history ++ (listenersFrom i os).map fun j => (j, n) := by
  induction os with
  | nil => simp [tellAll, listenersFrom]
  | cons o rest ih =>
      intro w i
      rw [tellAll, ih, told_tell]
      simp only [listenersFrom, List.zipIdx_cons, List.filter_cons]
      cases o.listens <;> simp

theorem notices_record_of_untold (w : World σ) {e : Entry σ} (he : e.told? = none)
    (i : Nat) : (w.record e).notices i = w.notices i := by
  rw [notices_eq_told, notices_eq_told, told_record, he, Option.toList_none,
    List.append_nil]

theorem notices_tell_of_ne (w : World σ) {i j : Nat} (hij : i ≠ j) (o : Observer)
    (n : Notice) : (w.tell i o n).notices j = w.notices j := by
  rw [notices_eq_told, notices_eq_told, told_tell, List.filterMap_append]
  cases o.listens <;> simp [hij]

/-- One of these observers, numbered from `i`, cancels when it is told this next. -/
def cancelsAmong (w : World σ) (n : Notice) (i : Nat) (os : List Observer) : Bool :=
  (os.zipIdx i).any fun x => x.1.cancelsOn (w.notices x.2 ++ [n])

theorem cancelsAmong_congr {w w' : World σ} {n n' : Notice} {i : Nat} {os : List Observer}
    (h : ∀ o ∈ os, ∀ j, i ≤ j →
      o.cancelsOn (w.notices j ++ [n]) = o.cancelsOn (w'.notices j ++ [n'])) :
    w.cancelsAmong n i os = w'.cancelsAmong n' i os := by
  rw [cancelsAmong, cancelsAmong, Bool.eq_iff_iff, List.any_eq_true, List.any_eq_true]
  refine exists_congr fun x => and_congr_right fun hx => ?_
  rw [h x.1 (List.fst_mem_of_mem_zipIdx hx) x.2 (List.le_snd_of_mem_zipIdx hx)]

/-- A round of a notice changes the token if one of the observers cancels on it, and not
otherwise. -/
theorem cancelled_tellAll_eq (n : Notice) (os : List Observer) :
    ∀ (w : World σ) (i : Nat),
      (w.tellAll n i os).cancelled = (w.cancelled || w.cancelsAmong n i os) := by
  induction os with
  | nil => exact fun w i => (Bool.or_false w.cancelled).symm
  | cons o rest ih =>
      intro w i
      -- the observers behind the first one know what they knew
      have hrest : (w.tell i o n).cancelsAmong n (i + 1) rest =
          w.cancelsAmong n (i + 1) rest :=
        cancelsAmong_congr fun o' _ j hj => by rw [notices_tell_of_ne w (by omega)]
      rw [tellAll, ih, cancelled_tell, hrest, Bool.or_assoc, cancelsAmong, cancelsAmong,
        List.zipIdx_cons, List.any_cons]

theorem cancelled_tellAll (n : Notice) {os : List Observer}
    (hos : ∀ o ∈ os, o.NeverCancels) (w : World σ) (i : Nat) :
    (w.tellAll n i os).cancelled = w.cancelled := by
  have hnone : w.cancelsAmong n i os = false :=
    List.any_eq_false.mpr fun x hx => by simp [hos x.1 (List.fst_mem_of_mem_zipIdx hx) _]
  rw [cancelled_tellAll_eq, hnone, Bool.or_false]

end World

/-! ## Other observers in their place -/

namespace Runner

variable {reporter reporter' : Reporter} (h : reporter.NeverCancels)
  (h' : reporter'.NeverCancels)

open World

theorem conclude_fst_eq {r r' : Runner σ} (begun : Nat)
    {x y : List FeatureResult × World σ} {view : Entry σ → Option (Entry σ)}
    (hxy : Same (Twin view) x y) : (r.conclude begun x).1 = (r'.conclude begun y).1 := by
  obtain ⟨hresults, hworld⟩ := hxy
  simp only [conclude, hresults, hworld.cutShort, hworld.clock]

include h h'

theorem twin_send {w w' : World σ} (sender : Sender) (event : Event)
    (hw : w.Twin Entry.deed? w') :
    (w.send reporter sender event).Twin Entry.deed? (w'.send reporter' sender event) where
  toAlike := InStep.send hw.toAlike reporter reporter' sender event
  cancelled := by
    rw [send, send, cancelled_tellAll _ h, cancelled_tellAll _ h']
    exact hw.cancelled
  cutShort := by
    obtain ⟨ts, -, hleads⟩ := w.leads_send reporter sender event
    obtain ⟨ts', -, hleads'⟩ := w'.leads_send reporter' sender event
    rw [hleads.cutShort, hleads'.cutShort, hw.cutShort]

/-- A run is the same whoever observes it, as long as they never cancel. -/
theorem run_same_of_neverCancels (r : Runner σ) (features : List Feature) (w : World σ) :
    let first := { r with reporter }.run features w
    let second := { r with reporter := reporter' }.run features w
    first.1 = second.1 ∧ first.2.context = second.2.context ∧
      first.2.cancelled = second.2.cancelled ∧
      ∃ es es', first.2.history = w.history ++ es ∧ second.2.history = w.history ++ es' ∧
        calls es = calls es' ∧ events es = events es' := by
  intro first second
  let x := { r with reporter }.runFeatures features { w with cutShort := false }
  let y := { r with reporter := reporter' }.runFeatures features { w with cutShort := false }
  have hxy : Same (Twin Entry.deed?) x y :=
    (r.twin_lockstep (twin_send h h')).runFeatures features (Twin.refl _)
  obtain ⟨es, hes⟩ := { r with reporter }.run_adds features w
  obtain ⟨es', hes'⟩ := { r with reporter := reporter' }.run_adds features w
  -- a report is no deed, so all deeds are those before it
  have hdeeds : deeds es = deeds es' := by
    have hx : deeds first.2.history = deeds x.2.history :=
      { r with reporter }.deeds_report x.2 first.1
    have hy : deeds second.2.history = deeds y.2.history :=
      { r with reporter := reporter' }.deeds_report y.2 second.1
    have hseen : deeds x.2.history = deeds y.2.history := hxy.2.seen
    rw [hes, deeds_append] at hx
    rw [hes', deeds_append, ← hseen, ← hx] at hy
    exact (List.append_cancel_left hy).symm
  refine ⟨conclude_fst_eq w.clock hxy, ?_, ?_, es, es', hes, hes', ?_, ?_⟩
  · have hfirst : first.2.context = x.2.context := context_report _ _ _
    have hsecond : second.2.context = y.2.context := context_report _ _ _
    rw [hfirst, hsecond, hxy.2.context]
  · have hfirst : first.2.cancelled = x.2.cancelled := cancelled_tellAll _ h _ 0
    have hsecond : second.2.cancelled = y.2.cancelled := cancelled_tellAll _ h' _ 0
    rw [hfirst, hsecond, hxy.2.cancelled]
  · exact filterMap_eq_of_deeds call?_of_deed? hdeeds
  · exact filterMap_eq_of_deeds event?_of_deed? hdeeds

end Runner

/-! ## Notices on their round -/

/-- What is given to the reporter to be told to all observers. -/
def Entry.issued? : Entry σ → Option Notice
  | .sent _ event => some (.progress event)
  | .reported result => some (.report result)
  | _ => none

def issued (es : List (Entry σ)) : List Notice := es.filterMap Entry.issued?

@[simp] theorem issued_append (es fs : List (Entry σ)) :
    issued (es ++ fs) = issued es ++ issued fs := List.filterMap_append

/-- In these entries everything that is issued goes once round to all that listen, and
nobody is told anything else. The round comes right behind the issue. -/
structure Relayed (reporter : Reporter) (es : List (Entry σ)) : Prop where
  rounds : told es = (issued es).flatMap fun n => reporter.listeners.map fun i => (i, n)
  atOnce : ∀ before e n after, es = before ++ e :: after → e.issued? = some n →
    ∃ ts rest, after = ts ++ rest ∧ Tellings ts ∧
      told ts = reporter.listeners.map fun i => (i, n)

theorem Tellings.issued?_eq {ts : List (Entry σ)} (h : Tellings ts) {e : Entry σ}
    (he : e ∈ ts) : e.issued? = none := by
  have htelling := h e he
  cases e <;> first | rfl | cases htelling

theorem Tellings.issued_eq {ts : List (Entry σ)} (h : Tellings ts) : issued ts = [] :=
  List.filterMap_eq_nil_iff.mpr fun _ he => h.issued?_eq he

theorem Tellings.events_eq {ts : List (Entry σ)} (h : Tellings ts) : events ts = [] := by
  refine List.filterMap_eq_nil_iff.mpr fun e he => ?_
  have htelling := h e he
  cases e <;> first | rfl | cases htelling

namespace Relayed

variable {reporter : Reporter} {es fs : List (Entry σ)}

theorem nil : Relayed reporter ([] : List (Entry σ)) where
  rounds := rfl
  atOnce := by
    intro before e n after h
    cases before <;> cases h

theorem append (h : Relayed reporter es) (h' : Relayed reporter fs) :
    Relayed reporter (es ++ fs) where
  rounds := by
    rw [told_append, issued_append, List.flatMap_append, h.rounds, h'.rounds]
  atOnce := by
    intro before e n after heq he
    rcases List.append_eq_append_iff.mp heq with ⟨xs, rfl, hfs⟩ | ⟨xs, hes, hxs⟩
    · exact h'.atOnce xs e n after hfs he
    · cases xs with
      | nil => exact h'.atOnce [] e n after hxs.symm he
      | cons x xs =>
          -- the issue lies in the first part, and so does its round
          obtain ⟨rfl, rfl⟩ := List.cons.inj hxs
          obtain ⟨ts, rest, rfl, hts, htold⟩ := h.atOnce before e n xs hes he
          exact ⟨ts, rest ++ fs, List.append_assoc _ _ _, hts, htold⟩

theorem single {e : Entry σ} (hissued : e.issued? = none) (htold : e.told? = none) :
    Relayed reporter [e] where
  rounds := by
    rw [told, issued, List.filterMap_cons_none htold, List.filterMap_cons_none hissued]
    rfl
  atOnce := by
    intro before e' n after heq he'
    obtain rfl : e' = e := by
      have hmem : e' ∈ [e] := heq ▸ List.mem_append_right before List.mem_cons_self
      exact List.mem_singleton.mp hmem
    rw [hissued] at he'
    cases he'

theorem round {e : Entry σ} {n : Notice} {ts : List (Entry σ)}
    (he : e.issued? = some n) (hts : Tellings ts)
    (htold : told ts = reporter.listeners.map fun i => (i, n)) :
    Relayed reporter (e :: ts) where
  rounds := by
    have hnone : e.told? = none := by
      cases e <;> first | rfl | cases he
    have hissued : issued (e :: ts) = n :: issued ts := List.filterMap_cons_some he
    have hfirst : told (e :: ts) = told ts := List.filterMap_cons_none hnone
    rw [hissued, hfirst, hts.issued_eq, htold, List.flatMap_singleton]
  atOnce := by
    intro before e' n' after heq he'
    cases before with
    | nil =>
        obtain ⟨rfl, rfl⟩ := List.cons.inj heq
        obtain rfl : n = n' := Option.some.inj (he.symm.trans he')
        exact ⟨ts, [], (List.append_nil _).symm, hts, htold⟩
    | cons x before =>
        have hmem : e' ∈ ts :=
          (List.cons.inj heq).2 ▸ List.mem_append_right before List.mem_cons_self
        rw [hts.issued?_eq hmem] at he'
        cases he'

end Relayed

/-! ## The round of each notice in a run -/

/-- All that was added behind `past` was relayed, and it was events. -/
def World.Relays (reporter : Reporter) (past : List (Entry σ)) (w : World σ) : Prop :=
  ∃ es, w.history = past ++ es ∧ Relayed reporter es ∧
    issued es = (events es).map fun x => .progress x.2

namespace World

theorem leads_round (w : World σ) (reporter : Reporter) (n : Notice) :
    ∃ ts, Tellings ts ∧ w.Leads ts false (w.tellAll n 0 reporter.observers) ∧
      told ts = reporter.listeners.map fun i => (i, n) := by
  obtain ⟨ts, hts, hleads⟩ := leads_tellAll n reporter.observers w 0
  have htold := told_tellAll n reporter.observers w 0
  rw [hleads.history, told_append] at htold
  exact ⟨ts, hts, hleads, List.append_cancel_left htold⟩

namespace Relays

variable {reporter : Reporter} {past : List (Entry σ)} {w : World σ}

theorem begin (w : World σ) : w.Relays reporter w.history :=
  ⟨[], by simp, .nil, rfl⟩

theorem record (h : w.Relays reporter past) {e : Entry σ} (hissued : e.issued? = none)
    (htold : e.told? = none) : (w.record e).Relays reporter past := by
  obtain ⟨es, hes, hrelayed, hevents⟩ := h
  have hnone : e.event? = none := by
    cases e <;> first | rfl | cases hissued
  refine ⟨es ++ [e], by rw [history_record, hes, List.append_assoc],
    hrelayed.append (.single hissued htold), ?_⟩
  have hunissued : issued [e] = [] := List.filterMap_cons_none hissued
  have hquiet : events [e] = [] := List.filterMap_cons_none hnone
  rw [issued_append, events_append, hunissued, hquiet, List.append_nil, List.append_nil,
    hevents]

theorem send (h : w.Relays reporter past) (sender : Sender) (event : Event) :
    (w.send reporter sender event).Relays reporter past := by
  obtain ⟨es, hes, hrelayed, hevents⟩ := h
  obtain ⟨ts, hts, hleads, htold⟩ :=
    leads_round (w.record (.sent sender event)) reporter (.progress event)
  refine ⟨es ++ .sent sender event :: ts, ?_, hrelayed.append (.round rfl hts htold), ?_⟩
  · rw [World.send, hleads.history, history_record, hes]
    simp
  · have hissued : issued (.sent sender event :: ts) = [.progress event] := by
      rw [issued, List.filterMap_cons_some (by rfl)]
      exact congrArg _ hts.issued_eq
    have hsent : events (.sent sender event :: ts) = [(sender, event)] := by
      rw [events, List.filterMap_cons_some (by rfl)]
      exact congrArg _ hts.events_eq
    rw [issued_append, events_append, hissued, hsent, hevents, List.map_append]
    rfl

end Relays

theorem relays_keeps (reporter : Reporter) (past : List (Entry σ)) :
    reporter.Keeps (Relays reporter past) where
  replace _ h := h
  send sender event h := h.send sender event
  cancel h := h.record rfl rfl
  wait _ h := h.record rfl rfl

end World

theorem Runner.relays_keeps (r : Runner σ) (past : List (Entry σ)) :
    r.Keeps (World.Relays r.reporter past) where
  binding _ h := h.record rfl rfl
  log _ h := h.record rfl rfl
  wait ms h := (World.relays_keeps r.reporter past).wait ms h
  emit event h := h.send .runner event
  call {w d groups step} _ h := by
    have hcalled : (w.record (.called groups step w.context w.cancelled)).Relays
        r.reporter past := h.record rfl rfl
    have hrun := (d.handle groups step).run_keeps (World.relays_keeps r.reporter past)
      hcalled
    exact hrun.record rfl rfl
  look h := h

theorem nodup_listenersFrom (i : Nat) (os : List Observer) : (listenersFrom i os).Nodup := by
  have hall : ((os.zipIdx i).map Prod.snd).Nodup := by
    rw [List.zipIdx_map_snd]
    exact List.nodup_range' 1
  exact hall.sublist (List.filter_sublist.map Prod.snd)

/-- What one of those that listen hears of several rounds. -/
theorem filterMap_rounds {l : List Nat} (hl : l.Nodup) {i : Nat} (hi : i ∈ l)
    (ns : List Notice) :
    (ns.flatMap fun n => l.map fun j => (j, n)).filterMap
      (fun x => if x.1 = i then some x.2 else none) = ns := by
  have hround : ∀ n : Notice, (l.map fun j => (j, n)).filterMap
      (fun x => if x.1 = i then some x.2 else none) = [n] := by
    intro n
    -- the listener stands in the round once, and what the others hear is dropped
    obtain ⟨before, after, rfl⟩ := List.append_of_mem hi
    have hothers : ∀ j ∈ before ++ after, j ≠ i := by
      rintro j hj rfl
      rw [List.nodup_middle, List.nodup_cons] at hl
      exact hl.1 hj
    have hnone : ∀ js : List Nat, (∀ j ∈ js, j ∈ before ++ after) →
        (js.map fun j => (j, n)).filterMap
          (fun x => if x.1 = i then some x.2 else none) = [] := by
      intro js hjs
      rw [List.filterMap_map]
      exact List.filterMap_eq_nil_iff.mpr fun j hj => if_neg (hothers j (hjs j hj))
    have hbefore := hnone before fun j => List.mem_append_left after
    have hafter := hnone after fun j => List.mem_append_right before
    simp [List.filterMap_append, hbefore, hafter]
  rw [List.filterMap_flatMap]
  simp only [hround]
  exact List.flatMap_singleton' ns

namespace Runner

open World

end Runner

end Stepwise
