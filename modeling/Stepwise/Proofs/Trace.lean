import Stepwise.Runner

/-!
# What a run adds to the history

A run is a nest of loops over a world, and what is said of runs is nearly always
said of two things: the results they leave and the entries they add to the
history. This file says once what these can be. Each function of the runner gets
a relation between the token it finds, its result and its entries, with one rule
for each way through the function; the store, the session and what the handlers
do are forgotten on the way. After that a fact about runs is an induction over
rules and never unfolds the runner again.

Three things have to be carried along. Entries are only ever added behind what
is there. The token is cancelled exactly if it was so at first or one of the new
entries says so: nobody cancels without a trace. And the note that a run was cut
short is taken where the runner looks at the token and finds it cancelled, and
nowhere else. `World.Leads` is these three facts together, and it composes.
-/

namespace Stepwise

variable {σ : Type}

namespace Entry

/-- Somebody cancels the run. -/
def isCancel : Entry σ → Bool
  | .cancelled => true
  | _ => false

/-- An entry that observers leave when they are told something. -/
def isTelling : Entry σ → Bool
  | .told .. | .cancelled => true
  | .logged (.progress _) | .logged (.finished ..) | .logged (.aborted _) => true
  | _ => false

/-- An entry that comes of a handler, or of observers who are told what the
handler sends. -/
def isHandling : Entry σ → Bool
  | .sent .handler _ | .waited _ => true
  | e => e.isTelling

theorem isHandling_of_isTelling {e : Entry σ} (h : e.isTelling = true) :
    e.isHandling = true := by
  cases e <;> simp_all [isHandling, isTelling]

end Entry

/-- Observers have been told something, and nothing else has happened. -/
def Tellings (es : List (Entry σ)) : Prop := ∀ e ∈ es, e.isTelling = true

/-- A handler has been at work, and nothing else has happened. -/
def Handlings (es : List (Entry σ)) : Prop := ∀ e ∈ es, e.isHandling = true

theorem Tellings.append {es fs : List (Entry σ)} (h : Tellings es)
    (h' : Tellings fs) : Tellings (es ++ fs) := by
  intro e he
  rcases List.mem_append.mp he with he | he
  · exact h e he
  · exact h' e he

theorem Handlings.append {es fs : List (Entry σ)} (h : Handlings es)
    (h' : Handlings fs) : Handlings (es ++ fs) := by
  intro e he
  rcases List.mem_append.mp he with he | he
  · exact h e he
  · exact h' e he

theorem Tellings.handlings {es : List (Entry σ)} (h : Tellings es) :
    Handlings es :=
  fun e he => Entry.isHandling_of_isTelling (h e he)

/-- Whether the token is cancelled after some entries, if `c` says whether it
was before. -/
def tokenAfter (c : Bool) (es : List (Entry σ)) : Bool :=
  c || es.any Entry.isCancel

@[simp] theorem tokenAfter_nil (c : Bool) :
    tokenAfter c ([] : List (Entry σ)) = c := by simp [tokenAfter]

@[simp] theorem tokenAfter_append (c : Bool) (es fs : List (Entry σ)) :
    tokenAfter c (es ++ fs) = tokenAfter (tokenAfter c es) fs := by
  simp [tokenAfter, Bool.or_assoc]

@[simp] theorem tokenAfter_cons (c : Bool) (e : Entry σ) (es : List (Entry σ)) :
    tokenAfter c (e :: es) = tokenAfter (c || e.isCancel) es := by
  simp [tokenAfter, Bool.or_assoc]

@[simp] theorem tokenAfter_true (es : List (Entry σ)) :
    tokenAfter true es = true := by simp [tokenAfter]

/-! ## Calls and events -/

/-- A call of a handler, with the store and the session that it finds. -/
structure Call (σ : Type) where
  groups : Groups
  step : BoundStep
  context : Context σ

def Entry.call? : Entry σ → Option (Call σ)
  | .called groups step context _ => some ⟨groups, step, context⟩
  | _ => none

/-- An event, whoever sends it. -/
def Entry.event? : Entry σ → Option (Sender × Event)
  | .sent sender event => some (sender, event)
  | _ => none

/-- The store and the session that a handler leaves. -/
def Entry.ending? : Entry σ → Option (Context σ)
  | .ended context => some context
  | _ => none

def calls (es : List (Entry σ)) : List (Call σ) := es.filterMap Entry.call?

def events (es : List (Entry σ)) : List (Sender × Event) := es.filterMap Entry.event?

def endings (es : List (Entry σ)) : List (Context σ) := es.filterMap Entry.ending?

@[simp] theorem calls_append (es fs : List (Entry σ)) :
    calls (es ++ fs) = calls es ++ calls fs := List.filterMap_append

@[simp] theorem events_append (es fs : List (Entry σ)) :
    events (es ++ fs) = events es ++ events fs := List.filterMap_append

@[simp] theorem endings_append (es fs : List (Entry σ)) :
    endings (es ++ fs) = endings es ++ endings fs := List.filterMap_append

def Entry.ownEvent? : Entry σ → Option Event
  | .sent .runner event => some event
  | _ => none

/-- The events that the runner itself sends. -/
def ownEvents (es : List (Entry σ)) : List Event := es.filterMap Entry.ownEvent?

@[simp] theorem ownEvents_append (es fs : List (Entry σ)) :
    ownEvents (es ++ fs) = ownEvents es ++ ownEvents fs := List.filterMap_append

@[simp] theorem ownEvents_cons (e : Entry σ) (es : List (Entry σ)) :
    ownEvents (e :: es) = e.ownEvent?.toList ++ ownEvents es := by
  cases h : e.ownEvent? <;> simp [ownEvents, h]

theorem eq_sent_of_ownEvent? {e : Entry σ} {event : Event} (h : e.ownEvent? = some event) :
    e = .sent .runner event := by
  cases e with
  | sent sender event => cases sender with
      | runner =>
          cases h
          rfl
      | handler => cases h
  | _ => cases h

theorem mem_ownEvents {es : List (Entry σ)} {event : Event} :
    event ∈ ownEvents es ↔ .sent .runner event ∈ es := by
  rw [ownEvents, List.mem_filterMap]
  constructor
  · rintro ⟨e, he, hown⟩
    rwa [eq_sent_of_ownEvent? hown] at he
  · exact fun h => ⟨_, h, rfl⟩

theorem split_of_ownEvents {es : List (Entry σ)} {l₁ l₂ : List Event} {event : Event}
    (h : ownEvents es = l₁ ++ event :: l₂) :
    ∃ mid rest, es = mid ++ .sent .runner event :: rest ∧ ownEvents rest = l₂ := by
  obtain ⟨us, vs, rfl, -, hvs⟩ := List.filterMap_eq_append_iff.mp h
  obtain ⟨ws, e, rest, rfl, -, he, hrest⟩ := List.filterMap_eq_cons_iff.mp hvs
  obtain rfl := eq_sent_of_ownEvent? he
  exact ⟨us ++ ws, rest, (List.append_assoc _ _ _).symm, hrest⟩

theorem Handlings.ownEvents_eq {es : List (Entry σ)} (h : Handlings es) :
    ownEvents es = [] := by
  refine List.filterMap_eq_nil_iff.mpr fun e he => ?_
  cases hown : e.ownEvent? with
  | none => rfl
  | some event =>
      rw [eq_sent_of_ownEvent? hown] at he
      cases h _ he

/-! ## From one world to another -/

/-- The world `w'` comes of `w` by way of some entries. Whether the runner found
the run cancelled on the way is `cut`. -/
structure World.Leads (w : World σ) (es : List (Entry σ)) (cut : Bool)
    (w' : World σ) : Prop where
  history : w'.history = w.history ++ es
  cancelled : w'.cancelled = tokenAfter w.cancelled es
  cutShort : w'.cutShort = (w.cutShort || cut)

namespace World

theorem Leads.refl (w : World σ) : w.Leads [] false w where
  history := by simp
  cancelled := by simp
  cutShort := by simp

theorem Leads.trans {w₁ w₂ w₃ : World σ} {es fs : List (Entry σ)} {c d : Bool}
    (h : w₁.Leads es c w₂) (h' : w₂.Leads fs d w₃) :
    w₁.Leads (es ++ fs) (c || d) w₃ where
  history := by rw [h'.history, h.history, List.append_assoc]
  cancelled := by rw [h'.cancelled, h.cancelled, tokenAfter_append]
  cutShort := by rw [h'.cutShort, h.cutShort, Bool.or_assoc]

/-- Two legs on neither of which the runner looks at the token. -/
theorem Leads.andThen {w₁ w₂ w₃ : World σ} {es fs : List (Entry σ)}
    (h : w₁.Leads es false w₂) (h' : w₂.Leads fs false w₃) :
    w₁.Leads (es ++ fs) false w₃ := h.trans h'

theorem leads_record (w : World σ) {e : Entry σ} (h : e.isCancel = false) :
    w.Leads [e] false (w.record e) where
  history := history_record w e
  cancelled := by simp [record, h]
  cutShort := by simp [record]

theorem leads_log (w : World σ) (l : LogRecord) :
    w.Leads [.logged l] false (w.log l) := leads_record w rfl

theorem leads_cancel (w : World σ) : w.Leads [.cancelled] false w.cancel where
  history := history_record _ _
  cancelled := by simp [cancel, record, Entry.isCancel]
  cutShort := by simp [cancel, record]

theorem leads_wait (w : World σ) (ms : Nat) :
    w.Leads [.waited ms] false (w.wait ms) where
  history := history_record _ _
  cancelled := by simp [wait, record, Entry.isCancel]
  cutShort := by simp [wait, record]

theorem leads_logNotice (w : World σ) (n : Notice) :
    ∃ ts, Tellings ts ∧ w.Leads ts false (w.logNotice n) := by
  cases n with
  | progress event =>
      exact ⟨_, by simp [Tellings, Entry.isTelling], leads_log w (.progress event)⟩
  | report result =>
      have hlog := leads_log w (.finished result.success result.summary)
      cases herr : result.error with
      | none =>
          refine ⟨_, ?_, by simpa [logNotice, herr] using hlog⟩
          simp [Tellings, Entry.isTelling]
      | some error =>
          have hboth := hlog.andThen (leads_log _ (.aborted error))
          refine ⟨_, ?_, by simpa [logNotice, herr] using hboth⟩
          simp [Tellings, Entry.isTelling]

theorem leads_tell (w : World σ) (i : Nat) (o : Observer) (n : Notice) :
    ∃ ts, Tellings ts ∧ w.Leads ts false (w.tell i o n) := by
  have htold := leads_record w (show (Entry.told i w.clock n).isCancel = false from rfl)
  have htelling : Tellings [(Entry.told i w.clock n : Entry σ)] := by
    simp [Tellings, Entry.isTelling]
  cases o with
  | silent => exact ⟨[], by simp [Tellings], Leads.refl w⟩
  | recorder cancels =>
      simp only [tell]
      split
      · refine ⟨_, htelling.append ?_, htold.andThen (leads_cancel _)⟩
        simp [Tellings, Entry.isTelling]
      · exact ⟨_, htelling, htold⟩
  | channel isOpen =>
      cases isOpen with
      | false => exact ⟨[], by simp [Tellings], Leads.refl w⟩
      | true => exact ⟨_, htelling, htold⟩
  | logger => exact leads_logNotice w n

theorem leads_tellAll (n : Notice) (os : List Observer) :
    ∀ (w : World σ) (i : Nat),
      ∃ ts, Tellings ts ∧ w.Leads ts false (w.tellAll n i os) := by
  induction os with
  | nil => exact fun w _ => ⟨[], by simp [Tellings], Leads.refl w⟩
  | cons o rest ih =>
      intro w i
      obtain ⟨ts, hts, hfirst⟩ := leads_tell w i o n
      obtain ⟨us, hus, hrest⟩ := ih (w.tell i o n) (i + 1)
      exact ⟨ts ++ us, hts.append hus, hfirst.andThen hrest⟩

theorem leads_send (w : World σ) (reporter : Reporter) (sender : Sender)
    (event : Event) :
    ∃ ts, Tellings ts ∧
      w.Leads (.sent sender event :: ts) false (w.send reporter sender event) := by
  obtain ⟨ts, hts, htold⟩ :=
    leads_tellAll (.progress event) reporter.observers (w.record (.sent sender event)) 0
  exact ⟨ts, hts, (leads_record w rfl).andThen htold⟩

theorem leads_report (w : World σ) (reporter : Reporter) (result : RunResult) :
    ∃ ts, Tellings ts ∧
      w.Leads (.reported result :: ts) false (w.report reporter result) := by
  obtain ⟨ts, hts, htold⟩ :=
    leads_tellAll (.report result) reporter.observers (w.record (.reported result)) 0
  exact ⟨ts, hts, (leads_record w rfl).andThen htold⟩

end World

/-- What a handler does leads on by entries of its own. -/
theorem Handling.leads_run {α : Type} (reporter : Reporter) (h : Handling σ α) :
    ∀ w : World σ, ∃ hs, Handlings hs ∧ w.Leads hs false (h.run reporter w).2 := by
  induction h with
  | done value => exact fun w => ⟨[], by simp [Handlings], World.Leads.refl w⟩
  | fail failure => exact fun w => ⟨[], by simp [Handlings], World.Leads.refl w⟩
  | crash text => exact fun w => ⟨[], by simp [Handlings], World.Leads.refl w⟩
  | look next ih => exact fun w => ih w.context w
  | replace context next ih =>
      intro w
      obtain ⟨hs, hhs, hnext⟩ := ih { w with context }
      exact ⟨hs, hhs, hnext.history, hnext.cancelled, hnext.cutShort⟩
  | send event next ih =>
      intro w
      obtain ⟨ts, hts, hsend⟩ := w.leads_send reporter .handler event
      obtain ⟨hs, hhs, hnext⟩ := ih (w.send reporter .handler event)
      refine ⟨_, Handlings.append ?_ hhs, hsend.andThen hnext⟩
      simpa [Handlings, Entry.isHandling] using hts.handlings
  | cancel next ih =>
      intro w
      obtain ⟨hs, hhs, hnext⟩ := ih w.cancel
      refine ⟨_, Handlings.append ?_ hhs, w.leads_cancel.andThen hnext⟩
      simp [Handlings, Entry.isHandling, Entry.isTelling]
  | isCancelled next ih => exact fun w => ih w.cancelled w
  | wait ms next ih =>
      intro w
      obtain ⟨hs, hhs, hnext⟩ := ih (w.wait ms)
      refine ⟨_, Handlings.append ?_ hhs, (w.leads_wait ms).andThen hnext⟩
      simp [Handlings, Entry.isHandling]

end Stepwise
