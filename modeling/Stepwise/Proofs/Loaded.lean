import Stepwise.Feature.Load

/-!
# What every loaded feature has

A step whose text cannot be seen is refused, and a scenario that is not to be tried at all
is tried once. Each of the two is seen to at one place, when a step is put together from
what was read and when a scenario is, and from there on nothing is changed any more: a
list holds what its items were read as, and a record what its fields were. So whatever is
loaded, from whatever bytes, has both (`Feature.WellFormed`).

That nothing is changed on the way is the same argument for every decoder. It is made
once, for the combinators of which they are built (`Yaml.Decode.Ensures`).
-/

namespace Stepwise

open Yaml (Node Document Decode Content)

/-! ## What a decoder ensures -/

namespace Yaml.Decode

variable {ε α β σ : Type} {P : α → Prop} {Q : β → Prop}

/-- Whatever the decoder returns has the property. -/
def Ensures (m : Decode ε α) (P : α → Prop) : Prop :=
  ∀ left a left', m left = .ok (a, left') → P a

theorem ensures_pure {a : α} (h : P a) : Ensures (pure a : Decode ε α) P := by
  rintro left a' left' hrun
  cases hrun
  exact h

theorem ensures_malformed : Ensures (malformed : Decode ε α) P := by
  rintro left a left' hrun
  cases hrun

theorem ensures_reject {reason : ε} : Ensures (reject reason : Decode ε α) P := by
  rintro left a left' hrun
  cases hrun

theorem ensures_true (m : Decode ε α) : Ensures m fun _ => True :=
  fun _ _ _ _ => trivial

theorem Ensures.bind {m : Decode ε α} {k : α → Decode ε β} (hm : Ensures m P)
    (hk : ∀ a, P a → Ensures (k a) Q) : Ensures (m >>= k) Q := by
  intro left b left' hrun
  cases hmid : m left with
  | error e =>
      have hfails : (m >>= k) left = .error e := by
        show Except.bind (m left) _ = _
        rw [hmid]
        rfl
      rw [hfails] at hrun
      cases hrun
  | ok found =>
      have hgoes : (m >>= k) left = k found.1 found.2 := by
        show Except.bind (m left) _ = _
        rw [hmid]
        rfl
      exact hk found.1 (hm left found.1 found.2 hmid) found.2 b left' (hgoes ▸ hrun)

theorem ensures_bind {m : Decode ε α} {k : α → Decode ε β} (hk : ∀ a, Ensures (k a) Q) :
    Ensures (m >>= k) Q :=
  (ensures_true m).bind fun a _ => hk a

theorem ensures_ofOption {o : Option α} (h : ∀ a ∈ o, P a) :
    Ensures (ofOption o : Decode ε α) P := by
  cases o with
  | none => exact ensures_malformed
  | some a => exact ensures_pure (h a rfl)

theorem ensures_mapM {item : α → Decode ε β} (hitem : ∀ x, Ensures (item x) Q)
    (xs : List α) : Ensures (xs.mapM item) fun ys => ∀ y ∈ ys, Q y := by
  induction xs with
  | nil => exact ensures_pure (List.forall_mem_nil Q)
  | cons x xs ih =>
      rw [List.mapM_cons]
      refine (hitem x).bind fun y hy => ih.bind fun ys hys => ensures_pure ?_
      exact List.forall_mem_cons.mpr ⟨hy, hys⟩

/-- An invariant of the steps is one of the fold. -/
theorem ensures_foldlM {step : σ → β → Decode ε σ} {I : σ → Prop}
    (hstep : ∀ s x, I s → Ensures (step s x) I) (xs : List β) {s : σ} (hs : I s) :
    Ensures (xs.foldlM step s) I := by
  induction xs generalizing s with
  | nil => exact ensures_pure hs
  | cons x xs ih =>
      rw [List.foldlM_cons]
      exact (hstep s x hs).bind fun s' hs' => ih hs'

variable {d : Document} {n : Node}

theorem ensures_list {item : Document → Node → Decode ε α}
    (hitem : ∀ n, Ensures (item d n) P) : Ensures (list item d n) fun xs => ∀ x ∈ xs, P x :=
  ensures_bind fun ns => ensures_mapM hitem ns

theorem ensures_record {field : σ → String → Node → Decode ε σ} {start : σ} {I : σ → Prop}
    (hfield : ∀ s name n, I s → Ensures (field s name n) I) (hstart : I start) :
    Ensures (record field start d n) I :=
  ensures_bind fun es =>
    ensures_foldlM (fun s e hs => ensures_bind fun name => hfield s name e.2 hs) es hstart

theorem ensures_once {slot : Option α} {value : Decode ε α} (h : Ensures value P) :
    Ensures (once slot value) fun o => ∀ a ∈ o, P a := by
  unfold once
  split
  · exact ensures_malformed
  · rw [map_eq_pure_bind]
    refine h.bind fun a ha => ensures_pure fun a' ha' => ?_
    cases ha'
    exact ha

theorem ensures_natural {limit : Nat} :
    Ensures (natural limit d n : Decode ε Nat) fun k => k ≤ limit := by
  refine ensures_bind fun n => ?_
  split
  · split
    · refine ensures_ofOption fun k hk => ?_
      have hle := (Option.filter_eq_some_iff.mp (show (_ : Option Nat) = some k from hk)).2
      exact of_decide_eq_true hle
    · exact ensures_malformed
  · exact ensures_malformed

end Yaml.Decode

/-! ## Features -/

/-- The text of the step has a character that can be seen. -/
def Step.Visible (s : Step) : Prop := ∃ c ∈ s.text.toList, Text.isWhite c = false

/-- The scenario is tried once at least, and the text of each of its steps can be seen. -/
structure Scenario.WellFormed (s : Scenario) : Prop where
  tries : 1 ≤ s.maxTries
  visible : ∀ step ∈ s.steps, step.Visible

/-- All scenarios of the feature are well formed. -/
def Feature.WellFormed (f : Feature) : Prop := ∀ s ∈ f.scenarios, s.WellFormed

/-- A list that was left out has no members. -/
theorem forall_mem_getD {α : Type} {P : α → Prop} {o : Option (List α)}
    (h : ∀ xs ∈ o, ∀ x ∈ xs, P x) : ∀ x ∈ o.getD [], P x := by
  cases o with
  | none => exact List.forall_mem_nil P
  | some xs => exact h xs rfl

open Yaml.Decode

variable (d : Document) (n : Node)

theorem Step.ensures_decode : Ensures (Step.decode d n) Step.Visible := by
  refine ensures_bind fun content => ensures_bind fun step => ?_
  split
  · exact ensures_reject
  · next hblank =>
      exact ensures_pure ((Text.isBlank_eq_false_iff step.text).mp (Bool.eq_false_iff.mpr hblank))

namespace Scenario

/-- What holds of the fields of a scenario while they are read. -/
structure Fields.Sound (f : Fields) : Prop where
  tries : ∀ k ∈ f.maxTries, k ≤ UInt32.size - 1
  visible : ∀ steps ∈ f.steps, ∀ step ∈ steps, step.Visible

theorem Fields.ensures_read {f : Fields} (h : f.Sound) (key : String) :
    Ensures (Fields.read d f key n) Fields.Sound := by
  unfold Fields.read
  split
  · exact ensures_bind fun _ => ensures_pure ⟨h.tries, h.visible⟩
  · exact ensures_bind fun _ => ensures_pure ⟨h.tries, h.visible⟩
  · exact ensures_bind fun _ => ensures_pure ⟨h.tries, h.visible⟩
  · exact ensures_bind fun _ => ensures_pure ⟨h.tries, h.visible⟩
  · exact (ensures_once ensures_natural).bind fun _ htries => ensures_pure ⟨htries, h.visible⟩
  · exact (ensures_once (ensures_list (Step.ensures_decode d))).bind fun _ hvisible =>
      ensures_pure ⟨h.tries, hvisible⟩
  · exact ensures_bind fun _ => ensures_pure h

theorem wellFormed_ofFields {f : Fields} (h : f.Sound) : (ofFields f).WellFormed where
  tries := by
    have hle : f.maxTries.getD 1 ≤ UInt32.size - 1 := by
      cases hk : f.maxTries with
      | none => exact of_decide_eq_true rfl
      | some k => exact h.tries k hk
    -- the number is kept as it was read, since a greater one is refused
    have hlt : max 1 (f.maxTries.getD 1) < UInt32.size := by
      have hpos : 1 < UInt32.size := of_decide_eq_true rfl
      omega
    show (1 : UInt32).toNat ≤ (UInt32.ofNat (max 1 (f.maxTries.getD 1))).toNat
    rw [UInt32.toNat_ofNat_of_lt' hlt]
    exact Nat.le_max_left 1 _
  visible := forall_mem_getD h.visible

theorem ensures_decode : Ensures (Scenario.decode d n) WellFormed := by
  have hstart : Fields.empty.Sound := ⟨nofun, nofun⟩
  refine (ensures_record (fun f name n h => Fields.ensures_read d n h name) hstart).bind
    fun f h => ensures_pure (wellFormed_ofFields h)

end Scenario

namespace Feature

theorem Fields.ensures_read {f : Fields}
    (h : ∀ ss ∈ f.scenarios, ∀ s ∈ ss, Scenario.WellFormed s) (key : String) :
    Ensures (Fields.read d f key n) fun f => ∀ ss ∈ f.scenarios, ∀ s ∈ ss, s.WellFormed := by
  unfold Fields.read
  split
  · exact ensures_bind fun _ => ensures_pure h
  · exact ensures_bind fun _ => ensures_pure h
  · exact ensures_bind fun _ => ensures_pure h
  · exact (ensures_once (ensures_list (Scenario.ensures_decode d))).bind fun _ hscenarios =>
      ensures_pure hscenarios
  · exact ensures_bind fun _ => ensures_pure h

theorem ensures_decode : Ensures (Feature.decode d n) WellFormed := by
  have hstart : ∀ ss ∈ Fields.empty.scenarios, ∀ s ∈ ss, Scenario.WellFormed s := nofun
  refine (ensures_record (fun f name n h => Fields.ensures_read d n h name) hstart).bind
    fun f h => ensures_ofOption fun feature hfeature => ?_
  cases hname : f.name with
  | none => rw [ofFields?, hname] at hfeature; cases hfeature
  | some name =>
      rw [ofFields?, hname] at hfeature
      cases hfeature
      exact forall_mem_getD h

theorem wellFormed_of_ofDocument {f : Feature} (h : ofDocument d = .ok f) : f.WellFormed := by
  unfold ofDocument Document.decode at h
  split at h
  · cases h
  · next hdecode =>
      split at h
      · cases h
        exact ensures_decode d d.root _ _ _ hdecode
      · cases h

theorem wellFormed_of_ofBytes {origin : String} {bytes : ByteArray} {f : Feature}
    (h : ofBytes origin bytes = .ok f) : f.WellFormed := by
  unfold ofBytes at h
  split at h
  · unfold ofText at h
    split at h
    · next hdocument =>
        cases h
        exact wellFormed_of_ofDocument _ hdocument
    · cases h
  · cases h

end Feature

end Stepwise
