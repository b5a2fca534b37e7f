import Stepwise.Run.Registry

/-!
# What was added first counts

A registry grows at its end and nowhere else. A definition is added, or the definition of
a pattern, or a pack of definitions in their order; a pattern that cannot be compiled adds
nothing. So whatever calls have been made, the definitions are those that the calls have
added, one call behind the other (`definitions_registerAll`).

A step is resolved to the first definition that takes it, and to no other one: not to an
earlier one in which the pattern is found if that one declines the text, and not to one
that was added later. This is all that there is to overlapping patterns. That a resolved
step stays resolved, and that a pack decides alone about the steps which nobody took
before it, are two readings of one fact about the first member of a list that is made of
two (`resolve_append`).
-/

namespace Stepwise

variable {σ : Type}

/-- A call that adds to a registry. -/
inductive Registration (σ : Type) where
  | one (d : StepDefinition σ)
  | ofPattern (pattern : String) (handle : Handler σ)
  | pack (ds : List (StepDefinition σ))

namespace Registry

/-- The registry behind a call. A call that fails leaves it as it was. -/
def register (r : Registry σ) : Registration σ → Registry σ
  | .one d => r.add d
  | .ofPattern pattern handle =>
    match r.addPattern pattern handle with
    | .ok r' => r'
    | .error _ => r
  | .pack ds => r.addAll ds

def registerAll (r : Registry σ) (calls : List (Registration σ)) : Registry σ :=
  calls.foldl register r

/-- The definition at this position is the first one that takes the step. -/
structure FirstTakes (r : Registry σ) (step : BoundStep) (i : Nat) (d : StepDefinition σ) :
    Prop where
  found : r.definitions[i]? = some d
  takes : d.takes step.text = true
  declined : ∀ j < i, ∀ d', r.definitions[j]? = some d' → d'.takes step.text = false

end Registry

/-- The definitions that a call adds. That of a pattern takes the texts in which the
pattern is found, and its groups are those that were captured there. -/
def Registration.added : Registration σ → List (StepDefinition σ)
  | .one d => [d]
  | .ofPattern pattern handle =>
    match Regex.compile? pattern with
    | some regex =>
      [{ takes := fun text => (regex.captures text).isSome
         groups? := fun text => (regex.captures text).map Groups.mk
         handle }]
    | none => []
  | .pack ds => ds

namespace Registry

variable {r : Registry σ} {step : BoundStep}

/-! ## Resolving a step -/

/-- No definition takes the step, or there is a first one that does, and that is the one
which is found. -/
theorem resolve_cases (r : Registry σ) (step : BoundStep) :
    (∀ d ∈ r.definitions, d.takes step.text = false) ∧
        r.resolve step = .error (.undefinedStep step) ∨
      ∃ before d after, r.definitions = before ++ d :: after ∧
        (∀ d' ∈ before, d'.takes step.text = false) ∧ d.takes step.text = true ∧
        r.resolve step = .ok (d, (d.groups? step.text).getD Groups.empty) := by
  unfold resolve
  split
  · next d hfind =>
      obtain ⟨htakes, before, after, hsplit, hbefore⟩ := List.find?_eq_some_iff_append.mp hfind
      exact .inr ⟨before, d, after, hsplit, fun d' hd' => by simpa using hbefore d' hd', htakes,
        rfl⟩
  · next hfind =>
      exact .inl ⟨fun d hd => by simpa using List.find?_eq_none.mp hfind d hd, rfl⟩

theorem firstTakes_of_split {before after : List (StepDefinition σ)} {d : StepDefinition σ}
    (hsplit : r.definitions = before ++ d :: after)
    (hbefore : ∀ d' ∈ before, d'.takes step.text = false) (htakes : d.takes step.text = true) :
    r.FirstTakes step before.length d where
  found := by rw [hsplit, List.getElem?_append_right (Nat.le_refl _), Nat.sub_self]; rfl
  takes := htakes
  declined j hj d' hd' := by
    rw [hsplit, List.getElem?_append_left hj] at hd'
    exact hbefore d' (List.mem_of_getElem? hd')

/-- There is one first definition at most. -/
theorem FirstTakes.unique {i j : Nat} {d d' : StepDefinition σ} (h : r.FirstTakes step i d)
    (h' : r.FirstTakes step j d') : d = d' := by
  rcases Nat.lt_trichotomy i j with hlt | rfl | hlt
  · have hdeclined := h'.declined i hlt d h.found
    rw [h.takes] at hdeclined
    cases hdeclined
  · exact Option.some.inj (h.found.symm.trans h'.found)
  · have hdeclined := h.declined j hlt d' h'.found
    rw [h'.takes] at hdeclined
    cases hdeclined

theorem resolve_eq_ok_iff {d : StepDefinition σ} {groups : Groups} :
    r.resolve step = .ok (d, groups) ↔
      ∃ i, r.FirstTakes step i d ∧ groups = (d.groups? step.text).getD Groups.empty := by
  obtain ⟨hnone, hresolve⟩ | ⟨before, d', after, hsplit, hbefore, htakes, hresolve⟩ :=
    r.resolve_cases step
  · rw [hresolve]
    refine ⟨fun h => (by cases h), ?_⟩
    rintro ⟨i, hfirst, -⟩
    have hdeclined := hnone d (List.mem_of_getElem? hfirst.found)
    rw [hfirst.takes] at hdeclined
    cases hdeclined
  · have hfirst := firstTakes_of_split hsplit hbefore htakes
    rw [hresolve]
    constructor
    · intro h
      cases h
      exact ⟨before.length, hfirst, rfl⟩
    · rintro ⟨i, hfirst', rfl⟩
      rw [hfirst.unique hfirst']

theorem resolve_eq_error_iff {failure : Failure} :
    r.resolve step = .error failure ↔
      failure = .undefinedStep step ∧ ∀ d ∈ r.definitions, d.takes step.text = false := by
  obtain ⟨hnone, hresolve⟩ | ⟨before, d, after, hsplit, -, htakes, hresolve⟩ :=
    r.resolve_cases step
  · rw [hresolve]
    refine ⟨fun h => ?_, fun h => by rw [h.1]⟩
    cases h
    exact ⟨rfl, hnone⟩
  · rw [hresolve]
    refine ⟨fun h => (by cases h), fun h => ?_⟩
    have hdeclined := h.2 d (by rw [hsplit]; simp)
    rw [htakes] at hdeclined
    cases hdeclined

/-- Definitions behind those of a registry count where none of these takes the step. -/
theorem resolve_append (r : Registry σ) (ds : List (StepDefinition σ)) (step : BoundStep) :
    (Registry.mk (r.definitions ++ ds)).resolve step =
      match r.resolve step with
      | .ok found => .ok found
      | .error _ => (Registry.mk ds).resolve step := by
  unfold resolve
  rw [List.find?_append]
  cases r.definitions.find? fun d => d.takes step.text with
  | none => rfl
  | some d => rfl

/-! ## Calls -/

theorem definitions_register (r : Registry σ) (call : Registration σ) :
    (r.register call).definitions = r.definitions ++ call.added := by
  cases call with
  | one d => rfl
  | pack ds => rfl
  | ofPattern pattern handle =>
      cases hcompile : Regex.compile? pattern with
      | none =>
          simp only [register, addPattern, StepDefinition.ofPattern, Registration.added, hcompile]
          exact (List.append_nil _).symm
      | some regex =>
          have hfound : (fun text => (StepDefinition.findGroups regex text).isSome) =
              fun text => (regex.captures text).isSome := funext fun text => Option.isSome_map
          simp only [register, addPattern, StepDefinition.ofPattern, Registration.added, hcompile,
            hfound]
          rfl

/-- The definitions are those of the calls that did not fail, in the order of the calls. -/
theorem definitions_registerAll (calls : List (Registration σ)) :
    ∀ r : Registry σ, (r.registerAll calls).definitions =
      r.definitions ++ calls.flatMap Registration.added := by
  induction calls with
  | nil => exact fun r => (List.append_nil _).symm
  | cons call rest ih =>
      intro r
      show ((r.register call).registerAll rest).definitions = _
      rw [ih, definitions_register, List.append_assoc, List.flatMap_cons]

theorem registerAll_eq (r : Registry σ) (calls : List (Registration σ)) :
    r.registerAll calls = ⟨r.definitions ++ calls.flatMap Registration.added⟩ := by
  rw [← definitions_registerAll]

theorem register_of_uncompiled {pattern : String} (h : Regex.compile? pattern = none)
    (r : Registry σ) (handle : Handler σ) :
    r.addPattern pattern handle = .error ⟨pattern⟩ ∧
      r.register (.ofPattern pattern handle) = r := by
  have hfails : r.addPattern pattern handle = .error ⟨pattern⟩ := by
    unfold addPattern StepDefinition.ofPattern
    rw [h]
  refine ⟨hfails, ?_⟩
  unfold register
  simp only [hfails]

/-- The order of the calls decides. A registry has the definitions that were added to it,
in this order, and a call that fails changes nothing. A step is resolved to the first
definition that takes it, with the groups which this one finds, and fails if there is none.
So calls that come later do not change what a step is resolved to, and where it is not
resolved they decide as if nothing had been there before them. -/
theorem register_order (r : Registry σ) (calls : List (Registration σ)) :
    (r.registerAll calls).definitions =
        r.definitions ++ calls.flatMap Registration.added ∧
      (∀ pattern handle, Regex.compile? pattern = none →
        r.addPattern pattern handle = .error ⟨pattern⟩ ∧
          (r.register (.ofPattern pattern handle)).size = r.size ∧
          ∀ step, (r.register (.ofPattern pattern handle)).resolve step = r.resolve step) ∧
      (∀ step d groups, (r.registerAll calls).resolve step = .ok (d, groups) ↔
        ∃ i, (r.registerAll calls).FirstTakes step i d ∧
          groups = (d.groups? step.text).getD Groups.empty) ∧
      (∀ step failure, (r.registerAll calls).resolve step = .error failure ↔
        failure = .undefinedStep step ∧
          ∀ d ∈ (r.registerAll calls).definitions, d.takes step.text = false) ∧
      (∀ step found, r.resolve step = .ok found →
        (r.registerAll calls).resolve step = .ok found) ∧
      ∀ (r' : Registry σ) step failure, r.resolve step = .error failure →
        (r.addAll r'.definitions).resolve step = r'.resolve step := by
  refine ⟨r.definitions_registerAll calls, fun pattern handle h => ?_,
    fun step d groups => resolve_eq_ok_iff, fun step failure => resolve_eq_error_iff,
    fun step found h => ?_, fun r' step failure h => ?_⟩
  · obtain ⟨hfails, hsame⟩ := register_of_uncompiled h r handle
    rw [hsame]
    exact ⟨hfails, rfl, fun step => rfl⟩
  · rw [registerAll_eq, resolve_append, h]
  · show (Registry.mk (r.definitions ++ r'.definitions)).resolve step = _
    rw [resolve_append, h]

/-- A definition that finds groups and yet declines, a pattern that is none, and behind
them a pack with a definition that takes every step, of which nothing is captured. -/
theorem register_order_declined :
    let declining : StepDefinition Unit :=
      ⟨fun _ => false, fun text => some ⟨[some text]⟩, fun _ _ => .done none⟩
    let taking : StepDefinition Unit := ⟨fun _ => true, fun _ => none, fun _ _ => .done none⟩
    let step : BoundStep := (Step.ofText "x").verbatim
    let first : Registry Unit :=
      Registry.empty.registerAll [.one declining, .ofPattern "(" taking.handle]
    first.resolve step = .error (.undefinedStep step) ∧
      (first.registerAll [.pack [taking]]).resolve step = .ok (taking, Groups.empty) ∧
      ((first.registerAll [.pack [taking]]).registerAll [.one taking]).resolve step =
        .ok (taking, Groups.empty) := by
  intro declining taking step first
  have huncompiled : Regex.compile? "(" = none := by decide +kernel
  have hadded : (Registration.ofPattern "(" taking.handle).added = [] := by
    simp only [Registration.added, huncompiled]
  have hfirst : first.definitions = [declining] := by
    rw [(Registry.empty.register_order _).1, List.flatMap_cons, List.flatMap_singleton, hadded]
    rfl
  have hfails : first.resolve step = .error (.undefinedStep step) := by
    refine ((Registry.empty.register_order _).2.2.2.1 step _).mpr ⟨rfl, ?_⟩
    rw [show (Registry.empty.registerAll _).definitions = _ from hfirst]
    exact List.forall_mem_singleton.mpr rfl
  have htakes : (first.registerAll [.pack [taking]]).resolve step = .ok (taking, Groups.empty) :=
    (first.register_order []).2.2.2.2.2 ⟨[taking]⟩ step _ hfails
  exact ⟨hfails, htakes, (Registry.register_order _ [.one taking]).2.2.2.2.1 step _ htakes⟩

end Registry

end Stepwise
