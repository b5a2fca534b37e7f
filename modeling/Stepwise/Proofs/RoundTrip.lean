import Mathlib.Data.List.Permutation
import Stepwise.Proofs.Loaded
import Stepwise.Proofs.Written

/-!
# Features that were written down

A feature that was written down in full (`Feature.WrittenIn`) is read back as it was, but
for the two things that are seen to when features are read: one with a step that cannot be
seen is refused, and a scenario that is not to be tried at all is tried once. What has
neither is read back unchanged. A feature that was loaded has neither, so it may be written
down and loaded as often as one likes.

The fields of a record may stand in any order. A state in which some of them have been read
is the feature as far as these names go (`Scenario.readSoFar`, `Feature.readSoFar`), and
there is one field in each record by which it may be refused.
-/

namespace Stepwise

open Yaml (Node Document Decode Content)
open Yaml.Node (IsText IsText? IsBool IsNatural IsList IsRecord Field)
open Yaml.Decode

/-! ## What is written -/

namespace Step

/-- The fields of a step that is written down in full. -/
def fields (s : Step) : List Field :=
  [⟨"text", IsText s.text⟩, ⟨"argument", IsText? s.argument⟩]

def Written (s : Step) : Node → Prop := IsRecord s.fields

end Step

namespace Scenario

def fields (s : Scenario) : List Field :=
  [⟨"type", IsText s.kind.word⟩, ⟨"name", IsText? s.name⟩,
    ⟨"tags", IsList IsText s.tags.names⟩, ⟨"skip", IsBool s.skip⟩,
    ⟨"max_tries", IsNatural s.maxTries.toNat⟩, ⟨"steps", IsList Step.Written s.steps⟩]

def Written (s : Scenario) : Node → Prop := IsRecord s.fields

def hasBlankStep (s : Scenario) : Bool := s.steps.any fun step => Text.isBlank step.text

/-- The scenario, tried once if it was not to be tried at all. -/
def clamped (s : Scenario) : Scenario :=
  { s with maxTries := if s.maxTries = 0 then 1 else s.maxTries }

end Scenario

namespace Feature

def fields (f : Feature) : List Field :=
  [⟨"name", IsText f.name⟩, ⟨"tags", IsList IsText f.tags.names⟩, ⟨"skip", IsBool f.skip⟩,
    ⟨"scenarios", IsList Scenario.Written f.scenarios⟩]

def Written (f : Feature) : Node → Prop := IsRecord f.fields

/-- The document holds the feature, and nothing else. -/
structure WrittenIn (f : Feature) (d : Document) : Prop where
  root : f.Written d.root
  complete : d.complete = true

def hasBlankStep (f : Feature) : Bool := f.scenarios.any Scenario.hasBlankStep

def clamped (f : Feature) : Feature := { f with scenarios := f.scenarios.map Scenario.clamped }

end Feature

/-! ## Tags -/

theorem insertName_of_forall_lt {name : String} {xs : List String} (h : ∀ x ∈ xs, x < name) :
    insertName name xs = xs ++ [name] := by
  induction xs with
  | nil => rfl
  | cons x xs ih =>
      rw [List.forall_mem_cons] at h
      have hne : name ≠ x := fun heq => String.lt_irrefl name (heq ▸ h.1)
      rw [insertName, if_neg (String.lt_asymm h.1), if_neg hne, ih h.2, List.cons_append]

/-- Names that come in ascending order are put behind one another. -/
theorem Tags.names_foldl_insert {xs : List String} {t : Tags}
    (h : (t.names ++ xs).Pairwise (· < ·)) : (xs.foldl Tags.insert t).names = t.names ++ xs := by
  induction xs generalizing t with
  | nil => simp
  | cons x xs ih =>
      have hlt : ∀ y ∈ t.names, y < x := fun y hy =>
        (List.pairwise_append.mp h).2.2 y hy x List.mem_cons_self
      have hinsert : (t.insert x).names = t.names ++ [x] := insertName_of_forall_lt hlt
      rw [List.foldl_cons, ih (by rw [hinsert]; simpa using h), hinsert]
      simp

theorem Tags.ofList_names (t : Tags) : Tags.ofList t.names = t :=
  Tags.ext_names (Tags.names_foldl_insert t.sorted)

/-! ## Reading it back -/

section Reading

variable {d : Document} {n : Node}

theorem Tags.decode_written {t : Tags} (h : n.IsList IsText t.names) :
    Tags.decode d n = pure t := by
  rw [Tags.decode, list_of_isList_of_pure (fun _ _ => string_of_isText) h,
    pure_bind, ofList_names]

theorem ScenarioKind.decode_written {kind : ScenarioKind} (h : n.IsText kind.word) :
    ScenarioKind.decode d n = pure kind := by
  rw [ScenarioKind.decode, variant_of_isText h, pure_bind]
  cases kind <;> rfl

theorem Step.ofContent_written (s : Step) :
    ofContent (.mapping [(.text "text", .text s.text),
        (.text "argument", .ofText? s.argument)]) = some s ∧
      ofContent (.mapping [(.text "argument", .ofText? s.argument),
        (.text "text", .text s.text)]) = some s := by
  obtain ⟨text, argument⟩ := s
  cases argument <;> exact ⟨rfl, rfl⟩

theorem Step.decode_written {s : Step} (h : s.Written n) :
    Step.decode d n = rejectIf (Text.isBlank s.text) .blank s := by
  obtain ⟨cs, hperm, hcontent⟩ := @Content.ofNode_of_isRecord StepFault d n 123 s.fields
    [(.text "text", .text s.text), (.text "argument", .ofText? s.argument)] h
    (.cons ⟨rfl, fun _ => Content.ofNode_of_isText⟩
      (.cons ⟨rfl, fun _ => Content.ofNode_of_isText?⟩ .nil))
  -- the two orders in which two fields may stand
  have hstep : ofContent (.mapping cs) = some s := by
    rcases List.perm_pair.mp hperm with rfl | rfl
    · exact s.ofContent_written.1
    · exact s.ofContent_written.2
  rw [Step.decode, show depthLimit = 123 + 1 from rfl, hcontent, pure_bind, hstep]
  rfl

/-! ## Scenarios -/

namespace Scenario

/-- The fields of the scenario that have been read when those with these names have. -/
def readSoFar (s : Scenario) (names : List String) : Fields where
  kind := if "type" ∈ names then some s.kind else none
  name := if "name" ∈ names then some s.name else none
  tags := if "tags" ∈ names then some s.tags else none
  skip := if "skip" ∈ names then some s.skip else none
  maxTries := if "max_tries" ∈ names then some s.maxTries.toNat else none
  steps := if "steps" ∈ names then some s.steps else none

/-- A scenario is refused by its steps. -/
def refusedBy (s : Scenario) (name : String) : Bool := name == "steps" && s.hasBlankStep

theorem reads_fields (s : Scenario) :
    ∀ f ∈ s.fields, Reads (Fields.read d) s.refusedBy .blank s.readSoFar f := by
  have htries : s.maxTries.toNat ≤ UInt32.size - 1 := Nat.le_sub_one_of_lt s.maxTries.toNat_lt
  intro f hf
  simp only [fields, List.mem_cons, List.not_mem_nil, or_false] at hf
  rcases hf with rfl | rfl | rfl | rfl | rfl | rfl
  · refine reads_once Fields.kind (fun read kind => { read with kind }) (fun _ _ => rfl)
      (fun _ h => if_neg h) (fun _ => ScenarioKind.decode_written) fun _ => ?_
    simp [readSoFar]
  · refine reads_once Fields.name (fun read name => { read with name }) (fun _ _ => rfl)
      (fun _ h => if_neg h) (fun _ => optional_of_isText?) fun _ => ?_
    simp [readSoFar]
  · refine reads_once Fields.tags (fun read tags => { read with tags }) (fun _ _ => rfl)
      (fun _ h => if_neg h) (fun _ => Tags.decode_written) fun _ => ?_
    simp [readSoFar]
  · refine reads_once Fields.skip (fun read skip => { read with skip }) (fun _ _ => rfl)
      (fun _ h => if_neg h) (fun _ => bool_of_isBool) fun _ => ?_
    simp [readSoFar]
  · refine reads_once Fields.maxTries (fun read maxTries => { read with maxTries }) (fun _ _ => rfl)
      (fun _ h => if_neg h) (fun _ h => natural_of_isNatural h htries) fun _ => ?_
    simp [readSoFar]
  · have hstep : ∀ (step : Step) n, step.Written n →
        Step.decode d n = rejectIf (Text.isBlank step.text) .blank (id step) :=
      fun _ _ => Step.decode_written
    have hsteps : ∀ n, n.IsList Step.Written s.steps →
        list Step.decode d n = rejectIf s.hasBlankStep .blank s.steps := fun n hn => by
      rw [list_of_isList hstep hn, List.map_id]
      rfl
    refine reads_once Fields.steps (fun read steps => { read with steps }) (fun _ _ => rfl)
      (fun _ h => if_neg h) hsteps fun _ => ?_
    simp [readSoFar]

/-- A number of tries that is one at least is not changed, and zero becomes one. -/
theorem ofNat_max_one (k : UInt32) :
    UInt32.ofNat (max 1 k.toNat) = if k = 0 then 1 else k := by
  split
  · next hzero => rw [hzero]; rfl
  · next hpos =>
      have hle : 1 ≤ k.toNat := Nat.pos_of_ne_zero fun h => hpos (UInt32.toNat_inj.mp h)
      rw [Nat.max_eq_right hle, UInt32.ofNat_toNat]

theorem decode_written {s : Scenario} (h : s.Written n) :
    Scenario.decode d n = rejectIf s.hasBlankStep .blank s.clamped := by
  have hdistinct : (s.fields.map Field.name).Nodup := by simp [fields]
  obtain ⟨names, hnames, hrecord⟩ :=
    record_of_isRecord h (s.reads_fields (d := d)) hdistinct
  simp only [fields, List.forall_mem_cons] at hnames
  have hwhole : ofFields (s.readSoFar names) = s.clamped := by
    simp [ofFields, readSoFar, hnames, clamped, ofNat_max_one]
  have hbad : (s.fields.any fun f => s.refusedBy f.name) = s.hasBlankStep := by
    simp [fields, refusedBy]
  have hstart : s.readSoFar [] = Fields.empty := rfl
  rw [hstart, hbad] at hrecord
  rw [Scenario.decode, hrecord, rejectIf_bind, hwhole]
  rfl

end Scenario

/-! ## Features -/

namespace Feature

def readSoFar (f : Feature) (names : List String) : Fields where
  name := if "name" ∈ names then some f.name else none
  tags := if "tags" ∈ names then some f.tags else none
  skip := if "skip" ∈ names then some f.skip else none
  scenarios := if "scenarios" ∈ names then some f.clamped.scenarios else none

/-- A feature is refused by its scenarios. -/
def refusedBy (f : Feature) (name : String) : Bool := name == "scenarios" && f.hasBlankStep

theorem reads_fields (f : Feature) :
    ∀ field ∈ f.fields, Reads (Fields.read d) f.refusedBy .blank f.readSoFar field := by
  intro field hfield
  simp only [fields, List.mem_cons, List.not_mem_nil, or_false] at hfield
  rcases hfield with rfl | rfl | rfl | rfl
  · refine reads_once Fields.name (fun read name => { read with name }) (fun _ _ => rfl)
      (fun _ h => if_neg h) (fun _ => string_of_isText) fun _ => ?_
    simp [readSoFar]
  · refine reads_once Fields.tags (fun read tags => { read with tags }) (fun _ _ => rfl)
      (fun _ h => if_neg h) (fun _ => Tags.decode_written) fun _ => ?_
    simp [readSoFar]
  · refine reads_once Fields.skip (fun read skip => { read with skip }) (fun _ _ => rfl)
      (fun _ h => if_neg h) (fun _ => bool_of_isBool) fun _ => ?_
    simp [readSoFar]
  · have hscenario : ∀ (s : Scenario) n, s.Written n →
        Scenario.decode d n = rejectIf s.hasBlankStep .blank s.clamped :=
      fun _ _ => Scenario.decode_written
    refine reads_once Fields.scenarios (fun read scenarios => { read with scenarios })
      (fun _ _ => rfl) (fun _ h => if_neg h) (fun _ => list_of_isList hscenario)
      fun _ => ?_
    simp [readSoFar, clamped]

theorem decode_written {f : Feature} (h : f.Written n) :
    Feature.decode d n = rejectIf f.hasBlankStep .blank f.clamped := by
  have hdistinct : (f.fields.map Field.name).Nodup := by simp [fields]
  obtain ⟨names, hnames, hrecord⟩ :=
    record_of_isRecord h (f.reads_fields (d := d)) hdistinct
  simp only [fields, List.forall_mem_cons] at hnames
  have hwhole : ofFields? (f.readSoFar names) = some f.clamped := by
    simp [ofFields?, readSoFar, hnames, clamped]
  have hbad : (f.fields.any fun field => f.refusedBy field.name) = f.hasBlankStep := by
    simp [fields, refusedBy]
  have hstart : f.readSoFar [] = Fields.empty := rfl
  rw [hstart, hbad] at hrecord
  rw [Feature.decode, hrecord, rejectIf_bind, hwhole]
  rfl

end Feature

end Reading

/-! ## Writing it down -/

theorem Step.written_toJson (s : Step) : s.Written (Node.ofJson s.toJson) :=
  Node.isRecord_ofJson (by simp) (.cons ⟨rfl, Node.isText_quoted s.text⟩
    (.cons ⟨rfl, Node.isText?_ofJson s.argument⟩ .nil))

theorem Tags.isList_toJson (t : Tags) : (Node.ofJson t.toJson).IsList IsText t.names :=
  Node.isList_ofJson Node.isText_quoted t.names

theorem Scenario.written_toJson (s : Scenario) : s.Written (Node.ofJson s.toJson) :=
  Node.isRecord_ofJson (by simp) (.cons ⟨rfl, Node.isText_quoted s.kind.word⟩
    (.cons ⟨rfl, Node.isText?_ofJson s.name⟩
      (.cons ⟨rfl, s.tags.isList_toJson⟩
        (.cons ⟨rfl, Node.isBool_ofJson s.skip⟩
          (.cons ⟨rfl, Node.isNatural_ofJson s.maxTries.toNat⟩
            (.cons ⟨rfl, Node.isList_ofJson Step.written_toJson s.steps⟩ .nil))))))

theorem Feature.writtenIn_toDocument (f : Feature) : f.WrittenIn f.toDocument where
  complete := rfl
  root := Node.isRecord_ofJson (by simp) (.cons ⟨rfl, Node.isText_quoted f.name⟩
    (.cons ⟨rfl, f.tags.isList_toJson⟩
      (.cons ⟨rfl, Node.isBool_ofJson f.skip⟩
        (.cons ⟨rfl, Node.isList_ofJson Scenario.written_toJson f.scenarios⟩ .nil))))

/-! ## There and back -/

theorem Step.not_visible_iff {s : Step} : ¬ s.Visible ↔ Text.isBlank s.text = true := by
  rw [Step.Visible, ← Text.isBlank_eq_false_iff, Bool.not_eq_false]

theorem Scenario.clamped_eq_self_iff {s : Scenario} : s.clamped = s ↔ 1 ≤ s.maxTries := by
  have hpos : 1 ≤ s.maxTries ↔ s.maxTries ≠ 0 := by
    rw [UInt32.le_iff_toNat_le, ne_eq, ← UInt32.toNat_inj]
    exact Nat.one_le_iff_ne_zero
  rw [hpos]
  constructor
  · intro h hzero
    have htries := congrArg Scenario.maxTries h
    rw [clamped, if_pos hzero, hzero] at htries
    cases htries
  · intro h
    rw [clamped, if_neg h]

namespace Feature

variable {f : Feature} {d : Document}

theorem hasBlankStep_iff :
    f.hasBlankStep = true ↔ ∃ s ∈ f.scenarios, ∃ step ∈ s.steps, ¬ step.Visible := by
  simp only [hasBlankStep, Scenario.hasBlankStep, List.any_eq_true, Step.not_visible_iff]

theorem clamped_eq_self_iff : f.clamped = f ↔ ∀ s ∈ f.scenarios, 1 ≤ s.maxTries := by
  have hscenarios : f.clamped = f ↔ f.scenarios.map Scenario.clamped = f.scenarios.map id := by
    rw [List.map_id]
    exact ⟨congrArg Feature.scenarios, fun h => by rw [clamped, h]⟩
  rw [hscenarios, List.map_inj_left]
  exact forall₂_congr fun s _ => Scenario.clamped_eq_self_iff

/-- A feature is well formed if reading finds nothing to refuse and nothing to change. -/
theorem wellFormed_iff : f.WellFormed ↔ f.hasBlankStep = false ∧ f.clamped = f := by
  rw [clamped_eq_self_iff, ← Bool.not_eq_true, hasBlankStep_iff]
  constructor
  · intro h
    refine ⟨?_, fun s hs => (h s hs).tries⟩
    rintro ⟨s, hs, step, hstep, hblank⟩
    exact hblank ((h s hs).visible step hstep)
  · rintro ⟨hnone, htries⟩ s hs
    refine ⟨htries s hs, fun step hstep => ?_⟩
    by_contra hblank
    exact hnone ⟨s, hs, step, hstep, hblank⟩

theorem ofDocument_of_writtenIn (h : f.WrittenIn d) :
    ofDocument d = if f.hasBlankStep then .error (.rejected .blank) else .ok f.clamped := by
  rw [ofDocument, Document.decode, decode_written h.root]
  cases f.hasBlankStep with
  | true => rfl
  | false =>
      show (if d.complete = true then Except.ok f.clamped else _) = _
      rw [if_pos h.complete]
      rfl

theorem ofDocument_eq_ok_iff (h : f.WrittenIn d) : ofDocument d = .ok f ↔ f.WellFormed := by
  rw [ofDocument_of_writtenIn h, wellFormed_iff]
  cases f.hasBlankStep <;> simp

/-- What is loaded is well formed: every scenario is tried once at least and the text of
every step can be seen. A feature that was written down, with the fields of its records in
whatever order, is read back as it was exactly if it is well formed. It is refused exactly
if it has a step that cannot be seen, and else the only thing that changes is that tries
which are zero become one. So whatever was loaded can be written down and is then read
back. -/
theorem loaded_round_trip :
    (∀ origin bytes f, ofBytes origin bytes = .ok f → f.WellFormed) ∧
      (∀ f d, WrittenIn f d →
        (ofDocument d = .ok f ↔ f.WellFormed) ∧
          (ofDocument d = .error (.rejected .blank) ↔
            ∃ s ∈ f.scenarios, ∃ step ∈ s.steps, ¬ step.Visible) ∧
          ((∀ s ∈ f.scenarios, ∀ step ∈ s.steps, step.Visible) →
            ofDocument d = .ok f.clamped)) ∧
      (∀ f, WrittenIn f f.toDocument) ∧
      ∀ origin bytes f d, ofBytes origin bytes = .ok f → f.WrittenIn d →
        ofDocument d = .ok f := by
  refine ⟨fun _ _ _ => wellFormed_of_ofBytes, fun f d h => ⟨ofDocument_eq_ok_iff h, ?_, ?_⟩,
    writtenIn_toDocument,
    fun _ _ _ _ hload h => (ofDocument_eq_ok_iff h).mpr (wellFormed_of_ofBytes hload)⟩
  · rw [ofDocument_of_writtenIn h, ← hasBlankStep_iff]
    cases f.hasBlankStep <;> simp
  · intro hvisible
    have hnone : ¬ f.hasBlankStep = true := by
      rw [hasBlankStep_iff]
      rintro ⟨s, hs, step, hstep, hblank⟩
      exact hblank (hvisible s hs step hstep)
    rw [ofDocument_of_writtenIn h, if_neg hnone]

/-- No tries at all, in the text that is loaded and in a feature that is written down. -/
theorem loaded_round_trip_untried :
    let text := "name: f\nscenarios:\n- max_tries: 0\n  steps: [a b]\n"
    let scenario : Scenario := ⟨.scenario, none, Tags.empty, false, 1, [⟨"a b", none⟩]⟩
    let f : Feature := ⟨"f", Tags.empty, false, [scenario]⟩
    let g : Feature := { f with scenarios := [{ scenario with maxTries := 0 }] }
    ofBytes "f.yaml" text.toUTF8 = .ok f ∧ ofDocument f.toDocument = .ok f ∧
      ofDocument g.toDocument = .ok f := by
  intro text scenario f g
  obtain ⟨-, hread, hwritten, hback⟩ := loaded_round_trip
  have hload : ofBytes "f.yaml" text.toUTF8 = .ok f := by decide +kernel
  refine ⟨hload, hback _ _ f _ hload (hwritten f), (hread g _ (hwritten g)).2.2 ?_⟩
  have hvisible : Step.Visible ⟨"a b", none⟩ :=
    (Text.isBlank_eq_false_iff "a b").mp (by decide +kernel)
  intro s hs step hstep
  cases List.mem_singleton.mp hs
  cases List.mem_singleton.mp hstep
  exact hvisible

end Feature

end Stepwise
