import Stepwise.Feature.Basic
import Stepwise.Proofs.LastWord
import Stepwise.Proofs.Placeholders

/-!
# A value is written by its leaves

A list is written with commas between its items, and an item that is a list brings commas
of its own. How deep a comma was cannot be told from the text: the text is the leaves of the
value with commas between them (`Value.display_eq_intercalate`).

What carries the proof is that every value has a leaf (`Value.leaves_ne_nil`). A comma
between two items is then a comma between the last leaf of the one and the first leaf of the
other, so that joining what was joined already comes to joining everything at once
(`intercalate_flatMap`). The list without items is the case that needs care. It is written
as nothing, but between other items it has its comma all the same, and this is why it has a
leaf, an empty one.

Whoever fills a text looks at a value for its text alone. So values with the same leaves can
take each other's place in the store, and no text and no step will show it.
-/

namespace Stepwise

/-- To join what was joined is to join everything, if there was something in each part. -/
theorem intercalate_flatMap {α : Type} {f : α → List String} (hf : ∀ x, f x ≠ [])
    (sep : String) (xs : List α) :
    sep.intercalate (xs.flatMap f) = sep.intercalate (xs.map fun x => sep.intercalate (f x)) := by
  induction xs with
  | nil => rfl
  | cons x rest ih =>
      cases rest with
      | nil => rw [List.flatMap_singleton, List.map_singleton, String.intercalate_singleton]
      | cons y rest =>
          -- behind the first part there is a second one, so there is something to join it to
          have hparts : (y :: rest).flatMap f ≠ [] := by simp [hf y]
          have htexts : ((y :: rest).map fun x => sep.intercalate (f x)) ≠ [] := by simp
          rw [List.flatMap_cons, String.intercalate_append_of_ne_nil (hf x) hparts, ih]
          exact (String.intercalate_cons_of_ne_nil htexts).symm

namespace Value

theorem leaves_ne_nil (v : Value) : v.leaves ≠ [] := by
  match v with
  | .text s => simp [leaves]
  | .json j => simp [leaves]
  | .list [] => simp [leaves]
  | .list (x :: rest) =>
      rw [leaves]
      exact List.append_ne_nil_of_left_ne_nil (leaves_ne_nil x) _

theorem leaves_list {items : List Value} (h : items ≠ []) :
    leaves (.list items) = items.flatMap leaves := by
  match items, h with
  | x :: rest, _ => rw [leaves, leavesItems_eq_flatMap, List.flatMap_cons]

theorem display_eq_intercalate (v : Value) : v.display = ",".intercalate v.leaves := by
  match v with
  | .text s => rw [display, leaves, String.intercalate_singleton]
  | .json j => rw [display, leaves, String.intercalate_singleton]
  | .list [] => rfl
  | .list (x :: rest) =>
      have hitems : ∀ y ∈ x :: rest, y.display = ",".intercalate y.leaves :=
        fun y _ => display_eq_intercalate y
      calc display (.list (x :: rest))
          = ",".intercalate ((x :: rest).map display) := by rw [display, displays_eq_map]
        _ = ",".intercalate ((x :: rest).map fun y => ",".intercalate y.leaves) := by
            rw [List.map_congr_left hitems]
        _ = ",".intercalate ((x :: rest).flatMap leaves) :=
            (intercalate_flatMap leaves_ne_nil "," _).symm
        _ = ",".intercalate (leaves (.list (x :: rest))) := by
            rw [leaves_list (List.cons_ne_nil x rest)]

theorem display_of_asText {v : Value} {t : String} (h : v.asText = some t) : v.display = t := by
  match v, h with
  | .text _, rfl => rfl
  | .json (.string _), rfl => rfl

end Value

/-! ## What a placeholder shows of a value -/

namespace Sources

theorem textOf_set (s : Store) (key k : String) (value : Value) (env : Environment)
    (allowed : Bool) : (Sources.mk (s.set key value).2 env allowed).textOf k =
      if key = k then some value.display else (Sources.mk s env allowed).textOf k := by
  simp only [textOf, Store.get_set]
  by_cases h : key = k
  · rw [if_pos h, if_pos h]
  · rw [if_neg h, if_neg h]

theorem lookup_set_congr {v w : Value} (h : v.display = w.display) (s : Store) (key : String)
    (env : Environment) (allowed : Bool) :
    (Sources.mk (s.set key v).2 env allowed).lookup =
      (Sources.mk (s.set key w).2 env allowed).lookup := by
  funext k
  rw [lookup_eq_textOf, lookup_eq_textOf, textOf_set, textOf_set, h]

theorem fill_congr {a b : Sources} (h : a.lookup = b.lookup) (text : String) :
    a.fill text = b.fill text := by
  rw [fill, fill, h]

theorem bind_congr {a b : Sources} (h : a.lookup = b.lookup) (step : Step) :
    step.bind a = step.bind b := by
  simp only [Step.bind, fill_congr h]

end Sources

namespace Value

/-- The text of a value is its leaves with commas between them, at whatever depth they are. If
two values have the same leaves, a store may hold the one or the other under a name: every text
is filled in the same way, or fails in the same way, and so does every step with its text and
its argument. A value that is a text or a structured string has this very text. -/
theorem display_joins_leaves (v : Value) :
    v.display = ",".intercalate v.leaves ∧
      (∀ w : Value, v.leaves = w.leaves → v.display = w.display ∧
        ∀ (s : Store) (key : String) (env : Environment) (allowed : Bool),
          let a : Sources := ⟨(s.set key v).2, env, allowed⟩
          let b : Sources := ⟨(s.set key w).2, env, allowed⟩
          (∀ text, a.fill text = b.fill text) ∧ ∀ step : Step, step.bind a = step.bind b) ∧
      ∀ t, v.asText = some t → v.display = t := by
  refine ⟨v.display_eq_intercalate, fun w hw => ?_, fun t => display_of_asText⟩
  have hdisplay : v.display = w.display := by
    rw [display_eq_intercalate, display_eq_intercalate, hw]
  refine ⟨hdisplay, fun s key env allowed => ?_⟩
  have hlookup := Sources.lookup_set_congr hdisplay s key env allowed
  exact ⟨Sources.fill_congr hlookup, Sources.bind_congr hlookup⟩

/-- Lists of different shapes with the same four leaves, of which an empty list gives one, and
a structured string. -/
theorem display_joins_leaves_nested :
    let v : Value := .list [.text "a", .list [], .list [.ofInt 2, .json (.string "b")]]
    let w : Value := .list [.list [.text "a", .list [.list []]], .text "2", .text "b"]
    let s := Store.ofList [("k", .text "before")]
    let env : Environment := ⟨[("k", "variable")]⟩
    v.leaves = w.leaves ∧ v.display = "a,,2,b" ∧
      (Sources.mk (s.set "k" v).2 env true).fill "<{{ k }}>" = .ok "<a,,2,b>" ∧
      (Sources.mk (s.set "k" w).2 env true).fill "<{{ k }}>" = .ok "<a,,2,b>" ∧
      asText (.json (.string "b")) = some "b" ∧ display (.json (.string "b")) = "b" := by
  intro v w s env
  have hleaves : v.leaves = w.leaves := by decide +kernel
  obtain ⟨htext, hsame, -⟩ := display_joins_leaves v
  have hfill : (Sources.mk (s.set "k" v).2 env true).fill "<{{ k }}>" = .ok "<a,,2,b>" := by
    decide +kernel
  refine ⟨hleaves, htext.trans (by decide +kernel), hfill, ?_, rfl,
    (display_joins_leaves (.json (.string "b"))).2.2 "b" rfl⟩
  rw [← ((hsame w hleaves).2 s "k" env true).1, hfill]

/-- A string loses its quotes as a value only, and not inside of one. -/
example : display (.list [.json (.string "a"), .json (.array [.string "a"])]) =
    "a,[\x22a\x22]" := by
  decide +kernel

end Value

end Stepwise
