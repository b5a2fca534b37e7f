/-!
# Tags

The tags of a feature or a scenario are a set of names. The names are kept in
ascending order, so that two sets with the same names are the same.
-/

namespace Stepwise

/-- Puts a name where it belongs, unless it is there. -/
def insertName (name : String) : List String → List String
  | [] => [name]
  | x :: rest =>
    if name < x then name :: x :: rest
    else if name = x then x :: rest
    else x :: insertName name rest

theorem mem_insertName {name x : String} {xs : List String} :
    x ∈ insertName name xs ↔ x = name ∨ x ∈ xs := by
  induction xs with
  | nil => simp [insertName]
  | cons y rest ih => grind [insertName]

theorem pairwise_insertName {name : String} {xs : List String}
    (h : xs.Pairwise (· < ·)) : (insertName name xs).Pairwise (· < ·) := by
  induction xs with
  | nil => simp [insertName]
  | cons y rest ih =>
      rw [List.pairwise_cons] at h
      unfold insertName
      split
      · next hlt =>
          refine List.pairwise_cons.2 ⟨fun z hz => ?_, List.pairwise_cons.2 h⟩
          rcases List.mem_cons.1 hz with rfl | hz
          · exact hlt
          · exact String.lt_trans hlt (h.1 z hz)
      · next hlt =>
          split
          · exact List.pairwise_cons.2 h
          · next hne =>
              refine List.pairwise_cons.2 ⟨fun z hz => ?_, ih h.2⟩
              rcases mem_insertName.1 hz with rfl | hz
              · have := String.not_lt.1 hlt
                grind
              · exact h.1 z hz

/-- A set of names. -/
structure Tags where
  names : List String
  /-- In ascending order, and so without repetition. -/
  sorted : names.Pairwise (· < ·)
deriving DecidableEq, Repr

namespace Tags

def empty : Tags := ⟨[], List.Pairwise.nil⟩

instance : Inhabited Tags := ⟨empty⟩

def insert (t : Tags) (name : String) : Tags :=
  ⟨insertName name t.names, pairwise_insertName t.sorted⟩

def contains (t : Tags) (name : String) : Bool := t.names.contains name

def ofList (names : List String) : Tags := names.foldl insert empty

/-- Two sets with the same names, in whatever order they were given. -/
theorem ext_names {s t : Tags} (h : s.names = t.names) : s = t := by
  cases s; cases t; cases h; rfl

end Tags

end Stepwise
