import Mathlib.Data.Finset.Card
import Stepwise.Store

/-!
# The last word on a name

A store may be changed any number of times, and all that matters for a name afterwards is
the last change that had a say in it: one that set this name or removed it, or one that
cleared the store (`Store.Change.leaves?`). Changes of other names pass it by.

What a single change leaves under every name is said once (`get_change`), and the rest is
an induction over the changes. The size is another matter, since it is a number of entries
and not of names. That no name has two entries is part of every store, so it needs no
induction: the names with a value are the names of the entries, and each of them is
counted once.
-/

namespace Stepwise.Store

inductive Change where
  | set (key : String) (value : Value)
  | remove (key : String)
  | clear

/-- What a change leaves under a name, if it has a say in it: a value, or none. -/
def Change.leaves? : Change → String → Option (Option Value)
  | .set key value, k => if key = k then some (some value) else none
  | .remove key, k => if key = k then some none else none
  | .clear, _ => some none

def change (s : Store) : Change → Store
  | .set key value => (s.set key value).2
  | .remove key => (s.remove key).2
  | .clear => s.clear

def changeAll (s : Store) (changes : List Change) : Store := changes.foldl change s

variable {s : Store} {key k : String}

/-! ## One change -/

theorem find?_assign {value : Value} (es : List (String × Value)) :
    ((assign key value es).find? fun e => e.1 == k).map Prod.snd =
      if key = k then some value else (es.find? fun e => e.1 == k).map Prod.snd := by
  induction es with
  | nil => by_cases h : key = k <;> simp [assign, h]
  | cons e rest ih =>
      -- the entry that is replaced keeps its name, and what comes behind it is not touched
      by_cases he : e.1 = key
      · rw [assign, if_pos he]
        by_cases h : key = k
        · simp [h]
        · have hek : e.1 ≠ k := fun hek => h (he.symm.trans hek)
          simp [h, hek]
      · rw [assign, if_neg he]
        by_cases hek : e.1 = k
        · have h : key ≠ k := fun h => he (hek.trans h.symm)
          simp [h, hek]
        · simpa [hek] using ih

theorem get_set (s : Store) (key k : String) (value : Value) :
    (s.set key value).2.get k = if key = k then some value else s.get k :=
  find?_assign s.entries

theorem find?_filter_ne (es : List (String × Value)) :
    ((es.filter fun e => e.1 != key).find? fun e => e.1 == k) =
      if key = k then none else es.find? fun e => e.1 == k := by
  rw [List.find?_filter]
  by_cases h : key = k
  · rw [if_pos h, List.find?_eq_none]
    intro e _ he
    simp only [bne_iff_ne, beq_iff_eq, decide_eq_true_eq] at he
    exact he.1 (he.2.trans h.symm)
  · rw [if_neg h]
    congr 1
    funext e
    by_cases he : e.1 = k
    · simp [he, Ne.symm h]
    · simp [he]

theorem get_remove (s : Store) (key k : String) :
    (s.remove key).2.get k = if key = k then none else s.get k := by
  simp only [remove, get, find?_filter_ne]
  split <;> rfl

/-- A change leaves under a name what it says, and what was there if it says nothing. -/
theorem get_change (s : Store) (c : Change) (k : String) :
    (s.change c).get k = (c.leaves? k).getD (s.get k) := by
  cases c with
  | set key value =>
      rw [Change.leaves?, change, get_set]
      split <;> rfl
  | remove key =>
      rw [Change.leaves?, change, get_remove]
      split <;> rfl
  | clear => rfl

/-! ## Many changes -/

theorem get_changeAll (changes : List Change) (k : String) :
    ∀ s : Store, (s.changeAll changes).get k =
      (changes.reverse.findSome? fun c => c.leaves? k).getD (s.get k) := by
  induction changes with
  | nil => exact fun s => rfl
  | cons c rest ih =>
      intro s
      have hrest : s.changeAll (c :: rest) = (s.change c).changeAll rest := rfl
      rw [hrest, ih, get_change, List.reverse_cons, List.findSome?_append]
      cases rest.reverse.findSome? fun c => c.leaves? k with
      | some left => rfl
      | none => simp

/-! ## Names with a value -/

theorem isSome_get_iff : (s.get k).isSome = true ↔ k ∈ s.entries.map Prod.fst := by
  rw [get, Option.isSome_map, List.find?_isSome, List.mem_map]
  simp

theorem contains_eq (s : Store) (k : String) : s.contains k = (s.get k).isSome := by
  rw [Bool.eq_iff_iff, isSome_get_iff, contains, List.any_eq_true, List.mem_map]
  simp

theorem isEmpty_iff_size (s : Store) : s.isEmpty = true ↔ s.size = 0 := by
  rw [isEmpty, List.isEmpty_iff, size, List.length_eq_zero_iff]

theorem size_eq_card (s : Store) :
    ∃ keys : Finset String, (∀ k, k ∈ keys ↔ (s.get k).isSome = true) ∧
      s.size = keys.card := by
  refine ⟨(s.entries.map Prod.fst).toFinset, fun k => ?_, ?_⟩
  · rw [List.mem_toFinset, isSome_get_iff]
  · rw [List.toFinset_card_of_nodup s.nodup, List.length_map]
    rfl

/-- What is under a name after any changes is the last word on it: what the last change
left there that set or removed the name or cleared the store, and what was there before if
there is none. To set a name or to remove it returns what was under it just before. The size is
the number of names with a value, and a value in the store is never overruled by a variable
of the same name. -/
theorem changeAll_last_word (s : Store) (changes : List Change) :
    let t := s.changeAll changes
    (∀ k, t.get k = (changes.reverse.findSome? fun c => c.leaves? k).getD (s.get k)) ∧
      (∀ k value, (t.set k value).1 = t.get k) ∧
      (∀ k, (t.remove k).1 = t.get k) ∧
      (∃ keys : Finset String, (∀ k, k ∈ keys ↔ (t.get k).isSome = true) ∧
        t.size = keys.card) ∧
      (∀ k, t.contains k = (t.get k).isSome) ∧
      (t.isEmpty = true ↔ t.size = 0) ∧ (t.isEmpty = true ↔ ∀ k, t.get k = none) ∧
      ∀ env k, t.getOrEnv env k = ((t.get k).map Value.display).or (env.get k) := by
  intro t
  obtain ⟨keys, hkeys, hsize⟩ := t.size_eq_card
  refine ⟨fun k => get_changeAll changes k s, fun k value => rfl, fun k => rfl,
    ⟨keys, hkeys, hsize⟩, t.contains_eq, t.isEmpty_iff_size, ?_, fun env k => ?_⟩
  · rw [isEmpty_iff_size, hsize, Finset.card_eq_zero, Finset.eq_empty_iff_forall_notMem]
    simp only [hkeys, Bool.not_eq_true, Option.isSome_eq_false_iff, Option.isNone_iff_eq_none]
  · rw [getOrEnv]
    cases t.get k <;> rfl

end Stepwise.Store
