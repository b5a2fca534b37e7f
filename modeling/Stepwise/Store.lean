import Stepwise.Value

/-!
# The store

Values under names, shared by all steps of a run. The store is a list of
entries in which no name occurs twice: `set` puts a new value into the entry of
its name, or adds one, and `remove` takes the entry out. The invariant is part
of the type, so that the number of entries is the number of names.

The environment of the process is the second place where the name of a
placeholder may be looked up, after the store.
-/

namespace Stepwise

/-- Puts a value under a name, in the place of the value that was there. -/
def assign (key : String) (value : Value) :
    List (String × Value) → List (String × Value)
  | [] => [(key, value)]
  | e :: rest => if e.1 = key then (key, value) :: rest else e :: assign key value rest

theorem mem_keys_assign {key k : String} {value : Value} {es : List (String × Value)} :
    k ∈ (assign key value es).map Prod.fst ↔ k = key ∨ k ∈ es.map Prod.fst := by
  induction es with
  | nil => simp [assign]
  | cons e rest ih =>
      by_cases h : e.1 = key
      · rw [assign, if_pos h, List.map_cons, List.map_cons, List.mem_cons, List.mem_cons, h,
          or_self_left]
      · rw [assign, if_neg h, List.map_cons, List.map_cons, List.mem_cons, List.mem_cons, ih]
        exact or_left_comm

theorem nodup_assign {key : String} {value : Value} {es : List (String × Value)}
    (h : (es.map Prod.fst).Nodup) : ((assign key value es).map Prod.fst).Nodup := by
  induction es with
  | nil => simp [assign]
  | cons e rest ih =>
      rw [List.map_cons, List.nodup_cons] at h
      by_cases he : e.1 = key
      · rw [assign, if_pos he, List.map_cons, List.nodup_cons]
        exact ⟨he ▸ h.1, h.2⟩
      · rw [assign, if_neg he, List.map_cons, List.nodup_cons, mem_keys_assign]
        exact ⟨fun hm => hm.elim he h.1, ih h.2⟩

theorem nodup_filter_keys {p : String × Value → Bool} {es : List (String × Value)}
    (h : (es.map Prod.fst).Nodup) : ((es.filter p).map Prod.fst).Nodup :=
  h.sublist (List.filter_sublist.map Prod.fst)

/-- Values under names. -/
structure Store where
  entries : List (String × Value)
  /-- No name has two entries. -/
  nodup : (entries.map Prod.fst).Nodup

namespace Store

def empty : Store := ⟨[], List.nodup_nil⟩

instance : Inhabited Store := ⟨empty⟩

/-- The value under a name. -/
def get (s : Store) (key : String) : Option Value :=
  (s.entries.find? fun e => e.1 == key).map Prod.snd

/-- Puts a value under a name and returns the value that was there. -/
def set (s : Store) (key : String) (value : Value) : Option Value × Store :=
  (s.get key, ⟨assign key value s.entries, nodup_assign s.nodup⟩)

/-- Takes a name out and returns the value that was there. -/
def remove (s : Store) (key : String) : Option Value × Store :=
  (s.get key, ⟨s.entries.filter fun e => e.1 != key, nodup_filter_keys s.nodup⟩)

/-- The store without entries, whatever was there. -/
def clear (_ : Store) : Store := empty

def contains (s : Store) (key : String) : Bool := s.entries.any fun e => e.1 == key

def size (s : Store) : Nat := s.entries.length

def isEmpty (s : Store) : Bool := s.entries.isEmpty

/-- The store with these entries; of several with one name the last counts. -/
def ofList (entries : List (String × Value)) : Store :=
  entries.foldl (fun s e => (s.set e.1 e.2).2) empty

/-- The value under a name, if it is a text or a structured string. -/
def getText (s : Store) (key : String) : Option String := (s.get key).bind Value.asText

end Store

/-- The variables of the process, each name once. -/
structure Environment where
  bindings : List (String × String)

namespace Environment

def empty : Environment := ⟨[]⟩

/-- The value of a variable. Variables are held as lines `name=value`, so that a
name which itself holds an equals sign reaches into the value of the variable
that ends at the sign. The empty name has no value, nor has one with a zero
character. -/
def get (env : Environment) (name : String) : Option String :=
  if name.isEmpty ∨ name.toList.contains '\x00' then none
  else
    env.bindings.findSome? fun v =>
      let line := v.1.toList ++ '=' :: v.2.toList
      let wanted := name.toList ++ ['=']
      if wanted.isPrefixOf line then some (String.ofList (line.drop wanted.length)) else none

end Environment

/-- The text for a name: of the value in the store, and if there is none, of the
variable in the environment. -/
def Store.getOrEnv (s : Store) (env : Environment) (key : String) : Option String :=
  match s.get key with
  | some value => some value.display
  | none => env.get key

end Stepwise
