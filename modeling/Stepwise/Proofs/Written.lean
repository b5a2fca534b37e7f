import Mathlib.Data.List.Perm.Basic
import Stepwise.Yaml.Decode
import Stepwise.Yaml.Encode

/-!
# Values that were written down

A node in which a value was written down is known up to two things that do not matter: the
style of a string, as long as it is not the plain one, and the order of the fields of a
record. What is left is said by one predicate for each kind of value (`Node.IsText` and
those that follow it), and the decoder of that kind reads the value back.

A decoder may refuse what was written down, so what it is shown to do has two outcomes
(`Decode.rejectIf`). A list is refused if an item is. For a record the order of its fields
would count, if more than the names of those that have been read were kept in mind: but
what has been read of a value that is known is determined by these names, and so at the end
by all names together, whatever their order (`Decode.record_of_isRecord`).
-/

namespace Stepwise

variable {ε α β σ : Type}

namespace Yaml

/-! ## Nodes -/

namespace Node

/-- A string in a style in which it can be nothing else. -/
def IsText (s : String) (n : Node) : Prop :=
  ∃ style, style ≠ .plain ∧ n = .scalar none style s

/-- A string, or the word for nothing. -/
def IsText? : Option String → Node → Prop
  | some s => IsText s
  | none => fun n => n = plain "null"

def IsBool (b : Bool) (n : Node) : Prop := n = plain (if b then "true" else "false")

/-- The decimal digits of a number. -/
def IsNatural (k : Nat) (n : Node) : Prop := n = plain (Json.digits k)

def IsList (item : α → Node → Prop) (xs : List α) (n : Node) : Prop :=
  ∃ ns, n = .sequence none ns ∧ List.Forall₂ item xs ns

/-- A field that a record has: its name, and what its value is. -/
structure Field where
  name : String
  value : Node → Prop

/-- A record of these fields, in whatever order. -/
def IsRecord (fields : List Field) (n : Node) : Prop :=
  ∃ fs es, n = .mapping none es ∧ fs.Perm fields ∧
    List.Forall₂ (fun f e => IsText f.name e.1 ∧ f.value e.2) fs es

end Node

/-! ## Digits -/

theorem digitOf?_of_isDigit {c : Char} (h : c.isDigit = true) :
    digitOf? 10 c = some (c.toNat - 48) := by
  have hrange : '0' ≤ c ∧ c ≤ '9' := by
    simpa [Char.isDigit, Char.le_def] using h
  have hlt : c.toNat - 48 < 10 := by
    have hle : c.toNat ≤ '9'.toNat := hrange.2
    have hnine : '9'.toNat = 57 := rfl
    omega
  rw [digitOf?, if_pos hrange, Option.filter_some, if_pos (decide_eq_true hlt)]

theorem foldlM_digits {cs : List Char} (h : ∀ c ∈ cs, c.isDigit = true) (k : Nat) :
    cs.foldlM (fun n c => (digitOf? 10 c).map (n * 10 + ·)) k =
      some (Nat.ofDigitChars 10 cs k) := by
  induction cs generalizing k with
  | nil => rfl
  | cons c cs ih =>
      rw [List.forall_mem_cons] at h
      rw [List.foldlM_cons, digitOf?_of_isDigit h.1, Nat.ofDigitChars_cons, Nat.mul_comm 10 k]
      exact ih h.2 _

theorem isDigit_of_mem_toDigits {k : Nat} {c : Char} (h : c ∈ Nat.toDigits 10 k) :
    c.isDigit = true :=
  Nat.isDigit_of_mem_toDigits (by decide) (by decide) h

theorem digitsToNat?_toDigits (k : Nat) : digitsToNat? 10 (Nat.toDigits 10 k) = some k := by
  rw [digitsToNat?, if_neg (by simp), foldlM_digits fun _ => isDigit_of_mem_toDigits,
    Nat.ofDigitChars_ten_toDigits]

/-- No digits but those of zero begin with a zero. -/
theorem head?_toDigits {k : Nat} (h : k ≠ 0) : (Nat.toDigits 10 k).head? ≠ some '0' := by
  induction k using Nat.strongRecOn with
  | ind k ih =>
      rw [Nat.toDigits_eq_if (by decide)]
      split
      · simpa using h
      · rw [List.head?_append]
        have hlead := ih (k / 10) (by omega) (by omega)
        cases hhead : (Nat.toDigits 10 (k / 10)).head? with
        | none => simp at hhead
        | some c => rwa [hhead] at hlead

theorem isZeroPadded_eq_false {c : Char} {cs : List Char} (hdigit : c.isDigit = true)
    (hzero : c ≠ '0') : isZeroPadded (c :: cs) = false := by
  have hplus : c ≠ '+' := by rintro rfl; cases hdigit
  have hminus : c ≠ '-' := by rintro rfl; cases hdigit
  simp [isZeroPadded, dropSign, hplus, hminus, hzero]

theorem magnitude?_toDigits (k : Nat) : magnitude? (Nat.toDigits 10 k) = some k := by
  by_cases hzero : k = 0
  · rw [hzero]
    rfl
  · have hdigits := digitsToNat?_toDigits k
    have hhead := head?_toDigits hzero
    cases hcs : Nat.toDigits 10 k with
    | nil => exact absurd hcs Nat.toDigits_ne_nil
    | cons c cs =>
        rw [hcs] at hdigits hhead
        have hc : c ≠ '0' := fun h => hhead (congrArg some h)
        have hdigit : c.isDigit = true :=
          isDigit_of_mem_toDigits (hcs ▸ List.mem_cons_self : c ∈ Nat.toDigits 10 k)
        -- the marks of other bases begin with a zero, and so does a number that is padded
        simp [magnitude?, hc, isZeroPadded_eq_false hdigit hc, hdigits]

theorem natural?_digits {k limit : Nat} (h : k ≤ limit) :
    natural? limit (Json.digits k) = some k := by
  have hsign : ∀ rest, Nat.toDigits 10 k ≠ '+' :: rest := fun rest hplus => by
    have hdigit := isDigit_of_mem_toDigits (hplus ▸ List.mem_cons_self : '+' ∈ Nat.toDigits 10 k)
    cases hdigit
  rw [natural?, Json.digits, String.toList_ofList]
  split
  · next rest hplus => exact absurd hplus (hsign rest)
  · rw [magnitude?_toDigits, Option.filter_some, if_pos (decide_eq_true h)]

/-! ## Decoders -/

namespace Decode

variable {d : Document} {n : Node} {reason : ε}

/-- Returns a value, or rejects it if it is bad. -/
def rejectIf (bad : Bool) (reason : ε) (a : α) : Decode ε α :=
  if bad then reject reason else return a

theorem rejectIf_bind {bad : Bool} {a : α} {k : α → Decode ε β} :
    rejectIf bad reason a >>= k = if bad then reject reason else k a := by
  cases bad <;> rfl

theorem ite_rejectIf {bad bad' : Bool} {a : α} :
    (if bad then reject reason else rejectIf bad' reason a : Decode ε α) =
      rejectIf (bad || bad') reason a := by
  cases bad <;> rfl

theorem string_of_isText {s : String} (h : n.IsText s) :
    (string d n : Decode ε String) = pure s := by
  obtain ⟨style, -, rfl⟩ := h
  rfl

theorem variant_of_isText {s : String} (h : n.IsText s) :
    (variant d n : Decode ε String) = pure s := by
  obtain ⟨style, -, rfl⟩ := h
  rfl

theorem isNull_of_isText {s : String} (h : n.IsText s) :
    (isNull n : Decode ε Bool) = pure false := by
  obtain ⟨style, hstyle, rfl⟩ := h
  cases style with
  | plain => exact absurd rfl hstyle
  | singleQuoted | doubleQuoted | literal | folded => rfl

theorem optional_of_isText? {s : Option String} (h : n.IsText? s) :
    (optional string d n : Decode ε (Option String)) = pure s := by
  cases s with
  | none =>
      obtain rfl := h
      rfl
  | some s =>
      have hfollow : (follow d n : Decode ε Node) = pure n := by
        obtain ⟨style, -, rfl⟩ := h
        rfl
      rw [optional, hfollow, pure_bind, isNull_of_isText h, pure_bind, string_of_isText h]
      rfl

theorem bool_of_isBool {b : Bool} (h : n.IsBool b) : (bool d n : Decode ε Bool) = pure b := by
  obtain rfl := h
  cases b <;> rfl

theorem natural_of_isNatural {k limit : Nat} (h : n.IsNatural k) (hk : k ≤ limit) :
    (natural limit d n : Decode ε Nat) = pure k := by
  obtain rfl := h
  show (ofOption (natural? limit (Json.digits k)) : Decode ε Nat) = pure k
  rw [natural?_digits hk]
  rfl

section Lists

variable {item : Document → Node → Decode ε β} {is : α → Node → Prop} {bad : α → Bool}
  {read : α → β}

theorem mapM_rejectIf (hitem : ∀ x n, is x n → item d n = rejectIf (bad x) reason (read x))
    {xs : List α} {ns : List Node} (hns : List.Forall₂ is xs ns) :
    ns.mapM (item d) = rejectIf (xs.any bad) reason (xs.map read) := by
  induction hns with
  | nil => rfl
  | @cons x n xs ns hx _ ih =>
      rw [List.mapM_cons, hitem x n hx, ih, rejectIf_bind, rejectIf_bind, List.any_cons,
        ← ite_rejectIf]
      rfl

theorem list_of_isList (hitem : ∀ x n, is x n → item d n = rejectIf (bad x) reason (read x))
    {xs : List α} (hn : n.IsList is xs) :
    list item d n = rejectIf (xs.any bad) reason (xs.map read) := by
  obtain ⟨ns, rfl, hns⟩ := hn
  exact mapM_rejectIf hitem hns

/-- A list of items that are all read back. -/
theorem list_of_isList_of_pure {item : Document → Node → Decode ε α}
    (hitem : ∀ x n, is x n → item d n = pure x) {xs : List α} (hn : n.IsList is xs) :
    list item d n = pure xs := by
  obtain ⟨ns, rfl, hns⟩ := hn
  show ns.mapM (item d) = pure xs
  induction hns with
  | nil => rfl
  | cons hx _ ih => rw [List.mapM_cons, hitem _ _ hx, pure_bind, ih, pure_bind]

end Lists

section Records

open Node (Field)

variable {field : σ → String → Node → Decode ε σ} {bad : String → Bool}
  {state : List String → σ}

/-- Reading the field of a record takes the state in which some names have been read to the
one in which its own has been read as well, or the field is refused. -/
def Reads (field : σ → String → Node → Decode ε σ) (bad : String → Bool) (reason : ε)
    (state : List String → σ) (f : Field) : Prop :=
  ∀ names n, f.name ∉ names → f.value n →
    field (state names) f.name n = rejectIf (bad f.name) reason (state (f.name :: names))

/-- A field whose value goes into a slot of its own. -/
theorem reads_once {f : Field} {a : α} (slot : σ → Option α) (put : σ → Option α → σ)
    {value : Node → Decode ε α}
    (hfield : ∀ s n, field s f.name n = do return put s (← once (slot s) (value n)))
    (hslot : ∀ names, f.name ∉ names → slot (state names) = none)
    (hvalue : ∀ n, f.value n → value n = rejectIf (bad f.name) reason a)
    (hput : ∀ names, put (state names) (some a) = state (f.name :: names)) :
    Reads field bad reason state f := by
  intro names n hnew hn
  have honce : once (slot (state names)) (value n) =
      rejectIf (bad f.name) reason (some a) := by
    rw [hslot names hnew, hvalue n hn]
    cases bad f.name <;> rfl
  rw [hfield, honce, rejectIf_bind, hput]
  rfl

theorem foldlM_fields {fs : List Field} {es : List (Node × Node)} {names : List String}
    (hes : List.Forall₂ (fun f e => Node.IsText f.name e.1 ∧ f.value e.2) fs es)
    (hreads : ∀ f ∈ fs, Reads field bad reason state f)
    (hnames : ((fs.map Field.name).reverse ++ names).Nodup) :
    es.foldlM (fun s e => do field s (← string d e.1) e.2) (state names) =
      rejectIf (fs.any fun f => bad f.name) reason
        (state ((fs.map Field.name).reverse ++ names)) := by
  induction hes generalizing names with
  | nil => rfl
  | @cons f e fs es he _ ih =>
      rw [List.forall_mem_cons] at hreads
      rw [List.map_cons, List.reverse_cons, List.append_assoc, List.singleton_append] at hnames ⊢
      -- the names that have been read gather in front, and the next one is not among them
      have hnew : f.name ∉ names := (List.nodup_cons.mp (List.nodup_append.mp hnames).2.1).1
      rw [List.foldlM_cons, string_of_isText he.1, pure_bind, hreads.1 names e.2 hnew he.2,
        rejectIf_bind, ih hreads.2 hnames, ite_rejectIf]
      rfl

/-- A record is read as if its fields stood in the order in which they are listed. -/
theorem record_of_isRecord {fields : List Field} (hn : n.IsRecord fields)
    (hreads : ∀ f ∈ fields, Reads field bad reason state f)
    (hnames : (fields.map Field.name).Nodup) :
    ∃ names, (∀ f ∈ fields, f.name ∈ names) ∧
      record field (state []) d n =
        rejectIf (fields.any fun f => bad f.name) reason (state names) := by
  obtain ⟨fs, es, rfl, hperm, hes⟩ := hn
  have hnodup : ((fs.map Field.name).reverse ++ []).Nodup := by
    rw [List.append_nil, (List.reverse_perm _).nodup_iff]
    exact (hperm.map Field.name).nodup_iff.mpr hnames
  refine ⟨(fs.map Field.name).reverse ++ [], fun f hf => ?_, ?_⟩
  · rw [List.append_nil, List.mem_reverse]
    exact List.mem_map_of_mem (hperm.mem_iff.mpr hf)
  · rw [← hperm.any_eq]
    exact foldlM_fields hes (fun f hf => hreads f (hperm.mem_iff.mp hf)) hnodup

end Records

end Decode

/-! ## Values by their looks -/

namespace Content

variable {d : Document} {n : Node} {depth : Nat}

theorem ofNode_of_isText {s : String} (h : n.IsText s) :
    (ofNode d depth n : Decode ε Content) = pure (.text s) := by
  obtain ⟨style, hstyle, rfl⟩ := h
  have hscalar : (ofScalar none style s : Decode ε Content) = pure (.text s) := by
    rw [ofScalar, if_neg (by simpa using hstyle)]
  cases depth <;> exact hscalar

/-- A string, or nothing. -/
def ofText? : Option String → Content
  | some s => .text s
  | none => .null

theorem ofNode_of_isText? {s : Option String} (h : n.IsText? s) :
    (ofNode d depth n : Decode ε Content) = pure (ofText? s) := by
  cases s with
  | some s => exact ofNode_of_isText h
  | none =>
      obtain rfl := h
      cases depth <;> rfl

theorem mapM_ofNode {fs : List Node.Field} {es : List (Node × Node)}
    {cs : List (Content × Content)}
    (hes : List.Forall₂ (fun f e => Node.IsText f.name e.1 ∧ f.value e.2) fs es)
    (hcs : List.Forall₂ (fun f c => c.1 = .text f.name ∧ ∀ n, f.value n →
      (ofNode d depth n : Decode ε Content) = pure c.2) fs cs) :
    (es.mapM fun e => do return (← ofNode d depth e.1, ← ofNode d depth e.2) : Decode ε _) =
      pure cs := by
  induction hes generalizing cs with
  | nil => cases hcs; rfl
  | cons he _ ih =>
      obtain - | ⟨hc, hcs⟩ := hcs
      rw [List.mapM_cons, ofNode_of_isText he.1, pure_bind, hc.2 _ he.2, pure_bind, pure_bind,
        ih hcs, pure_bind, ← hc.1]

/-- A record by its looks: its fields, in the order in which they stand. -/
theorem ofNode_of_isRecord {fields : List Node.Field} {cs : List (Content × Content)}
    (hn : n.IsRecord fields)
    (hcs : List.Forall₂ (fun f c => c.1 = .text f.name ∧ ∀ n, f.value n →
      (ofNode d depth n : Decode ε Content) = pure c.2) fields cs) :
    ∃ cs', cs'.Perm cs ∧ (ofNode d (depth + 1) n : Decode ε Content) = pure (.mapping cs') := by
  obtain ⟨fs, es, rfl, hperm, hes⟩ := hn
  obtain ⟨cs', hcs', hperm'⟩ := List.perm_comp_forall₂ hperm hcs
  refine ⟨cs', hperm', ?_⟩
  show (do return .mapping (← es.mapM fun e =>
    do return (← ofNode d depth e.1, ← ofNode d depth e.2)) : Decode ε Content) = _
  rw [mapM_ofNode hes hcs', pure_bind]

end Content

end Yaml

/-! ## The fields of an object -/

namespace Json

theorem perm_insertField {name : String} {value : Json} {fields : List (String × Json)}
    (h : name ∉ fields.map Prod.fst) :
    (insertField name value fields).Perm ((name, value) :: fields) := by
  induction fields with
  | nil => exact List.Perm.refl _
  | cons f fields ih =>
      rw [List.map_cons, List.mem_cons, not_or] at h
      rw [insertField]
      split
      · exact List.Perm.refl _
      · rw [if_neg h.1]
        exact ((ih h.2).cons f).trans (List.Perm.swap _ f fields)

/-- An object has the fields that it was made of, if no name is given twice. -/
theorem exists_perm_ofFields {fields : List (String × Json)}
    (h : (fields.map Prod.fst).Nodup) : ∃ fs, ofFields fields = .object fs ∧ fs.Perm fields := by
  -- `acc` has the fields that were put in before, and the others follow
  suffices hfold : ∀ acc : List (String × Json), ((acc ++ fields).map Prod.fst).Nodup →
      (fields.foldl (fun acc f => insertField f.1 f.2 acc) acc).Perm (acc ++ fields) from
    ⟨_, rfl, hfold [] h⟩
  clear h
  induction fields with
  | nil => simp
  | cons f fields ih =>
      intro acc hacc
      have hnew : f.1 ∉ acc.map Prod.fst := by
        rw [List.map_append, List.map_cons] at hacc
        exact fun hmem => (List.nodup_append.mp hacc).2.2 _ hmem _ List.mem_cons_self rfl
      have hperm : (insertField f.1 f.2 acc ++ fields).Perm (acc ++ f :: fields) :=
        ((perm_insertField hnew).append_right fields).trans List.perm_middle.symm
      exact (ih _ ((hperm.map Prod.fst).nodup_iff.mpr hacc)).trans hperm

end Json

/-! ## The node of a structured value -/

namespace Yaml

namespace Node

theorem isText_quoted (s : String) : (quoted s).IsText s := ⟨.doubleQuoted, nofun, rfl⟩

theorem isText?_ofJson (s : Option String) : (ofJson (Json.ofText? s)).IsText? s := by
  cases s with
  | none => rfl
  | some s => exact isText_quoted s

theorem isBool_ofJson (b : Bool) : (ofJson (.bool b)).IsBool b := by
  cases b <;> rfl

theorem isNatural_ofJson (k : Nat) : (ofJson (Json.ofNat k)).IsNatural k := by
  show plain _ = plain _
  rw [Json.Number.text, if_neg (Int.not_lt.mpr (Int.natCast_nonneg k))]
  simp

theorem isList_ofJson {item : α → Node → Prop} {toJson : α → Json}
    (h : ∀ x, item x (ofJson (toJson x))) (xs : List α) :
    (ofJson (.array (xs.map toJson))).IsList item xs := by
  refine ⟨_, rfl, ?_⟩
  rw [ofItems_eq_map, List.map_map, List.forall₂_map_right_iff]
  exact List.forall₂_same.mpr fun x _ => h x

theorem isRecord_ofJson {fields : List Field} {js : List (String × Json)}
    (hnames : (js.map Prod.fst).Nodup)
    (h : List.Forall₂ (fun j f => j.1 = f.name ∧ f.value (ofJson j.2)) js fields) :
    (ofJson (Json.ofFields js)).IsRecord fields := by
  obtain ⟨js', hobject, hperm⟩ := Json.exists_perm_ofFields hnames
  obtain ⟨fs, hfs, hperm'⟩ := List.perm_comp_forall₂ hperm h
  refine ⟨fs, _, by rw [hobject]; rfl, hperm', ?_⟩
  rw [ofFields_eq_map, List.forall₂_map_right_iff]
  refine (List.Forall₂.imp (fun j f hj => ?_) hfs).flip
  exact ⟨hj.1 ▸ isText_quoted j.1, hj.2⟩

end Node

end Yaml

end Stepwise
