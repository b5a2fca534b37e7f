import Mathlib.Data.List.TakeWhile
import Stepwise.Template

/-!
# Placeholders

`Template.fill` reads a text once, from left to right, and where a placeholder
begins it goes on behind it. Said without that order, a placeholder is any part of
the text that is spelled like one (`Template.Occurs`), wherever it stands and
whatever stands around it. The two agree, because no two such parts overlap: a
part spelled like a placeholder has its opening braces at its first two places and
nowhere else, and one that began inside it would need two of them next to each
other. At one place no two different parts begin, since white space, key and
closing braces have no character in common.

So a text has one cut into characters and placeholders in which every part spelled like
a placeholder is a piece of its own (`Template.IsCut`), and the scan finds it. What
`fill` returns is read off that cut.
-/

namespace Stepwise

open Text (isWhite)

namespace Template

/-- The part of a text is spelled as a placeholder of this key. -/
def Spells (part : List Char) (key : String) : Prop :=
  ∃ white white' : List Char,
    (∀ c ∈ white, isWhite c) ∧ (∀ c ∈ white', isWhite c) ∧
      key ≠ "" ∧ (∀ c ∈ key.toList, isKeyChar c) ∧
      part = '{' :: '{' :: (white ++ key.toList ++ white' ++ ['}', '}'])

/-- Behind `before` the text goes on with a placeholder. -/
structure Occurs (text before part : List Char) (key : String) : Prop where
  spells : Spells part key
  inText : before ++ part <+: text

/-! ## What begins at one place -/

theorem isKeyChar_eq_false_of_isWhite {c : Char} (h : isWhite c) : isKeyChar c = false := by
  simp [isKeyChar, h]

theorem isWhite_eq_false_of_isKeyChar {c : Char} (h : isKeyChar c) : isWhite c = false := by
  cases hc : isWhite c with
  | false => rfl
  | true => rw [isKeyChar_eq_false_of_isWhite hc] at h; cases h

/-- The white space in front of a key is all there is. -/
theorem dropWhile_isWhite_key {white key rest : List Char} (hwhite : ∀ c ∈ white, isWhite c)
    (hne : key ≠ []) (hkey : ∀ c ∈ key, isKeyChar c) :
    (white ++ (key ++ rest)).dropWhile isWhite = key ++ rest := by
  obtain ⟨k, ks, rfl⟩ := List.exists_cons_of_ne_nil hne
  rw [List.dropWhile_append_of_pos hwhite, List.cons_append, List.dropWhile_cons,
    isWhite_eq_false_of_isKeyChar (hkey k List.mem_cons_self), if_neg Bool.false_ne_true]

/-- A key ends at white space and at a closing brace. -/
theorem takeWhile_isKeyChar_closing {white rest : List Char}
    (hwhite : ∀ c ∈ white, isWhite c) :
    (white ++ '}' :: rest).takeWhile isKeyChar = [] := by
  cases white with
  | nil => simp [isKeyChar]
  | cons c white =>
      simp [isKeyChar_eq_false_of_isWhite (hwhite c List.mem_cons_self)]

theorem dropWhile_isKeyChar_closing {white rest : List Char}
    (hwhite : ∀ c ∈ white, isWhite c) :
    (white ++ '}' :: rest).dropWhile isKeyChar = white ++ '}' :: rest := by
  cases white with
  | nil => simp [isKeyChar]
  | cons c white =>
      simp [isKeyChar_eq_false_of_isWhite (hwhite c List.mem_cons_self)]

theorem dropWhile_isWhite_closing {white rest : List Char}
    (hwhite : ∀ c ∈ white, isWhite c) :
    (white ++ '}' :: rest).dropWhile isWhite = '}' :: rest := by
  rw [List.dropWhile_append_of_pos hwhite, List.dropWhile_cons, if_neg (by decide)]

/-- The scan finds a placeholder at the beginning of a text exactly if the text
begins with a part that is spelled as one. -/
theorem placeholder?_eq_some_iff {cs key rest : List Char} :
    placeholder? cs = some (key, rest) ↔
      ∃ part, Spells part (String.ofList key) ∧ cs = part ++ rest := by
  constructor
  · intro h
    unfold placeholder? at h
    split at h
    · next inner =>
        simp only at h
        split at h
        · next after hclosing =>
            split at h
            · cases h
            · next hne =>
                cases h
                refine ⟨_, ⟨inner.takeWhile isWhite,
                  ((inner.dropWhile isWhite).dropWhile isKeyChar).takeWhile isWhite,
                  fun c => List.mem_takeWhile_imp, fun c => List.mem_takeWhile_imp, ?_, ?_, rfl⟩,
                  ?_⟩
                · simpa using hne
                · intro c hc
                  rw [String.toList_ofList] at hc
                  exact List.mem_takeWhile_imp hc
                · have hinner := List.takeWhile_append_dropWhile (p := isWhite) (l := inner)
                  have hkey := List.takeWhile_append_dropWhile (p := isKeyChar)
                    (l := inner.dropWhile isWhite)
                  have hpad := List.takeWhile_append_dropWhile (p := isWhite)
                    (l := (inner.dropWhile isWhite).dropWhile isKeyChar)
                  rw [hclosing] at hpad
                  rw [← hpad] at hkey
                  rw [← hkey] at hinner
                  rw [String.toList_ofList]
                  simpa using hinner.symm
        · cases h
    · cases h
  · rintro ⟨part, ⟨white, white', hwhite, hwhite', hne, hkey, rfl⟩, rfl⟩
    rw [String.toList_ofList] at hkey ⊢
    have hne : key ≠ [] := by rintro rfl; exact hne rfl
    have hsplit : white ++ key ++ white' ++ ['}', '}'] ++ rest =
        white ++ (key ++ (white' ++ '}' :: '}' :: rest)) := by simp
    simp only [placeholder?, List.cons_append, hsplit, dropWhile_isWhite_key hwhite hne hkey,
      List.takeWhile_append_of_pos hkey, List.dropWhile_append_of_pos hkey,
      takeWhile_isKeyChar_closing hwhite', dropWhile_isKeyChar_closing hwhite',
      dropWhile_isWhite_closing hwhite', List.append_nil]
    rw [if_neg (by simpa using hne)]

/-! ## Places that do not overlap -/

/-- Behind the two braces with which it opens a placeholder has no opening brace. -/
theorem Spells.exists_body {part : List Char} {key : String} (h : Spells part key) :
    ∃ body, part = '{' :: '{' :: body ∧ body ≠ [] ∧ '{' ∉ body := by
  obtain ⟨white, white', hwhite, hwhite', -, hkey, rfl⟩ := h
  refine ⟨_, rfl, by simp, ?_⟩
  have hblank : isWhite '{' = false := by decide
  have hbrace : isKeyChar '{' = false := by decide
  simp only [List.mem_append, not_or]
  refine ⟨⟨⟨fun hc => ?_, fun hc => ?_⟩, fun hc => ?_⟩, by decide⟩
  · rw [hwhite _ hc] at hblank; cases hblank
  · rw [hkey _ hc] at hbrace; cases hbrace
  · rw [hwhite' _ hc] at hblank; cases hblank

/-- Two opening braces next to each other are not found inside a placeholder, except
at its beginning. -/
theorem Spells.eq_nil_or_append {part before rest after : List Char} {key : String}
    (h : Spells part key) (heq : part ++ rest = before ++ '{' :: '{' :: after) :
    before = [] ∨ ∃ between, before = part ++ between := by
  obtain ⟨body, rfl, hbody, hbrace⟩ := h.exists_body
  match before with
  | [] => exact .inl rfl
  | [c] =>
      -- the second of the two braces would be the first character of the body
      obtain ⟨b, body, rfl⟩ := List.exists_cons_of_ne_nil hbody
      simp only [List.cons_append, List.nil_append, List.cons.injEq] at heq
      exact absurd (heq.2.2.1 ▸ List.mem_cons_self) hbrace
  | c :: c' :: before =>
      simp only [List.cons_append, List.cons.injEq] at heq
      obtain ⟨rfl, rfl, heq⟩ := heq
      obtain ⟨between, rfl, -⟩ | ⟨inside, rfl, hinside⟩ := List.append_eq_append_iff.mp heq
      · exact .inr ⟨between, rfl⟩
      · cases inside with
        | nil => exact .inr ⟨[], by simp⟩
        | cons b inside =>
            rw [List.cons_append, List.cons.injEq] at hinside
            exact absurd (by simp [← hinside.1]) hbrace

/-- One key and one part are spelled at the beginning of a text. -/
theorem Spells.unique {part part' rest rest' : List Char} {key key' : String}
    (h : Spells part key) (h' : Spells part' key') (heq : part ++ rest = part' ++ rest') :
    part = part' ∧ key = key' := by
  have hfound : placeholder? (part ++ rest) = some (key.toList, rest) :=
    placeholder?_eq_some_iff.mpr ⟨part, by rwa [String.ofList_toList], rfl⟩
  have hfound' : placeholder? (part ++ rest) = some (key'.toList, rest') :=
    placeholder?_eq_some_iff.mpr ⟨part', by rwa [String.ofList_toList], heq⟩
  rw [hfound] at hfound'
  simp only [Option.some.injEq, Prod.mk.injEq] at hfound'
  obtain ⟨hkey, rfl⟩ := hfound'
  exact ⟨List.append_cancel_right heq, String.toList_injective hkey⟩

namespace Occurs

variable {text before before' part part' : List Char} {key key' : String}

/-- Of two placeholders the second is the first, or begins behind its end. -/
theorem eq_or_append_prefix (h : Occurs text before part key)
    (h' : Occurs text before' part' key') (hbefore : before <+: before') :
    before = before' ∧ part = part' ∧ key = key' ∨ before ++ part <+: before' := by
  obtain ⟨between, rfl⟩ := hbefore
  obtain ⟨rest, hrest⟩ := h.inText
  obtain ⟨rest', hrest'⟩ := h'.inText
  have heq : part ++ rest = between ++ (part' ++ rest') := by
    rw [← hrest', List.append_assoc, List.append_assoc, List.append_assoc] at hrest
    exact List.append_cancel_left hrest
  obtain ⟨body, hbody, -⟩ := h'.spells.exists_body
  rw [hbody, List.cons_append, List.cons_append] at heq
  obtain rfl | ⟨between, rfl⟩ := h.spells.eq_nil_or_append heq
  · rw [List.nil_append, ← List.cons_append, ← List.cons_append, ← hbody] at heq
    exact .inl ⟨(List.append_nil before).symm, h.spells.unique h'.spells heq⟩
  · exact .inr ⟨between, List.append_assoc before part between⟩

/-- Two placeholders are the same, or one of them ends before the other begins. -/
theorem same_or_apart (h : Occurs text before part key)
    (h' : Occurs text before' part' key') :
    before = before' ∧ part = part' ∧ key = key' ∨
      before ++ part <+: before' ∨ before' ++ part' <+: before := by
  obtain hpre | hpre := List.prefix_or_prefix_of_prefix
    ((List.prefix_append before part).trans h.inText)
    ((List.prefix_append before' part').trans h'.inText)
  · exact (h.eq_or_append_prefix h' hpre).imp_right .inl
  · obtain ⟨rfl, rfl, rfl⟩ | hapart := h'.eq_or_append_prefix h hpre
    · exact .inl ⟨rfl, rfl, rfl⟩
    · exact .inr (.inr hapart)

/-- What stands in front of a text moves its placeholders. -/
theorem append_iff {front : List Char} :
    Occurs (front ++ text) (front ++ before) part key ↔ Occurs text before part key := by
  constructor
  · rintro ⟨hspells, htext⟩
    rw [List.append_assoc, List.prefix_append_right_inj] at htext
    exact ⟨hspells, htext⟩
  · rintro ⟨hspells, htext⟩
    refine ⟨hspells, ?_⟩
    rwa [List.append_assoc, List.prefix_append_right_inj]

theorem cons_iff {c : Char} :
    Occurs (c :: text) (c :: before) part key ↔ Occurs text before part key :=
  @append_iff text before part key [c]

end Occurs

/-! ## The cut of a text -/

/-- A part of a text with its spelling. -/
inductive Part where
  | char (c : Char)
  | hole (chars : List Char) (key : String)

namespace Part

/-- What stands in the text. -/
def chars : Part → List Char
  | char c => [c]
  | hole chars _ => chars

def piece : Part → Piece
  | char c => .char c
  | hole _ key => .placeholder key

/-- What stands in the filled text: the character itself, the text of the key. -/
def filled (textOf : String → Option String) : Part → List Char
  | char c => [c]
  | hole _ key => ((textOf key).getD "").toList

/-- Of two parts of a text the one that begins further to the left is among those in
front of the other. -/
theorem mem_of_length_lt {pre pre' post post' : List Part} {p p' : Part}
    (h : pre ++ p :: post = pre' ++ p' :: post')
    (hlt : (pre'.flatMap chars).length < (pre.flatMap chars).length) : p' ∈ pre := by
  obtain ⟨between, rfl, -⟩ | ⟨between, rfl, hpost⟩ := List.append_eq_append_iff.mp h
  · rw [List.flatMap_append, List.length_append] at hlt
    omega
  · cases between with
    | nil => simp at hlt
    | cons q between =>
        obtain rfl : p' = q := (List.cons.inj hpost).1
        simp

/-- The part can be filled: it is a character, or a hole whose key has a text. -/
def resolves (textOf : String → Option String) : Part → Bool
  | char _ => true
  | hole _ key => (textOf key).isSome

end Part

/-- The parts make up the text, and the holes among them are its placeholders, each
in its place. -/
structure IsCut (text : List Char) (parts : List Part) : Prop where
  chars : parts.flatMap Part.chars = text
  occurs_iff : ∀ before part key, Occurs text before part key ↔
    ∃ pre post, parts = pre ++ .hole part key :: post ∧ before = pre.flatMap Part.chars

namespace IsCut

variable {text : List Char} {parts : List Part}

theorem nil : IsCut [] [] where
  chars := rfl
  occurs_iff before part key := by
    constructor
    · rintro ⟨hspells, htext⟩
      obtain ⟨body, rfl, -⟩ := hspells.exists_body
      simp at htext
    · rintro ⟨pre, post, h, -⟩
      simp at h

/-- A character with which no placeholder begins is a part of its own. -/
theorem char {c : Char} (h : IsCut text parts) (hnone : placeholder? (c :: text) = none) :
    IsCut (c :: text) (.char c :: parts) where
  chars := congrArg (c :: ·) h.chars
  occurs_iff before part key := by
    constructor
    · intro hoccurs
      match before with
      | [] =>
          obtain ⟨rest, hrest⟩ := hoccurs.inText
          have hsome := placeholder?_eq_some_iff.mpr
            ⟨part, (String.ofList_toList (s := key)).symm ▸ hoccurs.spells, hrest.symm⟩
          rw [hnone] at hsome
          cases hsome
      | b :: before =>
          obtain rfl : b = c := by
            obtain ⟨rest, hrest⟩ := hoccurs.inText
            exact (List.cons.inj hrest).1
          obtain ⟨pre, post, rfl, rfl⟩ := (h.occurs_iff before part key).mp
            (Occurs.cons_iff.mp hoccurs)
          exact ⟨.char b :: pre, post, rfl, rfl⟩
    · rintro ⟨pre, post, hparts, rfl⟩
      cases pre with
      | nil => cases hparts
      | cons p pre =>
          rw [List.cons_append, List.cons.injEq] at hparts
          obtain ⟨rfl, hparts⟩ := hparts
          exact Occurs.cons_iff.mpr ((h.occurs_iff _ part key).mpr ⟨pre, post, hparts, rfl⟩)

/-- A placeholder at the beginning is a part of its own, since no other one begins
before its end. -/
theorem hole {part : List Char} {key : String} (h : IsCut text parts)
    (hspells : Spells part key) : IsCut (part ++ text) (.hole part key :: parts) where
  chars := congrArg (part ++ ·) h.chars
  occurs_iff before part' key' := by
    have hfirst : Occurs (part ++ text) [] part key := ⟨hspells, List.prefix_append part text⟩
    constructor
    · intro hoccurs
      obtain ⟨rfl, rfl, rfl⟩ | ⟨before, rfl⟩ :=
        hfirst.eq_or_append_prefix hoccurs (List.nil_prefix)
      · exact ⟨[], parts, rfl, rfl⟩
      · rw [List.nil_append] at hoccurs ⊢
        obtain ⟨pre, post, rfl, rfl⟩ :=
          (h.occurs_iff before part' key').mp (Occurs.append_iff.mp hoccurs)
        exact ⟨.hole part key :: pre, post, rfl, rfl⟩
    · rintro ⟨pre, post, hparts, rfl⟩
      cases pre with
      | nil =>
          cases hparts
          exact hfirst
      | cons p pre =>
          rw [List.cons_append, List.cons.injEq] at hparts
          obtain ⟨rfl, hparts⟩ := hparts
          exact Occurs.append_iff.mpr ((h.occurs_iff _ part' key').mpr ⟨pre, post, hparts, rfl⟩)

/-- Every part takes something of the text. -/
theorem chars_ne_nil (h : IsCut text parts) {p : Part} (hp : p ∈ parts) : p.chars ≠ [] := by
  cases p with
  | char c => exact List.cons_ne_nil c []
  | hole part key =>
      obtain ⟨pre, post, hparts⟩ := List.append_of_mem hp
      have hoccurs := (h.occurs_iff _ part key).mpr ⟨pre, post, hparts, rfl⟩
      obtain ⟨body, hbody, -⟩ := hoccurs.spells.exists_body
      rw [Part.chars, hbody]
      exact List.cons_ne_nil _ _

/-- What is behind the first part of a cut is cut by the others. -/
theorem tail {p : Part} (h : IsCut (p.chars ++ text) (p :: parts)) : IsCut text parts where
  chars := List.append_cancel_left (h.chars : p.chars ++ parts.flatMap Part.chars = _)
  occurs_iff before part key := by
    rw [← @Occurs.append_iff text before part key p.chars, h.occurs_iff]
    constructor
    · rintro ⟨pre, post, hparts, hbefore⟩
      cases pre with
      | nil =>
          have hnil := (List.append_eq_nil_iff.mp hbefore).1
          exact absurd hnil (h.chars_ne_nil List.mem_cons_self)
      | cons q pre =>
          obtain ⟨rfl, hrest⟩ := List.cons.inj hparts
          exact ⟨pre, post, hrest, List.append_cancel_left hbefore⟩
    · rintro ⟨pre, post, rfl, rfl⟩
      exact ⟨p :: pre, post, rfl, rfl⟩

/-- The first part is the placeholder with which the text begins, if one does. -/
theorem head_eq_hole {p : Part} {part : List Char} {key : String}
    (h : IsCut text (p :: parts)) (hoccurs : Occurs text [] part key) : p = .hole part key := by
  obtain ⟨pre, post, hparts, hbefore⟩ := (h.occurs_iff [] part key).mp hoccurs
  cases pre with
  | nil => exact (List.cons.inj hparts).1
  | cons q pre =>
      obtain ⟨rfl, -⟩ := List.cons.inj hparts
      have hnil := (List.append_eq_nil_iff.mp hbefore.symm).1
      exact absurd hnil (h.chars_ne_nil List.mem_cons_self)

/-- A text has one cut. -/
theorem unique {parts' : List Part} (h : IsCut text parts) (h' : IsCut text parts') :
    parts = parts' := by
  induction parts generalizing text parts' with
  | nil =>
      cases parts' with
      | nil => rfl
      | cons p' parts' =>
          have hnil := (List.append_eq_nil_iff.mp (h'.chars.trans h.chars.symm)).1
          exact absurd hnil (h'.chars_ne_nil List.mem_cons_self)
  | cons p parts ih =>
      cases parts' with
      | nil =>
          have hnil := (List.append_eq_nil_iff.mp (h.chars.trans h'.chars.symm)).1
          exact absurd hnil (h.chars_ne_nil List.mem_cons_self)
      | cons p' parts' =>
          have hhead : p = p' := by
            cases p with
            | hole part key =>
                exact (h'.head_eq_hole ((h.occurs_iff [] part key).mpr ⟨[], parts, rfl, rfl⟩)).symm
            | char c =>
                cases p' with
                | hole part key =>
                    exact h.head_eq_hole ((h'.occurs_iff [] part key).mpr ⟨[], parts', rfl, rfl⟩)
                | char c' =>
                    exact congrArg Part.char (List.cons.inj (h.chars.trans h'.chars.symm)).1
          obtain rfl := hhead
          obtain rfl : p.chars ++ parts.flatMap Part.chars = text := h.chars
          rw [ih h.tail h'.tail]

end IsCut

theorem pieces_of_placeholder {cs key rest : List Char}
    (h : placeholder? cs = some (key, rest)) :
    pieces cs = .placeholder (String.ofList key) :: pieces rest := by
  rw [pieces.eq_def]
  split
  · next hfound =>
      rw [h] at hfound
      cases hfound
      rfl
  · next hnone => rw [h] at hnone; cases hnone

theorem pieces_cons_of_none {c : Char} {cs : List Char} (h : placeholder? (c :: cs) = none) :
    pieces (c :: cs) = .char c :: pieces cs := by
  rw [pieces.eq_def]
  split
  · next hfound => rw [h] at hfound; cases hfound
  · rfl

theorem pieces_nil : pieces [] = [] := by
  rw [pieces.eq_def]
  rfl

/-- The scan cuts a text at its placeholders. -/
theorem exists_isCut (text : List Char) :
    ∃ parts, IsCut text parts ∧ parts.map Part.piece = pieces text := by
  induction text using pieces.induct with
  | case1 cs key rest hfound ih =>
      obtain ⟨parts, hcut, hpieces⟩ := ih
      obtain ⟨part, hspells, rfl⟩ := placeholder?_eq_some_iff.mp hfound
      refine ⟨.hole part (String.ofList key) :: parts, hcut.hole hspells, ?_⟩
      rw [pieces_of_placeholder hfound, ← hpieces]
      rfl
  | case2 => exact ⟨[], .nil, pieces_nil.symm⟩
  | case3 c rest hnone ih =>
      obtain ⟨parts, hcut, hpieces⟩ := ih
      refine ⟨.char c :: parts, hcut.char hnone, ?_⟩
      rw [pieces_cons_of_none hnone, ← hpieces]
      rfl

/-! ## Filling -/

section Filling

variable {textOf : String → Option String}

/-- If every key has a text, every character stays and every hole gives way to its
text. -/
theorem fillPieces_eq_ok {parts : List Part} (h : ∀ p ∈ parts, p.resolves textOf = true) :
    fillPieces textOf (parts.map Part.piece) = .ok (parts.flatMap (Part.filled textOf)) := by
  induction parts with
  | nil => rfl
  | cons p parts ih =>
      have hrest := ih fun q hq => h q (List.mem_cons_of_mem p hq)
      have hp := h p List.mem_cons_self
      cases p with
      | char c =>
          simp only [List.map_cons, Part.piece, fillPieces, hrest]
          rfl
      | hole chars key =>
          obtain ⟨value, hvalue⟩ := Option.isSome_iff_exists.mp hp
          simp only [List.map_cons, Part.piece, fillPieces, hvalue, hrest, List.flatMap_cons,
            Part.filled, Option.getD_some]

/-- A key without a text ends the attempt, if those in front of it have texts. -/
theorem fillPieces_eq_error {pre post : List Part} {chars : List Char} {key : String}
    (hpre : ∀ p ∈ pre, p.resolves textOf = true) (hkey : textOf key = none) :
    fillPieces textOf ((pre ++ .hole chars key :: post).map Part.piece) = .error key := by
  induction pre with
  | nil => simp only [List.nil_append, List.map_cons, Part.piece, fillPieces, hkey]
  | cons p pre ih =>
      have hrest := ih fun q hq => hpre q (List.mem_cons_of_mem p hq)
      have hp := hpre p List.mem_cons_self
      cases p with
      | char c => simp only [List.cons_append, List.map_cons, Part.piece, fillPieces, hrest]
      | hole chars' key' =>
          obtain ⟨value, hvalue⟩ := Option.isSome_iff_exists.mp hp
          simp only [List.cons_append, List.map_cons, Part.piece, fillPieces, hvalue, hrest]

/-- All keys have texts, or there is a first one that has none. -/
theorem resolve_or_first (textOf : String → Option String) (parts : List Part) :
    (∀ p ∈ parts, p.resolves textOf = true) ∨
      ∃ pre chars key post, parts = pre ++ .hole chars key :: post ∧ textOf key = none ∧
        ∀ p ∈ pre, p.resolves textOf = true := by
  cases hfirst : parts.find? fun p => !p.resolves textOf with
  | none =>
      rw [List.find?_eq_none] at hfirst
      exact .inl fun p hp => by simpa using hfirst p hp
  | some p =>
      obtain ⟨hp, pre, post, rfl, hpre⟩ := List.find?_eq_some_iff_append.mp hfirst
      cases p with
      | char c => cases hp
      | hole chars key =>
          exact .inr ⟨pre, chars, key, post, rfl, by simpa [Part.resolves] using hp,
            fun q hq => by simpa using hpre q hq⟩

end Filling

end Template

namespace Sources

open Template

/-- The text that stands for a key: that of its value in the store, and if it has no
value there and the environment is allowed, that of the variable. -/
def textOf (s : Sources) (key : String) : Option String :=
  match s.store.get key with
  | some value => some value.display
  | none => if s.useEnvironment then s.environment.get key else none

theorem lookup_eq_textOf (s : Sources) : s.lookup = s.textOf := by
  funext key
  rw [lookup, textOf, Store.getOrEnv]
  cases s.store.get key <;> cases s.useEnvironment <;> rfl

/-- In a text no two placeholders overlap. It can be filled exactly if the key of every
placeholder has a text, and then the placeholders have given way to the texts and
everything else has stayed. If it cannot be filled, the key that is reported is that of
the leftmost placeholder without a text. -/
theorem fill_replaces_placeholders (s : Sources) (text : String) :
    (∀ before part key before' part' key', Occurs text.toList before part key →
      Occurs text.toList before' part' key' →
      before = before' ∧ part = part' ∧ key = key' ∨
        before ++ part <+: before' ∨ before' ++ part' <+: before) ∧
    ((∃ out, s.fill text = .ok out) ↔
      ∀ before part key, Occurs text.toList before part key → (s.textOf key).isSome) ∧
    (∃ parts, IsCut text.toList parts) ∧
    (∀ parts out, IsCut text.toList parts → s.fill text = .ok out →
      out.toList = parts.flatMap (Part.filled s.textOf)) ∧
    (∀ missing, s.fill text = .error missing → missing.text = text ∧
      ∃ before part, Occurs text.toList before part missing.key ∧
        s.textOf missing.key = none ∧
        ∀ before' part' key', Occurs text.toList before' part' key' →
          before'.length < before.length → (s.textOf key').isSome) := by
  obtain ⟨parts, hcut, hpieces⟩ := exists_isCut text.toList
  refine ⟨fun _ _ _ _ _ _ h h' => h.same_or_apart h', ?_⟩
  obtain hall | ⟨pre, chars, key, post, rfl, hkey, hpre⟩ := resolve_or_first s.textOf parts
  · have hfill : s.fill text =
        .ok (String.ofList (parts.flatMap (Part.filled s.textOf))) := by
      simp only [Sources.fill, Template.fill, lookup_eq_textOf, ← hpieces, fillPieces_eq_ok hall]
    refine ⟨⟨fun _ before part key hoccurs => ?_, fun _ => ⟨_, hfill⟩⟩,
      ⟨parts, hcut⟩, fun parts' out hcut' hout => ?_, fun missing hmissing => ?_⟩
    · obtain ⟨pre, post, rfl, -⟩ := (hcut.occurs_iff _ _ _).mp hoccurs
      exact hall (.hole part key) (by simp)
    · rw [hfill] at hout
      cases hout
      rw [String.toList_ofList, hcut.unique hcut']
    · rw [hfill] at hmissing
      cases hmissing
  · have hfill : s.fill text = .error ⟨key, text⟩ := by
      simp only [Sources.fill, Template.fill, lookup_eq_textOf, ← hpieces,
        fillPieces_eq_error hpre hkey]
    have hoccurs : Occurs text.toList (pre.flatMap Part.chars) chars key :=
      (hcut.occurs_iff _ _ _).mpr ⟨pre, post, rfl, rfl⟩
    refine ⟨⟨fun ⟨out, hout⟩ => ?_, fun hall => ?_⟩, ⟨_, hcut⟩,
      fun parts' out hcut' hout => ?_, fun missing hmissing => ?_⟩
    · rw [hfill] at hout
      cases hout
    · have hsome := hall _ _ _ hoccurs
      rw [hkey] at hsome
      cases hsome
    · rw [hfill] at hout
      cases hout
    · rw [hfill] at hmissing
      cases hmissing
      refine ⟨rfl, _, chars, hoccurs, hkey, fun before' part' key' hoccurs' hlt => ?_⟩
      obtain ⟨pre', post', hparts, rfl⟩ := (hcut.occurs_iff _ _ _).mp hoccurs'
      exact hpre _ (Part.mem_of_length_lt hparts hlt)

end Sources

end Stepwise
