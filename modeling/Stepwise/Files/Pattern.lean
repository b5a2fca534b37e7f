import Stepwise.Files.Path

/-!
# Patterns for names

A pattern is a text with wildcards: `?` is one character, `*` any characters,
brackets are one character of a set or outside of it, and `**` as a whole
segment is any number of folders. In a set the bracket that closes it may stand
first, and a hyphen between two characters makes a range. Case matters, and a
dot in front of a name is a character like any other.
-/

namespace Stepwise.Files

/-- A range of characters in a set. -/
structure CharRange where
  first : Char
  last : Char
deriving Repr, DecidableEq

inductive Wildcard where
  | char (c : Char)
  | any
  | many
  /-- Any number of folders. -/
  | folders
  | oneOf (ranges : List CharRange)
  | noneOf (ranges : List CharRange)
deriving Repr, DecidableEq

inductive PatternFault where
  | badSet
  | threeStars
  | partOfSegment
deriving Repr, DecidableEq

def PatternFault.message : PatternFault → String
  | .badSet => "invalid range pattern"
  | .threeStars => "wildcards are either regular `*` or recursive `**`"
  | .partOfSegment => "recursive wildcards must form a single path component"

/-- Where a pattern goes wrong, and how. -/
structure PatternError where
  position : Nat
  fault : PatternFault
deriving Repr, DecidableEq

def PatternError.message (e : PatternError) : String :=
  s!"Pattern syntax error near position {e.position}: {e.fault.message}"

/-- The ranges of a set. -/
def charRanges : List Char → List CharRange
  | a :: '-' :: b :: rest => ⟨a, b⟩ :: charRanges rest
  | a :: rest => ⟨a, a⟩ :: charRanges rest
  | [] => []

/-- Reads a set behind the bracket that opens it. The set has one character at
least. -/
def charSet? (cs : List Char) : Option (Wildcard × List Char) :=
  match cs with
  | '!' :: first :: rest => (close first rest).map fun (set, rest) => (.noneOf set, rest)
  | '!' :: [] => none
  | first :: rest => (close first rest).map fun (set, rest) => (.oneOf set, rest)
  | [] => none
where
  close (first : Char) (rest : List Char) : Option (List CharRange × List Char) :=
    match rest.dropWhile (· != ']') with
    | [] => none
    | _ :: after => some (charRanges (first :: rest.takeWhile (· != ']')), after)

/-- Reads stars: how many there are, and the character before them if there is
one. Two of them must be a segment, and the slash behind them belongs to
them. -/
def stars? (position count : Nat) (before : Option Char) (rest : List Char) :
    Except PatternError (Wildcard × List Char) :=
  if 2 < count then .error ⟨position + 2, .threeStars⟩
  else if count < 2 then .ok (.many, rest)
  else if before.all (· == '/') then
    match rest with
    | [] => .ok (.folders, [])
    | c :: after =>
      if c == '/' then .ok (.folders, after) else .error ⟨position + 2, .partOfSegment⟩
  else .error ⟨position - 1, .partOfSegment⟩

/-- Reads a pattern. The fuel bounds the number of wildcards. -/
def readPattern : Nat → Nat → Option Char → List Char → Except PatternError (List Wildcard)
  | 0, _, _, _ => .ok []
  | _ + 1, _, _, [] => .ok []
  | fuel + 1, position, before, c :: rest => do
    let (wildcard, after) ←
      if c == '?' then .ok (Wildcard.any, rest)
      else if c == '*' then
        let stars := (c :: rest).takeWhile (· == '*')
        stars? position stars.length before (rest.drop (stars.length - 1))
      else if c == '[' then
        match charSet? rest with
        | some r => .ok r
        | none => .error ⟨position, .badSet⟩
      else .ok (Wildcard.char c, rest)
    let taken := rest.length + 1 - after.length
    let last := (c :: rest)[taken - 1]?
    return wildcard :: (← readPattern fuel (position + taken) last after)

/-- The wildcards of a pattern. -/
def Wildcard.ofText (s : String) : Except PatternError (List Wildcard) :=
  readPattern s.length 0 none s.toList

/-- Whether one character is taken. -/
def Wildcard.takes : Wildcard → Char → Bool
  | .char c, d => c == d
  | .any, _ => true
  | .oneOf ranges, d => ranges.any fun r => r.first ≤ d && d ≤ r.last
  | .noneOf ranges, d => !ranges.any fun r => r.first ≤ d && d ≤ r.last
  | .many, _ | .folders, _ => false

/-- Whether a wildcard stands for any number of characters. -/
def Wildcard.isStar : Wildcard → Bool
  | .many | .folders => true
  | _ => false

/-- Which ends of a pattern stand for the empty name, the whole pattern first. -/
def emptyMatches : List Wildcard → List Bool
  | [] => [true]
  | w :: ws =>
    let behind := emptyMatches ws
    (w.isStar && behind.headD false) :: behind

/-- Which ends of a pattern stand for a name with a character more in front, given
which stand for the name. A star takes the character and goes on, or takes
nothing. -/
def prependMatches (c : Char) : List Wildcard → List Bool → List Bool
  | [], _ => [false]
  | w :: ws, row =>
    let behind := prependMatches c ws row.tail
    (if w.isStar then row.headD false || behind.headD false
      else w.takes c && row.tail.headD false) :: behind

/-- Whether a name is one that a pattern stands for. -/
def nameMatches (ws : List Wildcard) (cs : List Char) : Bool :=
  (cs.foldr (fun c row => prependMatches c ws row) (emptyMatches ws)).headD false

/-- The name that a pattern without wildcards stands for. -/
def literal? (ws : List Wildcard) : Option String :=
  (ws.mapM char?).map String.ofList
where
  char? : Wildcard → Option Char
    | .char c => some c
    | _ => none

end Stepwise.Files
