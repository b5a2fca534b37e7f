import Stepwise.Unicode.Recent

/-!
# Quoted text

A text between quotes, as it is shown in logs. Quotes and backslashes are
escaped, and so is every character that could not be told from its picture:
controls, separators other than the blank, unassigned code points, and marks
that are drawn onto the character before them.
-/

namespace Stepwise.Text

/-- A code point in hexadecimal digits and braces. -/
def escapeCode (c : Char) : List Char :=
  '\\' :: 'u' :: '\x7b' :: (Nat.toDigits 16 c.toNat ++ ['\x7d'])

def quotedChar (c : Char) : List Char :=
  if c == '\x00' then ['\\', '0']
  else if c == '\t' then ['\\', 't']
  else if c == '\x0d' then ['\\', 'r']
  else if c == '\n' then ['\\', 'n']
  else if c == '\\' then ['\\', '\\']
  else if c == '\x22' then ['\\', '\x22']
  else if ' ' ≤ c && c ≤ '~' then [c]
  else if Unicode.Recent.graphemeExtend.contains c || !Unicode.Recent.drawn.contains c then
    escapeCode c
  else [c]

/-- A text between quotes. -/
def quoted (s : String) : String :=
  String.ofList ('\x22' :: (s.toList.flatMap quotedChar ++ ['\x22']))

/-- A text that may be absent. -/
def quoted? : Option String → String
  | some s => s!"Some({quoted s})"
  | none => "None"

end Stepwise.Text
