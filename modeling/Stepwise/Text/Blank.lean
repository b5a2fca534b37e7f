/-!
# White space

The characters of the Unicode property `White_Space`. A step whose text holds
nothing else is refused, a placeholder may be padded with them, and a
configuration made of them alone is the default one. The set has twenty-five
members and is written out, since a table would be longer than the test.
-/

namespace Stepwise.Text

/-- The Unicode property `White_Space`. -/
def isWhite (c : Char) : Bool :=
  let n := c.val
  (9 ≤ n && n ≤ 13) || n == 0x20 || n == 0x85 || n == 0xA0 || n == 0x1680 ||
    (0x2000 ≤ n && n ≤ 0x200A) || n == 0x2028 || n == 0x2029 || n == 0x202F ||
    n == 0x205F || n == 0x3000

/-- Whether a text has no character that is not white space. The empty text is
blank. -/
def isBlank (s : String) : Bool := s.toList.all isWhite

/-- A text is not blank exactly when something in it can be seen. -/
theorem isBlank_eq_false_iff (s : String) :
    isBlank s = false ↔ ∃ c ∈ s.toList, isWhite c = false := by
  simp [isBlank, List.all_eq_false]

end Stepwise.Text
