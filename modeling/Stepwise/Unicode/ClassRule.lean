import Stepwise.Unicode.Category

/-!
# Rules for classes of characters

Many classes of the standard are put together from the general categories, from
other classes and from single characters, with a few exceptions. A rule says so
for one class. In a list of rules each may refer to those that stand behind it,
so that reading a class off the list ends.
-/

namespace Stepwise.Unicode

/-- How a class is put together. The two tables hold code points as
`CharSet.ofTable` reads them; the other fields are lists of words. -/
structure ClassRule where
  /-- The names of the class, without case, blanks, hyphens and low lines. -/
  names : String
  /-- The general categories in it. -/
  categories : String := ""
  /-- The names of other classes in it. -/
  parts : String := ""
  /-- A table of further members. -/
  more : String := ""
  /-- The names of classes whose members do not belong to it. -/
  without : String := ""
  /-- A table of other code points that do not belong to it. -/
  less : String := ""
deriving Repr

namespace ClassRule

def isNamed (r : ClassRule) (name : String) : Bool :=
  (CharSet.tableWords r.names).contains name

/-- The members of some classes, of those that there are. -/
def allOf (other : String → Option CharSet) (names : String) : CharSet :=
  CharSet.ofRanges
    (((CharSet.tableWords names).filterMap other).flatMap fun s => s.ranges.toList)

/-- The members of a class, where `other` knows the classes that it refers to. -/
def members (r : ClassRule) (other : String → Option CharSet) : CharSet :=
  let own := (ofCategories (CharSet.tableWords r.categories)).union (CharSet.ofTable r.more)
  ((own.union (allOf other r.parts)).diff (allOf other r.without)).diff
    (CharSet.ofTable r.less)

/-- The class of a name, by the first rule for it. A name without a rule goes to
`base`. -/
def find? (base : String → Option CharSet) : List ClassRule → String → Option CharSet
  | [], name => base name
  | r :: rest, name =>
    if r.isNamed name then some (r.members (find? base rest)) else find? base rest name

/-- The class of a name for which there must be a rule. -/
def findFirst? (base : String → Option CharSet) (rules : List ClassRule) (name : String) :
    Option CharSet :=
  if rules.any fun r => r.isNamed name then find? base rules name else none

end ClassRule

end Stepwise.Unicode
