/-!
# Tags

A tag tells what kind of value a node is. Characters of a tag may be written by
their bytes in hexadecimal, and nothing makes sure that the bytes are a text: so
a tag is its bytes. A zero byte ends each of the parts that a tag is made of, and
what stands behind it has no meaning.
-/

namespace Stepwise.Yaml

structure Tag where
  bytes : List UInt8
deriving Repr, DecidableEq, Inhabited

namespace Tag

def bytesOf (s : String) : List UInt8 := s.toUTF8.data.toList

def ofText (s : String) : Tag := ⟨bytesOf s⟩

/-- The part of a tag that some bytes stand for. -/
def part (bytes : List UInt8) : List UInt8 := bytes.takeWhile (· != 0)

/-- The tag made of what a handle stands for and a suffix. -/
def ofParts (lead suffix : List UInt8) : Tag := ⟨part lead ++ part suffix⟩

/-- A tag of the document's own begins with an exclamation mark. -/
def isOwn (t : Tag) : Bool := t.bytes.head? == some 0x21

/-- The name that a tag of the document's own gives to a value, if it is a text.
The mark in front is no part of it, unless it stands alone. -/
def name? (t : Tag) : Option String :=
  if t.isOwn then
    let rest := t.bytes.tail
    String.fromUTF8? ⟨(if rest.isEmpty then t.bytes else rest).toArray⟩
  else none

/-! ## Tags of the standard -/

def bool : Tag := ofText "tag:yaml.org,2002:bool"

def int : Tag := ofText "tag:yaml.org,2002:int"

def float : Tag := ofText "tag:yaml.org,2002:float"

def null : Tag := ofText "tag:yaml.org,2002:null"

end Tag

end Stepwise.Yaml
