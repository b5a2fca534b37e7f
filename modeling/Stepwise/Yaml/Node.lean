import Stepwise.Yaml.Event

/-!
# Nodes of a document

The events of a text put together to a tree. Two things of the text stay visible
in it. An alias is a leaf that names a node by number, and is not replaced by
the node: whoever reads the tree decides whether to follow it. And where the
text stops being well formed there is a leaf `cut`. A reader learns of it when
it comes there, and not before: what it finds wrong earlier it finds wrong
first.

Anchors are numbered by the count of different names before them. So an anchor
that is set a second time shares its number with the next new name, and the
number belongs to whichever of them was set last, for all aliases of the text.
-/

namespace Stepwise.Yaml

inductive Node where
  /-- The text has no document. -/
  | nothing
  | scalar (tag : Option Tag) (style : ScalarStyle) (text : String)
  | sequence (tag : Option Tag) (items : List Node)
  | mapping (tag : Option Tag) (entries : List (Node × Node))
  | alias (number : Nat)
  /-- The text is not well formed from here on. -/
  | cut
deriving Repr, Inhabited

namespace Node

mutual

/-- The text is well formed to the end of this node. -/
def isWhole : Node → Bool
  | .cut => false
  | .sequence _ items => areWhole items
  | .mapping _ entries => arePairsWhole entries
  | .nothing | .scalar .. | .alias _ => true

def areWhole : List Node → Bool
  | [] => true
  | x :: rest => isWhole x && areWhole rest

def arePairsWhole : List (Node × Node) → Bool
  | [] => true
  | (k, v) :: rest => isWhole k && isWhole v && arePairsWhole rest

end

/-- Nodes in pairs of a key and a value. A key at the end has its value behind
the cut. -/
def inPairs : List Node → List (Node × Node)
  | [] => []
  | [k] => [(k, .cut)]
  | k :: v :: rest => (k, v) :: inPairs rest

end Node

/-- The first document of a text. -/
structure Document where
  root : Node
  /-- The nodes that aliases name. -/
  anchored : List (Nat × Node)
  /-- The number of events of the document. -/
  size : Nat
  /-- The text is well formed, and has no second document. -/
  complete : Bool
deriving Repr

/-- The node that an alias names. -/
def Document.anchor? (d : Document) (number : Nat) : Option Node :=
  (d.anchored.find? fun a => a.1 == number).map Prod.snd

/-! ## From events -/

/-- A collection that is not closed yet. -/
structure OpenNode where
  isMapping : Bool
  tag : Option Tag
  /-- The event it began with, if it has an anchor. -/
  start : Option Nat
  /-- The nodes in it, the latest first. -/
  nodes : List Node

def OpenNode.close (o : OpenNode) : Node :=
  if o.isMapping then .mapping o.tag (Node.inPairs o.nodes.reverse)
  else .sequence o.tag o.nodes.reverse

/-- A document of which some events have been read. -/
structure Composition where
  /-- How many events there have been. -/
  size : Nat
  /-- The numbers of the anchors. -/
  numbers : List (String × Nat)
  /-- For each number the events it was given to, the latest first. -/
  owners : List (Nat × Nat)
  /-- The nodes with anchors, by the event they began with. -/
  nodes : List (Nat × Node)
  /-- The collections that are open, the innermost first. -/
  unfinished : List OpenNode
  root : Option Node

namespace Composition

def empty : Composition := ⟨0, [], [], [], [], none⟩

def count (c : Composition) : Composition := { c with size := c.size + 1 }

/-- Gives the event that is read now to a new anchor. -/
def anchor (c : Composition) : Option String → Composition × Option Nat
  | none => (c, none)
  | some name =>
    let number := c.numbers.length
    let numbers :=
      if c.numbers.any fun n => n.1 == name then
        c.numbers.map fun n => if n.1 == name then (name, number) else n
      else c.numbers ++ [(name, number)]
    ({ c with numbers, owners := (number, c.size) :: c.owners }, some c.size)

/-- Puts a node where it belongs: into the innermost open collection, or at the
root. -/
def add (c : Composition) (node : Node) (start : Option Nat) : Composition :=
  let nodes :=
    match start with
    | some start => (start, node) :: c.nodes
    | none => c.nodes
  match c.unfinished with
  | [] => { c with nodes, root := some node }
  | o :: outer => { c with nodes, unfinished := { o with nodes := node :: o.nodes } :: outer }

def openNode (c : Composition) (isMapping : Bool) (p : Properties) : Composition :=
  let (c, start) := c.anchor p.anchor
  { c with unfinished := ⟨isMapping, p.tag, start, []⟩ :: c.unfinished }

def closeNode (c : Composition) : Composition :=
  match c.unfinished with
  | [] => c
  | o :: outer => { c with unfinished := outer }.add o.close o.start

/-- Puts the cut into the innermost open collection and closes them all. -/
def cutOff (c : Composition) : Composition :=
  if c.unfinished.isEmpty then c
  else c.unfinished.foldl (fun c _ => c.closeNode) (c.add .cut none)

/-- The document, when its last event has been read. `wellFormed` says that it
was, and `complete` that nothing else is in the text. -/
def finish (c : Composition) (wellFormed complete : Bool) : Document :=
  let c := if wellFormed then c else c.cutOff
  let root := c.root.getD (if wellFormed then .nothing else .cut)
  let anchored := c.owners.filterMap fun o =>
    (c.nodes.find? fun n => n.1 == o.2).map fun n => (o.1, n.2)
  ⟨root, anchored, max 1 c.size, complete⟩

end Composition

/-- Puts events together. An alias without an anchor before it ends the
well-formed part of the text. -/
def composeEvents : List Event → Composition → Document
  | [], c => c.finish false false
  | e :: rest, c =>
    match e with
    | .streamStart | .documentStart => composeEvents rest c
    | .streamEnd => c.finish true true
    | .documentEnd => c.finish true (rest.head? == some .streamEnd)
    | .alias name =>
      match c.numbers.find? fun n => n.1 == name with
      | none => c.finish false false
      | some n => composeEvents rest (c.add (.alias n.2) none).count
    | .scalar p text style =>
      let (c, start) := c.anchor p.anchor
      composeEvents rest (c.add (.scalar p.tag style text) start).count
    | .sequenceStart p => composeEvents rest (c.openNode false p).count
    | .mappingStart p => composeEvents rest (c.openNode true p).count
    | .sequenceEnd | .mappingEnd => composeEvents rest c.closeNode.count

/-- The first document of a text. -/
def Document.ofText (s : String) : Document :=
  composeEvents (Events.ofText s).list Composition.empty

end Stepwise.Yaml
