/-
# Interceptor.Yaml.Node — the tree of a document

The tree is grown from the events of a document, the last one first: a scalar or
a reference is put in front of the nodes that follow it, the end of a structure
opens a new level, and its start makes one node of that level.

The events of a text that is not well formed break off, and so does the tree. Its
last nodes are cut: they stand for all that could not be read. What comes in
front of them is as it would be in a whole document.
-/
import Interceptor.Yaml.Event

namespace Interceptor.Yaml

set_option autoImplicit false

/-- A node, with the mark where it starts. -/
inductive Node
  | scalar (text : String) (style : ScalarStyle) (tag : Option String) (mark : Mark)
  | sequence (items : List Node) (mark : Mark)
  | mapping (pairs : List (Node × Node)) (mark : Mark)
  | reference (slot : Nat) (mark : Mark)
  /-- What the text breaks off in front of. -/
  | cut (error : SyntaxError)

namespace Node

/-- What stands for a node that was left out. -/
def missing (mark : Mark) : Node := scalar "" .plain none mark

/-- Where a node starts, if it was read. -/
def mark : Node → Mark
  | scalar _ _ _ mark | sequence _ mark | mapping _ mark | reference _ mark => mark
  | cut _ => {}

/-- The keys with their values, if they stand in turn. -/
def pairs : List Node → List (Node × Node)
  | key :: value :: rest => (key, value) :: pairs rest
  | _ => []

/-- The nodes behind a place: those up to the end of the structure around it, those behind that
structure up to the end of the one around it, and so on. -/
abbrev Levels := List (List Node)

/-- Puts a node in front of those at the first level. The levels that are not known are `beyond`. -/
def Levels.cons (beyond : List Node) (node : Node) (levels : Levels) : Levels :=
  (node :: levels.headD beyond) :: levels.tail

/-- Puts an event in front of the nodes behind it. -/
def Levels.grow (beyond : List Node) (event : Event) (levels : Levels) : Levels :=
  match event with
  | .scalar text style tag mark => levels.cons beyond (.scalar text style tag mark)
  | .reference slot mark => levels.cons beyond (.reference slot mark)
  | .sequenceEnd | .mappingEnd => [] :: levels
  | .sequenceStart mark => Levels.cons beyond (.sequence (levels.headD beyond) mark) levels.tail
  | .mappingStart mark => Levels.cons beyond (.mapping (pairs (levels.headD beyond)) mark) levels.tail

/-- The node that begins with the first of some events. Where they break off stands `rest`: three
times, so that a pair that lacks its value still has a pair behind it. -/
def ofEvents (rest : Node) (events : List Event) : Node :=
  let beyond := [rest, rest, rest]
  let levels : Levels := events.foldr (Levels.grow beyond) []
  (levels.headD beyond).headD rest

end Node

/-- A document: its events up to the first thing that is not well formed. -/
structure Document where
  events : List Event := []
  anchors : Anchors := {}
  fault : Option SyntaxError := none

namespace Document

/-- The document that tokens write. There may be only one. -/
def ofTokens (tokens : Tokens) : Document :=
  if tokens.list.head?.any (·.sign = .streamEnd) then {}
  else
    let (result, unread) := (Reading.document (4 * tokens.list.length + 4)).run.run { tokens }
    let rest := unread.tokens.list.dropWhile (·.sign = .documentEnd)
    { events := unread.events.toList
      anchors := unread.anchors
      fault := match result with
        | .error error => some error
        | .ok () => if rest.head?.any (·.sign = .streamEnd) then none else some .severalDocuments }

/-- Reads a text. -/
def ofText (text : String) : Document := ofTokens (Tokens.ofText text)

/-- The node that begins with an event. -/
def nodeAt (document : Document) (event : Nat) : Node :=
  Node.ofEvents (document.fault.elim (.missing {}) .cut) (document.events.drop event)

/-- The node of the document, if it has one. -/
def root (document : Document) : Option Node :=
  if document.events.isEmpty && document.fault.isNone then none else some (document.nodeAt 0)

/-- The node that a node stands for. -/
def resolve (document : Document) : Node → Node
  | .reference slot mark => (document.anchors.holders.lookup slot).elim (.missing mark) document.nodeAt
  | node => node

end Document

end Interceptor.Yaml
