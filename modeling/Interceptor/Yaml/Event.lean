/-
# Interceptor.Yaml.Event — a document from left to right

A document holds one node: a scalar, a sequence, a mapping, or a reference to a
node that was given an anchor. Its events tell the node in the order of the
text: a scalar or a reference is one event, a structure is what stands between
two. They are read from the tokens by one function for each kind of structure.
What may be left out in the notation (the value of a key, the key of a value, an
item) is an empty plain scalar.

Anchors are resolved by slots: a name gets the slot whose number is the number
of names known before. When a name is used again its slot changes, and a slot
belongs to the last node that took it.

Reading stops at the first thing that is not well formed, be it in the tokens or
in how they are put together. The events in front of it are kept.
-/
import Interceptor.Yaml.Token.Scan

namespace Interceptor.Yaml

set_option autoImplicit false

/-- A part of a document, with the mark where it starts. -/
inductive Event
  | scalar (text : String) (style : ScalarStyle) (tag : Option String) (mark : Mark)
  | reference (slot : Nat) (mark : Mark)
  | sequenceStart (mark : Mark)
  | sequenceEnd
  | mappingStart (mark : Mark)
  | mappingEnd

/-- What stands for a node that was left out. -/
def Event.missing (mark : Mark) : Event := scalar "" .plain none mark

/-- The anchors of a document. -/
structure Anchors where
  /-- The slot of each name. -/
  slots : List (String × Nat) := []
  /-- The number of the event that took each slot, the latest first. -/
  holders : List (Nat × Nat) := []

/-- Gives a name to the node that begins with an event. -/
def Anchors.declare (anchors : Anchors) (name : String) (event : Nat) : Anchors :=
  let slot := anchors.slots.length
  { slots := (name, slot) :: anchors.slots.filter (·.1 ≠ name)
    holders := (slot, event) :: anchors.holders }

/-- What is left of the tokens, what was read, and what is known about names. -/
structure Unread where
  tokens : Tokens
  events : Array Event := #[]
  anchors : Anchors := {}
  /-- What the handles of tags stand for. -/
  handles : List (String × String) := []

/-- Reads a part of a document. What was read is kept where the reading fails. -/
abbrev Reading := ExceptT SyntaxError (StateM Unread)

namespace Reading

/-- Refuses what stands at a place. -/
def refuse {α : Type} (problem : Problem) (place : Mark) (during : Option (Pursuit × Mark) := none) :
    Reading α :=
  throw (.broken problem place during)

/-- The next token. Behind the end of the stream there is none. -/
def peek : Reading Token := do
  let tokens := (← get).tokens
  match tokens.list with
  | token :: _ => return token
  | [] => throw (tokens.fault.getD (.broken .missingNode {} none))

def skip : Reading Unit :=
  modify fun u => { u with tokens := { u.tokens with list := u.tokens.list.tail } }

def next : Reading Token := do
  let token ← peek
  skip
  return token

/-- Whether the next sign is one of some. -/
def at? (signs : List Sign) : Reading Bool := do return (← peek).sign ∈ signs

/-- A tag as it is written. -/
structure TagName where
  handle : String
  suffix : String
  mark : Mark

/-- The tag that a handle and a suffix write, in front of a node that begins at `start`. -/
def tagOf (name : TagName) (start : Mark) : Reading String := do
  if name.handle.isEmpty then return name.suffix
  match (← get).handles.lookup name.handle with
  | some beginning => return beginning ++ name.suffix
  | none => refuse .unknownHandle name.mark (some (.node, start))

/-- The anchor and the tag in front of a node. -/
structure Properties where
  anchor : Option String := none
  tag : Option TagName := none

/-- Reads an anchor and a tag, either of them first. -/
def properties : Nat → Properties → Reading Properties
  | 0, known => return known
  | fuel + 1, known => do
    let token ← peek
    match token.sign, known.anchor, known.tag with
    | .anchor name, none, _ => do
      skip
      properties fuel { known with anchor := some name }
    | .tag handle suffix, _, none => do
      skip
      properties fuel { known with tag := some ⟨handle, suffix, token.start⟩ }
    | _, _, _ => return known

/-- Whether anything stands in front of the node. -/
def Properties.any (known : Properties) : Bool := known.anchor.isSome || known.tag.isSome

/-- Adds an event. -/
def emit (event : Event) : Reading Unit := modify fun u => { u with events := u.events.push event }

/-- Adds the first event of a node, which may have an anchor. -/
def emitNamed (anchor : Option String) (event : Event) : Reading Unit := do
  modify fun u => { u with
    anchors := anchor.elim u.anchors fun name => u.anchors.declare name u.events.size }
  emit event

/-- The tag that a scalar keeps: the bare `!` says nothing. -/
def scalarTag (tag : Option String) : Option String := if tag = some "!" then none else tag

/-- The node that a name was given to. -/
def slotOf (name : String) (mark : Mark) : Reading Nat := do
  match (← get).anchors.slots.lookup name with
  | some slot => return slot
  | none => throw (.unknownName mark)

/-- Stops a reading that has gone on for too long. -/
def exhausted {α : Type} : Reading α := do refuse .missingNode (← peek).start

mutual

/-- Reads a node. Indented structures are allowed if `block` is set, and dashes that are not
indented if `dashes` is. -/
def node (block dashes : Bool) : Nat → Reading Unit
  | 0 => exhausted
  | fuel + 1 => do
    let first ← peek
    let mark := first.start
    match first.sign with
    | .reference name =>
      skip
      emit (.reference (← slotOf name mark) mark)
    | _ =>
      let known ← properties 2 {}
      let token ← peek
      let tag ← known.tag.mapM (tagOf · mark)
      let begins := emitNamed known.anchor
      match token.sign with
      | .scalar text style =>
        begins (.scalar text style (scalarTag tag) mark)
        skip
      | .flowSequenceStart =>
        begins (.sequenceStart mark)
        skip
        flowItems token.start true fuel
      | .flowMappingStart =>
        begins (.mappingStart mark)
        skip
        flowPairs token.start true fuel
      | sign =>
        if dashes && sign = .blockEntry then
          begins (.sequenceStart mark)
          dashedItems fuel
        else if block && sign = .blockSequenceStart then
          begins (.sequenceStart mark)
          skip
          blockItems token.start fuel
        else if block && sign = .blockMappingStart then
          begins (.mappingStart mark)
          skip
          blockPairs token.start fuel
        else if known.any then begins (.scalar "" .plain tag mark)
        else refuse .missingNode token.start (some (if block then .blockNode else .flowNode, mark))

/-- Reads a node unless one of `signs` shows that it was left out. -/
def blockNode (signs : List Sign) (dashes : Bool) (mark : Mark) : Nat → Reading Unit
  | 0 => exhausted
  | fuel + 1 => do if ← at? signs then emit (.missing mark) else node true dashes fuel

/-- Reads a node inside brackets unless one of `signs` shows that it was left out. -/
def flowNode (signs : List Sign) : Nat → Reading Unit
  | 0 => exhausted
  | fuel + 1 => do if ← at? signs then emit (.missing (← peek).start) else node false false fuel

/-- Reads the items of an indented sequence that begins at `start`. -/
def blockItems (start : Mark) : Nat → Reading Unit
  | 0 => exhausted
  | fuel + 1 => do
    let token ← next
    match token.sign with
    | .blockEnd => emit .sequenceEnd
    | .blockEntry =>
      blockNode [.blockEntry, .blockEnd] false token.stop fuel
      blockItems start fuel
    | _ => refuse .missingDash token.start (some (.blockSequence, start))

/-- Reads the items of a sequence that is not indented. -/
def dashedItems : Nat → Reading Unit
  | 0 => exhausted
  | fuel + 1 => do
    let token ← peek
    if token.sign = .blockEntry then
      skip
      blockNode [.blockEntry, .key, .value, .blockEnd] false token.stop fuel
      dashedItems fuel
    else emit .sequenceEnd

/-- Reads the pairs of an indented mapping that begins at `start`. -/
def blockPairs (start : Mark) : Nat → Reading Unit
  | 0 => exhausted
  | fuel + 1 => do
    let token ← next
    match token.sign with
    | .blockEnd => emit .mappingEnd
    | .key =>
      blockNode [.key, .value, .blockEnd] true token.stop fuel
      let token ← peek
      if token.sign = .value then
        skip
        blockNode [.key, .value, .blockEnd] true token.stop fuel
      else emit (.missing token.start)
      blockPairs start fuel
    | _ => refuse .missingKey token.start (some (.blockMapping, start))

/-- Reads the items of a sequence in brackets that opens at `start`. A key among them begins a
mapping of one pair, which ends at the next token. -/
def flowItems (start : Mark) (first : Bool) : Nat → Reading Unit
  | 0 => exhausted
  | fuel + 1 => do
    if !first && !(← at? [.flowSequenceEnd]) then
      let token ← peek
      if token.sign ≠ .flowEntry then
        refuse .missingBracket token.start (some (.flowSequence, start))
      skip
    let token ← peek
    match token.sign with
    | .flowSequenceEnd =>
      emit .sequenceEnd
      skip
    | .key =>
      emit (.mappingStart token.start)
      skip
      if ← at? [.value, .flowEntry, .flowSequenceEnd] then emit (.missing (← next).stop)
      else node false false fuel
      flowValue [.flowEntry, .flowSequenceEnd] fuel
      discard peek
      emit .mappingEnd
      flowItems start false fuel
    | _ =>
      node false false fuel
      flowItems start false fuel

/-- Reads the pairs of a mapping in brackets that opens at `start`. -/
def flowPairs (start : Mark) (first : Bool) : Nat → Reading Unit
  | 0 => exhausted
  | fuel + 1 => do
    if !first && !(← at? [.flowMappingEnd]) then
      let token ← peek
      if token.sign ≠ .flowEntry then
        refuse .missingBrace token.start (some (.flowMapping, start))
      skip
    match (← peek).sign with
    | .flowMappingEnd =>
      emit .mappingEnd
      skip
    | .key =>
      skip
      flowNode [.value, .flowEntry, .flowMappingEnd] fuel
      flowValue [.flowEntry, .flowMappingEnd] fuel
      flowPairs start false fuel
    | _ =>
      node false false fuel
      emit (.missing (← peek).start)
      flowPairs start false fuel

/-- Reads the value of a pair in brackets. -/
def flowValue (signs : List Sign) : Nat → Reading Unit
  | 0 => exhausted
  | fuel + 1 => do
    let token ← peek
    if token.sign = .value then
      skip
      flowNode signs fuel
    else emit (.missing token.start)

end

/-- Reads directives: at most one version, of which the first number is 1, and the second 1 or 2,
and the meaning of each handle once. -/
def directives : Nat → (versioned : Bool) → Reading Unit
  | 0, _ => exhausted
  | fuel + 1, versioned => do
    let token ← peek
    match token.sign with
    | .versionDirective major minor =>
      if versioned then refuse .repeatedVersion token.start
      if major ≠ 1 || minor ≠ 1 && minor ≠ 2 then refuse .unknownVersion token.start
      skip
      directives fuel true
    | .tagDirective handle beginning =>
      if (← get).handles.any (·.1 = handle) then refuse .repeatedHandle token.start
      skip
      modify fun u => { u with handles := (handle, beginning) :: u.handles }
      directives fuel versioned
    | _ => return ()

/-- Adds what handles stand for unless a directive says otherwise. -/
def usualHandles : Reading Unit :=
  modify fun u => { u with handles := u.handles ++ [("!", "!"), ("!!", "tag:yaml.org,2002:")] }

/-- Whether a sign begins a document explicitly. -/
def opensDocument : Sign → Bool
  | .versionDirective _ _ | .tagDirective _ _ | .documentStart => true
  | _ => false

/-- Reads the node of a document. -/
def content (fuel : Nat) : Reading Unit := do
  if opensDocument (← peek).sign then
    directives fuel false
    let token ← peek
    if token.sign ≠ .documentStart then refuse .missingDocumentStart token.start
    skip
    usualHandles
    let token ← peek
    if opensDocument token.sign || token.sign = .documentEnd || token.sign = .streamEnd then
      emit (.missing token.start)
    else node true false fuel
  else
    usualHandles
    node true false fuel

/-- Reads the node of a document, and makes sure that the document ends. -/
def document (fuel : Nat) : Reading Unit := do
  content fuel
  discard peek

end Reading

end Interceptor.Yaml
