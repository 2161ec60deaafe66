/-
# Interceptor.Yaml.Decode — reading values off a document

A node is read as what is expected in its place: a text, a truth value, a
number, or a record with named fields. What is found instead is named in the
error, together with the fields that lead there and the place in the text. The
place is that of the innermost node that the error passes through.

Any scalar is a text. Truth values and numbers are plain scalars. A record is a
mapping, or nothing at all; fields that are not known are passed over, and no
known field may come twice.

A text that is not well formed can be read as far as it goes: what is wrong in
front of the place where it breaks off is found first.
-/
import Interceptor.Text.Quoted
import Interceptor.Yaml.Node
import Interceptor.Yaml.Plain

namespace Interceptor.Yaml

set_option autoImplicit false

/-- What was found. -/
inductive Found
  | plain (value : Plain)
  | sequence
  | mapping

def Found.text : Found → String
  | .plain .null => "unit value"
  | .plain (.boolean value) => "boolean \x60" ++ toString value ++ "\x60"
  | .plain (.integer n) =>
    let width := if -0x8000000000000000 ≤ n && n ≤ 0xffffffffffffffff then "" else if n < 0 then " as i128" else " as u128"
    "integer \x60" ++ toString n ++ "\x60" ++ width
  | .plain (.fraction value) => "floating point \x60" ++ value.render ++ "\x60"
  | .plain (.text text) => "string " ++ Text.Quoted.quote text
  | .sequence => "sequence"
  | .mapping => "map"

/-- Why a node cannot be read. -/
inductive Misfit
  /-- Something else was expected. -/
  | kind (found : Found) (expected : String)
  /-- The kind is right, the value is not. -/
  | value (found : Found) (expected : String)
  | duplicateField (name : String)

def Misfit.message : Misfit → String
  | .kind found expected => "invalid type: " ++ found.text ++ ", expected " ++ expected
  | .value found expected => "invalid value: " ++ found.text ++ ", expected " ++ expected
  | .duplicateField name => "duplicate field \x60" ++ name ++ "\x60"

/-- The names of the fields that lead to a node. -/
abbrev Path := List String

/-- Why a document cannot be read. -/
inductive DecodeError
  /-- A node is not what it should be, and where that is. -/
  | misfit (reason : Misfit) (place : Option (Path × Mark) := none)
  /-- The text breaks off in front of something that is needed. -/
  | broken (error : SyntaxError)

/-- The error as text. The outermost path and the very start of the text are not mentioned. -/
def DecodeError.message : DecodeError → String
  | .misfit reason none => reason.message
  | .misfit reason (some (path, mark)) =>
    let fields := if path.isEmpty then "" else ".".intercalate path ++ ": "
    fields ++ reason.message ++ mark.text
  | .broken error => error.message

abbrev Decoded := Except DecodeError

/-- Adds the place to an error that has none. -/
def placed {α : Type} (path : Path) (mark : Mark) (result : Decoded α) : Decoded α :=
  result.mapError fun
    | .misfit reason place => .misfit reason (place.or (some (path, mark)))
    | .broken error => .broken error

/-! ## Tags -/

/-- The tag of one of the common kinds. -/
def commonTag (kind : String) : String := "tag:yaml.org,2002:" ++ kind

/-- What is wrong with a scalar in a place where something else is expected. A tag of a common kind
has to fit the text. -/
def scalarMisfit (text : String) (style : ScalarStyle) (tag : Option String) (expected : String) : Misfit :=
  let plain := Plain.ofText text
  let fits (value : Option Plain) (kind : String) : Misfit :=
    match value with
    | some value => .kind (.plain value) expected
    | none => .value (.plain (.text text)) kind
  let isText : Misfit := .kind (.plain (.text text)) expected
  match tag with
  | none => if style = .plain then .kind (.plain plain) expected else isText
  | some tag =>
    if tag = commonTag "bool" then fits ((Plain.boolean? text).map .boolean) "a boolean"
    else if tag = commonTag "int" then fits ((Plain.integer? text.toList).map .integer) "an integer"
    else if tag = commonTag "float" then fits ((Plain.fraction? text.toList).map .fraction) "a float"
    else if tag = commonTag "null" then fits (if Plain.isNull text then some .null else none) "null"
    else if tag.startsWith "!" && style = .plain then .kind (.plain plain) expected
    else isText

/-- What is wrong with a node in a place where something else is expected. -/
def Node.mismatch (expected : String) (path : Path) : Node → DecodeError
  | .scalar text style tag mark => .misfit (scalarMisfit text style tag expected) (some (path, mark))
  | .sequence _ mark => .misfit (.kind .sequence expected) (some (path, mark))
  | .mapping _ mark | .reference _ mark => .misfit (.kind .mapping expected) (some (path, mark))
  | .cut error => .broken error

namespace Document

/-- A node is not what was expected. -/
def reject {α : Type} (expected : String) (path : Path) (node : Node) : Decoded α :=
  .error (node.mismatch expected path)

/-- Reads a text. -/
def text (document : Document) (expected : String) (path : Path) (node : Node) : Decoded String :=
  match document.resolve node with
  | .scalar text _ _ _ => .ok text
  | other => reject expected path other

/-- The text of a scalar that is plain, or a literal block that a tag gives the same kind. -/
def plain? (kind : String) : Node → Option String
  | .scalar text .plain _ _ => some text
  | .scalar text .literal tag _ => if tag = some (commonTag kind) then some text else none
  | _ => none

/-- Reads a truth value. -/
def flag (document : Document) (path : Path) (node : Node) : Decoded Bool :=
  let node := document.resolve node
  match plain? "bool" node >>= Plain.boolean? with
  | some value => .ok value
  | none => reject "a boolean" path node

/-- Reads a number of so many bits. -/
def number (document : Document) (kind : String) (bits : Nat) (path : Path) (node : Node) : Decoded Nat :=
  let node := document.resolve node
  match plain? "int" node >>= fun text => Plain.unsigned? text.toList with
  | some n =>
    if n < 1 <<< bits then .ok n
    else if n < 1 <<< 64 then .error (.misfit (.value (.plain (.integer n)) kind) (some (path, node.mark)))
    else reject kind path node
  | none => reject kind path node

/-- Whether a scalar says that there is no value; a tag that says so has to fit the text. -/
def isAbsent : Node → Decoded Bool
  | .scalar text .plain none _ => .ok (text.isEmpty || Plain.isNull text)
  | .scalar text .plain (some tag) _ =>
    if tag ≠ commonTag "null" then .ok false
    else if Plain.isNull text then .ok true
    else .error (.misfit (.value (.plain (.text text)) "null"))
  | _ => .ok false

/-- Reads a text that may be absent. -/
def optionalText (document : Document) (path : Path) (node : Node) : Decoded (Option String) := do
  if ← isAbsent (document.resolve node) then return none
  else return some (← document.text "a string" path node)

/-- Reads the field that a key names. -/
abbrev FieldReader (σ : Type) := Path → Node → σ → Decoded σ

/-- The name that stands for a key in a path. -/
def pathName (name : String) : Node → String
  | .reference _ _ => "?"
  | _ => name

/-- Reads the fields of a record one after the other. -/
def fields {σ : Type} (document : Document) (reader : String → Option (FieldReader σ)) (path : Path) :
    List (Node × Node) → (known : List String) → σ → Decoded σ
  | [], _, state => .ok state
  | (key, value) :: rest, known, state => do
    let name ← document.text "field identifier" path key
    match reader name with
    | none => fields document reader path rest known state
    | some read =>
      if name ∈ known then .error (.misfit (.duplicateField name))
      else
        let state ← read (path ++ [pathName name key]) value state
        fields document reader path rest (name :: known) state

/-- Reads a record onto what its fields are at the start. -/
def record {σ : Type} (document : Document) (label : String) (reader : String → Option (FieldReader σ)) :
    FieldReader σ := fun path node state =>
  match document.resolve node with
  | .mapping pairs mark => placed path mark (document.fields reader path pairs [] state)
  | .scalar "" .plain _ _ => .ok state
  | other => reject ("struct " ++ label) path other

end Document

end Interceptor.Yaml
