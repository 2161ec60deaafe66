/-
# Interceptor.Yaml.SyntaxError — why a text is not a document

A text is refused at the first place where it cannot go on. The error says what is
wrong there and, where that helps, what was being read and where that began.
Places count lines and columns from one; the very start of the text is not
mentioned, and neither is a beginning that is the place itself.
-/
import Interceptor.Yaml.Cursor

namespace Interceptor.Yaml

set_option autoImplicit false

/-- What is wrong at a place. -/
inductive Problem
  | strayCharacter
  | strayDash
  | strayKey
  | strayValue
  | missingColon
  | unexpectedColon
  | tabInIndentation
  | tabForSpace
  | documentMark
  | unclosedQuote
  | unknownEscape
  | missingHexDigit
  | notACharacter
  | zeroIndentation
  | missingLineEnd
  | missingName
  | missingTag
  | missingTagMark
  | unclosedTag
  | missingGap
  | missingBlank
  | missingOctet
  | leadingOctet
  | trailingOctet
  | missingDirectiveName
  | directiveCharacter
  | unknownDirective
  | missingVersion
  | longVersion
  | missingVersionPoint
  | repeatedVersion
  | unknownVersion
  | repeatedHandle
  | unknownHandle
  | missingDocumentStart
  | missingNode
  | missingDash
  | missingKey
  | missingBracket
  | missingBrace
  deriving DecidableEq, Repr

def Problem.text : Problem → String
  | .strayCharacter => "found character that cannot start any token"
  | .strayDash => "block sequence entries are not allowed in this context"
  | .strayKey => "mapping keys are not allowed in this context"
  | .strayValue => "mapping values are not allowed in this context"
  | .missingColon => "could not find expected ':'"
  | .unexpectedColon => "found unexpected ':'"
  | .tabInIndentation => "found a tab character that violates indentation"
  | .tabForSpace => "found a tab character where an indentation space is expected"
  | .documentMark => "found unexpected document indicator"
  | .unclosedQuote => "found unexpected end of stream"
  | .unknownEscape => "found unknown escape character"
  | .missingHexDigit => "did not find expected hexadecimal number"
  | .notACharacter => "found invalid Unicode character escape code"
  | .zeroIndentation => "found an indentation indicator equal to 0"
  | .missingLineEnd => "did not find expected comment or line break"
  | .missingName => "did not find expected alphabetic or numeric character"
  | .missingTag => "did not find expected tag URI"
  | .missingTagMark => "did not find expected '!'"
  | .unclosedTag => "did not find the expected '>'"
  | .missingGap => "did not find expected whitespace or line break"
  | .missingBlank => "did not find expected whitespace"
  | .missingOctet => "did not find URI escaped octet"
  | .leadingOctet => "found an incorrect leading UTF-8 octet"
  | .trailingOctet => "found an incorrect trailing UTF-8 octet"
  | .missingDirectiveName => "could not find expected directive name"
  | .directiveCharacter => "found unexpected non-alphabetical character"
  | .unknownDirective => "found unknown directive name"
  | .missingVersion => "did not find expected version number"
  | .longVersion => "found extremely long version number"
  | .missingVersionPoint => "did not find expected digit or '.' character"
  | .repeatedVersion => "found duplicate %YAML directive"
  | .unknownVersion => "found incompatible YAML document"
  | .repeatedHandle => "found duplicate %TAG directive"
  | .unknownHandle => "found undefined tag handle"
  | .missingDocumentStart => "did not find expected <document start>"
  | .missingNode => "did not find expected node content"
  | .missingDash => "did not find expected '-' indicator"
  | .missingKey => "did not find expected key"
  | .missingBracket => "did not find expected ',' or ']'"
  | .missingBrace => "did not find expected ',' or '\x7d'"

/-- What was being read. -/
inductive Pursuit
  | token
  | simpleKey
  | anchor
  | reference
  | tag
  | tagText
  | blockScalar
  | quotedScalar
  | escape
  | plainScalar
  | directive
  | versionDirective
  | tagDirective
  | directiveSign
  | directiveHandle
  | directiveTag
  | node
  | blockNode
  | flowNode
  | blockSequence
  | blockMapping
  | flowSequence
  | flowMapping
  deriving DecidableEq, Repr

def Pursuit.text : Pursuit → String
  | .token => "while scanning for the next token"
  | .simpleKey => "while scanning a simple key"
  | .anchor => "while scanning an anchor"
  | .reference => "while scanning an alias"
  | .tag => "while scanning a tag"
  | .tagText => "while parsing a tag"
  | .blockScalar => "while scanning a block scalar"
  | .quotedScalar => "while scanning a quoted scalar"
  | .escape => "while parsing a quoted scalar"
  | .plainScalar => "while scanning a plain scalar"
  | .directive => "while scanning a directive"
  | .versionDirective => "while scanning a %YAML directive"
  | .tagDirective => "while scanning a %TAG directive"
  | .directiveSign => "while scanning a tag directive"
  | .directiveHandle => "while parsing a tag directive"
  | .directiveTag => "while parsing a %TAG directive"
  | .node => "while parsing a node"
  | .blockNode => "while parsing a block node"
  | .flowNode => "while parsing a flow node"
  | .blockSequence => "while parsing a block collection"
  | .blockMapping => "while parsing a block mapping"
  | .flowSequence => "while parsing a flow sequence"
  | .flowMapping => "while parsing a flow mapping"

/-- Why a text is not a document. -/
inductive SyntaxError
  | broken (problem : Problem) (place : Mark) (during : Option (Pursuit × Mark))
  /-- A character that no text may hold, behind so many bytes. -/
  | forbiddenCharacter (offset : Nat)
  /-- A reference to a name that no node has. -/
  | unknownName (place : Mark)
  | severalDocuments
  deriving DecidableEq, Repr

/-- The place as text, unless it is the very start. -/
def Mark.text (mark : Mark) : String :=
  if mark.line = 0 && mark.column = 0 then ""
  else " at line " ++ toString (mark.line + 1) ++ " column " ++ toString (mark.column + 1)

def SyntaxError.message : SyntaxError → String
  | .broken problem place during =>
    problem.text ++ place.text ++ during.elim "" fun (pursuit, start) =>
      ", " ++ pursuit.text
        ++ if start.line = place.line && start.column = place.column then "" else start.text
  | .forbiddenCharacter offset =>
    "control characters are not allowed"
      ++ if offset = 0 then "" else " at position " ++ toString offset
  | .unknownName place => "unknown anchor" ++ place.text
  | .severalDocuments => "deserializing from YAML containing more than one document is not supported"

/-- Something that is read off a text, if the text is well formed. -/
abbrev Scanned := Except SyntaxError

/-- Refuses what the cursor stands on. -/
def Cursor.refuse {α : Type} (cursor : Cursor) (problem : Problem) (pursuit : Pursuit) (start : Mark) :
    Scanned α :=
  .error (.broken problem cursor.mark (some (pursuit, start)))

end Interceptor.Yaml
