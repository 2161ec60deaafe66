/-
# Interceptor.Yaml.Written — writing text as a scalar

A text with line feeds becomes a literal block. Any other text is written plain
if it then reads as the same text, and in single quotation marks otherwise. What
neither a block nor single quotation marks can hold is written in double ones,
with escapes: characters that cannot be printed, blanks in front of a break.
-/
import Interceptor.Yaml.Cursor
import Interceptor.Yaml.Plain

namespace Interceptor.Yaml.Written

set_option autoImplicit false

/-- Whether a character can be printed. -/
def isPrintable (c : Char) : Bool :=
  c = '\n' || ' ' ≤ c && c ≤ '~' || '\u00a0' ≤ c && c ≤ '\ufffd' && c ≠ '\ufeff' || 0x10000 ≤ c.toNat

/-- Whether a sign at the start of a plain text, in front of `next`, would mean something else. -/
def opensOther (c : Char) (next : Option Char) : Bool :=
  c ∈ "#,[]{}&*!|>'\"%@\x60".toList || c ∈ ['?', ':', '-'] && isGap next

/-- Whether a sign inside a plain text would end it. -/
def endsPlain (before c : Char) (next : Option Char) : Bool :=
  c = ':' && isGap next || c = '#' && isGap (some before)

/-- Whether `p` holds of some pair of neighbours. -/
def anyNeighbours (p : Char → Char → Bool) : List Char → Bool
  | a :: b :: rest => p a b || anyNeighbours p (b :: rest)
  | _ => false

/-- Whether a sign behind the first one would end the text. -/
def hasEnd : List Char → Bool
  | a :: b :: rest => endsPlain a b rest.head? || hasEnd (b :: rest)
  | _ => false

/-- Whether the characters can stand without quotation marks outside brackets. -/
def allowsPlain (cs : List Char) : Bool :=
  match cs with
  | [] => true
  | first :: rest =>
    !(opensOther first rest.head? || hasEnd cs || cs.take 3 = ['-', '-', '-'] || cs.take 3 = ['.', '.', '.']
      || first = ' ' || cs.getLast? = some ' ' || cs.any isBreak || !cs.all isPrintable)

/-- Whether there is a space in front of a break. -/
def spaceBeforeBreak (cs : List Char) : Bool := anyNeighbours (fun a b => a = ' ' && isBreak b) cs

/-- Whether there is a break in front of a space. -/
def breakBeforeSpace (cs : List Char) : Bool := anyNeighbours (fun a b => isBreak a && b = ' ') cs

/-- Whether the characters can stand in single quotation marks. -/
def allowsSingle (cs : List Char) : Bool :=
  cs.all isPrintable && !spaceBeforeBreak cs && !breakBeforeSpace cs

/-- Whether the characters can stand in a block. -/
def allowsBlock (cs : List Char) : Bool :=
  !cs.isEmpty && cs.all isPrintable && !spaceBeforeBreak cs && cs.getLast? ≠ some ' '

/-- Whether a text would be read as something else if it were plain. -/
def isAmbiguous (text : String) : Bool :=
  Plain.hasLeadingZero text.toList || Plain.ofText text ≠ .text text

/-- The upper-case hexadecimal digits of a number, as many as are asked for. -/
def hexDigits : Nat → Nat → List Char
  | 0, _ => []
  | count + 1, n => hexDigits count (n / 16) ++ [(Nat.digitChar (n % 16)).toUpper]

/-- A character in double quotation marks. -/
def escape (c : Char) : List Char :=
  match c with
  | '"' => ['\\', '"']
  | '\\' => ['\\', '\\']
  | '\x00' => ['\\', '0']
  | '\x07' => ['\\', 'a']
  | '\x08' => ['\\', 'b']
  | '\t' => ['\\', 't']
  | '\n' => ['\\', 'n']
  | '\x0b' => ['\\', 'v']
  | '\x0c' => ['\\', 'f']
  | '\r' => ['\\', 'r']
  | '\x1b' => ['\\', 'e']
  | '\u0085' => ['\\', 'N']
  | '\u2028' => ['\\', 'L']
  | '\u2029' => ['\\', 'P']
  | c =>
    if isPrintable c then [c]
    else if c.toNat < 0x100 then '\\' :: 'x' :: hexDigits 2 c.toNat
    else if c.toNat < 0x10000 then '\\' :: 'u' :: hexDigits 4 c.toNat
    else '\\' :: 'U' :: hexDigits 8 c.toNat

/-- The lines of a text, indented: spaces stand behind breaks that another character follows. -/
def indentLines (indent : Nat) (write : Char → List Char) : (broken : Bool) → List Char → List Char
  | _, [] => []
  | broken, c :: rest =>
    if isBreak c then c :: indentLines indent write true rest
    else (if broken then List.replicate indent ' ' else []) ++ write c ++ indentLines indent write false rest

/-- A text in single quotation marks. -/
def single (indent : Nat) (cs : List Char) : List Char :=
  let body := indentLines indent (fun c => if c = '\'' then ['\'', '\''] else [c]) false cs
  let tail := if cs.getLast?.any isBreak then List.replicate indent ' ' else []
  '\'' :: body ++ tail ++ ['\'']

/-- A text in double quotation marks. -/
def double (cs : List Char) : List Char := '"' :: cs.flatMap escape ++ ['"']

/-- What stands behind `|`: the indentation if the text does not show it, and what becomes of the
breaks at the end. -/
def blockHeader (cs : List Char) : List Char :=
  let indentation := if cs.head?.any fun c => c = ' ' || isBreak c then ['2'] else []
  let chomping := match cs.reverse with
    | last :: before => if !isBreak last then ['-'] else if before.head?.all isBreak then ['+'] else []
    | [] => ['-']
  indentation ++ chomping

/-- A literal block. -/
def block (indent : Nat) (cs : List Char) : List Char :=
  '|' :: blockHeader cs ++ '\n' :: indentLines indent (fun c => [c]) true cs

/-- A text as a scalar whose further lines are indented by `indent`. -/
def scalar (indent : Nat) (text : String) : String :=
  let cs := text.toList
  String.ofList <|
    if cs.contains '\n' then if allowsBlock cs then block indent cs else double cs
    else if !isAmbiguous text && allowsPlain cs then cs
    else if allowsSingle cs then single indent cs
    else double cs

/-- A line of a mapping; a block that ends with a break needs no other. -/
def entry (indent : Nat) (key value : String) : String :=
  let line := "".pushn ' ' indent ++ key ++ ": " ++ value
  if line.toList.getLast?.any isBreak then line else line ++ "\n"

/-- A key in front of an indented mapping. -/
def heading (key : String) : String := key ++ ":\n"

end Interceptor.Yaml.Written
