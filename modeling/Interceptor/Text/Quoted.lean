/-
# Interceptor.Text.Quoted — text in quotation marks

A message that repeats a text shows it between quotation marks. A quotation
mark and a backslash inside it stand behind a backslash, and so do the letters
for tab, line feed, carriage return and NUL. A character that leaves no mark of
its own is written as its number, `\u` and hexadecimal digits in braces.
-/
import Interceptor.Text.Hidden

namespace Interceptor.Text.Quoted

set_option autoImplicit false

/-- One character as it stands between the marks. -/
def escape (c : Char) : List Char :=
  match c with
  | '"' => ['\\', '"']
  | '\\' => ['\\', '\\']
  | '\t' => ['\\', 't']
  | '\n' => ['\\', 'n']
  | '\r' => ['\\', 'r']
  | '\x00' => ['\\', '0']
  | c =>
    if isHidden c then ['\\', 'u', '{'] ++ Nat.toDigits 16 c.toNat ++ ['}']
    else [c]

/-- A text between quotation marks. -/
def quote (text : String) : String :=
  String.ofList ('"' :: text.toList.flatMap escape ++ ['"'])

end Interceptor.Text.Quoted
