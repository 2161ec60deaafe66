/-
# Interceptor.Text.Terminal — text without the commands of a terminal

A text may hold commands for a terminal: control characters, and sequences that
begin with an escape character. `plain` leaves them out. What is shown of a
text are its printable characters and its white space.

A sequence goes on until its last character: one sign behind the escape
character, a letter behind `[`, the end of a string behind `]`, `P`, `X`, `^`
and `_`. White space inside a sequence is shown, and so is what follows it up
to the next control character, where the sequence goes on.

`styled` wraps a text in the sequences for a style.
-/

namespace Interceptor.Text.Terminal

set_option autoImplicit false

/-- Where in a sequence a character stands. -/
inductive Place
  | outside
  | escape
  /-- Behind the signs that may stand between an escape character and the last sign. -/
  | between
  /-- Behind `[`. -/
  | control
  /-- In a title, which ends at a bell. -/
  | title
  /-- At the beginning of a string for a device, behind its numbers, behind its signs. -/
  | device
  | deviceNumbers
  | deviceSigns
  /-- In a string that ends with the next sequence. -/
  | string
  deriving DecidableEq, Repr

/-- Whether one of the bytes of a character that is not in ASCII ends a string. -/
def endsString (c : Char) : Bool :=
  [c.toNat, c.toNat / 0x40, c.toNat / 0x1000].zipIdx.any fun (n, i) =>
    n % 0x40 = 0x1c && (i = 0 || (if i = 1 then 0x800 else 0x10000) ≤ c.toNat)

/-- White space that is shown. -/
def isSpacing (c : Char) : Bool := c ∈ [' ', '\t', '\n', '\x0c', '\r']

/-- The place behind an escape character and a sign. -/
def behindEscape (c : Char) : Place :=
  if c < '0' then .between
  else if c = '[' then .control
  else if c = ']' then .title
  else if c = 'P' then .device
  else if c ∈ ['X', '^', '_'] then .string
  else .outside

/-- The place behind a character of ASCII that is neither a control character nor DEL. -/
def Place.behindSign (c : Char) : Place → Place
  | .outside => .outside
  | .escape => behindEscape c
  | .between => if c < '0' then .between else .outside
  | .control => if c < '@' then .control else .outside
  | .title => .title
  | .device => if c < '0' then .deviceSigns else if c < '@' then .deviceNumbers else .string
  | .deviceNumbers => if c < '0' then .deviceSigns else if c < '<' then .deviceNumbers else .string
  | .deviceSigns => if c < '0' then .deviceSigns else .string
  | .string => .string

/-- The place behind a character, and whether the character is shown. -/
def Place.step (place : Place) (c : Char) : Place × Bool :=
  if c = '\x1b' then (.escape, false)
  else if c = '\x18' || c = '\x1a' then (.outside, false)
  else if c < ' ' then
    (if place = .title && c = '\x07' then .outside else place,
      place ∈ [.outside, .escape, .between, .control] && isSpacing c)
  else if c = '\x7f' then (place, false)
  else if c < '\x7f' then (place.behindSign c, place = .outside)
  else if place ∈ [.string] then (if endsString c then .outside else place, false)
  else (place, place = .outside)

/-- What is shown of a text behind a place. `shown` holds while characters are shown although the
place may lie inside a sequence. -/
def plainFrom (place : Place) (shown : Bool) : List Char → List Char
  | [] => []
  | c :: rest =>
    if shown && (Place.outside.step c).2 then c :: plainFrom (if c < '\x7f' then place else .outside) true rest
    else
      let (next, isShown) := place.step c
      if isShown then c :: plainFrom next true rest else plainFrom next false rest

/-- A text without the commands in it. -/
def plain (text : String) : String := String.ofList (plainFrom .outside false text.toList)

/-- A text in a style: the sequences that set it, the text, and the sequence that ends it. -/
def styled (settings : List Nat) (text : String) : String :=
  String.join (settings.map fun n => "\x1b[" ++ toString n ++ "m") ++ text ++ "\x1b[0m"

def bold : String → String := styled [1]

/-- A heading is bold and underlined. -/
def heading : String → String := styled [1, 4]

def red : String → String := styled [1, 31]

def green : String → String := styled [32]

def yellow : String → String := styled [33]

/-- Characters outside of sequences are shown as they are. -/
theorem plainFrom_eq_self {cs : List Char} (h : ∀ c ∈ cs, ' ' ≤ c ∧ c < '\x7f') (shown : Bool) :
    plainFrom .outside shown cs = cs := by
  induction cs generalizing shown with
  | nil => rfl
  | cons c rest ih =>
    have hc := h c (by simp)
    have hne : c ≠ '\x1b' ∧ c ≠ '\x18' ∧ c ≠ '\x1a' ∧ ¬c < ' ' ∧ c ≠ '\x7f' := by
      refine ⟨?_, ?_, ?_, Char.not_lt.2 hc.1, ?_⟩ <;> rintro rfl <;> revert hc <;> decide
    have hs : Place.outside.step c = (.outside, true) := by
      simp [Place.step, hne, hc.2, Place.behindSign]
    simp [plainFrom, hs, hc.2, ih (fun c hc => h c (by simp [hc]))]

end Interceptor.Text.Terminal
