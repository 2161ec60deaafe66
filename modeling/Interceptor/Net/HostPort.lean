/-
# Interceptor.Net.HostPort — the host and the port of an address text

Two readers of texts such as `example.com:443` and `[::1]:443`:

* `HostPort.split?` is the dialer's: it wants a port, cuts at the last colon,
  and refuses a host that holds a colon without being in brackets;
* `HostPort.stripPort` is the certificate authority's: it wants the host
  alone, with or without a port, and leaves a text it cannot cut as it is
  (`stripPortChars_cases`; `stripPortChars_cases_of_plain` where no bracket is in front).
-/
import Interceptor.Text.Split
import Interceptor.Text.Unsigned

namespace Interceptor.Net.HostPort

set_option autoImplicit false

open Text

/-- The host in front of a port: what brackets hold, or a text without a colon. -/
def unwrapHost? : List Char → Option (List Char)
  | '[' :: inner => if inner.getLast? = some ']' then some inner.dropLast else none
  | host => if ':' ∈ host then none else some host

/-- The host and the port of `host:port` or `[host]:port`. -/
def splitChars? (cs : List Char) : Option (List Char × Nat) := do
  let (host, port) ← splitLast? ':' cs
  let port ← Unsigned.readPort? port
  let host ← unwrapHost? host
  return (host, port)

/-- The host and the port of `host:port` or `[host]:port`. -/
def split? (addr : String) : Option (String × Nat) :=
  (splitChars? addr.toList).map fun (host, port) => (String.ofList host, port)

/-- The text without its port: what the first brackets hold, or what stands before the only colon. -/
def stripPortChars : List Char → List Char
  | '[' :: rest =>
    match splitFirst? ']' rest with
    | some (inner, _) => inner
    | none => '[' :: rest
  | host =>
    match splitFirst? ':' host with
    | some (name, port) => if ':' ∈ port then host else name
    | none => host

/-- The text without its port. -/
def stripPort (host : String) : String :=
  String.ofList (stripPortChars host.toList)

theorem stripPortChars_of_bracket {rest inner after : List Char}
    (cut : splitFirst? ']' rest = some (inner, after)) : stripPortChars ('[' :: rest) = inner := by
  simp only [stripPortChars, cut]

theorem stripPortChars_append {name port : List Char} (bare : name.head? ≠ some '[')
    (colonless : ':' ∉ name) (alone : ':' ∉ port) : stripPortChars (name ++ ':' :: port) = name := by
  unfold stripPortChars
  split
  · rename_i front
    cases name with
    | nil => exact absurd (List.cons.inj front).1 (by decide)
    | cons first others => exact absurd (congrArg some (List.cons.inj front).1) bare
  · simp only [splitFirst?_append colonless, if_neg alone]

/-- A name is left of a name with a port. -/
theorem stripPort_plain {name port : String} (bare : name.toList.head? ≠ some '[')
    (colonless : ':' ∉ name.toList) (alone : ':' ∉ port.toList) :
    stripPort (name ++ ":" ++ port) = name := by
  have whole : (name ++ ":" ++ port).toList = name.toList ++ ':' :: port.toList := by simp
  rw [stripPort, whole, stripPortChars_append bare colonless alone, String.ofList_toList]

/-- What the first brackets hold is left, whatever is behind them. -/
theorem stripPort_bracketed {inner : String} (open' : ']' ∉ inner.toList) (rest : String) :
    stripPort ("[" ++ inner ++ "]" ++ rest) = inner := by
  have whole : ("[" ++ inner ++ "]" ++ rest).toList = '[' :: (inner.toList ++ ']' :: rest.toList) := by simp
  rw [stripPort, whole, stripPortChars_of_bracket (splitFirst?_append open' rest.toList),
    String.ofList_toList]

/-- A text that does not begin with a bracket is cut at its colon, if there is exactly one. -/
theorem stripPortChars_cases_of_plain {cs : List Char} (plain : cs.head? ≠ some '[') :
    (∃ name port, cs = name ++ ':' :: port ∧ ':' ∉ name ∧ ':' ∉ port ∧ stripPortChars cs = name) ∨
      cs.count ':' ≠ 1 ∧ stripPortChars cs = cs := by
  unfold stripPortChars
  split
  · exact absurd rfl plain
  split
  · rename_i name port cut
    have whole := append_of_splitFirst? cut
    have clean := not_mem_of_splitFirst? cut
    split
    · rename_i more
      refine .inr ⟨?_, rfl⟩
      have some := List.count_pos_iff.mpr more
      rw [whole, List.count_append, List.count_cons_self]
      omega
    · rename_i alone
      exact .inl ⟨name, port, whole, clean, alone, rfl⟩
  · rename_i none
    refine .inr ⟨?_, rfl⟩
    rw [List.count_eq_zero.mpr (splitFirst?_eq_none.mp none)]
    exact Nat.zero_ne_one

/-- A port is taken off, behind the brackets or the name in front of it, or the text stays as it is. -/
theorem stripPortChars_cases (host : List Char) : stripPortChars host = host ∨
    (∃ port, host = stripPortChars host ++ ':' :: port ∧ ':' ∉ stripPortChars host) ∨
      ∃ rest, host = '[' :: stripPortChars host ++ ']' :: rest ∧ ']' ∉ stripPortChars host := by
  unfold stripPortChars
  split
  · rename_i rest
    split
    · rename_i inner after cut
      refine .inr (.inr ⟨after, ?_, not_mem_of_splitFirst? cut⟩)
      rw [List.cons_append, append_of_splitFirst? cut]
    · exact .inl rfl
  · split
    · rename_i name port cut
      split
      · exact .inl rfl
      · exact .inr (.inl ⟨port, append_of_splitFirst? cut, not_mem_of_splitFirst? cut⟩)
    · exact .inl rfl

end Interceptor.Net.HostPort
