/-
# Interceptor.Proofs.Net.AddressSpelling — the texts of an address with a port

An address with a port is spelled in one of two ways: as a host, a colon and a port, where
the host has no colon and does not begin with a bracket; or as a host in brackets, whatever it
is, a colon and a port (`Spelled`). The text is cut at its last colon before the host is looked
at. That is the colon of the spelling, because no colon is in the text of a port.

* `spelled_iff`: a spelling is a text that the last colon cuts into a host as it stands and the port;
* `split?_eq_some_iff`: the texts that are split are the spellings, and these are their parts;
* `split?_grammar`: so a text is spelled in one way at most, an address reads back, and what is
  no spelling is refused;
* `stripPort_of_split?`: the certificate authority finds the same host in an address, or what
  stands before the first closing bracket in it.
-/
import Interceptor.Net.HostPort
import Interceptor.Proofs.Net.AddressText
import Interceptor.Proofs.Text.Numeral

namespace Interceptor.Net.HostPort

set_option autoImplicit false

open Text Unsigned

/-- The texts for a port: those of a number that is small enough. -/
def PortText (written : String) (port : Nat) : Prop :=
  Numeral written.toList port ∧ port ≤ portBound

/-- The texts of an address whose port is written like this. -/
inductive Spelled (host written : String) : String → Prop
  | plain (colonless : ':' ∉ host.toList) (bare : host.toList.head? ≠ some '[') :
      Spelled host written (host ++ ":" ++ written)
  | bracketed : Spelled host written ("[" ++ host ++ "]:" ++ written)

/-! ## Texts for a port -/

theorem PortText.not_mem {written : String} {port : Nat} (text : PortText written port) {c : Char}
    (other : c.isDigit = false) (unsigned : c ≠ '+') : c ∉ written.toList :=
  text.1.not_mem other unsigned

theorem portText_toString {port : Nat} (small : port ≤ portBound) :
    PortText (toString port) port := by
  have digits : (toString port).toList = toDigits port := by
    rw [Nat.toString_eq_ofList_toDigits, String.toList_ofList]
    rfl
  exact ⟨digits ▸ numeral_toDigits port, small⟩

/-- Digits are no port if their value is too large. -/
theorem not_portText_of_large {digits : String} (decimal : ∀ c ∈ digits.toList, c.isDigit)
    (large : portBound < Nat.ofDigitChars 10 digits.toList 0) (port : Nat) :
    ¬ PortText digits port := by
  rintro ⟨numeral, small⟩
  have value : port = Nat.ofDigitChars 10 digits.toList 0 :=
    numeral.unique (.plain numeral.ne_nil decimal)
  omega

/-! ## Spellings -/

/-- What may stand in front of the last colon, and the host it is. -/
theorem unwrapHost?_eq_some_iff {front host : List Char} :
    unwrapHost? front = some host ↔
      front = '[' :: host ++ [']'] ∨ front = host ∧ ':' ∉ host ∧ host.head? ≠ some '[' := by
  unfold unwrapHost?
  split
  · rename_i inner
    have open' : ¬ ('[' :: inner = host ∧ ':' ∉ host ∧ host.head? ≠ some '[') := by
      rintro ⟨rfl, -, bare⟩
      exact bare rfl
    rw [or_iff_left open', List.cons_append, List.cons_inj_right]
    constructor
    · intro taken
      split at taken
      · rename_i closed
        obtain ⟨others, rfl⟩ := List.getLast?_eq_some_iff.mp closed
        rw [List.dropLast_concat] at taken
        rw [Option.some.inj taken]
      · exact nomatch taken
    · rintro rfl
      simp
  · rename_i bare
    have open' : front ≠ '[' :: host ++ [']'] := fun same => bare _ same
    rw [or_iff_right open']
    split
    · rename_i colon
      simp only [reduceCtorEq, false_iff, not_and]
      rintro rfl colonless
      exact absurd colon colonless
    · rename_i colonless
      rw [Option.some.injEq]
      constructor
      · rintro rfl
        refine ⟨rfl, colonless, ?_⟩
        intro bracket
        obtain ⟨rest, whole⟩ := List.head?_eq_some_iff.mp bracket
        exact bare rest whole
      · exact And.left

/-- A spelling is a host as it stands before the colon, and the port behind it. -/
theorem spelled_iff {host written addr : String} :
    Spelled host written addr ↔ ∃ front, addr.toList = front ++ ':' :: written.toList ∧
      unwrapHost? front = some host.toList := by
  constructor
  · intro spelled
    cases spelled with
    | plain colonless bare =>
        refine ⟨host.toList, by simp, ?_⟩
        exact unwrapHost?_eq_some_iff.mpr (.inr ⟨rfl, colonless, bare⟩)
    | bracketed =>
        refine ⟨'[' :: host.toList ++ [']'], by simp, ?_⟩
        exact unwrapHost?_eq_some_iff.mpr (.inl rfl)
  · rintro ⟨front, whole, unwrapped⟩
    rcases unwrapHost?_eq_some_iff.mp unwrapped with rfl | ⟨rfl, colonless, bare⟩
    · have same : addr = "[" ++ host ++ "]:" ++ written := by
        rw [← String.toList_inj, whole]
        simp
      rw [same]
      exact .bracketed
    · have same : addr = host ++ ":" ++ written := by
        rw [← String.toList_inj, whole]
        simp
      rw [same]
      exact .plain colonless bare

/-- The last colon stands in front of the port, because there is none in it. -/
theorem Spelled.cut {host written addr : String} {port : Nat} (spelled : Spelled host written addr)
    (text : PortText written port) : ∃ front, splitLast? ':' addr.toList = some (front, written.toList) ∧
      unwrapHost? front = some host.toList := by
  obtain ⟨front, whole, unwrapped⟩ := spelled_iff.mp spelled
  have colonless : ':' ∉ written.toList := text.not_mem (by decide) (by decide)
  exact ⟨front, splitLast?_eq_some_iff.mpr ⟨whole, colonless⟩, unwrapped⟩

/-- The texts that are split are the spellings. -/
theorem split?_eq_some_iff {addr host : String} {port : Nat} :
    split? addr = some (host, port) ↔ ∃ written, Spelled host written addr ∧ PortText written port := by
  constructor
  · intro split
    simp only [split?, splitChars?, Option.bind_eq_bind, Option.pure_def, Option.map_eq_some_iff,
      Option.bind_eq_some_iff, Option.some.injEq, Prod.exists, Prod.mk.injEq] at split
    obtain ⟨_, _, ⟨front, written, cut, _, read, _, unwrapped, rfl, rfl⟩, rfl, rfl⟩ := split
    refine ⟨String.ofList written, spelled_iff.mpr ⟨front, ?_, ?_⟩, readPort?_eq_some_iff.mp ?_⟩
    · rw [String.toList_ofList]
      exact append_of_splitLast? cut
    · rw [String.toList_ofList]
      exact unwrapped
    · rw [String.toList_ofList]
      exact read
  · rintro ⟨written, spelled, text⟩
    obtain ⟨front, cut, unwrapped⟩ := spelled.cut text
    simp [split?, splitChars?, cut, readPort?_eq_some_iff.mpr text, unwrapped]

/-! ## One spelling at most -/

theorem Spelled.unique {host host' written written' addr : String} {port port' : Nat}
    (spelled : Spelled host written addr) (text : PortText written port)
    (spelled' : Spelled host' written' addr) (text' : PortText written' port') :
    host = host' ∧ written = written' ∧ port = port' := by
  obtain ⟨front, cut, unwrapped⟩ := spelled.cut text
  obtain ⟨front', cut', unwrapped'⟩ := spelled'.cut text'
  obtain ⟨rfl, same⟩ := Prod.mk.inj (Option.some.inj (cut.symm.trans cut'))
  obtain rfl := String.toList_inj.mp same
  refine ⟨?_, rfl, text.1.unique text'.1⟩
  exact String.toList_inj.mp (Option.some.inj (unwrapped.symm.trans unwrapped'))

/-! ## Texts that are refused -/

/-- Texts that are no address with a port. -/
inductive Faulty : String → Prop
  /-- An IP address as it is. -/
  | literal {addr : String} {ip : IpAddr} (parsed : IpAddr.parse? addr = some ip) : Faulty addr
  | portless {addr : String} (colonless : ':' ∉ addr.toList) : Faulty addr
  | missing (front : String) : Faulty (front ++ ":")
  | large (front : String) {digits : String} (decimal : ∀ c ∈ digits.toList, c.isDigit)
      (large : portBound < Nat.ofDigitChars 10 digits.toList 0) : Faulty (front ++ ":" ++ digits)
  /-- Something other than a colon, or nothing, is behind the last closing bracket. -/
  | behind (inner : String) {after : String} (last : ']' ∉ after.toList)
      (other : after.toList.head? ≠ some ':') : Faulty ("[" ++ inner ++ "]" ++ after)

/-- What is behind the last colon must be a port. -/
theorem split?_eq_none_of_port (front : String) {written : String} (colonless : ':' ∉ written.toList)
    (none : ∀ port, ¬ PortText written port) : split? (front ++ ":" ++ written) = Option.none := by
  rw [Option.eq_none_iff_forall_ne_some]
  rintro ⟨host, port⟩ split
  obtain ⟨written', spelled, text⟩ := split?_eq_some_iff.mp split
  obtain ⟨front', cut, -⟩ := spelled.cut text
  have here : splitLast? ':' (front ++ ":" ++ written).toList = some (front.toList, written.toList) :=
    splitLast?_eq_some_iff.mpr ⟨by simp, colonless⟩
  obtain ⟨-, same⟩ := Prod.mk.inj (Option.some.inj (here.symm.trans cut))
  obtain rfl := String.toList_inj.mp same
  exact none port text

theorem split?_eq_none_of_faulty {addr : String} (faulty : Faulty addr) : split? addr = none := by
  cases faulty with
  | missing front =>
      have none : ∀ port, ¬ PortText "" port := fun port text => absurd rfl text.1.ne_nil
      have refused := split?_eq_none_of_port front (by decide) none
      rwa [String.append_empty] at refused
  | large front decimal large =>
      refine split?_eq_none_of_port front ?_ (not_portText_of_large decimal large)
      intro colon
      exact absurd (decimal ':' colon) (by decide)
  | literal parsed =>
      rw [Option.eq_none_iff_forall_ne_some]
      rintro ⟨host, port⟩ split
      obtain ⟨written, spelled, text⟩ := split?_eq_some_iff.mp split
      obtain ⟨marks, open'⟩ := marks_of_parse parsed
      cases spelled with
      | plain colonless bare =>
          -- there is one colon, and an IP address has none or several
          have before := List.count_eq_zero.mpr colonless
          have behind := List.count_eq_zero.mpr (text.not_mem (c := ':') (by decide) (by decide))
          have once : (host ++ ":" ++ written).toList.count ':' = 1 := by simp [before, behind]
          rw [once] at marks
          unfold AddressReader.Marks at marks
          omega
      | bracketed => exact open' (by simp)
  | portless colonless =>
      rw [Option.eq_none_iff_forall_ne_some]
      rintro ⟨host, port⟩ split
      obtain ⟨written, spelled, text⟩ := split?_eq_some_iff.mp split
      obtain ⟨front, whole, -⟩ := spelled_iff.mp spelled
      exact colonless (whole ▸ by simp)
  | @behind inner after last other =>
      rw [Option.eq_none_iff_forall_ne_some]
      rintro ⟨host, port⟩ split
      obtain ⟨written, spelled, text⟩ := split?_eq_some_iff.mp split
      have whole : ("[" ++ inner ++ "]" ++ after).toList = '[' :: inner.toList ++ ']' :: after.toList := by
        simp
      generalize "[" ++ inner ++ "]" ++ after = addr at spelled whole
      cases spelled with
      | plain colonless bare =>
          cases front : host.toList with
          | nil => simp [front] at whole
          | cons c rest =>
              simp only [front, List.head?_cons, ne_eq, Option.some.injEq] at bare
              simp [front, bare] at whole
      | bracketed =>
          -- the closing bracket of the spelling is the last one too
          have closed : ']' ∉ ':' :: written.toList := by
            simp [text.not_mem (c := ']') (by decide) (by decide)]
          have here : splitLast? ']' ("[" ++ host ++ "]:" ++ written).toList =
              some ('[' :: host.toList, ':' :: written.toList) :=
            splitLast?_eq_some_iff.mpr ⟨by simp, closed⟩
          rw [whole, splitLast?_append last] at here
          obtain ⟨-, same⟩ := Prod.mk.inj (Option.some.inj here)
          exact other (by rw [same]; rfl)

/-- **The grammar of addresses.** A text is split into a host and a port if and only if it is a spelling of
them. It has one spelling at most; the spellings with the port as plain decimals are split back; and an IP
address as it is, a text without a port or with one that is too large, and a text with anything but
a colon behind the last closing bracket are refused. -/
theorem split?_grammar :
    (∀ addr host port, split? addr = some (host, port) ↔
      ∃ written, Spelled host written addr ∧ PortText written port) ∧
    (∀ addr host written port host' written' port', Spelled host written addr → PortText written port →
      Spelled host' written' addr → PortText written' port' →
        host = host' ∧ written = written' ∧ port = port') ∧
    (∀ addr host port, Spelled host (toString port) addr → port ≤ portBound →
      split? addr = some (host, port)) ∧
    ∀ addr, Faulty addr → split? addr = none := by
  refine ⟨?_, ?_, ?_, ?_⟩
  · intro addr host port
    exact split?_eq_some_iff
  · intro addr host written port host' written' port' spelled text spelled' text'
    exact spelled.unique text spelled' text'
  · intro addr host port spelled small
    exact split?_eq_some_iff.mpr ⟨toString port, spelled, portText_toString small⟩
  · intro addr faulty
    exact split?_eq_none_of_faulty faulty

/-! ## The host without the port -/

/-- **Two readers of one address.** In every address that is split into a host and a port, what is left
without the port is that host; but in brackets that hold a closing bracket themselves, it is what stands in
front of the first one. -/
theorem stripPort_of_split? {addr host : String} {port : Nat} (split : split? addr = some (host, port)) :
    (¬ (addr.toList.head? = some '[' ∧ ']' ∈ host.toList) → stripPort addr = host) ∧
    (addr.toList.head? = some '[' → ∀ inner rest, host = inner ++ "]" ++ rest → ']' ∉ inner.toList →
      stripPort addr = inner) := by
  obtain ⟨written, spelled, text⟩ := split?_eq_some_iff.mp split
  cases spelled with
  | plain colonless bare =>
      have alone : ':' ∉ written.toList := text.not_mem (by decide) (by decide)
      refine ⟨fun _ => stripPort_plain bare colonless alone, ?_⟩
      intro bracket
      cases front : host.toList with
      | nil => simp [front] at bracket
      | cons c rest =>
          simp only [front, String.toList_append, List.cons_append, List.head?_cons] at bracket bare
          exact absurd bracket bare
  | bracketed =>
      constructor
      · intro ordinary
        have clean : ']' ∉ host.toList := fun closing => ordinary ⟨by simp, closing⟩
        have whole : "[" ++ host ++ "]:" ++ written = "[" ++ host ++ "]" ++ (":" ++ written) := by
          rw [← String.toList_inj]
          simp
        rw [whole]
        exact stripPort_bracketed clean _
      · rintro - inner rest rfl clean
        have whole : "[" ++ (inner ++ "]" ++ rest) ++ "]:" ++ written =
            "[" ++ inner ++ "]" ++ (rest ++ "]:" ++ written) := by
          rw [← String.toList_inj]
          simp
        rw [whole]
        exact stripPort_bracketed clean _

/-- A closing bracket in the host. -/
theorem stripPort_of_split?_nested : split? "[a]b]:80" = some ("a]b", 80) ∧
    stripPort "[a]b]:80" = "a" := by
  have split : split? "[a]b]:80" = some ("a]b", 80) := by decide +kernel
  exact ⟨split, (stripPort_of_split? split).2 (by decide) "a" "b" (by decide) (by decide)⟩

end Interceptor.Net.HostPort
