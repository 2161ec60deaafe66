/-
# Interceptor.Proofs.Http.WrittenPort — the port of an address, and the port that is written

The port of a target is what stands behind the last colon of its authority, if that is read as
a port. Where nothing is read, the address gets a default, and it makes no difference
whether nothing was written or something that is no port.

* `port?_eq_some_iff`: a port is read where one stands at the end, behind the host;
* `port?_of_portText`, `portText_of_port?`: what is written behind the host is read if it is a port;
* `exists_authority_of_parentProxy`: a parent that is configured has an authority, and so an address;
* `written_port_kept_iff`: an address has the port that is written if and only if that text is one, and
  what becomes of any other text;
* `written_port_replaced`: a parent that a configuration names, and a target that goes to the tunnel,
  with other ports than were written.
-/
import Interceptor.Config
import Interceptor.Proofs.Http.AuthorityText
import Interceptor.Proofs.Net.AddressSpelling
import Interceptor.Routing

namespace Interceptor

set_option autoImplicit false

open Text Unsigned Net Http HostPort

namespace Http.Authority

variable {a : Authority} {n : Nat} {written : String}

/-- What ends a text behind its user information ends it behind the host, if it is a port. -/
theorem behindHost_of_port {before port : List Char} (whole : a.text.toList = before ++ ':' :: port)
    (numeral : Numeral port n) : ∃ middle, a.behindHost = middle ++ ':' :: port := by
  have unsigned : ∀ sign, sign.isDigit = false → sign ≠ '+' → sign ≠ ':' → sign ∉ ':' :: port :=
    fun sign other plus colon => List.not_mem_cons_of_ne_of_not_mem colon (numeral.not_mem other plus)
  obtain ⟨front, text, unnamed, info⟩ := a.exists_front
  have outside : ':' ∉ front ∨ ∃ start sign, front = start ++ [sign] ∧ sign ∉ ':' :: port := by
    rcases info with rfl | ⟨start, rfl⟩
    · exact .inl List.not_mem_nil
    · exact .inr ⟨start, '@', rfl, unsigned '@' (by decide) (by decide) (by decide)⟩
  obtain ⟨between, hostPort⟩ := behind_of_cut (text.symm.trans whole) outside
  refine behind_of_cut (a.hostPort_eq.symm.trans hostPort) ?_
  cases a.hostForm with
  | bracketed host clean =>
      exact .inr ⟨'[' :: a.bareHost, ']', host, unsigned ']' (by decide) (by decide) (by decide)⟩
  | plain host colonless bare mark => exact .inl (host ▸ colonless)

/-- A port is read where one stands at the end, behind the host. -/
theorem port?_eq_some_iff : a.port? = some n ↔
    ∃ middle port, a.behindHost = middle ++ ':' :: port ∧ Numeral port n ∧ n ≤ portBound := by
  constructor
  · intro read
    obtain ⟨⟨before, port⟩, cut, taken⟩ := Option.bind_eq_some_iff.mp read
    obtain ⟨numeral, small⟩ := readPort?_eq_some_iff.mp taken
    obtain ⟨middle, behind⟩ := behindHost_of_port (append_of_splitLast? cut) numeral
    exact ⟨middle, port, behind, numeral, small⟩
  · rintro ⟨middle, port, behind, numeral, small⟩
    obtain ⟨front, text, -⟩ := a.exists_front
    have cut : splitLast? ':' a.text.toList = some (front ++ a.hostChars ++ middle, port) :=
      splitLast?_eq_some_iff.mpr
        ⟨by rw [text, hostPort_eq, behind]; simp, numeral.not_mem (by decide) (by decide)⟩
    rw [port?, cut]
    exact readPort?_eq_some_iff.mpr ⟨numeral, small⟩

variable (a) in
/-- The text behind the colon that follows the host, if there is any. -/
def writtenPort? : Option String :=
  match a.behindHost with
  | ':' :: first :: rest => some (String.ofList (first :: rest))
  | _ => none

theorem behindHost_of_written (wrote : a.writtenPort? = some written) :
    a.behindHost = ':' :: written.toList := by
  unfold writtenPort? at wrote
  split at wrote
  · rename_i first rest behind
    rw [behind, ← Option.some.inj wrote, String.toList_ofList]
  · exact nomatch wrote

/-- A port that is written is read. -/
theorem port?_of_portText (wrote : a.writtenPort? = some written) (text : PortText written n) :
    a.port? = some n :=
  port?_eq_some_iff.mpr ⟨[], written.toList, behindHost_of_written wrote, text⟩

/-- A colon in what is written stands behind brackets. -/
theorem closes_of_written {middle port : List Char} (wrote : a.writtenPort? = some written)
    (cut : written.toList = middle ++ ':' :: port) (clean : ']' ∉ port) : ']' ∈ middle := by
  obtain ⟨front, text, unnamed, -⟩ := a.exists_front
  have behind := behindHost_of_written wrote
  rw [hostPort_eq, List.mem_append, not_or] at unnamed
  rw [hostPort_eq, ← List.append_assoc] at text
  by_cases closes : ']' ∈ middle
  · exact closes
  · have open' : ']' ∉ a.behindHost := by simp [behind, cut, closes, clean]
    have few := a.colons_le_one_behind text open' unnamed.2
    rw [behind, cut, List.count_cons_self, List.count_append, List.count_cons_self] at few
    omega

/-- What is read is what is written, or the end of it behind brackets. -/
theorem portText_of_port? (wrote : a.writtenPort? = some written) (read : a.port? = some n) :
    PortText written n ∨ ∃ before last, written = before ++ ":" ++ last ∧ ']' ∈ before.toList ∧
      PortText last n := by
  obtain ⟨middle, port, behind, numeral, small⟩ := port?_eq_some_iff.mp read
  rw [behindHost_of_written wrote] at behind
  cases middle with
  | nil =>
      obtain rfl := (List.cons.inj behind).2
      exact .inl ⟨numeral, small⟩
  | cons first middle =>
      have cut : written.toList = middle ++ ':' :: port := (List.cons.inj behind).2
      have closes := closes_of_written wrote cut (numeral.not_mem (by decide) (by decide))
      refine .inr ⟨String.ofList middle, String.ofList port, ?_, ?_, ?_⟩
      · rw [← String.toList_inj, cut]
        simp
      · rwa [String.toList_ofList]
      · exact ⟨by rwa [String.toList_ofList], small⟩

theorem port?_of_unwritten (nothing : a.behindHost = [] ∨ a.behindHost = [':']) : a.port? = none := by
  rw [Option.eq_none_iff_forall_ne_some]
  intro n read
  obtain ⟨middle, port, behind, numeral, -⟩ := port?_eq_some_iff.mp read
  have empty : port = [] := by
    rcases nothing with none | colon
    · simp [none] at behind
    · rw [colon] at behind
      cases middle with
      | nil => exact (List.cons.inj behind).2.symm
      | cons first middle => simp at behind
  exact numeral.ne_nil empty

end Http.Authority

/-! ## Addresses -/

/-- A text is read as a parent only if there is a host in it. -/
theorem exists_authority_of_readParent {text : String} {parent : Uri}
    (read : Config.readParent text = .ok parent) : ∃ a, parent.authority? = some a := by
  unfold Config.readParent at read
  obtain ⟨uri, -, read⟩ := bind_eq_ok_iff.mp read
  simp only at read
  split at read
  · exact nomatch read
  rename_i hosted
  have same : uri = parent := by
    split at read
    · exact Except.ok.inj read
    · exact Except.ok.inj read
    · exact nomatch read
  rw [Uri.host?, Option.isNone_map, Option.isNone_iff_eq_none] at hosted
  exact same ▸ Option.ne_none_iff_exists'.mp hosted

/-- A parent that a configuration names has an authority. -/
theorem exists_authority_of_parentProxy {config : Config} {parent : Uri}
    (named : config.parentProxy = .ok (some parent)) : ∃ a, parent.authority? = some a := by
  unfold Config.parentProxy at named
  cases chosen : config.parent with
  | none =>
      rw [chosen] at named
      exact nomatch named
  | some text =>
      rw [chosen, Option.mapM_some] at named
      cases read : Config.readParent text with
      | error fault =>
          rw [read] at named
          exact nomatch named
      | ok uri =>
          rw [read] at named
          cases named
          exact exists_authority_of_readParent read

/-- What becomes of the text in the place of a port. -/
structure Ported (uri : Uri) (a : Authority) (defaultPort port : Nat) : Prop where
  addr : authorityWithPort uri defaultPort = .ok (a.host ++ ":" ++ toString port)
  /-- The port is the one that is written if that is a port. -/
  kept : ∀ written, a.writtenPort? = some written → (PortText written port ↔ ∃ n, PortText written n)
  /-- Any other text is passed over, or all but the end of it, if brackets are in it. -/
  replaced : ∀ written, a.writtenPort? = some written → (∀ n, ¬ PortText written n) →
    port = impliedPort uri defaultPort ∨ ∃ before last, written = before ++ ":" ++ last ∧
      ']' ∈ before.toList ∧ PortText last port
  filled : a.behindHost = [] ∨ a.behindHost = [':'] → port = impliedPort uri defaultPort

theorem ported_of_authority {uri : Uri} {a : Authority} (there : uri.authority? = some a)
    (defaultPort : Nat) :
    Ported uri a defaultPort (a.port?.getD (impliedPort uri defaultPort)) where
  addr := authorityWithPort_of_authority there defaultPort
  kept := by
    intro written wrote
    constructor
    · intro text
      exact ⟨_, text⟩
    · rintro ⟨n, text⟩
      rw [Authority.port?_of_portText wrote text]
      exact text
  replaced := by
    intro written wrote other
    cases read : a.port? with
    | none => exact .inl rfl
    | some n => exact .inr ((Authority.portText_of_port? wrote read).resolve_left (other n))
  filled := by
    intro nothing
    rw [Authority.port?_of_unwritten nothing]
    rfl

/-- What an address is made for, and the default port that is given: any target with an authority, one
that goes to the tunnel, and the parent of a configuration. -/
inductive Addressed : Uri → Nat → Prop
  | named (uri : Uri) (a : Authority) (defaultPort : Nat) (there : uri.authority? = some a) :
      Addressed uri defaultPort
  | target (request : Request) (tunnelled : route request = .tunnel) : Addressed request.uri 443
  | parent (config : Config) (parent : Uri) (named : config.parentProxy = .ok (some parent)) :
      Addressed parent 80

theorem Addressed.exists_authority {uri : Uri} {defaultPort : Nat} (addressed : Addressed uri defaultPort) :
    ∃ a, uri.authority? = some a := by
  cases addressed with
  | named uri a defaultPort there => exact ⟨a, there⟩
  | target request tunnelled => exact exists_authority_of_tunnel tunnelled
  | parent config parent named => exact exists_authority_of_parentProxy named

/-- **The port that is written.** Every target with an authority has an address, whatever the default, and
so has what goes to the tunnel and every parent that is configured. If a text stands in the place
of a port, the address has that port if and only if the text is one. Any other text is passed over for a
default, as if nothing were written, or for a port at the end of it, behind brackets. -/
theorem written_port_kept_iff {uri : Uri} {defaultPort : Nat} (addressed : Addressed uri defaultPort) :
    ∃ a port, uri.authority? = some a ∧ Ported uri a defaultPort port := by
  obtain ⟨a, there⟩ := addressed.exists_authority
  exact ⟨a, _, there, ported_of_authority there defaultPort⟩

/-- An authority with a port of its own. -/
def portedAuthority : Authority :=
  ⟨"example.com:8443", by decide, by decide +kernel, by decide +kernel⟩

/-- A port that can be read is kept. -/
theorem written_port_kept_iff_readable : portedAuthority.writtenPort? = some "8443" ∧
    authorityWithPort (.authority portedAuthority) 443 = .ok "example.com:8443" := by
  have wrote : portedAuthority.writtenPort? = some "8443" := by decide +kernel
  obtain ⟨a, port, there, ported⟩ :=
    written_port_kept_iff (.named (.authority portedAuthority) portedAuthority 443 rfl)
  obtain rfl : portedAuthority = a := Option.some.inj there
  have digits : toString 8443 = "8443" := by decide +kernel
  have written : PortText "8443" 8443 := by
    rw [← digits]
    exact portText_toString (by decide)
  obtain rfl : port = 8443 := ((ported.kept _ wrote).mpr ⟨8443, written⟩).1.unique written.1
  have shown : portedAuthority.host ++ ":" ++ toString 8443 = "example.com:8443" := by
    rw [digits]
    decide +kernel
  exact ⟨wrote, ported.addr.trans (congrArg Except.ok shown)⟩

/-- A configuration whose parent has a port that is out of range. -/
def distantParent : Config := { parent := some "http://127.0.0.2:99999/" }

def distantAuthority : Authority :=
  ⟨"127.0.0.2:99999", by decide, by decide +kernel, by decide +kernel⟩

def distantUri : Uri := .absolute .http distantAuthority .slash

/-- An authority with a port that is out of range. -/
def unportedAuthority : Authority :=
  ⟨"example.com:70000", by decide, by decide +kernel, by decide +kernel⟩

def unportedRequest : Request := { uri := .absolute .https unportedAuthority .slash }

/-- Texts that are no port are passed over: in the parent of an accepted configuration, and in a target
that goes to the tunnel. -/
theorem written_port_replaced :
    (distantParent.validate.isOk ∧ distantParent.parentProxy.toOption = some (some distantUri) ∧
      distantUri.authority? = some distantAuthority ∧
      distantAuthority.writtenPort? = some "99999" ∧
      (authorityWithPort distantUri 80).toOption = some "127.0.0.2:80") ∧
    (Uri.parse "https://example.com:70000/").toOption = some unportedRequest.uri ∧
      route unportedRequest = .tunnel ∧
      unportedRequest.uri.authority? = some unportedAuthority ∧
      unportedAuthority.writtenPort? = some "70000" ∧
      (authorityWithPort unportedRequest.uri 443).toOption = some "example.com:443" := by
  refine ⟨⟨?_, ?_, ?_, ?_, ?_⟩, ?_, ?_, ?_, ?_, ?_⟩ <;> decide +kernel

end Interceptor
