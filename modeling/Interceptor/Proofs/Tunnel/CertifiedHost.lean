/-
# Interceptor.Proofs.Tunnel.CertifiedHost — whom the certificate of a tunnel is for

The host of a target is read twice. Dialing, the delegate and the client take it from
the target: what stands behind the user information, up to a port, without the
brackets of an IPv6 address. The certificate authority takes the text of the
authority and strips a port by its own rule, which knows nothing of user information
and expects brackets at the front. `ShowsHost` says when the two come to the same.

* `stripPortChars_unnamed_iff`, `stripPortChars_named_iff`: when the host is found, without user
  information and with it;
* `certified_host_iff`: for every request that goes to the tunnel, the certificate is for the
  host of its target if and only if the authority shows it. Without user information, and
  with brackets only at the front, it always does;
* `certified_host_login`: user information stands on the certificate in place of the host.
-/
import Interceptor.Proofs.Http.AuthorityText
import Interceptor.Proofs.Tunnel.Grant
import Interceptor.Script

namespace Interceptor

set_option autoImplicit false

open Text Net Http HostPort

namespace Http.Authority

variable {a : Authority} {info : List Char}

/-- The text of an authority shows its host to a reader that strips ports alone. -/
def ShowsHost (a : Authority) : Prop :=
  match a.userInfo? with
  | none => a.text.toList.head? = some '[' ∨ a.text.toList.count ':' ≤ 1
  -- user information hides the host, unless it begins with the same text and a mark behind it
  | some info => (∃ rest, info = '[' :: a.bareHost ++ ']' :: rest) ∨
      a.text.toList.count ':' = 1 ∧ ∃ password, info = a.bareHost ++ ':' :: password

theorem exists_bracketed (bracketed : a.text.toList.head? = some '[') :
    ∃ inner after, a.text.toList = '[' :: inner ++ ']' :: after ∧ ']' ∉ inner ∧
      stripPortChars a.text.toList = inner := by
  obtain ⟨rest, whole⟩ := List.head?_eq_some_iff.mp bracketed
  have closing : ']' ∈ rest := by
    have closes := a.closes_of_opens (whole ▸ List.mem_cons_self)
    rw [whole] at closes
    exact (List.mem_cons.mp closes).resolve_left (by decide)
  cases cut : splitFirst? ']' rest with
  | none => exact absurd closing (splitFirst?_eq_none.mp cut)
  | some parts =>
      refine ⟨parts.1, parts.2, ?_, not_mem_of_splitFirst? cut, ?_⟩
      · rw [whole, append_of_splitFirst? cut, List.cons_append]
      · rw [whole, stripPortChars_of_bracket cut]

/-! ## Without user information -/

theorem stripPortChars_unnamed_iff (unnamed : a.userInfo? = none) :
    stripPortChars a.text.toList = a.bareHost ↔
      a.text.toList.head? = some '[' ∨ a.text.toList.count ':' ≤ 1 := by
  obtain ⟨all, -⟩ := hostPort_of_unnamed unnamed
  by_cases bracketed : a.text.toList.head? = some '['
  · -- both readers take what stands in the brackets
    obtain ⟨inner, after, whole, clean, stripped⟩ := exists_bracketed bracketed
    have host : a.hostChars = '[' :: inner ++ [']'] := by
      simp only [hostChars, all, whole, List.cons_append, splitFirst?_append clean]
    rw [stripped, bareHost, host, unbracket_bracketed]
    simp [bracketed]
  · rw [← all] at bracketed ⊢
    simp only [bracketed, false_or]
    rcases stripPortChars_cases_of_plain bracketed with
      ⟨name, port, whole, clean, alone, stripped⟩ | ⟨several, stripped⟩
    · have colons : a.hostPort.count ':' = 1 := by
        rw [whole, List.count_append, List.count_cons_self, List.count_eq_zero.mpr clean,
          List.count_eq_zero.mpr alone]
      rcases bareHost_cases_of_plain bracketed with ⟨port', whole', clean'⟩ | ⟨none, -⟩
      · have same := eq_of_cut clean clean' (whole.symm.trans whole')
        rw [stripped, colons, same]
        simp
      · exact absurd (whole ▸ by simp) none
    · rw [stripped]
      rcases bareHost_cases_of_plain bracketed with ⟨port, whole, -⟩ | ⟨none, same⟩
      · have longer : a.hostPort ≠ a.bareHost := by
          intro same
          have length := congrArg List.length whole
          rw [same, List.length_append, List.length_cons] at length
          omega
        have some : 0 < a.hostPort.count ':' := List.count_pos_iff.mpr (whole ▸ by simp)
        exact iff_of_false longer (by omega)
      · exact iff_of_true same.symm (by rw [List.count_eq_zero.mpr none]; exact Nat.zero_le 1)

/-! ## With user information -/

theorem sign_not_mem_bareHost (named : a.userInfo? = some info) : '@' ∉ a.bareHost :=
  mt mem_hostPort_of_mem_bareHost (text_of_userInfo? named).2

/-- A mark that stands at most once, and in the user information, is not in the host. -/
theorem not_mem_bareHost (named : a.userInfo? = some info) {mark : Char}
    (once : a.text.toList.count mark ≤ 1) (inside : mark ∈ info) : mark ∉ a.bareHost := by
  intro member
  have front := List.count_pos_iff.mpr inside
  have back := List.count_pos_iff.mpr (mem_hostPort_of_mem_bareHost member)
  rw [(text_of_userInfo? named).1, List.count_append] at once
  have more : a.hostPort.count mark ≤ ('@' :: a.hostPort).count mark := List.count_le_count_cons
  omega

theorem stripPortChars_named_bracketed (named : a.userInfo? = some info)
    (bracketed : a.text.toList.head? = some '[') :
    stripPortChars a.text.toList = a.bareHost ↔ ∃ rest, info = '[' :: a.bareHost ++ ']' :: rest := by
  obtain ⟨whole, -⟩ := text_of_userInfo? named
  obtain ⟨inner, after, cut, clean, stripped⟩ := exists_bracketed bracketed
  obtain ⟨info', rfl⟩ : ∃ info', info = '[' :: info' := by
    rw [whole] at bracketed
    cases info with
    | nil => exact absurd (Option.some.inj bracketed) (by decide)
    | cons first info' => exact ⟨info', congrArg (· :: info') (Option.some.inj bracketed)⟩
  have both : info' ++ '@' :: a.hostPort = inner ++ ']' :: after :=
    (List.cons.inj (whole.symm.trans cut)).2
  rw [stripped]
  rcases cut_before_or_after (by decide) clean both with ⟨rest, rfl⟩ | ⟨open', signed⟩
  · constructor
    · rintro rfl
      exact ⟨rest, rfl⟩
    · rintro ⟨rest', same⟩
      have clean' := not_mem_bareHost named a.closes_le_one (same ▸ by simp)
      exact eq_of_cut clean clean' (List.cons.inj same).2
  · -- what the brackets hold reaches over the sign
    refine iff_of_false ?_ ?_
    · rintro rfl
      exact sign_not_mem_bareHost named signed
    · rintro ⟨rest, same⟩
      rw [List.cons_append] at same
      exact open' ((List.cons.inj same).2 ▸ by simp)

theorem stripPortChars_named_plain (named : a.userInfo? = some info)
    (plain : a.text.toList.head? ≠ some '[') : stripPortChars a.text.toList = a.bareHost ↔
      a.text.toList.count ':' = 1 ∧ ∃ password, info = a.bareHost ++ ':' :: password := by
  obtain ⟨whole, -⟩ := text_of_userInfo? named
  have signless := sign_not_mem_bareHost named
  rcases stripPortChars_cases_of_plain plain with
    ⟨name, port, cut, clean, alone, stripped⟩ | ⟨several, stripped⟩
  · have once : a.text.toList.count ':' = 1 := by
      rw [cut, List.count_append, List.count_cons_self, List.count_eq_zero.mpr clean,
        List.count_eq_zero.mpr alone]
    simp only [stripped, once, true_and]
    rcases cut_before_or_after (by decide) clean (whole.symm.trans cut) with
      ⟨rest, rfl⟩ | ⟨colonless, signed⟩
    · constructor
      · rintro rfl
        exact ⟨rest, rfl⟩
      · rintro ⟨password, same⟩
        have clean' := not_mem_bareHost named (Nat.le_of_eq once) (same ▸ by simp)
        exact eq_of_cut clean clean' same
    · refine iff_of_false ?_ ?_
      · rintro rfl
        exact signless signed
      · rintro ⟨password, rfl⟩
        exact colonless (by simp)
  · rw [stripped]
    refine iff_of_false (fun same => signless ?_) fun shown => several shown.1
    rw [← same, whole]
    simp

theorem stripPortChars_named_iff (named : a.userInfo? = some info) :
    stripPortChars a.text.toList = a.bareHost ↔
      (∃ rest, info = '[' :: a.bareHost ++ ']' :: rest) ∨
        a.text.toList.count ':' = 1 ∧ ∃ password, info = a.bareHost ++ ':' :: password := by
  obtain ⟨whole, -⟩ := text_of_userInfo? named
  by_cases bracketed : a.text.toList.head? = some '['
  · rw [stripPortChars_named_bracketed named bracketed]
    refine (or_iff_left ?_).symm
    rintro ⟨-, password, same⟩
    -- the host would begin with the one bracket that there is
    rw [whole, same] at bracketed
    cases host : a.bareHost with
    | nil =>
        rw [host] at bracketed
        exact absurd (Option.some.inj bracketed) (by decide)
    | cons first rest =>
        rw [host] at bracketed
        obtain rfl : first = '[' := Option.some.inj bracketed
        have inside : '[' ∈ info := same ▸ host ▸ by simp
        exact not_mem_bareHost named a.opens_le_one inside (host ▸ List.mem_cons_self)
  · rw [stripPortChars_named_plain named bracketed]
    refine (or_iff_right ?_).symm
    rintro ⟨rest, same⟩
    rw [whole, same] at bracketed
    exact bracketed rfl

/-- The host is found in the text if and only if the text shows it. -/
theorem stripPort_eq_bareHost_iff (a : Authority) :
    stripPort a.text = String.ofList a.bareHost ↔ a.ShowsHost := by
  unfold ShowsHost
  rw [stripPort, String.ofList_inj]
  cases named : a.userInfo? with
  | none => exact stripPortChars_unnamed_iff named
  | some info => exact stripPortChars_named_iff named

/-- Without user information, and with brackets only at the front, the host is shown. -/
theorem showsHost_of_unnamed (unnamed : a.userInfo? = none)
    (front : '[' ∈ a.text.toList → a.text.toList.head? = some '[') : a.ShowsHost := by
  unfold ShowsHost
  rw [unnamed]
  by_cases opens : '[' ∈ a.text.toList
  · exact .inl (front opens)
  · exact .inr (a.colons_le_one opens (hostPort_of_unnamed unnamed).2)

end Http.Authority

/-! ## The host of a tunnel -/

/-- **Whom the certificate of a tunnel is for.** Every request that goes to the tunnel has an
authority, and the hooks see its host and port. The certificate is for that host, without its
brackets, if and only if the text of the authority shows it; so it is whenever there is no user
information, and no bracket but at the front. -/
theorem certified_host_iff {ν : Type} (ctx : Context ν) (tunnelled : route ctx.request = .tunnel) :
    ∃ authority, ctx.request.uri.authority? = some authority ∧
      ctx.addr = authority.host ++ ":" ++
        toString (ctx.request.uri.port?.getD (if ctx.request.uri.isHttps then 443 else 80)) ∧
      (stripPort (tunnelTarget ctx.request.uri) = String.ofList authority.bareHost ↔
        authority.ShowsHost) ∧
      (authority.userInfo? = none →
        ('[' ∈ authority.text.toList → authority.text.toList.head? = some '[') →
          authority.ShowsHost) := by
  obtain ⟨authority, there⟩ := exists_authority_of_tunnel tunnelled
  have target : tunnelTarget ctx.request.uri = authority.text := by simp only [tunnelTarget, there]
  refine ⟨authority, there, ?_, ?_, Authority.showsHost_of_unnamed⟩
  · simp only [Context.addr, Uri.host?, there, Option.map_some, Option.getD_some]
  · rw [target]
    exact authority.stripPort_eq_bareHost_iff

/-- An IPv6 address with a port. -/
def bracketedAuthority : Authority := ⟨"[::1]:443", by decide, by decide +kernel, by decide +kernel⟩

/-- A host behind user information. -/
def loginAuthority : Authority :=
  ⟨"user@example.com:443", by decide, by decide +kernel, by decide +kernel⟩

/-- A connect request as the hooks see it. -/
def connecting (authority : Authority) : Context Notes :=
  { Context.empty with request := { method := .connect, uri := .authority authority } }

/-- The certificate for a connection to an IPv6 address is for the address, without brackets. -/
theorem certified_host_bracketed :
    route (connecting bracketedAuthority).request = .tunnel ∧
      stripPort (tunnelTarget (.authority bracketedAuthority)) = "::1" := by
  have tunnelled : route (connecting bracketedAuthority).request = .tunnel := by decide +kernel
  obtain ⟨authority, there, -, shown, plain⟩ := certified_host_iff _ tunnelled
  obtain rfl : bracketedAuthority = authority := Option.some.inj there
  refine ⟨tunnelled, (shown.mpr (plain (by decide +kernel) fun _ => by decide +kernel)).trans ?_⟩
  decide +kernel

/-- A connection to a host behind user information is served with a certificate for another name. -/
theorem certified_host_login :
    (Uri.parse "user@example.com:443").toOption = some (.authority loginAuthority) ∧
      route (connecting loginAuthority).request = .tunnel ∧
      (connecting loginAuthority).addr = "example.com:443" ∧
      String.ofList loginAuthority.bareHost = "example.com" ∧
      stripPort (tunnelTarget (.authority loginAuthority)) = "user@example.com" := by
  refine ⟨?_, ?_, ?_, ?_, ?_⟩ <;> decide +kernel

end Interceptor
