/-
# Interceptor.Proofs.Certificate.StrippedTwice — the host a leaf is looked for under, and whom it is made for

The port is taken off a host before a leaf is looked for, and taken off what is left once more
when the leaf is made. The second time changes nothing unless brackets at the front hold a
name with a port of its own (`Wraps`): then the leaf is looked for under the name with its
port, and made for the name without it. It is kept under the keys of the shorter name, where
the longer one does not find it; only an address is kept under what was asked for.

* `stripPort_stripPort_iff`: when stripping a port twice is stripping it once;
* `madeOutTo_of_issue`: whom a new certificate is made out to;
* `mem_cacheKeys_iff`, `exists_candidate_iff`: when a leaf is kept where its host is looked for first, and when
  it is found at all;
* `new_leaf_host_iff`: so, after a call that had a leaf made, the leaf is made out to the host that
  was looked up if and only if nothing is wrapped, and when a repeated call finds it;
* `made_out_elsewhere`: a leaf for another name than the one that was looked up, made once for each call.
-/
import Interceptor.Proofs.Certificate.MixedRoot
import Interceptor.Proofs.Certificate.StableCover

namespace Interceptor

set_option autoImplicit false

open Text Net Certificate HostPort

/-! ## Stripping twice -/

namespace Net.HostPort

/-- Brackets at the front of a text hold a name and a port. -/
inductive Wraps (name port : String) : String → Prop
  | intro (rest : String) (bare : name.toList.head? ≠ some '[') (colonless : ':' ∉ name.toList)
      (alone : ':' ∉ port.toList) (open' : ']' ∉ name.toList ++ ':' :: port.toList) :
      Wraps name port ("[" ++ name ++ ":" ++ port ++ "]" ++ rest)

variable {host name port : String}

theorem stripPort_eq_iff {stripped : String} :
    stripPort host = stripped ↔ stripPortChars host.toList = stripped.toList := by
  rw [stripPort, ← String.toList_inj, String.toList_ofList]

theorem Wraps.stripPort_eq (wraps : Wraps name port host) : stripPort host = name ++ ":" ++ port := by
  obtain ⟨rest, bare, colonless, alone, open'⟩ := wraps
  have whole : "[" ++ name ++ ":" ++ port ++ "]" ++ rest = "[" ++ (name ++ ":" ++ port) ++ "]" ++ rest := by
    simp only [String.append_assoc]
  rw [whole]
  exact stripPort_bracketed (by simpa using open') rest

theorem Wraps.stripPort_inner (wraps : Wraps name port host) : stripPort (name ++ ":" ++ port) = name := by
  obtain ⟨rest, bare, colonless, alone, open'⟩ := wraps
  exact stripPort_plain bare colonless alone

/-- What has neither a bracket at the front nor a colon has no port. -/
theorem stripPortChars_of_colonless {cs : List Char} (bare : cs.head? ≠ some '[') (colonless : ':' ∉ cs) :
    stripPortChars cs = cs := by
  rcases stripPortChars_cases_of_plain bare with ⟨name, port, whole, -⟩ | ⟨-, kept⟩
  · exact absurd (whole ▸ by simp) colonless
  · exact kept

/-- A bracket that is not closed holds nothing. -/
theorem stripPortChars_of_open {rest : List Char} (open' : ']' ∉ rest) :
    stripPortChars ('[' :: rest) = '[' :: rest := by
  simp only [stripPortChars, splitFirst?_eq_none.mpr open']

/-- A text that begins like a name with a port begins like the name. -/
theorem bare_of_append {name port : List Char} (bare : (name ++ ':' :: port).head? ≠ some '[') :
    name.head? ≠ some '[' := by
  intro bracket
  obtain ⟨rest, rfl⟩ := List.head?_eq_some_iff.mp bracket
  exact bare rfl

/-- What brackets hold has no port, unless a name and a port are wrapped in them. -/
theorem stripPortChars_inner_or {inner after : List Char} (whole : host.toList = '[' :: inner ++ ']' :: after)
    (open' : ']' ∉ inner) : stripPortChars inner = inner ∨ ∃ name port, Wraps name port host := by
  by_cases nested : inner.head? = some '['
  · obtain ⟨more, rfl⟩ := List.head?_eq_some_iff.mp nested
    exact .inl (stripPortChars_of_open fun closing => open' (List.mem_cons_of_mem _ closing))
  · rcases stripPortChars_cases_of_plain nested with ⟨name, port, rfl, colonless, alone, -⟩ | ⟨-, kept⟩
    · refine .inr ⟨String.ofList name, String.ofList port, ?_⟩
      have same : host = "[" ++ String.ofList name ++ ":" ++ String.ofList port ++ "]" ++
          String.ofList after := by
        rw [← String.toList_inj, whole]
        simp
      rw [same]
      apply Wraps.intro
      · simpa using bare_of_append nested
      · simpa using colonless
      · simpa using alone
      · simpa using open'
    · exact .inl kept

/-- What is left without the port has no port itself, unless it was wrapped. -/
theorem stripPort_stripPort_or (host : String) :
    stripPort (stripPort host) = stripPort host ∨ ∃ name port, Wraps name port host := by
  rw [stripPort_eq_iff, toList_stripPort]
  by_cases bracketed : host.toList.head? = some '['
  · obtain ⟨rest, whole⟩ := List.head?_eq_some_iff.mp bracketed
    rw [whole]
    cases cut : splitFirst? ']' rest with
    | none =>
        have kept := stripPortChars_of_open (splitFirst?_eq_none.mp cut)
        rw [kept]
        exact .inl kept
    | some parts =>
        obtain ⟨inner, after⟩ := parts
        rw [stripPortChars_of_bracket cut]
        rw [append_of_splitFirst? cut] at whole
        exact stripPortChars_inner_or whole (not_mem_of_splitFirst? cut)
  · left
    rcases stripPortChars_cases_of_plain bracketed with ⟨name, port, whole, colonless, -, stripped⟩ | ⟨-, kept⟩
    · rw [stripped]
      exact stripPortChars_of_colonless (bare_of_append (whole ▸ bracketed)) colonless
    · rw [kept]
      exact kept

theorem stripPort_stripPort_iff :
    stripPort (stripPort host) = stripPort host ↔ ¬ ∃ name port, Wraps name port host := by
  constructor
  · rintro same ⟨name, port, wraps⟩
    rw [wraps.stripPort_eq, wraps.stripPort_inner] at same
    have longer := congrArg String.length same
    rw [String.length_append, String.length_append] at longer
    have colon : ":".length = 1 := by decide
    omega
  · intro unwrapped
    exact (stripPort_stripPort_or host).resolve_right unwrapped

/-- The name in brackets has no colon, unlike the name with its port. -/
theorem Wraps.colonless (wraps : Wraps name port host) : ':' ∉ name.toList := by
  obtain ⟨rest, bare, colonless, alone, open'⟩ := wraps
  exact colonless

end Net.HostPort

/-! ## Whom a certificate is made out to -/

namespace Certificate

/-- The subject, the serial number and the names of a certificate are those for a host. -/
structure MadeOutTo (certificate : Certificate) (host : String) : Prop where
  commonName : certificate.subject.commonName? = some host
  serial : certificate.serial = (serialFor host).toNat
  altNames : certificate.altNames = ((SubjectNames.forHost host).ip.map AltName.ip).toList ++
    (SubjectNames.forHost host).dns.map AltName.dns

theorem MadeOutTo.unique {certificate : Certificate} {host other : String}
    (made : certificate.MadeOutTo host) (again : certificate.MadeOutTo other) : host = other :=
  Option.some.inj (made.commonName.symm.trans again.commonName)

theorem commonName?_ofNames (organization commonName : String) :
    (DistinguishedName.ofNames organization commonName).commonName? = some commonName := by
  have valid : commonName.toByteArray.IsValidUTF8 := commonName.isValidUTF8
  have there : DistinguishedName.textTag ∈ DistinguishedName.readableTags := by decide
  have apart : DistinguishedName.organizationKind ≠ DistinguishedName.commonNameKind := by decide
  simp [DistinguishedName.commonName?, DistinguishedName.text?, DistinguishedName.ofNames, apart, there,
    ByteArray.toList, toList_loop, String.fromUTF8?, String.fromUTF8, valid]

namespace CertificateAuthority

/-- A new leaf is made out to the host without its port. -/
theorem madeOutTo_of_issue {a : CertificateAuthority} {host : String} {now : Nat} {fresh : KeyPair}
    {leaf : Leaf} (issued : (a.issue host now fresh).1 = .ok leaf) :
    leaf.certificate.MadeOutTo (stripPort host) := by
  unfold issue at issued
  simp only at issued
  split at issued
  · exact nomatch issued
  · rename_i certificate made
    cases issued
    have written := altNames_eq (altNames_of_leafCertificate made)
    unfold leafCertificate at made
    split at made
    · exact nomatch made
    · split at made
      · exact nomatch made
      · split at made
        · exact nomatch made
        · cases made
          exact ⟨commonName?_ofNames _ _, rfl, written⟩

/-! ## Where it is found -/

variable {a : CertificateAuthority}

/-- Where nothing was found, a new leaf is found under the names that are among its keys. -/
theorem find?_adding_iff (caching : a.cache.isSome) {names : List String} (missing : a.find? names = none)
    (leaf : Leaf) (keys : List String) :
    (a.adding leaf keys).find? names = some leaf ↔ ∃ name ∈ names, name ∈ keys := by
  have before : ∀ name ∈ names, a.cached? name = none := List.findSome?_eq_none_iff.mp missing
  have found : ∀ name ∈ names, (a.adding leaf keys).cached? name = if name ∈ keys then some leaf else none := by
    intro name member
    rw [cached?_adding caching, before name member]
  constructor
  · intro there
    obtain ⟨name, member, kept⟩ := List.exists_of_findSome?_eq_some there
    rw [found name member] at kept
    split at kept
    · rename_i key
      exact ⟨name, member, key⟩
    · exact nomatch kept
  · rintro ⟨name, member, key⟩
    have some' : ((a.adding leaf keys).find? names).isSome := by
      refine List.findSome?_isSome_iff.mpr ⟨name, member, ?_⟩
      rw [found name member, if_pos key]
      rfl
    obtain ⟨other, there⟩ := Option.isSome_iff_exists.mp some'
    obtain ⟨name', member', kept⟩ := List.exists_of_findSome?_eq_some there
    rw [found name' member'] at kept
    split at kept
    · rw [there, ← kept]
    · exact nomatch kept

end CertificateAuthority

namespace SubjectNames

variable {host asked key : String}

/-- A name that is joined from the last labels of another is its end. -/
theorem joinWith_isSuffix {parts whole : List (List Char)} (some : parts ≠ []) (under : parts <:+ whole) :
    joinWith ['.'] parts <:+ joinWith ['.'] whole := by
  induction whole with
  | nil => exact absurd (List.suffix_nil.mp under) some
  | cons first others ih =>
      rcases List.suffix_cons_iff.mp under with rfl | deeper
      · exact List.suffix_rfl
      · have more : others ≠ [] := by
          rintro rfl
          exact some (List.suffix_nil.mp deeper)
        rw [joinWith_cons _ _ more]
        exact (ih deeper).trans (List.suffix_append _ _)

/-- The keys of a name are ends of it. -/
theorem isSuffix_of_key (named : IpAddr.parse? host = none)
    (member : key ∈ (forHost host).cacheKeys asked) : key.toList <:+ host.toList := by
  rcases (mem_cacheKeys_of_name named).mp member with ⟨under, -⟩ | ⟨-, same⟩
  · have joined := joinWith_isSuffix (splitAll_ne_nil key.toList) under
    rwa [joinWith_splitAll, labels, joinWith_splitAll] at joined
  · rcases withoutWildcard_cases host with plain | marked
    · obtain rfl := same.trans plain
      exact List.suffix_rfl
    · refine ⟨"*.".toList, ?_⟩
      rw [same, ← String.toList_append, ← marked]

/-- The one key of a single label is the label. -/
theorem eq_of_key_single (named : IpAddr.parse? host = none) (single : '.' ∉ host.toList)
    (member : key ∈ (forHost host).cacheKeys asked) : key = host := by
  have one : labels host.toList = [host.toList] := splitAll_of_not_mem single
  rcases (mem_cacheKeys_of_name named).mp member with ⟨under, long⟩ | ⟨-, same⟩
  · have short := under.length_le
    rw [one, List.length_singleton] at short
    omega
  · rw [same]
    apply withoutWildcard_of_short
    rw [one]
    exact Nat.le_refl 1

/-- A leaf is kept under what was asked for if stripping it once more changes nothing, or gives an
address. -/
theorem mem_cacheKeys_iff : asked ∈ (forHost (stripPort asked)).cacheKeys asked ↔
    stripPort asked = asked ∨ (IpAddr.parse? (stripPort asked)).isSome := by
  cases literal : IpAddr.parse? (stripPort asked) with
  | some ip => simp [mem_cacheKeys_of_ip literal]
  | none =>
      simp only [Option.isSome_none, Bool.false_eq_true, or_false]
      constructor
      · intro own
        -- a key is no longer than the name it is for
        have short := (isSuffix_of_key literal own).length_le
        rw [toList_stripPort] at short
        rw [stripPort_eq_iff]
        rcases stripPortChars_cases asked.toList with kept | ⟨port, whole, -⟩ | ⟨rest, whole, -⟩
        · exact kept
        · have length := congrArg List.length whole
          simp only [List.length_append, List.length_cons] at length
          omega
        · have length := congrArg List.length whole
          simp only [List.length_append, List.length_cons] at length
          omega
      · intro same
        rw [same]
        exact mem_own_keys asked

/-- The only key of a name that the name with a port is looked for under is the name. -/
theorem eq_of_candidate_key {name port candidate : String} (named : IpAddr.parse? name = none)
    (colonless : ':' ∉ name.toList) (member : candidate ∈ lookupCandidates (name ++ ":" ++ port))
    (key : candidate ∈ (forHost name).cacheKeys asked) : candidate = name := by
  have clear : ':' ∉ candidate.toList := fun colon => colonless ((isSuffix_of_key named key).subset colon)
  rcases List.mem_cons.mp member with rfl | above
  · exact absurd (by simp) clear
  · rw [Option.mem_toList, Option.filter_eq_some_iff] at above
    obtain ⟨first, whole, clean⟩ := append_of_parent above.1
    have cut : name.toList ++ ':' :: port.toList = first ++ '.' :: candidate.toList := by
      rw [← whole]
      simp
    rcases cut_before_or_after (by decide) clean cut with ⟨rest, longer⟩ | ⟨single, -⟩
    · -- then the colon is behind the point, in the parent
      have behind : rest ++ ':' :: port.toList = candidate.toList := by
        rw [longer, List.append_assoc, List.append_cancel_left_eq, List.cons_append] at cut
        exact (List.cons.inj cut).2
      exact absurd (behind ▸ by simp) clear
    · exact eq_of_key_single named single key

/-- A leaf is found by what was asked for if its host is among the names that this is looked for under, or is
an address. -/
theorem exists_candidate_iff (host : String) :
    (∃ name ∈ lookupCandidates (stripPort host),
        name ∈ (forHost (stripPort (stripPort host))).cacheKeys (stripPort host)) ↔
      stripPort (stripPort host) ∈ lookupCandidates (stripPort host) ∨
        (IpAddr.parse? (stripPort (stripPort host))).isSome := by
  rcases stripPort_stripPort_or host with same | ⟨name, port, wraps⟩
  · have own := mem_own_keys (stripPort host)
    rw [same]
    refine iff_of_true ⟨stripPort host, List.mem_cons_self, own⟩ (.inl List.mem_cons_self)
  · have inner := wraps.stripPort_inner
    rw [wraps.stripPort_eq, inner]
    cases literal : IpAddr.parse? name with
    | some ip =>
        refine iff_of_true ⟨name ++ ":" ++ port, List.mem_cons_self, ?_⟩ (.inr rfl)
        exact (mem_cacheKeys_of_ip literal).mpr rfl
    | none =>
        simp only [Option.isSome_none, Bool.false_eq_true, or_false]
        constructor
        · rintro ⟨candidate, member, key⟩
          rwa [eq_of_candidate_key literal wraps.colonless member key] at member
        · intro member
          refine ⟨name, member, ?_⟩
          have own := mem_own_keys name
          rw [mem_cacheKeys_of_name literal] at own ⊢
          exact own

end SubjectNames

namespace LeafCall

/-- **The host of a new leaf.** When a call finds nothing under its host and has a leaf made, the leaf is
made out to the host with the port taken off once more. That is the host that was looked up unless
brackets hold a name with a port; then it is the name. The leaf is kept under the host that was looked up
only if it is for this host, or for an address; and a repeated call finds it if and only if its host is among
the names that are looked up, or is an address. -/
theorem new_leaf_host_iff {a : CertificateAuthority} (caching : a.cache.isSome) {call : LeafCall}
    (missing : a.find? (lookupCandidates call.bare) = none) {leaf : Leaf}
    (served : (call.answer a).1 = .ok leaf) :
    leaf.host = stripPort call.bare ∧ leaf.certificate.MadeOutTo (stripPort call.bare) ∧
    (leaf.certificate.MadeOutTo call.bare ↔ ¬ ∃ name port, Wraps name port call.host) ∧
    (∀ name port, Wraps name port call.host →
      call.bare = name ++ ":" ++ port ∧ stripPort call.bare = name) ∧
    ((call.answer a).2.cached? call.bare = some leaf ↔
      (¬ ∃ name port, Wraps name port call.host) ∨ (IpAddr.parse? (stripPort call.bare)).isSome) ∧
    ∀ again : LeafCall, again.host = call.host →
      (again.answer (call.answer a).2 = (.ok leaf, (call.answer a).2) ↔
        stripPort call.bare ∈ lookupCandidates call.bare ∨
          (IpAddr.parse? (stripPort call.bare)).isSome) := by
  obtain ⟨issued, after⟩ := answer_of_missing missing served
  have made := CertificateAuthority.issue_ok issued
  have madeOut := CertificateAuthority.madeOutTo_of_issue issued
  have unwrapped : stripPort call.bare = call.bare ↔ ¬ ∃ name port, Wraps name port call.host :=
    stripPort_stripPort_iff
  refine ⟨made.host, madeOut, ?_, ?_, ?_, ?_⟩
  · rw [← unwrapped]
    constructor
    · intro own
      exact madeOut.unique own
    · intro same
      rwa [same] at madeOut
  · intro name port wraps
    have stripped : call.bare = name ++ ":" ++ port := wraps.stripPort_eq
    exact ⟨stripped, stripped ▸ wraps.stripPort_inner⟩
  · have before : a.cached? call.bare = none :=
      List.findSome?_eq_none_iff.mp missing call.bare List.mem_cons_self
    rw [after, CertificateAuthority.cached?_adding caching, before, made.names, ← unwrapped,
      ← SubjectNames.mem_cacheKeys_iff]
    split <;> simp [*]
  · intro again repeated
    have same : again.bare = call.bare := congrArg stripPort repeated
    rw [answer_eq_iff, same, after, CertificateAuthority.find?_adding_iff caching missing, made.names]
    exact SubjectNames.exists_candidate_iff call.host

/-- An address with a port, in brackets with another port behind them. -/
def wrappedAddress : LeafCall := ⟨"[10.0.0.1:8443]:443", 0, sampleKey⟩

/-- Its leaf is for the address, not for the host that was looked up, and is found there again. -/
theorem new_leaf_host_iff_address : sampleAuthority.find? (lookupCandidates wrappedAddress.bare) = none ∧
    ∃ leaf, (wrappedAddress.answer sampleAuthority).1 = .ok leaf ∧
      wrappedAddress.bare = "10.0.0.1:8443" ∧ leaf.host = "10.0.0.1" ∧
      ¬ leaf.certificate.MadeOutTo wrappedAddress.bare ∧
      wrappedAddress.answer (wrappedAddress.answer sampleAuthority).2 =
        (.ok leaf, (wrappedAddress.answer sampleAuthority).2) := by
  have missing : sampleAuthority.find? (lookupCandidates wrappedAddress.bare) = none := by decide +kernel
  have given : (wrappedAddress.answer sampleAuthority).1.toOption.any fun _ => true := by decide +kernel
  obtain ⟨leaf, served, -⟩ := exists_of_any given
  obtain ⟨host, -, own, inner, -, again⟩ := new_leaf_host_iff rfl missing served
  have wraps : Wraps "10.0.0.1" "8443" wrappedAddress.host :=
    .intro ":443" (by decide) (by decide) (by decide) (by decide)
  obtain ⟨bare, stripped⟩ := inner _ _ wraps
  refine ⟨missing, leaf, served, bare, host.trans stripped, ?_, ?_⟩
  · intro madeOut
    exact own.mp madeOut ⟨_, _, wraps⟩
  · refine (again wrappedAddress rfl).mpr (.inr ?_)
    rw [stripped]
    decide +kernel

/-- A name with a port, in brackets with another port behind them. -/
def wrappedName : LeafCall := ⟨"[a:80]:443", 0, sampleKey⟩

/-- Its leaf is for the name, is not kept under the host that was looked up, and is made anew when the
call is repeated. -/
theorem made_out_elsewhere : wrappedName.bare = "a:80" ∧
    sampleAuthority.find? (lookupCandidates wrappedName.bare) = none ∧
    (∃ leaf, (wrappedName.answer sampleAuthority).1 = .ok leaf ∧ leaf.certificate.MadeOutTo "a" ∧
      ¬ leaf.certificate.MadeOutTo wrappedName.bare) ∧
    (wrappedName.answer sampleAuthority).2.cached? wrappedName.bare = none ∧
    (wrappedName.answer sampleAuthority).2.issued = 1 ∧
    (wrappedName.answer (wrappedName.answer sampleAuthority).2).2.issued = 2 := by
  have bare : wrappedName.bare = "a:80" := by decide +kernel
  have missing : sampleAuthority.find? (lookupCandidates wrappedName.bare) = none := by decide +kernel
  refine ⟨bare, missing, ?_, by decide +kernel, by decide +kernel, by decide +kernel⟩
  have given : (wrappedName.answer sampleAuthority).1.toOption.any fun _ => true := by decide +kernel
  obtain ⟨leaf, served, -⟩ := exists_of_any given
  have madeOut := CertificateAuthority.madeOutTo_of_issue (answer_of_missing missing served).1
  have stripped : stripPort wrappedName.bare = "a" := by decide +kernel
  rw [stripped] at madeOut
  refine ⟨leaf, served, madeOut, ?_⟩
  intro own
  exact absurd (madeOut.unique (bare ▸ own)) (by decide)

end LeafCall

end Certificate

end Interceptor
