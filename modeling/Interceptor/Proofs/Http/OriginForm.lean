/-
# Interceptor.Proofs.Http.OriginForm — from a target to its origin form, and back

A request that is read inside TLS has a target without an origin and is given one; to send it
inside TLS its origin is taken off again. The first is put together from parts, and the second
reads what is left of the target as a text.

* `ofText?_text`: an authority may always stand in a `Host` field;
* `on_toOriginForm_ok`, `on_toOriginForm_error`: what taking the origin off does;
* `origin_form_iff`: it does what it should if and only if the path and the query stand alone; a query
  without a path is refused;
* `origin_restored`: what was named inside TLS is the request it was, but for a `Host` field that
  was missing; and what cannot be named is left as it is;
* `origin_form_refused`: a target that is accepted, and refused in its origin form.
-/
import Interceptor.Proofs.Http.AuthorityText
import Interceptor.Proofs.Http.TargetText
import Interceptor.Routing

namespace Interceptor

set_option autoImplicit false

open Text Http

namespace Http

/-! ## The `Host` field -/

theorem HeaderValue.isVisibleByte_of_isVisible {c : Char} (visible : IsVisible c) :
    isVisibleByte c.toUInt8 = true := by
  have value : c.toUInt8.toNat = c.toNat := by
    have small : c.toNat < 256 := Nat.lt_of_le_of_lt visible.2 (by decide)
    exact Nat.mod_eq_of_lt small
  have low : (32 : UInt8) ≤ c.toUInt8 := by
    rw [UInt8.le_iff_toNat_le, value]
    exact Nat.le_trans (by decide) visible.1
  have high : c.toUInt8 < (127 : UInt8) := by
    rw [UInt8.lt_iff_toNat_lt, value]
    exact Nat.lt_succ_of_le visible.2
  simp [isVisibleByte, low, high]

/-- A visible text may stand in a field. -/
theorem HeaderValue.ofText?_of_isVisible {text : String} (visible : ∀ c ∈ text.toList, IsVisible c) :
    ofText? text = some ⟨text.toUTF8.toList⟩ := by
  have all : text.toUTF8.toList.all isVisibleByte = true := by
    rw [toUTF8_toList, List.all_eq_true]
    intro byte member
    obtain ⟨c, there, encoded⟩ := List.mem_flatMap.mp member
    have ascii : c.toNat < 128 := Nat.lt_of_le_of_lt (visible c there).2 (by decide)
    rw [utf8EncodeChar_of_ascii ascii, List.mem_singleton] at encoded
    rw [encoded]
    exact isVisibleByte_of_isVisible (visible c there)
  exact if_pos all

theorem Authority.ofText?_text (a : Authority) :
    HeaderValue.ofText? a.text = some ⟨a.text.toUTF8.toList⟩ :=
  HeaderValue.ofText?_of_isVisible fun _ => a.visible

namespace Headers

variable (h : Headers)

theorem contains_eq (name : HeaderName) : h.contains name = (h.get? name).isSome := by
  rw [get?, values, List.head?_map, Option.isSome_map, List.head?_filter, Bool.eq_iff_iff,
    List.find?_isSome, contains, List.any_eq_true]

/-- A name that is missing is added at the end. -/
theorem insert_of_missing {name : HeaderName} (value : HeaderValue) (missing : h.contains name = false) :
    h.insert name value = h.append name value := by
  have other : ∀ field ∈ h.fields, decide (field.1 ≠ name) = true := by
    simpa [contains] using missing
  rw [insert, erase, List.filter_eq_self.mpr other]

/-- The same with the authority in a `Host` field, unless there is one. -/
def withHost (authority : Authority) : Headers :=
  if h.contains .host then h else h.append .host ⟨authority.text.toUTF8.toList⟩

theorem withHost_of_some {value : HeaderValue} (there : h.get? .host = some value)
    (authority : Authority) : h.withHost authority = h := by
  rw [withHost, contains_eq, there]
  rfl

theorem withHost_of_none (missing : h.get? .host = none) (authority : Authority) :
    h.withHost authority = h.append .host ⟨authority.text.toUTF8.toList⟩ := by
  rw [withHost, contains_eq, missing]
  rfl

end Headers

end Http

/-! ## Taking the origin off -/

section Rewriting

variable {request : Request} {authority : Authority} {scheme : Scheme} {target : PathAndQuery}

theorem on_fillHost (there : request.uri.authority? = some authority) :
    fillHost.on request =
      (.ok (), { request with headers := request.headers.withHost authority }) := by
  unfold Headers.withHost
  split
  · rename_i contained
    exact on_fillHost_of_contains contained
  · rename_i missing
    rw [Bool.not_eq_true] at missing
    rw [on_fillHost_of_missing missing there authority.ofText?_text,
      request.headers.insert_of_missing _ missing]

theorem on_toOriginForm_ok {uri : Uri} (aimed : request.uri = .absolute scheme authority target)
    (read : Uri.parse target.written = .ok uri) : toOriginForm.on request =
      (.ok (), { request with uri, headers := request.headers.withHost authority }) := by
  have named : request.uri.authority? = some authority := by rw [aimed]; rfl
  rw [toOriginForm, Rewrite.on_bind _ _ (on_fillHost named), Rewrite.on_get]
  simp [aimed, Uri.pathAndQuery?, read]

theorem on_toOriginForm_error {e : UriError} (aimed : request.uri = .absolute scheme authority target)
    (unread : Uri.parse target.written = .error e) : toOriginForm.on request =
      (.error (.invalidTarget request.uri.render),
        { request with headers := request.headers.withHost authority }) := by
  have named : request.uri.authority? = some authority := by rw [aimed]; rfl
  rw [toOriginForm, Rewrite.on_bind _ _ (on_fillHost named), Rewrite.on_get]
  simp [aimed, Uri.pathAndQuery?, unread]

end Rewriting

/-- **The origin form of a request.** It has the path and the query of the request and nothing else of its
target, `/` for an empty path, and the authority in a `Host` field unless there is one; all else is as it
was. That is what sending gives if and only if the path and the query stand alone. Those of a
target that was read do, unless there is a query without a path; and that one is refused. -/
theorem origin_form_iff {request : Request} {scheme : Scheme} {authority : Authority}
    {target : PathAndQuery} (aimed : request.uri = .absolute scheme authority target) :
    (toOriginForm.on request = (.ok (), { request with
      uri := .origin target.rooted, headers := request.headers.withHost authority }) ↔
        target.StandsAlone) ∧
    (∀ text uri, Uri.parse text = .ok uri → uri.pathAndQuery? = some target →
      (target.StandsAlone ↔ (target.path = "" → target.query = none))) ∧
    ∀ query, target.path = "" → target.query = some query → toOriginForm.on request =
      (.error (.invalidTarget request.uri.render),
        { request with headers := request.headers.withHost authority }) := by
  refine ⟨⟨?_, ?_⟩, ?_, ?_⟩
  · intro sent
    cases read : Uri.parse target.written with
    | error e =>
        rw [on_toOriginForm_error aimed read] at sent
        exact nomatch congrArg Prod.fst sent
    | ok uri =>
        rw [on_toOriginForm_ok aimed read] at sent
        have same : uri = .origin target.rooted := congrArg (·.2.uri) sent
        exact PathAndQuery.standsAlone_of_parse (same ▸ read)
  · intro alone
    exact on_toOriginForm_ok aimed (PathAndQuery.parse_written alone)
  · intro text uri read there
    exact PathAndQuery.standsAlone_iff read there
  · intro query empty some
    obtain ⟨e, unread⟩ := PathAndQuery.parse_written_of_query empty some
    exact on_toOriginForm_error aimed unread

/-- An authority without a port. -/
def hostAlone : Authority := ⟨"example.com", by decide, by decide +kernel, by decide +kernel⟩

/-- A request for nothing but an authority. -/
def pathless : Request := { uri := .absolute .https hostAlone ⟨"", none, by decide, by decide⟩ }

/-- It is sent with the path `/`, and its authority in `Host`. -/
theorem origin_form_iff_pathless : (Uri.parse "https://example.com").toOption = some pathless.uri ∧
    toOriginForm.on pathless = (.ok (), { pathless with
      uri := .origin .slash, headers := pathless.headers.withHost hostAlone }) := by
  have read : Uri.parse "https://example.com" = .ok pathless.uri := rfl
  have aimed : pathless.uri = .absolute .https hostAlone ⟨"", none, by decide, by decide⟩ := rfl
  obtain ⟨sent, alone, -⟩ := origin_form_iff aimed
  have stands := (alone _ _ read rfl).mpr fun _ => rfl
  exact ⟨congrArg Except.toOption read, sent.mpr stands⟩

/-- A request for a query without a path. -/
def askingOnly : Request :=
  { uri := .absolute .https hostAlone ⟨"", some "q=1", by decide, by decide +kernel⟩ }

/-- A target that is accepted, and refused in its origin form. -/
theorem origin_form_refused : (Uri.parse "https://example.com?q=1").toOption = some askingOnly.uri ∧
    (toOriginForm.on askingOnly).1.isOk = false := by
  constructor <;> decide +kernel

/-! ## There and back -/

/-- A request is named from its `Host` field if that can be read, and else from where the tunnel goes. -/
theorem on_nameOrigin_ok {request : Request} {target : String} {path : PathAndQuery}
    (origin : request.uri = .origin path) {authority : Authority}
    (named : Authority.parse (request.headers.hostText?.getD target) = .ok authority) :
    (nameOrigin target).on request =
      (.ok (), { request with uri := .absolute .https authority path }) := by
  rw [on_nameOrigin, named, origin]
  rfl

/-- What cannot be named is left as it is. -/
theorem eq_of_on_nameOrigin_error {request after : Request} {target : String} {e : ProxyError}
    (failed : (nameOrigin target).on request = (.error e, after)) : after = request := by
  rw [on_nameOrigin] at failed
  cases parsed : Authority.parse (request.headers.hostText?.getD target) with
  | error unread =>
      rw [parsed] at failed
      exact (congrArg Prod.snd failed).symm
  | ok authority =>
      rw [parsed] at failed
      exact nomatch congrArg Prod.fst failed

/-- With an authority to name it, a request for a path from the root comes back with it in `Host`. -/
theorem restored_of_named {request : Request} {text target : String} {authority : Authority}
    (read : Uri.parse text = .ok request.uri) (root : text.toList.head? = some '/')
    (named : Authority.parse (request.headers.hostText?.getD target) = .ok authority) :
    ∃ aimed, (nameOrigin target).on request = (.ok (), aimed) ∧
      toOriginForm.on aimed =
        (.ok (), { request with headers := request.headers.withHost authority }) := by
  obtain ⟨path, origin, some, alone⟩ := PathAndQuery.exists_root_of_parse read root
  have back := PathAndQuery.parse_written alone
  rw [PathAndQuery.rooted_of_path some, ← origin] at back
  exact ⟨_, on_nameOrigin_ok origin named, on_toOriginForm_ok rfl back⟩

/-- **A request that was read inside TLS is sent inside TLS as it was.** It is named from its first
`Host` field if that can be read, and else from where the tunnel goes; where both are authorities,
taking its origin off again gives the request back, with the target of the tunnel in a `Host` field that was
missing. Where it cannot be named it is left as it is. -/
theorem origin_restored {request : Request} {text target : String}
    (read : Uri.parse text = .ok request.uri) (root : text.toList.head? = some '/')
    (valid : (Authority.parse target).isOk) :
    (∀ value, request.headers.get? .host = some value →
      (∀ host, value.text? = some host → (Authority.parse host).isOk) →
        ∃ aimed, (nameOrigin target).on request = (.ok (), aimed) ∧
          toOriginForm.on aimed = (.ok (), request)) ∧
    (request.headers.get? .host = none →
      ∃ aimed, (nameOrigin target).on request = (.ok (), aimed) ∧
        toOriginForm.on aimed = (.ok (), { request with
          headers := request.headers.append .host ⟨target.toUTF8.toList⟩ })) ∧
    ∀ (any : Request) goal e after, (nameOrigin goal).on any = (.error e, after) → after = any := by
  refine ⟨?_, ?_, ?_⟩
  · intro value there readable
    have named : (Authority.parse (request.headers.hostText?.getD target)).isOk = true := by
      rw [Headers.hostText?, there, Option.bind_some]
      cases text : value.text? with
      | none => exact valid
      | some host => exact readable host text
    obtain ⟨authority, named⟩ := isOk_iff_exists.mp named
    have restored := restored_of_named read root named
    rwa [request.headers.withHost_of_some there] at restored
  · intro missing
    obtain ⟨authority, parsed⟩ := isOk_iff_exists.mp valid
    have named : Authority.parse (request.headers.hostText?.getD target) = .ok authority := by
      rw [Headers.hostText?, missing]
      exact parsed
    have restored := restored_of_named read root named
    rwa [request.headers.withHost_of_none missing, Authority.text_of_parse parsed] at restored
  · intro any goal e after failed
    exact eq_of_on_nameOrigin_error failed

/-- A request inside a tunnel, for a path and a query, without a `Host` field. -/
def hostless : Request := { uri := .origin ⟨"/a", some "b", by decide, by decide⟩ }

/-- The same request with one. -/
def hosted : Request :=
  { hostless with headers := hostless.headers.append .host ⟨"example.com:8080".toUTF8.toList⟩ }

/-- Inside a tunnel to an IPv6 address, the one is sent with the address of the tunnel for its `Host`
field, and the other as it is. -/
theorem origin_restored_inside_tunnel : (Uri.parse "/a?b").toOption = some hostless.uri ∧
    (∃ aimed, (nameOrigin "[::1]:443").on hostless = (.ok (), aimed) ∧
      toOriginForm.on aimed = (.ok (), { hostless with
        headers := hostless.headers.append .host ⟨"[::1]:443".toUTF8.toList⟩ })) ∧
    ∃ aimed, (nameOrigin "[::1]:443").on hosted = (.ok (), aimed) ∧
      toOriginForm.on aimed = (.ok (), hosted) := by
  have read : Uri.parse "/a?b" = .ok hostless.uri := rfl
  have valid : (Authority.parse "[::1]:443").isOk := by decide +kernel
  obtain ⟨-, missing, -⟩ := origin_restored read rfl valid
  refine ⟨congrArg Except.toOption read, missing rfl, ?_⟩
  have read : Uri.parse "/a?b" = .ok hosted.uri := rfl
  obtain ⟨present, -, -⟩ := origin_restored read rfl valid
  refine present ⟨"example.com:8080".toUTF8.toList⟩ rfl fun host text => ?_
  have named : HeaderValue.text? ⟨"example.com:8080".toUTF8.toList⟩ = some "example.com:8080" := by
    decide +kernel
  rw [← Option.some.inj (named.symm.trans text)]
  decide +kernel

end Interceptor
