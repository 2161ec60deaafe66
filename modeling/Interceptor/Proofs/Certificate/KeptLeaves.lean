/-
# Interceptor.Proofs.Certificate.KeptLeaves — a leaf from the cache covers whom it is served to

A leaf is kept under many names and found again under any of them, by hosts
that it was not made for. What makes this right is an invariant of the cache
alone: a leaf that is kept under a name spans that name (`Kept`). Nothing that
a single step of `serveLeaf` does to the cache breaks it, so it holds however
the steps of connections that are served at the same time fall.

* `serveLeaf_keeps`: one connection keeps the invariant at every step, and
  when it may rely on it, is served with a leaf that spans its host or the
  parent of its host;
* `served_leaf_covers`: with an empty cache at the beginning, every leaf that is
  ever served carries the wildcard on its host's parent.
-/
import Interceptor.Proofs.Certificate.WildcardNames
import Interceptor.Proofs.Tables
import Interceptor.Certificate.Authority
import Interceptor.Strand.Weave

namespace Interceptor.Certificate

set_option autoImplicit false

open Text Net HostPort

namespace Leaf

/-- The names of a leaf stand on its certificate. -/
def Written (leaf : Leaf) : Prop :=
  ∀ name ∈ leaf.names.dns, AltName.dns name ∈ leaf.certificate.altNames

/-- A leaf may be served under a name: it says what it stands for, and spans the name unless that
is an IP address. -/
def Suits (leaf : Leaf) (name : String) : Prop :=
  leaf.Written ∧ (IpAddr.parse? name = none → leaf.names.Spans name)

/-- A leaf as it is made for a host: its names are the host's, and stand on its certificate. -/
structure MadeFor (leaf : Leaf) (asked : String) : Prop where
  host : leaf.host = asked
  names : leaf.names = SubjectNames.forHost asked
  altNames : leaf.certificate.altNames =
    (leaf.names.ip.map AltName.ip).toList ++ leaf.names.dns.map AltName.dns

theorem MadeFor.written {leaf : Leaf} {asked : String} (made : leaf.MadeFor asked) :
    leaf.Written := by
  intro name member
  rw [made.altNames]
  exact List.mem_append_right _ (List.mem_map_of_mem member)

end Leaf

/-! ## Looking and keeping -/

theorem LeafCache.get?_set (cache : LeafCache) (name other : String) (leaf : Leaf) :
    (cache.set name leaf).get? other = if other = name then some leaf else cache.get? other :=
  lookup_put cache.entries name other leaf

namespace CertificateAuthority

theorem cached?_keep_eq {a : CertificateAuthority} (caching : a.cache.isSome)
    (name other : String) (leaf : Leaf) : (a.keep name leaf).cached? other =
      if other = name then some leaf else a.cached? other := by
  obtain ⟨cache, there⟩ := Option.isSome_iff_exists.mp caching
  simp only [cached?, keep, there, Option.map_some, Option.bind_some, LeafCache.get?_set]

/-- What is found after a leaf was kept is that leaf, or what was found before. -/
theorem cached?_keep {a : CertificateAuthority} {name other : String} {leaf found : Leaf}
    (there : (a.keep name leaf).cached? other = some found) :
    (other = name ∧ found = leaf) ∨ a.cached? other = some found := by
  by_cases caching : a.cache.isSome
  · rw [cached?_keep_eq caching] at there
    split at there
    · rename_i same
      exact .inl ⟨same, (Option.some.inj there).symm⟩
    · exact .inr there
  · rw [Option.not_isSome_iff_eq_none] at caching
    simp [cached?, keep, caching] at there

/-! ## What is made -/

/-- A traversal that succeeds gives what each element gives. -/
theorem eq_map_of_mapM_ok {α β ε : Type} {f : α → Except ε β} {g : α → β}
    (gives : ∀ x y, f x = .ok y → y = g x) {xs : List α} {ys : List β}
    (all : xs.mapM f = .ok ys) : ys = xs.map g := by
  induction xs generalizing ys with
  | nil =>
      cases all
      rfl
  | cons head tail ih =>
      rw [List.mapM_cons] at all
      cases first : f head with
      | error e => simp [first, bind, Except.bind] at all
      | ok y =>
          cases rest : tail.mapM f with
          | error e => simp [first, rest, bind, Except.bind] at all
          | ok others =>
              simp only [first, rest, bind, Except.bind, pure, Except.pure, Except.ok.injEq] at all
              rw [← all, List.map_cons, gives head y first, ih rest]

/-- What is written is the names, and nothing else. -/
theorem altNames_eq {names : SubjectNames} {written : List AltName}
    (all : altNames names = .ok written) :
    written = (names.ip.map AltName.ip).toList ++ names.dns.map AltName.dns := by
  unfold altNames at all
  cases dns : names.dns.mapM fun name =>
      if name.toList.all (·.toNat < 128) then .ok (AltName.dns name)
      else Except.error (IssueError.invalidText .ia5 name) with
  | error e =>
      rw [dns] at all
      exact nomatch all
  | ok out =>
      rw [dns] at all
      cases all
      rw [eq_map_of_mapM_ok (g := AltName.dns) ?_ dns]
      intro name alt given
      split at given
      · cases given
        rfl
      · exact nomatch given

theorem altNames_of_leafCertificate {a : CertificateAuthority} {host : String} {now : Nat}
    {key : KeyPair} {certificate : Certificate}
    (made : a.leafCertificate host now key = .ok certificate) :
    altNames (SubjectNames.forHost host) = .ok certificate.altNames := by
  unfold leafCertificate at made
  split at made
  · exact nomatch made
  · split at made
    · exact nomatch made
    · rename_i written
      split at made
      · exact nomatch made
      · cases made
        exact written

/-- A leaf is made and counted, or none is and nothing changes. -/
theorem issue_cases (a : CertificateAuthority) (host : String) (now : Nat) (fresh : KeyPair) :
    (∃ e, a.issue host now fresh = (.error e, a)) ∨
      ∃ leaf : Leaf, leaf.MadeFor (stripPort host) ∧
        a.issue host now fresh = (.ok leaf, { a with issued := a.issued + 1 }) := by
  unfold issue
  simp only
  split
  · rename_i e _
    exact .inl ⟨e, rfl⟩
  · rename_i certificate made
    have written := altNames_eq (altNames_of_leafCertificate made)
    refine .inr ⟨_, ?_, rfl⟩
    exact ⟨rfl, rfl, written⟩

theorem issue_ok {a : CertificateAuthority} {host : String} {now : Nat} {fresh : KeyPair}
    {leaf : Leaf} (made : (a.issue host now fresh).1 = .ok leaf) :
    leaf.MadeFor (stripPort host) := by
  rcases a.issue_cases host now fresh with ⟨e, issued⟩ | ⟨other, good, issued⟩
  · rw [issued] at made
    exact nomatch made
  · rw [issued] at made
    cases made
    exact good

/-- Making a leaf leaves the cache as it is. -/
theorem cached?_issue (a : CertificateAuthority) (host : String) (now : Nat) (fresh : KeyPair)
    (name : String) : (a.issue host now fresh).2.cached? name = a.cached? name := by
  rcases a.issue_cases host now fresh with ⟨e, issued⟩ | ⟨leaf, -, issued⟩
  · rw [issued]
  · rw [issued]
    rfl

/-! ## The invariant -/

/-- Every leaf that is kept under a name may be served under that name. -/
def Kept (a : CertificateAuthority) : Prop :=
  ∀ name leaf, a.cached? name = some leaf → leaf.Suits name

theorem kept_of_empty {a : CertificateAuthority} (empty : a.cache = some .empty) : a.Kept := by
  intro name leaf found
  simp [cached?, empty, LeafCache.get?, LeafCache.empty] at found

theorem Kept.keep {a : CertificateAuthority} (kept : a.Kept) {name : String} {leaf : Leaf}
    (suits : leaf.Suits name) : (a.keep name leaf).Kept := by
  intro other found there
  rcases cached?_keep there with ⟨rfl, rfl⟩ | there
  · exact suits
  · exact kept other found there

theorem Kept.issue {a : CertificateAuthority} (kept : a.Kept) (host : String) (now : Nat)
    (fresh : KeyPair) : (a.issue host now fresh).2.Kept := by
  intro name leaf found
  rw [cached?_issue] at found
  exact kept name leaf found

/-! ## One connection -/

/-- A computation that keeps the invariant at every step, and reaches its goal when it may rely on
it. -/
abbrev Keeps {α : Type} (t : AuthorityM α) (goal : α → Prop) : Prop :=
  t.Upholds Kept (fun _ _ after => after.Kept) goal

theorem look_keeps (name : String) :
    Keeps (look name) fun found => ∀ leaf, found = some leaf → leaf.Suits name :=
  fun _ kept => ⟨kept, kept name⟩

theorem lookUp_keeps (names : List String) :
    Keeps (lookUp names) fun found => ∀ leaf, found = some leaf → ∃ name ∈ names, leaf.Suits name := by
  induction names with
  | nil => exact fun leaf found => nomatch found
  | cons name names ih =>
      refine (look_keeps name).bind fun found suits => ?_
      cases found with
      | some leaf =>
          rintro _ ⟨⟩
          exact ⟨name, List.mem_cons_self, suits leaf rfl⟩
      | none =>
          refine ih.mono (fun _ _ _ kept => kept) fun found suits leaf given => ?_
          obtain ⟨other, member, suits⟩ := suits leaf given
          exact ⟨other, List.mem_cons_of_mem _ member, suits⟩

theorem make_keeps (host : String) (now : Nat) (fresh : KeyPair) :
    Keeps (make host now fresh) fun outcome => ∀ leaf, outcome = .ok leaf →
      leaf.MadeFor (stripPort host) :=
  fun _ kept => ⟨kept.issue host now fresh, fun _ made => issue_ok made⟩

theorem keepUnder_keeps {leaf : Leaf} {names : List String}
    (suits : ∀ name ∈ names, leaf.Suits name) : Keeps (keepUnder leaf names) fun _ => True := by
  induction names with
  | nil => trivial
  | cons name names ih =>
      obtain ⟨first, others⟩ := List.forall_mem_cons.mp suits
      exact fun a kept => ⟨kept.keep first, ih others⟩

/-- One connection keeps the invariant at every step, and is served with a leaf that suits one of
the names it was looked for under. -/
theorem serveLeaf_keeps {host : String} (bare : stripPort (stripPort host) = stripPort host)
    (now : Nat) (fresh : KeyPair) :
    Keeps (serveLeaf host now fresh) fun outcome => ∀ leaf, outcome = .ok leaf →
      ∃ name ∈ lookupCandidates (stripPort host), leaf.Suits name := by
  refine (lookUp_keeps _).bind fun found suits => ?_
  cases found with
  | some leaf =>
      rintro _ ⟨⟩
      exact suits leaf rfl
  | none =>
      refine (make_keeps _ now fresh).bind fun outcome made => ?_
      cases outcome with
      | error e => exact fun leaf given => nomatch given
      | ok leaf =>
          have made := made leaf rfl
          -- making it strips the port again, which changes nothing
          rw [bare] at made
          have names := made.names
          have written := made.written
          have every : ∀ key ∈ leaf.names.cacheKeys (stripPort host), leaf.Suits key := by
            intro key member
            rw [names] at member
            exact ⟨written, fun named => names ▸ SubjectNames.cacheKeys_spans named member⟩
          refine (keepUnder_keeps every).bind ?_
          rintro _ _ _ ⟨⟩
          refine ⟨_, List.mem_cons_self, written, fun named => ?_⟩
          rw [names]
          exact SubjectNames.forHost_spans named

end CertificateAuthority

/-! ## Any number of connections -/

/-- A connection that wants a leaf. -/
structure LeafCall where
  host : String
  now : Nat
  fresh : KeyPair
  deriving DecidableEq

namespace LeafCall

/-- The host without its port. -/
def bare (call : LeafCall) : String := stripPort call.host

/-- Finds or makes the leaf. -/
def serve (call : LeafCall) : CertificateAuthority.AuthorityM (Except IssueFailure Leaf) :=
  CertificateAuthority.serveLeaf call.host call.now call.fresh

/-- What is looked for is the host itself or its parent. -/
theorem spans_of_candidate {call : LeafCall} {leaf : Leaf} {name parent : String}
    (named : IpAddr.parse? call.bare = none) (above : parent? call.bare = some parent)
    (parentNamed : IpAddr.parse? parent = none) (candidate : name ∈ lookupCandidates call.bare)
    (suits : leaf.Suits name) : leaf.names.Spans call.bare ∨ leaf.names.Spans parent := by
  rcases List.mem_cons.mp candidate with rfl | higher
  · exact .inl (suits.2 named)
  · rw [Option.mem_toList, Option.filter_eq_some_iff, above] at higher
    obtain ⟨⟨⟩, -⟩ := higher
    exact .inr (suits.2 parentNamed)

/-- **Served leaves cover.** However the steps of any number of connections fall, the leaf a host
of at least three labels is served with carries the wildcard on the host's parent. -/
theorem served_leaf_covers {a : CertificateAuthority} (empty : a.cache = some .empty)
    {moves : List (Move LeafCall)}
    (stripped : ∀ call, .start call ∈ moves → stripPort call.bare = call.bare)
    {thread : Thread LeafCall Empty CertificateAuthority (Except IssueFailure Leaf)}
    (member : thread ∈ (Weave.run serve a moves).threads) {leaf : Leaf}
    (served : thread.value? = some (.ok leaf))
    (named : IpAddr.parse? thread.origin.bare = none)
    (long : 3 ≤ (labels thread.origin.bare.toList).length) :
    ∃ parent, parent? thread.origin.bare = some parent ∧ (IpAddr.parse? parent = none →
      AltName.dns ("*." ++ parent) ∈ leaf.certificate.altNames ∧
        leaf.names.Covers thread.origin.bare) := by
  obtain ⟨parent, above⟩ := exists_parent (Nat.le_of_succ_le long)
  refine ⟨parent, above, fun parentNamed => ?_⟩
  have keeps := (Weave.upholds_of_run serve (CertificateAuthority.kept_of_empty empty)
    fun call started => CertificateAuthority.serveLeaf_keeps (stripped call started)
      call.now call.fresh).2 thread member
  obtain ⟨name, candidate, suits⟩ := thread.goal_of_value? keeps served leaf rfl
  have wildcard := SubjectNames.Spans.wildcard_mem above long
    (spans_of_candidate named above parentNamed candidate suits)
  exact ⟨suits.1 _ wildcard, SubjectNames.covers_of_wildcard named above wildcard⟩

/-- A key for samples. -/
def sampleKey : KeyPair := ⟨⟨.p256, []⟩, 1⟩

/-- An authority that has made nothing. -/
def sampleAuthority : CertificateAuthority :=
  .new ⟨"", .ofNames "o" "c", sampleKey.publicKey, sampleKey⟩ (some .empty)

/-- Two siblings: the second looks under the parent when the first has kept its leaf there. -/
def siblings : List (Move LeafCall) :=
  .start ⟨"b.example.com:443", 0, sampleKey⟩ :: .advance 0 ::
    .start ⟨"a.example.com", 0, sampleKey⟩ :: List.replicate 5 (.advance 1) ++ [.advance 0]

/-- The one that comes second is served with the leaf of the first. -/
theorem served_leaf_covers_sibling :
    ∃ thread ∈ (Weave.run serve sampleAuthority siblings).threads, ∃ leaf,
      thread.origin.bare = "b.example.com" ∧ thread.value? = some (.ok leaf) ∧
        leaf.host = "a.example.com" ∧ AltName.dns "*.example.com" ∈ leaf.certificate.altNames ∧
        leaf.names.Covers "b.example.com" := by
  have course : ((Weave.run serve sampleAuthority siblings).threads[0]?.bind fun thread =>
      thread.value?.map fun outcome => (thread.origin, outcome.toOption.map Leaf.host)) =
      some (⟨"b.example.com:443", 0, sampleKey⟩, some "a.example.com") := by decide +kernel
  obtain ⟨thread, there, outcome⟩ := Option.bind_eq_some_iff.mp course
  obtain ⟨given, ended, same⟩ := Option.map_eq_some_iff.mp outcome
  obtain ⟨origin, host⟩ := Prod.mk.inj same
  have bare : thread.origin.bare = "b.example.com" := by
    rw [origin]
    decide +kernel
  have stripped : ∀ call, .start call ∈ siblings → stripPort call.bare = call.bare := by
    intro call started
    simp only [siblings, List.cons_append, List.mem_cons, List.mem_append, List.mem_replicate,
      Move.start.injEq, reduceCtorEq, and_false, or_false, false_or, List.not_mem_nil] at started
    rcases started with rfl | rfl
    · decide +kernel
    · decide +kernel
  cases given with
  | error e => exact nomatch host
  | ok leaf =>
      have member := List.mem_of_getElem? there
      obtain ⟨parent, above, covers⟩ := served_leaf_covers rfl stripped member ended
        (by rw [bare]; decide +kernel) (by rw [bare]; decide +kernel)
      rw [bare] at above covers
      obtain rfl : parent = "example.com" :=
        Option.some.inj (above.symm.trans (by decide +kernel))
      exact ⟨thread, member, leaf, bare, ended, Option.some.inj host, covers (by decide +kernel)⟩

end LeafCall

end Interceptor.Certificate
