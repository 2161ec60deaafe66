/-
# Interceptor.Proofs.Certificate.LeafCalls — one call for a leaf after another

What a call does when nobody else is at work on the cache is one of three
things (`Answer`): it finds a leaf under one of its candidates and changes
nothing; it finds none, and none can be made, and it changes nothing; or it makes
one and keeps it under all of its keys. What holds of a run of calls follows from
these three cases.

* `answer_cases`: the three cases are all there are;
* `answer_keeps`, `after_keeps`: what is kept when a leaf is made and kept under its keys
  is kept by any call, and by any run of calls;
* `cached?_adding`: under each of its keys there is the new leaf then, and under
  every other name what was there before;
* `cached?_after`: a name under which a leaf is kept is never without one again.
-/
import Interceptor.Proofs.Certificate.KeptLeaves

namespace Interceptor.Certificate

set_option autoImplicit false

open Text Net HostPort

/-- A leaf that was served and passes a test. -/
theorem exists_of_any {outcome : Except IssueFailure Leaf} {test : Leaf → Bool}
    (passes : outcome.toOption.any test) : ∃ leaf, outcome = .ok leaf ∧ test leaf := by
  cases outcome with
  | ok leaf => exact ⟨leaf, rfl, passes⟩
  | error e => exact nomatch passes

namespace CertificateAuthority

variable {a : CertificateAuthority}

/-! ## Looking, making and keeping -/

/-- The first leaf that is cached under one of these names. -/
def find? (a : CertificateAuthority) (names : List String) : Option Leaf :=
  names.findSome? a.cached?

/-- Keeps a leaf under every one of these names. -/
def keepAll (a : CertificateAuthority) (leaf : Leaf) (names : List String) : CertificateAuthority :=
  names.foldl (fun a name => a.keep name leaf) a

theorem run_lookUp (a : CertificateAuthority) (names : List String) :
    (lookUp names).run a = (a.find? names, a) := by
  induction names with
  | nil => rfl
  | cons name names ih =>
      have looked : (look name).run a = (a.cached? name, a) := rfl
      rw [lookUp, Strand.run_bind, looked, find?, List.findSome?_cons]
      cases a.cached? name with
      | some leaf => rfl
      | none => exact ih

theorem run_keepUnder (a : CertificateAuthority) (leaf : Leaf) (names : List String) :
    (keepUnder leaf names).run a = ((), a.keepAll leaf names) := by
  induction names generalizing a with
  | nil => rfl
  | cons name names ih => exact ih (a.keep name leaf)

theorem issued_keepAll (a : CertificateAuthority) (leaf : Leaf) (names : List String) :
    (a.keepAll leaf names).issued = a.issued := by
  unfold keepAll
  induction names generalizing a with
  | nil => rfl
  | cons name names ih => exact ih (a.keep name leaf)

theorem cache_keepAll (a : CertificateAuthority) (leaf : Leaf) (names : List String) :
    (a.keepAll leaf names).cache.isSome = a.cache.isSome := by
  unfold keepAll
  induction names generalizing a with
  | nil => rfl
  | cons name names ih => exact (ih (a.keep name leaf)).trans Option.isSome_map

theorem cached?_keepAll (caching : a.cache.isSome) (leaf : Leaf) (names : List String)
    (name : String) : (a.keepAll leaf names).cached? name =
      if name ∈ names then some leaf else a.cached? name := by
  unfold keepAll
  induction names generalizing a with
  | nil => rfl
  | cons first names ih =>
      have still : (a.keep first leaf).cache.isSome := Option.isSome_map.trans caching
      rw [List.foldl_cons, ih still, cached?_keep_eq caching]
      by_cases later : name ∈ names
      · rw [if_pos later, if_pos (List.mem_cons_of_mem first later)]
      · simp only [List.mem_cons, later, or_false, if_false]

/-- The authority when it has made a leaf and kept it under these names. -/
def adding (a : CertificateAuthority) (leaf : Leaf) (names : List String) : CertificateAuthority :=
  { a with issued := a.issued + 1 }.keepAll leaf names

@[simp] theorem issued_adding (a : CertificateAuthority) (leaf : Leaf) (names : List String) :
    (a.adding leaf names).issued = a.issued + 1 := issued_keepAll ..

@[simp] theorem cache_adding (a : CertificateAuthority) (leaf : Leaf) (names : List String) :
    (a.adding leaf names).cache.isSome = a.cache.isSome := cache_keepAll ..

theorem cached?_adding (caching : a.cache.isSome) (leaf : Leaf) (names : List String)
    (name : String) : (a.adding leaf names).cached? name =
      if name ∈ names then some leaf else a.cached? name := by
  have still : { a with issued := a.issued + 1 }.cache.isSome := caching
  exact cached?_keepAll still leaf names name

end CertificateAuthority

namespace LeafCall

variable {a : CertificateAuthority} {call : LeafCall}

/-- What a call is served with, and the authority after it. -/
def answer (call : LeafCall) (a : CertificateAuthority) :
    Except IssueFailure Leaf × CertificateAuthority :=
  a.leafFor call.host call.now call.fresh

/-- What a call does. -/
inductive Answer (a : CertificateAuthority) (call : LeafCall) :
    Except IssueFailure Leaf × CertificateAuthority → Prop
  | found (leaf : Leaf) (there : a.find? (lookupCandidates call.bare) = some leaf) :
      Answer a call (.ok leaf, a)
  | failed (e : IssueFailure) (missing : a.find? (lookupCandidates call.bare) = none) :
      Answer a call (.error e, a)
  | issued (leaf : Leaf) (missing : a.find? (lookupCandidates call.bare) = none)
      (made : leaf.MadeFor (stripPort call.bare)) :
      Answer a call (.ok leaf, a.adding leaf (leaf.names.cacheKeys call.bare))

theorem answer_cases {outcome : Except IssueFailure Leaf × CertificateAuthority}
    (given : call.answer a = outcome) : Answer a call outcome := by
  subst given
  have run : call.answer a = (CertificateAuthority.serveLeaf call.host call.now call.fresh).run a := rfl
  rw [run, CertificateAuthority.serveLeaf, Strand.run_bind, CertificateAuthority.run_lookUp]
  cases missing : a.find? (lookupCandidates (stripPort call.host)) with
  | some leaf => exact .found leaf missing
  | none =>
      have made : (CertificateAuthority.make (stripPort call.host) call.now call.fresh).run a =
        a.issue (stripPort call.host) call.now call.fresh := rfl
      simp only
      rw [Strand.run_bind, made]
      rcases a.issue_cases (stripPort call.host) call.now call.fresh with
        ⟨e, issued⟩ | ⟨leaf, made, issued⟩
      · rw [issued]
        exact .failed e missing
      · rw [issued]
        simp only
        rw [Strand.run_bind, CertificateAuthority.run_keepUnder]
        exact .issued leaf missing made

/-- Where nothing is found, the leaf that is served is a new one, and it is kept. -/
theorem answer_of_missing (missing : a.find? (lookupCandidates call.bare) = none) {leaf : Leaf}
    (served : (call.answer a).1 = .ok leaf) : (a.issue call.bare call.now call.fresh).1 = .ok leaf ∧
      (call.answer a).2 = a.adding leaf (leaf.names.cacheKeys call.bare) := by
  have made : (call.answer a).1 = (a.issue call.bare call.now call.fresh).1 := by
    have run : call.answer a = (CertificateAuthority.serveLeaf call.host call.now call.fresh).run a := rfl
    have looked : (CertificateAuthority.lookUp (lookupCandidates call.bare)).run a = (none, a) := by
      rw [CertificateAuthority.run_lookUp, missing]
    have issued : (CertificateAuthority.make call.bare call.now call.fresh).run a =
        a.issue call.bare call.now call.fresh := rfl
    unfold bare at looked issued
    rw [run, CertificateAuthority.serveLeaf, Strand.run_bind, looked]
    simp only
    rw [Strand.run_bind, issued, bare]
    cases (a.issue (stripPort call.host) call.now call.fresh).1 with
    | error e => rfl
    | ok leaf =>
        simp only
        rw [Strand.run_bind]
        rfl
  refine ⟨made.symm.trans served, ?_⟩
  generalize given : call.answer a = outcome at served ⊢
  cases answer_cases given with
  | found other there => exact nomatch missing.symm.trans there
  | failed e missing => exact nomatch served
  | issued other missing made =>
      cases served
      rfl

/-- What is found is served, and nothing changes. -/
theorem answer_of_found {leaf : Leaf} (there : a.find? (lookupCandidates call.bare) = some leaf) :
    call.answer a = (.ok leaf, a) := by
  generalize given : call.answer a = outcome
  cases answer_cases given with
  | found other found => rw [Option.some.inj (there.symm.trans found)]
  | failed e missing => exact nomatch there.symm.trans missing
  | issued other missing made => exact nomatch there.symm.trans missing

/-- A call is served without a new leaf if and only if it finds the one it is served with. -/
theorem answer_eq_iff {leaf : Leaf} : call.answer a = (.ok leaf, a) ↔
    a.find? (lookupCandidates call.bare) = some leaf := by
  constructor
  · intro given
    generalize same : (Except.ok leaf, a) = outcome at given
    cases answer_cases given with
    | found other there =>
        cases same
        exact there
    | failed e missing => exact nomatch (Prod.mk.inj same).1
    | issued other missing made =>
        -- it would have been counted
        have counted := congrArg CertificateAuthority.issued (Prod.mk.inj same).2
        rw [CertificateAuthority.issued_adding] at counted
        omega
  · exact answer_of_found

/-- A call that fails changes nothing. -/
theorem answer_of_error {e : IssueFailure} (failed : (call.answer a).1 = .error e) :
    (call.answer a).2 = a := by
  generalize given : call.answer a = outcome at failed ⊢
  cases answer_cases given with
  | found leaf there => rfl
  | failed e missing => rfl
  | issued leaf missing made => exact nomatch failed

/-- What keeps when a leaf is made and kept under its keys, any call keeps. -/
theorem answer_keeps {P : CertificateAuthority → Prop} (holds : P a)
    (adding : ∀ leaf, leaf.MadeFor (stripPort call.bare) →
      P (a.adding leaf (leaf.names.cacheKeys call.bare))) : P (call.answer a).2 := by
  generalize given : call.answer a = outcome
  cases answer_cases given with
  | found leaf there => exact holds
  | failed e missing => exact holds
  | issued leaf missing made => exact adding leaf made

theorem cache_answer (caching : a.cache.isSome) (call : LeafCall) :
    (call.answer a).2.cache.isSome := by
  refine answer_keeps (P := fun a => a.cache.isSome) caching fun leaf made => ?_
  rw [CertificateAuthority.cache_adding]
  exact caching

/-- No name loses its leaf, though it may be given another. -/
theorem cached?_answer (caching : a.cache.isSome) (call : LeafCall) {name : String}
    (there : (a.cached? name).isSome) : ((call.answer a).2.cached? name).isSome := by
  refine answer_keeps (P := fun a => (a.cached? name).isSome) there fun leaf made => ?_
  rw [CertificateAuthority.cached?_adding caching]
  split
  · rfl
  · exact there

end LeafCall

namespace CertificateAuthority

variable {a : CertificateAuthority}

/-! ## One call after another -/

/-- The authority after some calls. -/
def after (a : CertificateAuthority) (calls : List LeafCall) : CertificateAuthority :=
  calls.foldl (fun a call => (call.answer a).2) a

theorem after_append (a : CertificateAuthority) (first later : List LeafCall) :
    a.after (first ++ later) = (a.after first).after later := List.foldl_append

/-- What every call keeps, a run of calls keeps. -/
theorem after_keeps {P : CertificateAuthority → Prop} (caching : a.cache.isSome) (holds : P a)
    (keeps : ∀ (a : CertificateAuthority) (call : LeafCall), a.cache.isSome → P a →
      P (call.answer a).2) (calls : List LeafCall) : (a.after calls).cache.isSome ∧ P (a.after calls) := by
  unfold after
  induction calls generalizing a with
  | nil => exact ⟨caching, holds⟩
  | cons call calls ih => exact ih (call.cache_answer caching) (keeps a call caching holds)

theorem cache_after (caching : a.cache.isSome) (calls : List LeafCall) :
    (a.after calls).cache.isSome :=
  (after_keeps (P := fun _ => True) caching trivial (fun _ _ _ _ => trivial) calls).1

theorem cached?_after (caching : a.cache.isSome) (calls : List LeafCall) {name : String}
    (there : (a.cached? name).isSome) : ((a.after calls).cached? name).isSome :=
  (after_keeps (P := fun a => (a.cached? name).isSome) caching there
    (fun _ call caching there => call.cached?_answer caching there) calls).2

end CertificateAuthority

end Interceptor.Certificate
