/-
# Interceptor.Proofs.Net.Dialing — why a connection is not made

To dial an address is to split it, to look its host up and to connect to what is chosen. Each
may fail, and the error is the one of the step that did.

* `unresolved_of_resolve`: a host is not resolved if the machine refuses to look it up, or finds nothing;
* `dialFailure_of_dial`: an address that is split fails for one of three reasons, and none of them
  is that it has no port.
-/
import Interceptor.Network
import Interceptor.Proofs.Net.FreshLookups

namespace Interceptor

set_option autoImplicit false

open Net HostPort

variable {σ : Type}

/-- Why a host is not resolved. -/
inductive Unresolved (machine : Machine σ) (host : String) : IoError → Prop
  | refused (world : σ) (e : IoError) (asked : (machine.lookup host world).1 = .error e) :
      Unresolved machine host e
  | empty : Unresolved machine host (noAddresses host)

/-- Why no connection is made to an address with this host and this port. -/
inductive DialFailure (network : Network σ) (host : String) (port : Nat) (addr : String)
    (timeout : Duration) : ProxyError → Prop
  | unresolved (source : IoError) (why : Unresolved network.toMachine host source) :
      DialFailure network host port addr timeout (.connect addr source)
  | unreached (ip : IpAddr) (world : σ) (source : IoError)
      (tried : (network.connect ⟨ip, port, 0⟩ timeout world).1 = .error (.failed source)) :
      DialFailure network host port addr timeout (.connect addr source)
  | late (ip : IpAddr) (world : σ)
      (tried : (network.connect ⟨ip, port, 0⟩ timeout world).1 = .error .timedOut) :
      DialFailure network host port addr timeout (.connectTimeout addr timeout)

namespace Net.Machine

variable {machine : Machine σ} {host : String} {e : IoError}

theorem unresolved_of_lookupAll {world : σ} (failed : (machine.lookupAll host world).1 = .error e) :
    Unresolved machine host e := by
  simp only [lookupAll, bind, StateT.bind, pure] at failed
  generalize asked : machine.lookup host world = given at failed
  obtain ⟨outcome, after⟩ := given
  rcases outcome with e | _ | ⟨ip, others⟩
  · cases failed
    exact .refused world _ (congrArg Prod.fst asked)
  · cases failed
    exact .empty
  · cases failed

theorem unresolved_of_lookupAfresh {seen : List LookupMark}
    (course : (machine.lookupAfresh host).Yields seen (.error (.failed e))) :
    Unresolved machine host e := by
  rw [lookupAfresh, Strand.yields_bind] at course
  obtain ⟨_, _, _, -, -, course⟩ := course
  rw [Strand.yields_bind] at course
  obtain ⟨_, answer, _, -, looked, course⟩ := course
  obtain ⟨world, given, -⟩ := yields_perform looked
  rw [Strand.yields_bind] at course
  obtain ⟨_, _, _, -, -, course⟩ := course
  cases answer with
  | error source =>
      cases course.2
      exact unresolved_of_lookupAll given.symm
  | ok addrs =>
      -- what was found is kept, or the clock is overrun, and that is the end of it
      rw [Strand.yields_bind] at course
      obtain ⟨_, _, _, -, -, course⟩ := course
      rw [Strand.yields_bind] at course
      obtain ⟨_, kept, _, -, -, course⟩ := course
      cases kept <;> cases course.2

theorem unresolved_of_fetch {seen : List LookupMark}
    (course : (machine.fetch host).Yields seen (.error (.failed e))) : Unresolved machine host e := by
  unfold fetch at course
  split at course
  · cases course.2
  · rw [Strand.yields_bind] at course
    obtain ⟨_, ⟨now, found⟩, _, -, -, course⟩ := course
    cases found with
    | some addrs => cases course.2
    | none => exact unresolved_of_lookupAfresh course

theorem unresolved_of_resolve {before : Lookups σ}
    (failed : ((machine.resolve host).run before).1 = .error (.failed e)) :
    Unresolved machine host e := by
  rw [resolve, map_eq_pure_bind, Strand.run_bind] at failed
  have chosen : choose host ((machine.fetch host).run before).1 = .error (.failed e) := failed
  cases found : ((machine.fetch host).run before).1 with
  | error source =>
      rw [found] at chosen
      cases chosen
      have course := Strand.yields_run (machine.fetch host) before
      exact unresolved_of_fetch (found ▸ course)
  | ok addrs =>
      rw [found] at chosen
      simp only [choose, Except.bind] at chosen
      cases picked : select? addrs with
      | none =>
          rw [picked] at chosen
          cases chosen
          exact .empty
      | some ip =>
          rw [picked] at chosen
          cases chosen

/-- An address that is split is resolved as its host is. -/
theorem run_resolveAddr {addr : String} {port : Nat} (split : split? addr = some (host, port))
    (before : Lookups σ) : ((machine.resolveAddr addr).run before).1 =
      ((machine.resolve host).run before).1.map fun ip => ⟨ip, port, 0⟩ := by
  rw [resolveAddr, split]
  exact congrArg Prod.fst (Strand.run_bind ..)

end Net.Machine

/-- A connection is not made for want of a port, or of an address for the host, or of one to connect to. -/
theorem dialFailure_of_dial {network : Network σ} {kept : LookupCache} {addr : String}
    {timeout : Duration} {before : σ} {e : ProxyError}
    (failed : ((network.dial kept addr timeout).run before).1.1 = some (.error e)) :
    split? addr = none ∧ e = .connect addr (missingPort addr) ∨
      ∃ host port, split? addr = some (host, port) ∧ DialFailure network host port addr timeout e := by
  rw [Network.dial, StateT.run_bind] at failed
  have resolved : ((kept.resolveAddr network.toMachine addr).run before).1.1 =
    ((network.toMachine.resolveAddr addr).run ⟨before, kept⟩).1 := rfl
  generalize given : (kept.resolveAddr network.toMachine addr).run before = result at failed
  obtain ⟨⟨socket, cache⟩, world⟩ := result
  rw [given] at resolved
  cases split : split? addr with
  | none =>
      rw [Machine.resolveAddr, split] at resolved
      obtain rfl : socket = .error (.failed (missingPort addr)) := resolved
      cases failed
      exact .inl ⟨rfl, rfl⟩
  | some parts =>
      obtain ⟨host, port⟩ := parts
      rw [Machine.run_resolveAddr split] at resolved
      refine .inr ⟨host, port, rfl, ?_⟩
      cases answer : ((network.toMachine.resolve host).run ⟨before, kept⟩).1 with
      | error failure =>
          rw [answer] at resolved
          obtain rfl : socket = .error failure := resolved
          cases failure with
          | overrun => cases failed
          | failed source =>
              cases failed
              exact .unresolved source (Machine.unresolved_of_resolve answer)
      | ok ip =>
          rw [answer] at resolved
          obtain rfl : socket = .ok ⟨ip, port, 0⟩ := resolved
          simp only [StateT.run, bind, StateT.bind] at failed
          generalize tried : network.connect ⟨ip, port, 0⟩ timeout world = outcome at failed
          obtain ⟨made, after⟩ := outcome
          rcases made with (source | _) | stream
          · cases failed
            exact .unreached ip world source (congrArg Prod.fst tried)
          · cases failed
            exact .late ip world (congrArg Prod.fst tried)
          · cases failed

end Interceptor
