/-
# Interceptor.Delegate — the hooks of an exchange

A delegate is what the proxy's owner puts into every exchange. Its hooks run in
the order `connect`, `auth`, `beforeRequest`, `beforeResponse`, `finish`; each
may change the context in any way, and each may keep a state `σ` of its own.
The first four may ask to stop by setting the context's abort flag.

`Delegate.logging` changes nothing; it writes what happens to a log.
-/
import Interceptor.Context
import Interceptor.Error
import Interceptor.Log

namespace Interceptor

set_option autoImplicit false

open Http

/-- Hooks over a state `σ`, for contexts with notes of type `ν`. -/
structure Delegate (σ ν : Type) where
  connect : Context ν → StateM σ (Context ν) := pure
  auth : Context ν → StateM σ (Context ν) := pure
  /-- Runs before the request leaves the proxy. -/
  beforeRequest : Context ν → StateM σ (Context ν) := pure
  /-- Sees the outcome and may replace it. -/
  beforeResponse : Context ν → Except ProxyError Response →
    StateM σ (Context ν × Except ProxyError Response) := fun ctx outcome => pure (ctx, outcome)
  /-- The proxy to send a request through, if any. -/
  parentProxy : Request → StateM σ (Except String (Option Uri)) := fun _ => pure (.ok none)
  /-- Runs once for each exchange, when its response has been read or its tunnel has ended. -/
  finish : Context ν → StateM σ (Context ν) := pure
  errorLog : ProxyError → StateM σ Unit := fun _ => pure ()

/-- The hooks that see a context and nothing else. -/
inductive Hook
  | connect
  | auth
  | beforeRequest
  | finish
  deriving DecidableEq, Repr

/-- Notes that can hold the moment an exchange started. -/
class StartNote (ν : Type) where
  setStarted : ν → Nat → ν
  started? : ν → Option Nat

namespace Delegate

variable {σ ν : Type}

/-- What the delegate does at a hook. -/
def run (delegate : Delegate σ ν) : Hook → Context ν → StateM σ (Context ν)
  | .connect => delegate.connect
  | .auth => delegate.auth
  | .beforeRequest => delegate.beforeRequest
  | .finish => delegate.finish

/-- A delegate that changes nothing. -/
def inert : Delegate σ ν := {}

/-- Writes every exchange to a log and sends everything through one parent, if there is one. -/
def logging [StartNote ν] (log : LogRecord → StateM σ Unit) (now : StateM σ Nat)
    (parent : Option Uri) : Delegate σ ν where
  connect ctx := do
    let ctx := { ctx with notes := StartNote.setStarted ctx.notes (← now) }
    let remote := match ctx.remote with
      | some addr => "Some(" ++ toString addr ++ ")"
      | none => "None"
    log ⟨.debug, "accepted", [("method", ctx.request.method.name),
      ("uri", ctx.request.uri.render), ("remote", remote)]⟩
    return ctx
  beforeResponse ctx outcome := do
    if let .ok response := outcome then
      log ⟨.info, "relayed", [("method", ctx.request.method.name), ("uri", ctx.request.uri.render),
        ("status", toString response.status.code), ("tunnel", toString ctx.tunnel)]⟩
    return (ctx, outcome)
  parentProxy _ := return .ok parent
  finish ctx := do
    if let some started := StartNote.started? ctx.notes then
      log ⟨.debug, "finished", [("uri", ctx.request.uri.render),
        ("elapsed_ms", toString (((← now) - started) / 1000000))]⟩
    return ctx
  errorLog e := log ⟨.warn, e.message, []⟩

end Delegate

end Interceptor
