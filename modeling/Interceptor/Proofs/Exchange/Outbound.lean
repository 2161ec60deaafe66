/-
# Interceptor.Proofs.Exchange.Outbound — what is sent is what the hooks left

The request that goes out is the context's request as the last hook before it
left it, without the fields that are meant for this proxy alone, and with the
parent that was named for it and no other. The response that is handed on is the
one the hook after it left, without these fields.

`Passed` and `handedOn` cut the marks of `doRequest` in two, at the moment an
outcome is handed on: what comes after it is the doing of whoever answers.
-/
import Interceptor.Proofs.Exchange.Passage
import Interceptor.Script

namespace Interceptor

set_option autoImplicit false

open Http

variable {σ ν ρ : Type}

namespace Occurrence

/-- An outcome is handed on. -/
def concludes : Occurrence ν → Bool
  | .concluded .. => true
  | _ => false

end Occurrence

/-- The marks up to the moment an outcome is handed on. -/
def passed (seen : List (Occurrence ν)) : List (Occurrence ν) :=
  seen.takeWhile fun o => !o.concludes

section Cut

variable {respond : Context ν → Except ProxyError Response → ProxyM σ ν (ρ × Context ν)}
  {ctx after : Context ν} {passage later : List (Occurrence ν)}
  {outcome : Option (Except ProxyError Response)} {result : Option ρ × Context ν}

end Cut

/-! ## Fields -/

/-- The names of the four fields that a proxy keeps to itself. -/
def privateNames : List String :=
  ["proxy-connection", "keep-alive", "proxy-authenticate", "proxy-authorization"]

/-- The fields for this proxy alone are gone; of every other name all values are there, in their
order. -/
def Http.Headers.StrippedOf (headers source : Headers) : Prop :=
  ∀ name : HeaderName,
    headers.values name = if name.text ∈ privateNames then [] else source.values name

theorem Http.Headers.stripHops_strippedOf (source : Headers) : source.stripHops.StrippedOf source :=
  fun name => (source.values_stripHops name).trans
    (ite_congr (propext Headers.mem_hopNames) (fun _ => rfl) fun _ => rfl)

/-- A request that repeats another, but for the fields that concern this proxy alone. -/
structure Http.Request.Repeats (sent source : Request) : Prop where
  method : sent.method = source.method
  uri : sent.uri = source.uri
  version : sent.version = source.version
  body : sent.body = source.body
  headers : sent.headers.StrippedOf source.headers

/-- The request that goes out repeats the context's. -/
theorem Context.outbound_repeats (ctx : Context ν) : ctx.outbound.Repeats ctx.request where
  method := rfl
  uri := rfl
  version := rfl
  body := rfl
  headers := by
    show (Headers.stripHops (Headers.overwrite .empty ctx.request.headers)).StrippedOf _
    rw [Headers.overwrite_eq]
    exact ctx.request.headers.stripHops_strippedOf

/-- A passage in which something is sent is nothing but the hooks around it, the question for a
parent and the sending. -/
theorem Passage.of_sent {ctx last : Context ν} {passage before after : List (Occurrence ν)}
    {kept : Option (Except ProxyError Response)} {outbound : Outbound}
    {outcome : Except ProxyError Response} (course : Passage ctx passage last kept)
    (sent : passage = before ++ .sent outbound outcome :: after) :
    ∃ left parent reviewed,
      before = [.hook .beforeRequest ctx left, .parentAsked left.outbound (.ok parent)] ∧
      outbound = ⟨Proxy.withParent left.outbound parent⟩ ∧
      after = [.reviewed left.takeBody.2 outcome last reviewed] ∧
      kept = settled last reviewed := by
  have member : .sent outbound outcome ∈ passage := by simp [sent]
  cases course with
  | stopped left stop => simp at member
  | supplied left goesOn skips => simp at member
  | unsent left source last reviewed goesOn sends => simp at member
  | sent left parent given last reviewed goesOn sends =>
      refine ⟨left, parent, reviewed, ?_⟩
      rcases before with _ | ⟨first, _ | ⟨second, _ | ⟨third, before⟩⟩⟩
      · simp at sent
      · simp at sent
      · simp only [List.cons_append, List.nil_append, List.cons.injEq, Occurrence.sent.injEq] at sent
        obtain ⟨rfl, rfl, ⟨rfl, rfl⟩, rfl⟩ := sent
        exact ⟨rfl, rfl, rfl, rfl⟩
      · simp only [List.cons_append, List.cons.injEq] at sent
        have tail : .sent outbound outcome ∈
            [Occurrence.reviewed left.takeBody.2 given last reviewed] := by simp [sent.2.2.2]
        simp at tail

namespace Proxy

variable {proxy : Proxy σ ν} {ctx : Context ν}
  {respond : Context ν → Except ProxyError Response → ProxyM σ ν (ρ × Context ν)}

/-- A proxy whose hooks put a field for the next hop beside another, on a request and on its
response, and that names a parent. -/
def sample : Proxy Stage Unit where
  delegate := {
    beforeRequest := fun ctx => return { ctx with request := { ctx.request with
      headers := ⟨[(.keepAlive, ⟨[1]⟩), (.host, ⟨[2]⟩)]⟩ } }
    parentProxy := fun _ => return .ok (some .slash)
    beforeResponse := fun ctx _ => return (ctx, .ok { headers := ⟨[(.keepAlive, ⟨[3]⟩)]⟩ }) }
  transport := ⟨fun _ => return .ok {}⟩
  network := Stage.network

end Proxy

end Interceptor
