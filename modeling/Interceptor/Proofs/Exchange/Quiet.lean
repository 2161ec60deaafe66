/-
# Interceptor.Proofs.Exchange.Quiet — what goes on inside an exchange

An exchange begins once and ends once. Between its beginning and its end many
things happen that are neither: `InnerStep` lists what a single step may do then.
`Inner` says of a computation that all of its steps are among these. It is closed
under doing one thing after another, and every function of the engine and of the
tunnels but `begin` and `finish` has it; the text of each is gone through once,
and what such steps keep is read off the list.

`Quiet` is such a thing: none of the steps begins or ends an exchange or touches
the number of those in flight.
-/
import Interceptor.Tunnel

namespace Interceptor

set_option autoImplicit false

open Http Net Certificate

variable {σ ν α β : Type}

namespace Occurrence

/-- The exchange goes on the count. -/
def begins : Occurrence ν → Bool
  | .began => true
  | _ => false

/-- The last hook runs. -/
def finishes : Occurrence ν → Bool
  | .hook .finish .. => true
  | _ => false

/-- The exchange goes off the count. -/
def retires : Occurrence ν → Bool
  | .retired => true
  | _ => false

/-- Whether an occurrence is one of those an exchange begins or ends with. -/
def bounds (o : Occurrence ν) : Bool := o.begins || o.finishes || o.retires

end Occurrence

/-- A step leaves at most one mark, none that an exchange begins or ends with, and the number of
exchanges in flight. -/
def QuietStep (before : ProxyState σ ν) (marks : List (Occurrence ν)) (after : ProxyState σ ν) :
    Prop :=
  marks.length ≤ 1 ∧ (∀ o ∈ marks, o.bounds = false) ∧ after.inFlight = before.inFlight

/-- Every step is quiet. -/
def Quiet (t : ProxyM σ ν α) : Prop := t.Upholds (fun _ => True) QuietStep fun _ => True

/-- All marks of a quiet computation are. -/
theorem Quiet.seen {t : ProxyM σ ν α} (quiet : Quiet t) {seen : List (Occurrence ν)} {result : α}
    (course : t.Yields seen result) : ∀ o ∈ seen, o.bounds = false :=
  (Strand.Upholds.yields (quiet.mono (fun _ _ _ step => step.2.1) fun _ _ => trivial) course).1

/-! ## What a step may do in between -/

/-- What a step does that neither begins an exchange nor ends one. -/
inductive InnerStep : ProxyState σ ν → List (Occurrence ν) → ProxyState σ ν → Prop
  /-- Something in the world outside. -/
  | outside (state : ProxyState σ ν) (world : σ) (o : Occurrence ν) (inner : o.bounds = false) :
      InnerStep state [o] { state with world }
  | look (state : ProxyState σ ν) : InnerStep state [] state
  | heads (state : ProxyState σ ν) (heads : Pool RequestHead) :
      InnerStep state [] { state with heads }
  | buffers (state : ProxyState σ ν) (buffers : BufferPool) :
      InnerStep state [] { state with buffers }
  | dialed (state : ProxyState σ ν) (world : σ) (lookups : LookupCache) (addr : String)
      (outcome : Option (Except ProxyError Stream)) :
      InnerStep state [.dialed addr outcome] { state with world, lookups }
  /-- An authority is used, and stays. -/
  | certified (state : ProxyState σ ν) (world : σ) (authority : CertificateAuthority)
      (outcome : Option (Except IssueFailure Leaf)) (stands : state.authority.isSome = true) :
      InnerStep state [.certified outcome] { state with world, authority := some authority }

theorem InnerStep.quiet {before after : ProxyState σ ν} {marks : List (Occurrence ν)}
    (step : InnerStep before marks after) : QuietStep before marks after := by
  have one : ∀ o : Occurrence ν, o.bounds = false → ∀ other ∈ [o], other.bounds = false :=
    fun o inner other member => List.mem_singleton.mp member ▸ inner
  have none : ∀ o ∈ ([] : List (Occurrence ν)), o.bounds = false :=
    fun o member => absurd member List.not_mem_nil
  cases step with
  | outside world o inner => exact ⟨Nat.le_refl 1, one o inner, rfl⟩
  | look => exact ⟨Nat.zero_le 1, none, rfl⟩
  | heads heads => exact ⟨Nat.zero_le 1, none, rfl⟩
  | buffers buffers => exact ⟨Nat.zero_le 1, none, rfl⟩
  | dialed world lookups addr outcome => exact ⟨Nat.le_refl 1, one _ rfl, rfl⟩
  | certified world authority outcome stands => exact ⟨Nat.le_refl 1, one _ rfl, rfl⟩

/-- Every step is one of these. -/
def Inner (t : ProxyM σ ν α) : Prop := t.Upholds (fun _ => True) InnerStep fun _ => True

theorem inner_pure (value : α) : Inner (pure value : ProxyM σ ν α) := trivial

theorem Inner.bind {t : ProxyM σ ν α} {f : α → ProxyM σ ν β} (first : Inner t)
    (later : ∀ value, Inner (f value)) : Inner (t >>= f) :=
  Strand.Upholds.bind first fun value _ => later value

theorem Inner.map {t : ProxyM σ ν α} (inner : Inner t) (f : α → β) : Inner (f <$> t) := by
  rw [map_eq_pure_bind]
  exact inner.bind fun value => inner_pure (f value)

theorem Inner.quiet {t : ProxyM σ ν α} (inner : Inner t) : Quiet t :=
  Strand.Upholds.mono inner (fun _ _ _ step => step.quiet) fun _ _ => trivial

theorem inner_outside {act : StateM σ α} {mark : α → Occurrence ν}
    (silent : ∀ value, (mark value).bounds = false) : Inner (outside act mark) :=
  fun state _ => ⟨.outside state _ _ (silent _), trivial⟩

theorem inner_mark {sign : Occurrence ν} (silent : sign.bounds = false) :
    Inner (Strand.mark sign : ProxyM σ ν Unit) :=
  fun state _ => ⟨.outside state state.world sign silent, trivial⟩

theorem inner_look : Inner (get : ProxyM σ ν (ProxyState σ ν)) :=
  fun state _ => ⟨.look state, trivial⟩

namespace Proxy

variable (proxy : Proxy σ ν)

/-! ## The engine -/

theorem inner_hook {which : Hook} (inner : which ≠ .finish) (ctx : Context ν) :
    Inner (proxy.hook which ctx) := by
  refine inner_outside fun after => ?_
  cases which with
  | finish => exact absurd rfl inner
  | _ => rfl

theorem inner_beforeResponse (ctx : Context ν) (outcome : Except ProxyError Response) :
    Inner (proxy.beforeResponse ctx outcome) := inner_outside fun _ => rfl

theorem inner_askParent (request : Request) : Inner (proxy.askParent request) :=
  inner_outside fun _ => rfl

theorem inner_log (e : ProxyError) : Inner (proxy.log e) := inner_outside fun _ => rfl

theorem inner_send (request : Request) : Inner (proxy.send request) := by
  refine (proxy.inner_askParent request).bind fun answer => ?_
  cases answer with
  | error source => exact inner_pure _
  | ok parent => exact inner_outside fun _ => rfl

theorem inner_takeHead : Inner (takeHead : ProxyM σ ν RequestHead) :=
  fun state _ => ⟨.heads state _, trivial⟩

theorem inner_returnHead (head : RequestHead) : Inner (returnHead head : ProxyM σ ν Unit) :=
  fun state _ => ⟨.heads state _, trivial⟩

theorem inner_conclude {ρ : Type} (ctx : Context ν) (outcome : Except ProxyError Response)
    {respond : Context ν → Except ProxyError Response → ProxyM σ ν (ρ × Context ν)}
    (answers : ∀ ctx outcome, Inner (respond ctx outcome)) :
    Inner (conclude ctx outcome respond) :=
  (inner_mark rfl).bind fun _ => (answers ctx outcome).bind fun _ => inner_pure _

theorem inner_doRequest {ρ : Type} (ctx : Context ν)
    {respond : Context ν → Except ProxyError Response → ProxyM σ ν (ρ × Context ν)}
    (answers : ∀ ctx outcome, Inner (respond ctx outcome)) :
    Inner (proxy.doRequest ctx respond) := by
  refine (proxy.inner_hook (by decide) ctx).bind fun after => ?_
  split
  · exact inner_pure _
  split
  · exact inner_conclude _ _ answers
  refine inner_takeHead.bind fun head => ?_
  refine (proxy.inner_send _).bind fun outcome => ?_
  refine (inner_returnHead _).bind fun _ => ?_
  refine (proxy.inner_beforeResponse _ outcome).bind fun ⟨last, left⟩ => ?_
  simp only
  split
  · exact inner_pure _
  · exact inner_conclude _ _ answers

theorem inner_relayOrBadGateway (ctx : Context ν) (outcome : Except ProxyError Response) :
    Inner (proxy.relayOrBadGateway ctx outcome) := by
  cases outcome with
  | ok response => exact inner_pure _
  | error e => exact (proxy.inner_log e).bind fun _ => inner_pure _

theorem inner_relayRequest (exchange : Exchange ν) : Inner (proxy.relayRequest exchange) := by
  refine (proxy.inner_doRequest _ proxy.inner_relayOrBadGateway).bind fun ⟨answer, ctx⟩ => ?_
  cases answer with
  | none => exact inner_pure _
  | some response => exact inner_pure _

theorem inner_refuse (exchange : Exchange ν) (e : ProxyError) (status : Status) :
    Inner (proxy.refuse exchange e status) :=
  (proxy.inner_log e).bind fun _ => inner_pure _

theorem inner_relayHttp (exchange : Exchange ν) : Inner (proxy.relayHttp exchange) := by
  unfold relayHttp
  split
  · exact proxy.inner_refuse _ _ _
  · exact proxy.inner_relayRequest _

/-! ## Tunnels -/

theorem inner_dial (addr : String) : Inner (proxy.dial addr) :=
  fun state _ => ⟨.dialed state _ _ addr _, trivial⟩

theorem inner_dialParent (parent : Uri) (target : String) :
    Inner (proxy.dialParent parent target) := by
  unfold dialParent
  split
  · exact inner_pure _
  refine (proxy.inner_dial _).bind fun dialed => ?_
  rcases dialed with _ | (e | stream)
  · exact inner_pure _
  · exact inner_pure _
  · refine (inner_outside fun _ => rfl).bind fun asked => ?_
    split <;> exact inner_pure _

theorem inner_refused (exchange : Exchange ν) (e : ProxyError) (status : Status) :
    Inner (Served.ofAnswer <$> proxy.refuse exchange e status) :=
  (proxy.inner_refuse exchange e status).map _

theorem inner_openTunnel (exchange : Exchange ν) : Inner (proxy.openTunnel exchange) := by
  unfold openTunnel
  simp only
  split
  · refine (proxy.inner_askParent _).bind fun answer => ?_
    cases answer with
    | error source => exact proxy.inner_refused _ _ _
    | ok parent =>
        refine inner_look.bind fun state => ?_
        split
        · exact inner_pure _
        split
        · exact proxy.inner_refused _ _ _
        split
        · exact inner_pure _
        refine (proxy.inner_dialParent _ _).bind fun dialed => ?_
        rcases dialed with _ | (e | tunnel)
        · exact inner_pure _
        · exact proxy.inner_refused _ _ _
        · exact inner_pure _
  · exact proxy.inner_refused _ _ _

theorem inner_announceTunnel (exchange : Exchange ν) : Inner (proxy.announceTunnel exchange) := by
  refine (proxy.inner_hook (by decide) _).bind fun ctx => ?_
  exact (proxy.inner_beforeResponse _ _).bind fun _ => inner_pure _

theorem inner_takeBuffer : Inner (takeBuffer : ProxyM σ ν Buffer) :=
  fun state _ => ⟨.buffers state _, trivial⟩

theorem inner_returnBuffer (buffer : Buffer) : Inner (returnBuffer buffer : ProxyM σ ν Unit) :=
  fun state _ => ⟨.buffers state _, trivial⟩

theorem inner_transferWith
    (relay : Buffer → Buffer → StateM σ (Except IoError Nat × Buffer × Buffer)) (target : String) :
    Inner (proxy.transferWith relay target) := by
  refine inner_takeBuffer.bind fun up => ?_
  refine inner_takeBuffer.bind fun down => ?_
  refine (inner_outside fun _ => rfl).bind fun ⟨outcome, up, down⟩ => ?_
  have returns : Inner (do returnBuffer up; returnBuffer down : ProxyM σ ν Unit) :=
    (inner_returnBuffer _).bind fun _ => inner_returnBuffer _
  cases outcome with
  | error source => exact (proxy.inner_log _).bind fun _ => returns
  | ok count => exact returns

theorem inner_reach (farEnd : FarEnd) : Inner (proxy.reach farEnd) := by
  cases farEnd with
  | direct addr => exact proxy.inner_dial addr
  | parent tunnel => exact inner_pure _

theorem inner_runRelay (exchange : Exchange ν) (upgrade : UpgradeHandle) (farEnd : FarEnd)
    (target : String) : Inner (proxy.runRelay exchange upgrade farEnd target) := by
  refine (inner_outside fun _ => rfl).bind fun taken => ?_
  cases taken with
  | error source => exact (proxy.inner_log _).bind fun _ => inner_pure _
  | ok client =>
      refine (proxy.inner_reach farEnd).bind fun reached => ?_
      rcases reached with _ | (e | server)
      · exact inner_pure _
      · exact (proxy.inner_log e).bind fun _ => inner_pure _
      · refine (proxy.inner_announceTunnel exchange).bind fun exchange => ?_
        exact (proxy.inner_transferWith _ target).bind fun _ => inner_pure _

theorem inner_leafFor (target : String) : Inner (proxy.leafFor target) := by
  intro state _
  refine ⟨?_, trivial⟩
  simp only [StateT.run]
  split
  · exact .outside state state.world _ rfl
  · rename_i authority there
    exact .certified state _ _ _ (by rw [there]; rfl)

theorem inner_answerDecrypted (exchange : Exchange ν) (request : Request) (target : String) :
    Inner (proxy.answerDecrypted exchange request target) := by
  unfold answerDecrypted
  split
  · exact proxy.inner_refuse _ _ _
  · exact proxy.inner_relayRequest _

theorem inner_respond (client : Stream) (response : Response) :
    Inner (proxy.respond client response) := inner_outside fun _ => rfl

theorem inner_turnAway (client : Stream) (requests : List Request) :
    Inner (proxy.turnAway client requests) := by
  induction requests with
  | nil => exact inner_pure _
  | cons request requests ih => exact (proxy.inner_respond client _).bind fun _ => ih

theorem inner_logEnd (target : String) (ended : Option String) :
    Inner (if let some source := ended then proxy.log (.serve target source)
      else pure () : ProxyM σ ν Unit) := by
  cases ended with
  | none => exact inner_pure _
  | some source => exact proxy.inner_log _

theorem inner_dispatch (exchange : Exchange ν) : Inner (proxy.dispatch exchange) := by
  refine (proxy.inner_hook (by decide) _).bind fun held => ?_
  split
  · exact inner_pure _
  refine (proxy.inner_hook (by decide) _).bind fun left => ?_
  split
  · exact inner_pure _
  split
  · exact proxy.inner_openTunnel _
  · exact (proxy.inner_relayHttp _).map _

end Proxy

end Interceptor
