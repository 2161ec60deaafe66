/-
# Interceptor.Tunnel — taking over a client's connection

A tunnel begins with an answer to the client, `200 Connection established`, and
goes on in a task of its own that holds the exchange. Without a certificate
authority the task relays bytes, directly or through a parent that has already
granted its tunnel. With one it decrypts: it accepts TLS under a leaf for the
host and handles the first request it reads, and nothing is relayed unread.

Every task ends by finishing its exchange, whatever went wrong on the way, and
what went wrong is logged once. Two things take the task with them instead of going
wrong in it, and are not logged: a lookup that overruns the clock and a leaf that
cannot be written. The exchange is finished all the same; and when the task was still
serving the request, its client is given nothing (`Served.dropped`).
-/
import Interceptor.Engine

namespace Interceptor

set_option autoImplicit false

open Http Net Certificate

variable {σ ν : Type}

/-- Where a raw tunnel's bytes go. -/
inductive FarEnd
  /-- An address that is dialed when the client's connection is ready. -/
  | direct (addr : String)
  /-- A tunnel that the parent proxy has granted. -/
  | parent (tunnel : Stream)

/-- A tunnel that was granted and has not run yet. -/
inductive TunnelTask (ν : Type)
  | relay (exchange : Exchange ν) (upgrade : UpgradeHandle) (farEnd : FarEnd) (target : String)
  | decrypt (exchange : Exchange ν) (upgrade : UpgradeHandle) (target : String)

/-- What a request is served with: a response that carries its exchange, or a tunnel. -/
inductive Served (ν : Type)
  | answered (response : GuardedResponse ν)
  | tunnelled (response : Response) (task : TunnelTask ν)
  /-- Nothing: the task that was serving it has come to its end, and drops the exchange. -/
  | dropped (exchange : Exchange ν)

def Served.ofAnswer (answer : Response × Exchange ν) : Served ν :=
  .answered (answer.2.attach answer.1)

/-- The answer to a client whose tunnel was granted. -/
def connectionEstablished : Response := { reason := some "Connection established" }

/-- The text a tunnel's target goes by: its authority, or all of it. -/
def tunnelTarget (uri : Uri) : String :=
  match uri.authority? with
  | some authority => authority.text
  | none => uri.render

namespace Proxy

/-- Connects to `host:port` within the connect timeout, unless that ends the task. -/
def dial (proxy : Proxy σ ν) (addr : String) : ProxyM σ ν (Option (Except ProxyError Stream)) :=
  .act (fun state =>
    let ((outcome, lookups), world) :=
      proxy.network.dial state.lookups addr proxy.connectTimeout state.world
    (outcome, { state with world, lookups })) fun outcome => [.dialed addr outcome]

/-- Opens a tunnel to `target` through a parent proxy. -/
def dialParent (proxy : Proxy σ ν) (parent : Uri) (target : String) :
    ProxyM σ ν (Option (Except ProxyError Stream)) := do
  match authorityWithPort parent 80 with
  | .error e => return some (.error e)
  | .ok addr =>
    match ← proxy.dial addr with
    | none => return none
    | some (.error e) => return some (.error e)
    | some (.ok stream) =>
      match ← outside (proxy.network.requestTunnel stream target) (.tunnelAsked target) with
      | .ok tunnel => return some (.ok tunnel)
      | .error (.broken source) => return some (.error (.request target source))
      | .error (.refused status) => return some (.error (.parentRefused target status))

/-- Decides what becomes of a request for a tunnel. -/
def openTunnel (proxy : Proxy σ ν) (exchange : Exchange ν) : ProxyM σ ν (Served ν) := do
  let target := tunnelTarget exchange.ctx.request.uri
  let (upgrade, ctx) := exchange.ctx.takeUpgrade
  let exchange : Exchange ν := ⟨ctx⟩
  let refuse (e : ProxyError) (status : Status) : ProxyM σ ν (Served ν) :=
    Served.ofAnswer <$> proxy.refuse exchange e status
  let some upgrade := upgrade | refuse (.hijackUnsupported target) .badGateway
  match ← proxy.askParent exchange.ctx.request with
  | .error source => refuse (.parentProxy target source) .badGateway
  | .ok parent =>
    if (← get).authority.isSome then
      return .tunnelled connectionEstablished (.decrypt exchange upgrade target)
    match authorityWithPort exchange.ctx.request.uri 443 with
    | .error e => refuse e .badGateway
    | .ok addr =>
      match parent with
      | none => return .tunnelled connectionEstablished (.relay exchange upgrade (.direct addr) target)
      | some parent =>
        match ← proxy.dialParent parent addr with
        | none => return .dropped exchange
        | some (.ok tunnel) =>
          return .tunnelled connectionEstablished (.relay exchange upgrade (.parent tunnel) target)
        | some (.error e) =>
          let status := match e with
            | .parentRefused _ status => status
            | _ => .badGateway
          refuse e status

/-- Shows a raw tunnel to the hooks; nothing they do can stop it. -/
def announceTunnel (proxy : Proxy σ ν) (exchange : Exchange ν) : ProxyM σ ν (Exchange ν) := do
  let ctx := { exchange.ctx with tunnel := true }
  let ctx ← proxy.hook .beforeRequest ctx
  let (outcome, ctx) :=
    if ctx.skipsNetwork then suppliedResponse ctx else (.ok ({} : Response), ctx)
  let (ctx, _) ← proxy.beforeResponse ctx outcome
  return ⟨ctx⟩

/-- Takes a buffer from its pool. -/
def takeBuffer : ProxyM σ ν Buffer :=
  modifyGet fun state =>
    let (buffer, buffers) := state.buffers.get .zeroed
    (buffer, { state with buffers })

/-- Gives a buffer back to its pool. -/
def returnBuffer (buffer : Buffer) : ProxyM σ ν Unit :=
  modify fun state => { state with buffers := state.buffers.put buffer }

/-- Copies bytes both ways through pooled buffers and logs an error that ended it. -/
def transferWith (proxy : Proxy σ ν)
    (relay : Buffer → Buffer → StateM σ (Except IoError Nat × Buffer × Buffer)) (target : String) :
    ProxyM σ ν Unit := do
  let up ← takeBuffer
  let down ← takeBuffer
  let (outcome, up, down) ← outside (relay up down) fun (outcome, _) => .relayed outcome
  if let .error source := outcome then
    proxy.log (.transfer target source)
  returnBuffer up
  returnBuffer down

/-- Relays between two streams. -/
def transfer (proxy : Proxy σ ν) (client server : Stream) (target : String) : ProxyM σ ν Unit :=
  proxy.transferWith (proxy.network.relay client server) target

/-- Reaches a far end: dials it, unless a parent has granted the way. -/
def reach (proxy : Proxy σ ν) : FarEnd → ProxyM σ ν (Option (Except ProxyError Stream))
  | .direct addr => proxy.dial addr
  | .parent tunnel => return some (.ok tunnel)

/-- Runs a raw tunnel up to its end. -/
def runRelay (proxy : Proxy σ ν) (exchange : Exchange ν) (upgrade : UpgradeHandle)
    (farEnd : FarEnd) (target : String) : ProxyM σ ν (Exchange ν) := do
  match ← outside (proxy.network.takeOver upgrade) .takenOver with
  | .error source =>
    proxy.log (.upgrade target source)
    return exchange
  | .ok client =>
    match ← proxy.reach farEnd with
    | none => return exchange
    | some (.error e) =>
      proxy.log e
      return exchange
    | some (.ok server) =>
      let exchange ← proxy.announceTunnel exchange
      proxy.transfer client server target
      return exchange

/-- The leaf for a tunnel's target. -/
def leafFor (proxy : Proxy σ ν) (target : String) :
    ProxyM σ ν (Option (Except IssueFailure Leaf)) :=
  .act (fun state =>
    match state.authority with
    | none => (none, state)
    | some authority =>
      let (now, world) := proxy.network.calendar state.world
      let (key, world) := proxy.network.freshKey world
      let (outcome, authority) := authority.leafFor target now key
      (some outcome, { state with world, authority := some authority }))
    fun outcome => [.certified outcome]

/-- Answers the request that the exchange is for. -/
def answerDecrypted (proxy : Proxy σ ν) (exchange : Exchange ν) (request : Request)
    (target : String) : ProxyM σ ν (Response × Exchange ν) := do
  match withTunnelOrigin request target with
  | .error e => proxy.refuse exchange e .badGateway
  | .ok request => proxy.relayRequest ⟨(exchange.ctx.replaceRequest request).2⟩

/-- Writes a response to the end on a decrypted stream. -/
def respond (proxy : Proxy σ ν) (client : Stream) (response : Response) : ProxyM σ ν Unit :=
  outside (proxy.network.respond client response) fun _ => .responded response

/-- Answers requests that no exchange is for. -/
def turnAway (proxy : Proxy σ ν) (client : Stream) : List Request → ProxyM σ ν Unit
  | [] => return ()
  | _ :: others => do
    proxy.respond client (.ofStatus .badGateway)
    proxy.turnAway client others

/-- Answers the requests on a decrypted stream: the first for the exchange, the others with 502. -/
def answerAll (proxy : Proxy σ ν) (exchange : Exchange ν) (client : Stream) (target : String) :
    List Request → ProxyM σ ν Unit
  | [] => exchange.finish proxy
  | first :: others => do
    let (response, exchange) ← proxy.answerDecrypted exchange first target
    let guarded := exchange.attach response
    proxy.respond client guarded.shown
    guarded.body.exchange.finish proxy
    proxy.turnAway client others

/-- Logs an error and ends the exchange. -/
def giveUp (proxy : Proxy σ ν) (exchange : Exchange ν) (e : ProxyError) : ProxyM σ ν Unit := do
  proxy.log e
  exchange.finish proxy

/-- Decrypts a tunnel and handles the request inside it. -/
def runDecrypt (proxy : Proxy σ ν) (exchange : Exchange ν) (upgrade : UpgradeHandle)
    (target : String) : ProxyM σ ν Unit := do
  match ← proxy.leafFor target with
  | none | some (.error .unwritable) => exchange.finish proxy
  | some (.error (.refused e)) => proxy.giveUp exchange (.certificate target e)
  | some (.ok leaf) =>
    match ← outside (proxy.network.takeOver upgrade) .takenOver with
    | .error source => proxy.giveUp exchange (.upgrade target source)
    | .ok client =>
      match ← outside (proxy.network.acceptTls client leaf proxy.handshakeTimeout) .accepted with
      | .error (.failed e) => proxy.giveUp exchange (.handshake target e)
      | .error .timedOut => proxy.giveUp exchange (.handshakeTimeout target proxy.handshakeTimeout)
      | .ok tls =>
        let (requests, ended) ← outside (proxy.network.requests tls) fun (requests, ended) =>
          .received requests ended
        proxy.answerAll exchange tls target requests
        if let some source := ended then
          proxy.log (.serve target source)

/-- Runs a tunnel up to its end. -/
def run (proxy : Proxy σ ν) : TunnelTask ν → ProxyM σ ν Unit
  | .relay exchange upgrade farEnd target => do
    let exchange ← proxy.runRelay exchange upgrade farEnd target
    exchange.finish proxy
  | .decrypt exchange upgrade target => proxy.runDecrypt exchange upgrade target

/-- Shows an exchange to the first two hooks and sends it where its request goes. -/
def dispatch (proxy : Proxy σ ν) (exchange : Exchange ν) : ProxyM σ ν (Served ν) := do
  let ctx ← proxy.hook .connect exchange.ctx
  if ctx.abort then
    return .ofAnswer (Exchange.aborted ⟨ctx⟩)
  let ctx ← proxy.hook .auth ctx
  if ctx.abort then
    return .ofAnswer (Exchange.aborted ⟨ctx⟩)
  match route ctx.request with
  | .tunnel => proxy.openTunnel ⟨ctx⟩
  | .http => Served.ofAnswer <$> proxy.relayHttp ⟨ctx⟩

/-- Serves one inbound request up to its response. -/
def serve [EmptyCollection ν] (proxy : Proxy σ ν) (request : Request) (remote : Option SocketAddr)
    (upgrade : Option UpgradeHandle) : ProxyM σ ν (Served ν) := do
  let exchange ← Exchange.begin (fillAuthority request) remote upgrade
  proxy.dispatch exchange

/-- The whole of an exchange: serves the request, and ends the exchange when the body of its
response is over, or with its tunnel. -/
def attend [EmptyCollection ν] (proxy : Proxy σ ν) (request : Request)
    (remote : Option SocketAddr) (upgrade : Option UpgradeHandle) : ProxyM σ ν Unit := do
  match ← proxy.serve request remote upgrade with
  | .answered response =>
    Strand.mark (.answered response.shown)
    response.body.release proxy
  | .tunnelled response task =>
    Strand.mark (.tunnelled response)
    proxy.run task
  | .dropped exchange => exchange.finish proxy

end Proxy

end Interceptor
