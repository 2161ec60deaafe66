/-
# Interceptor.Script — hooks and transports given by a script

A script says what each hook does, as a list of actions on the context, what
the delegate answers when it is asked for a parent, and what the transport
brings back. `Stage` plays it: it is the state of a delegate, a transport and a
network, and it keeps the events in the order in which they happened. The
network of a stage has no connections: nothing can be reached, and a
connection that a client handed over is gone.
-/
import Interceptor.Tunnel
import Interceptor.Net.LocalNames

namespace Interceptor

set_option autoImplicit false

open Http Net Certificate

/-- The notes that scripted hooks keep. -/
structure Notes where
  tag : Option String := none
  count : Option Nat := none
  started : Option Nat := none
  deriving DecidableEq, Repr

namespace Notes

instance : EmptyCollection Notes := ⟨{}⟩

instance : StartNote Notes where
  setStarted notes moment := { notes with started := some moment }
  started? notes := notes.started

end Notes

/-- A context with scripted notes. -/
abbrev Scene := Context Notes

/-- What a hook does to its context. -/
inductive Action
  | abort
  | failFast (flag : Bool)
  | needMock (flag : Bool)
  | mock (response : Response)
  | setResponse (response : Response)
  | takeResponse
  | setMethod (method : Method)
  | setUri (uri : Uri)
  | setVersion (version : Version)
  | header (name : HeaderName) (value : HeaderValue)
  | addHeader (name : HeaderName) (value : HeaderValue)
  | removeHeader (name : HeaderName)
  | setBody (bytes : List UInt8)
  | takeBody
  | replaceRequest (request : Request)
  | setTag (text : String)
  | untag
  | count
  | reset

/-- Why an action could not be read. -/
structure Mistake where
  kind : String
  message : String

/-- What an action gives back. -/
inductive Returned
  | nothing
  | response (response : Response)
  | replaced (request : Request)
  | text (text : String)
  | number (n : Nat)
  | mistake (mistake : Mistake)

namespace Action

/-- Changes the headers of the context's request. -/
def onHeaders (ctx : Scene) (change : Headers → Headers) : Scene :=
  { ctx with request := { ctx.request with headers := change ctx.request.headers } }

/-- Carries an action out. -/
def run (action : Action) (ctx : Scene) : Returned × Scene :=
  match action with
  | .abort => (.nothing, { ctx with abort := true })
  | .failFast flag => (.nothing, { ctx with failFast := flag })
  | .needMock flag => (.nothing, { ctx with needMock := flag })
  | .mock response => (.nothing, ctx.mock response)
  | .setResponse response => (.nothing, { ctx with response := some response })
  | .takeResponse =>
    let (response, ctx) := ctx.takeResponse
    (response.elim .nothing .response, ctx)
  | .setMethod method => (.nothing, { ctx with request := { ctx.request with method } })
  | .setUri uri => (.nothing, { ctx with request := { ctx.request with uri } })
  | .setVersion version => (.nothing, { ctx with request := { ctx.request with version } })
  | .header name value => (.nothing, onHeaders ctx (·.insert name value))
  | .addHeader name value => (.nothing, onHeaders ctx (·.append name value))
  | .removeHeader name => (.nothing, onHeaders ctx (·.erase name))
  | .setBody bytes => (.nothing, { ctx with request := { ctx.request with body := .full bytes } })
  | .takeBody =>
    let (body, ctx) := ctx.takeBody
    (.number body.bytes.length, ctx)
  | .replaceRequest request =>
    let (old, ctx) := ctx.replaceRequest request
    (.replaced old, ctx)
  | .setTag text => (.nothing, { ctx with notes := { ctx.notes with tag := some text } })
  | .untag => (ctx.notes.tag.elim .nothing .text, { ctx with notes := { ctx.notes with tag := none } })
  | .count =>
    (.nothing, { ctx with notes := { ctx.notes with count := some (ctx.notes.count.getD 0 + 1) } })
  | .reset => (.nothing, Reset.reset ctx)

/-- Carries out what could be read of a list of actions. -/
def runAll (actions : List (Except Mistake Action)) (ctx : Scene) : List Returned × Scene :=
  actions.foldl (fun (returned, ctx) action =>
    match action with
    | .error mistake => (returned ++ [.mistake mistake], ctx)
    | .ok action =>
      let (r, ctx) := action.run ctx
      (returned ++ [r], ctx)) ([], ctx)

end Action

/-- What the hook after the response does to the outcome. -/
inductive ResultAction
  | replace (response : Response)
  | fail (text : String)
  | setStatus (status : Status)
  | header (name : HeaderName) (value : HeaderValue)
  | fromContext

/-- An outcome and the context it belongs to. -/
abbrev Outcome := Except ProxyError Response

/-- Carries an action on the outcome out. -/
def ResultAction.run (action : ResultAction) (ctx : Scene) (outcome : Outcome) : Scene × Outcome :=
  match action with
  | .replace response => (ctx, .ok response)
  | .fail text => (ctx, .error (.request "hook" text))
  | .setStatus status => (ctx, outcome.map fun response => { response with status })
  | .header name value =>
    (ctx, outcome.map fun response => { response with headers := response.headers.append name value })
  | .fromContext =>
    let (response, ctx) := ctx.takeResponse
    (ctx, response.elim outcome .ok)

/-- What the delegate answers when it is asked for a parent. -/
abbrev ParentAnswer := Except String (Option Uri)

/-- What the transport does. -/
inductive Reply
  | response (response : Response)
  /-- Sends the request's headers and body back. -/
  | echo
  | invalidTarget
  | timeout
  | fail (text : String)

/-- What happens in one part of a play. -/
structure Script where
  connect : List (Except Mistake Action) := []
  auth : List (Except Mistake Action) := []
  beforeRequest : List (Except Mistake Action) := []
  beforeResponse : List (Except Mistake Action) := []
  results : List ResultAction := []
  finish : List (Except Mistake Action) := []
  /-- Answered one after another; the last one again and again. -/
  parents : List ParentAnswer := []
  reply : Reply := .response {}

/-- What happened. -/
inductive Event
  | hook (name : String) (entry : Scene) (returned : List Returned) (outcome : Option Outcome)
  | parentAsked (request : Request)
  | sent (outbound : Outbound)
  | logged (error : ProxyError)
  | observed (lookup : LookupEvent)

/-- A script that is being played. -/
structure Stage where
  script : Script := {}
  events : List Event := []
  records : List LogRecord := []
  clock : Nat := 0
  nextKey : KeyPair

namespace Stage

/-- A computation of a stage. -/
abbrev Play := StateM Stage

def note (event : Event) : Play Unit :=
  modify fun stage => { stage with events := stage.events ++ [event] }

/-- Plays the actions of a hook. -/
def hook (name : String) (actions : Script → List (Except Mistake Action)) (ctx : Scene) :
    Play Scene := do
  let (returned, after) := Action.runAll (actions (← get).script) ctx
  note (.hook name ctx returned none)
  return after

/-- The delegate that plays the script. -/
def delegate : Delegate Stage Notes where
  connect := hook "connect" Script.connect
  auth := hook "auth" Script.auth
  beforeRequest := hook "before_request" Script.beforeRequest
  beforeResponse ctx outcome := do
    let script := (← get).script
    let (returned, after) := Action.runAll script.beforeResponse ctx
    note (.hook "before_response" ctx returned (some outcome))
    return script.results.foldl (fun (ctx, outcome) action => action.run ctx outcome) (after, outcome)
  parentProxy request := do
    note (.parentAsked request)
    let stage ← get
    match stage.script.parents with
    | [] => return .ok none
    | [answer] => return answer
    | answer :: rest =>
      set { stage with script := { stage.script with parents := rest } }
      return answer
  finish := hook "finish" Script.finish
  errorLog e := note (.logged e)

/-- The delegate that changes nothing and keeps a log. -/
def loggingDelegate (parent : Option Uri) : Delegate Stage Notes :=
  .logging (fun record => modify fun stage => { stage with records := stage.records ++ [record] })
    (return (← get).clock) parent

/-- The outcome a script's reply gives to a request. -/
def answer (reply : Reply) (request : Request) : Outcome :=
  let target := request.uri.render
  match reply with
  | .response response => .ok response
  | .echo => .ok { headers := request.headers, body := request.body }
  | .invalidTarget => .error (.invalidTarget target)
  | .timeout => .error (.connectTimeout target (.ofSecs 5))
  | .fail text => .error (.request target text)

/-- The transport that plays the script. -/
def transport : Transport Stage where
  roundTrip outbound := do
    note (.sent outbound)
    return answer (← get).script.reply outbound.request

/-- A machine that knows its own names alone; lookups are events of the stage. -/
def machine : Machine Stage where
  now := return (← get).clock
  lookup host := return LocalNames.lookup host
  observe event := note (.observed event)

/-- A network without connections. -/
def network : Network Stage where
  toMachine := { machine with observe := fun _ => return () }
  freshKey := return (← get).nextKey
  calendar := return (← get).clock / 1000000000
  connect _ _ := return .error (.failed .networkUnreachable)
  requestTunnel _ _ := return .error (.broken IoError.networkUnreachable.message)
  takeOver _ := return .error "*"
  acceptTls _ _ _ := return .error (.failed .networkUnreachable)
  requests _ := return ([], none)
  respond _ _ := return ()
  relay _ _ up down := return (.error .networkUnreachable, up, down)

end Stage

end Interceptor
