/-
# Interceptor.Relay — copying bytes both ways

A relay has two lanes, one for each direction. A lane reads into its buffer
what has arrived on one stream, at most a buffer at a time, writes that part of
the buffer to the other stream, which may take a part of it, fail, or take
nothing, and flushes before it reads again; a stream that takes nothing is an
error. A lane ends, after a last flush, when a read brings no bytes, or when
something fails, and the relay ends with the first lane that does: the other
one stops where it is.

How a stream behaves is a list of what its reads, writes and flushes will meet.
A stream whose answers depend on what it was sent has, in any one run, met such
lists too. Which lane goes next is for whoever runs the relay to say: `run`
follows a schedule, and a lane that has to wait is one that has no turn.
`settle` lets each lane in turn do what it can.
-/
import Interceptor.Buffer
import Interceptor.Error

namespace Interceptor

set_option autoImplicit false

/-- What a read brings. -/
inductive Arrival
  | bytes (chunk : List UInt8)
  | ended
  | failed (error : IoError)
  deriving DecidableEq, Repr

/-- A bound on the reads that an arrival is good for. -/
def Arrival.weight : Arrival → Nat
  | .bytes chunk => chunk.length + 1
  | _ => 1

/-- What becomes of bytes that are written. -/
inductive Uptake
  /-- So many bytes are taken, in one write or in several. -/
  | takes (room : Nat)
  | fails (error : IoError)
  deriving DecidableEq, Repr

/-- What a lane does next. -/
inductive LaneTask
  | read
  /-- Writes the bytes of the buffer from one place up to another. -/
  | write (start stop : Nat)
  /-- Flushes, and ends the lane if that was the last thing to do. -/
  | flush (last : Bool)

/-- One direction of a relay. -/
structure Lane where
  /-- What reads will bring; with nothing left they wait. -/
  arrivals : List Arrival
  /-- What writes will meet; with nothing left everything is taken. -/
  uptakes : List Uptake
  /-- What flushes will meet; with nothing left they succeed. -/
  flushes : List (Except IoError Unit) := []
  buffer : Buffer
  task : LaneTask := .read
  written : List UInt8 := []
  largestRead : Nat := 0
  outcome : Option (Except IoError Nat) := none

namespace Lane

/-- Bytes that were read and not written yet. -/
def pending (lane : Lane) : List UInt8 :=
  match lane.task with
  | .write start stop => (lane.buffer.bytes.take stop).drop start
  | _ => []

def finish (lane : Lane) (outcome : Except IoError Nat) : Lane :=
  { lane with outcome := some outcome }

/-- Puts bytes at the front of a buffer. -/
def fillFront (buffer : Buffer) (chunk : List UInt8) : Buffer :=
  ⟨chunk ++ buffer.bytes.drop chunk.length⟩

/-- Reads once. -/
def read (lane : Lane) : Lane :=
  match lane.arrivals with
  | [] => lane
  | .ended :: _ => { lane with task := .flush true }
  | .failed e :: _ => lane.finish (.error e)
  | .bytes chunk :: rest =>
    let size := lane.buffer.bytes.length
    let now := chunk.take size
    if now.isEmpty then { lane with task := .flush true }
    else { lane with
      arrivals := if size < chunk.length then .bytes (chunk.drop size) :: rest else rest
      buffer := fillFront lane.buffer now
      task := .write 0 now.length
      largestRead := max lane.largestRead now.length }

/-- Writes once, from a part of the buffer. -/
def write (lane : Lane) (start stop : Nat) : Lane :=
  match lane.uptakes with
  | [] => { lane with written := lane.written ++ lane.pending, task := .flush false }
  | .fails e :: _ => lane.finish (.error e)
  | .takes room :: rest =>
    let n := min room lane.pending.length
    if n = 0 then lane.finish (.error .writeZero)
    else { lane with
      uptakes := if n < room then .takes (room - n) :: rest else rest
      written := lane.written ++ lane.pending.take n
      task := if n < lane.pending.length then .write (start + n) stop else .flush false }

/-- Flushes once. -/
def flush (lane : Lane) (last : Bool) : Lane :=
  match lane.flushes with
  | .error e :: _ => lane.finish (.error e)
  | flushes =>
    if last then lane.finish (.ok lane.written.length)
    else { lane with flushes := flushes.tail, task := .read }

/-- Does one thing, unless the lane has ended. -/
def step (lane : Lane) : Lane :=
  if lane.outcome.isSome then lane
  else match lane.task with
    | .read => lane.read
    | .write start stop => lane.write start stop
    | .flush last => lane.flush last

/-- A bound on the steps that a lane can make. -/
def work (lane : Lane) : Nat :=
  lane.arrivals.foldl (fun total arrival => total + 3 * arrival.weight) (lane.pending.length + 1)

/-- Lets something arrive behind what is on its way. -/
def arrive (lane : Lane) (arrival : Arrival) : Lane :=
  { lane with arrivals := lane.arrivals ++ [arrival] }

end Lane

/-- The two directions of a relay. -/
inductive Direction
  | up
  | down
  deriving DecidableEq, Repr

/-- A relay between a client and a server. -/
structure Relay where
  /-- From the client to the server. -/
  up : Lane
  /-- From the server to the client. -/
  down : Lane

namespace Relay

/-- How the relay ended. -/
def outcome? (relay : Relay) : Option (Except IoError Nat) :=
  relay.up.outcome <|> relay.down.outcome

/-- Lets one lane make a step, unless the relay has ended. -/
def step (relay : Relay) (direction : Direction) : Relay :=
  if relay.outcome?.isSome then relay
  else match direction with
    | .up => { relay with up := relay.up.step }
    | .down => { relay with down := relay.down.step }

/-- Steps by a schedule. -/
def run (relay : Relay) (schedule : List Direction) : Relay := schedule.foldl step relay

/-- As many turns for the client's lane, and then for the server's, as they can use. -/
def turns (relay : Relay) : List Direction :=
  List.replicate relay.up.work .up ++ List.replicate relay.down.work .down

/-- Lets the lane of the client, and then that of the server, do what it can. -/
def settle (relay : Relay) : Relay := relay.run relay.turns

/-- The relay with these buffers. -/
def withBuffers (relay : Relay) (up down : Buffer) : Relay :=
  { up := { relay.up with buffer := up }, down := { relay.down with buffer := down } }

/-- The relay as one operation: by a schedule that it ends by, through the buffers it is given.
`keep` says what becomes of the world outside when the relay has ended like that. -/
def carry {σ : Type} (relay : Relay) (schedule : List Direction) (keep : Relay → σ → σ)
    (up down : Buffer) : StateM σ (Except IoError Nat × Buffer × Buffer) :=
  modifyGet fun world =>
    let after := (relay.withBuffers up down).run schedule
    ((after.outcome?.getD (.ok 0), after.up.buffer, after.down.buffer), keep after world)

end Relay

/-- How a stream behaves. -/
structure Wire where
  /-- What reads will bring; with nothing left they wait. -/
  arrivals : List Arrival
  /-- What writes will meet; with nothing left everything is taken. -/
  uptakes : List Uptake := []
  /-- What flushes will meet; with nothing left they succeed. -/
  flushes : List (Except IoError Unit) := []

/-- A lane from one stream to another. -/
def Wire.laneTo (source target : Wire) : Lane where
  arrivals := source.arrivals
  uptakes := target.uptakes
  flushes := target.flushes
  buffer := .zeroed

/-- A relay that is about to begin. -/
def Relay.between (client server : Wire) : Relay where
  up := client.laneTo server
  down := server.laneTo client

end Interceptor
