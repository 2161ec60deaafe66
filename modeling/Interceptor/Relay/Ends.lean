/-
# Interceptor.Relay.Ends — a relay seen from its two ends

Whoever holds the outer ends of the two streams sends bytes into one and takes
what comes out of the other. Each end is named by the direction in which its
bytes go. Between two actions the relay does all that it can do.
-/
import Interceptor.Relay

namespace Interceptor

set_option autoImplicit false

def Relay.lane (relay : Relay) : Direction → Lane
  | .up => relay.up
  | .down => relay.down

/-- Lets something arrive from an end. -/
def Relay.arrive (relay : Relay) (arrival : Arrival) : Direction → Relay
  | .up => { relay with up := relay.up.arrive arrival }
  | .down => { relay with down := relay.down.arrive arrival }

/-- A relay and the ends that were closed. -/
structure Ends where
  relay : Relay
  closed : List Direction := []

namespace Ends

def isClosed (ends : Ends) (side : Direction) : Bool := ends.closed.contains side

/-- Lets something arrive from an end, unless the relay has ended. -/
def push (ends : Ends) (side : Direction) (arrival : Arrival) : Ends :=
  if ends.relay.outcome?.isSome then ends
  else { ends with relay := (ends.relay.arrive arrival side).settle }

/-- Sends bytes from an end and takes what reaches the other; nothing if one of the ends is gone. -/
def send (ends : Ends) (side : Direction) (bytes : List UInt8) : Option (List UInt8) × Ends :=
  if bytes.isEmpty then (if ends.closed.isEmpty then some [] else none, ends)
  else if ends.relay.outcome?.isSome then (none, ends)
  else
    let next := ends.push side (.bytes bytes)
    (some ((next.relay.lane side).written.drop (ends.relay.lane side).written.length), next)

/-- Says that nothing more will be sent from an end. -/
def finish (ends : Ends) (side : Direction) : Ends := ends.push side .ended

/-- Closes an end. -/
def close (ends : Ends) (side : Direction) : Ends :=
  { ends.finish side with closed := side :: ends.closed }

end Ends

end Interceptor
