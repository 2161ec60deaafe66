/-
# Interceptor.Proofs.Tunnel.Transfer — what a transfer carries

A lane has one invariant, whatever its streams do and whenever it has a turn
(`Carries`): what it has written, what stands in its buffer to be written, and
what its reads have yet to bring are together the whole input, in order. Reads
move bytes from the last part to the one in the middle, writes from there to the
first, and a buffer that was used before shows nowhere.

* `carries_step`, `carries_run`: a step of a lane keeps it, and so does a relay
  under any schedule;
* `exists_endedBy`: a relay that has ended was ended by one of its lanes;
* `transfer_carries`: when a transfer returns, each stream was sent a beginning of
  what the other has brought; if the lane that ended it came to the end of its
  input, all of that, and nothing is logged; if it failed, its error is logged; and
  the buffers are behind the idle ones of their pool, as far as there is room.
-/
import Interceptor.Relay.Ends
import Interceptor.Proofs.Tunnel.Raw

namespace Interceptor

set_option autoImplicit false

variable {σ ν : Type}

/-- The bytes that reads bring before the stream ends or fails. A read of no bytes is its end. -/
def Arrival.input : List Arrival → List UInt8
  | .bytes chunk :: rest => if chunk = [] then [] else chunk ++ input rest
  | _ => []

/-- The bytes that a stream brings. -/
def Wire.input (wire : Wire) : List UInt8 := Arrival.input wire.arrivals

/-- The stream that a lane reads from. -/
def Direction.source (client server : Wire) : Direction → Wire
  | .up => client
  | .down => server

namespace Lane

/-! ## One lane -/

/-- A lane carries an input. -/
structure Carries (input : List UInt8) (lane : Lane) : Prop where
  room : 0 < lane.buffer.bytes.length
  whole : lane.written ++ (lane.pending ++ Arrival.input lane.arrivals) = input
  last : lane.task = .flush true → Arrival.input lane.arrivals = []
  ended : ∀ count, lane.outcome = some (.ok count) → lane.task = .flush true

variable {input : List UInt8} {lane : Lane}

theorem Carries.isPrefix (carries : Carries input lane) : lane.written <+: input :=
  ⟨_, carries.whole⟩

/-- A lane that has come to the end of its input has written all of it. -/
theorem Carries.complete (carries : Carries input lane) {count : Nat}
    (ended : lane.outcome = some (.ok count)) : lane.written = input := by
  have last := carries.ended count ended
  have whole := carries.whole
  rw [carries.last last, pending, last, List.nil_append, List.append_nil] at whole
  exact whole

/-- A failure leaves everything where it is. -/
theorem Carries.fail (carries : Carries input lane) (e : IoError) :
    Carries input (lane.finish (.error e)) :=
  ⟨carries.room, carries.whole, carries.last, fun _ ended => nomatch ended⟩

/-- A lane that has more to do than a last flush. -/
theorem carries_of_running (room : 0 < lane.buffer.bytes.length)
    (whole : lane.written ++ (lane.pending ++ Arrival.input lane.arrivals) = input)
    (more : lane.task ≠ .flush true) (running : lane.outcome = none) : Carries input lane := by
  refine ⟨room, whole, fun last => absurd last more, fun count ended => ?_⟩
  rw [running] at ended
  exact nomatch ended

/-- A lane that has come to the end of its input. -/
theorem Carries.flushLast (carries : Carries input lane) (idle : lane.pending = [])
    (none : Arrival.input lane.arrivals = []) :
    Carries input { lane with task := .flush true } := by
  refine ⟨carries.room, ?_, fun _ => none, fun _ _ => rfl⟩
  rw [← carries.whole, idle]
  rfl

theorem length_fillFront {buffer : Buffer} {chunk : List UInt8}
    (fits : chunk.length ≤ buffer.bytes.length) :
    (fillFront buffer chunk).bytes.length = buffer.bytes.length := by
  simp only [fillFront, List.length_append, List.length_drop]
  omega

/-- What a read has put into the buffer is what is pending then, whatever stood there before. -/
theorem take_fillFront (buffer : Buffer) (chunk : List UInt8) :
    ((fillFront buffer chunk).bytes.take chunk.length).drop 0 = chunk := by
  simp [fillFront]

/-- A chunk that is longer than the buffer is brought by several reads. -/
theorem input_split {chunk : List UInt8} {size : Nat} (some : chunk.take size ≠ [])
    (rest : List Arrival) :
    chunk.take size ++
        Arrival.input (if size < chunk.length then .bytes (chunk.drop size) :: rest else rest) =
      Arrival.input (.bytes chunk :: rest) := by
  have filled : chunk ≠ [] := by
    rintro rfl
    exact some List.take_nil
  split
  · rename_i more
    have left : chunk.drop size ≠ [] := by simpa using more
    rw [Arrival.input, Arrival.input, if_neg left, if_neg filled, ← List.append_assoc,
      List.take_append_drop]
  · rename_i short
    rw [Arrival.input, if_neg filled, List.take_of_length_le (Nat.le_of_not_lt short)]

theorem carries_read (carries : Carries input lane) (task : lane.task = .read)
    (running : lane.outcome = none) : Carries input lane.read := by
  have idle : lane.pending = [] := by rw [pending, task]
  unfold read
  split
  · exact carries
  · rename_i arrivals
    exact carries.flushLast idle (by rw [arrivals]; rfl)
  · exact carries.fail _
  · rename_i chunk rest arrivals
    simp only [List.isEmpty_iff]
    split
    · rename_i none
      -- the buffer has room, so it is the chunk that is empty
      have empty : chunk = [] := by
        rcases List.take_eq_nil_iff.mp none with zero | empty
        · exact absurd zero (Nat.ne_of_gt carries.room)
        · exact empty
      exact carries.flushLast idle (by rw [arrivals, empty]; rfl)
    · rename_i some
      refine carries_of_running ?_ ?_ (fun last => nomatch last) running
      · show 0 < (fillFront lane.buffer _).bytes.length
        rw [length_fillFront (List.length_take_le ..)]
        exact carries.room
      · show lane.written ++ (((fillFront lane.buffer _).bytes.take _).drop 0 ++ _) = input
        rw [take_fillFront, input_split some, ← carries.whole, idle, arrivals]
        rfl

theorem carries_write (carries : Carries input lane) {start stop : Nat}
    (task : lane.task = .write start stop) (running : lane.outcome = none) :
    Carries input (lane.write start stop) := by
  unfold write
  split
  · refine carries_of_running carries.room ?_ (fun last => nomatch last) running
    show (lane.written ++ lane.pending) ++ ([] ++ _) = input
    rw [← carries.whole, List.nil_append, List.append_assoc]
  · exact carries.fail _
  · rename_i room rest uptakes
    simp only
    generalize min room lane.pending.length = taken
    by_cases stuck : taken = 0
    · rw [if_pos stuck]
      exact carries.fail _
    rw [if_neg stuck]
    by_cases more : taken < lane.pending.length
    · rw [if_pos more]
      refine carries_of_running carries.room ?_ (fun last => nomatch last) running
      -- what was not taken is still pending
      have left : (lane.buffer.bytes.take stop).drop (start + taken) = lane.pending.drop taken := by
        rw [← List.drop_drop, pending, task]
      show (lane.written ++ lane.pending.take taken) ++
        ((lane.buffer.bytes.take stop).drop (start + taken) ++ _) = input
      rw [left, ← carries.whole, List.append_assoc, ← List.append_assoc (List.take _ _),
        List.take_append_drop]
    · rw [if_neg more]
      refine carries_of_running carries.room ?_ (fun last => nomatch last) running
      show (lane.written ++ lane.pending.take taken) ++ ([] ++ _) = input
      rw [← carries.whole, List.take_of_length_le (Nat.le_of_not_lt more), List.nil_append,
        List.append_assoc]

theorem carries_flush (carries : Carries input lane) {last : Bool}
    (task : lane.task = .flush last) (running : lane.outcome = none) :
    Carries input (lane.flush last) := by
  unfold flush
  split
  · exact carries.fail _
  · cases last with
    | true => exact ⟨carries.room, carries.whole, carries.last, fun _ _ => task⟩
    | false =>
        have idle : lane.pending = [] := by rw [pending, task]
        refine carries_of_running carries.room ?_ (fun last => nomatch last) running
        rw [← carries.whole, idle]
        rfl

/-- A lane goes on carrying its input. -/
theorem carries_step (carries : Carries input lane) : Carries input lane.step := by
  unfold step
  split
  · exact carries
  · rename_i running
    have running := Option.not_isSome_iff_eq_none.mp running
    split
    · rename_i task
      exact carries_read carries task running
    · rename_i start stop task
      exact carries_write carries task running
    · rename_i last task
      exact carries_flush carries task running

theorem carries_laneTo (source target : Wire) : Carries source.input (source.laneTo target) := by
  refine carries_of_running ?_ rfl (fun last => nomatch last) rfl
  show 0 < (List.replicate Buffer.standardSize (0 : UInt8)).length
  rw [List.length_replicate]
  decide

end Lane

/-! ## Both lanes -/

namespace Relay

/-- Each lane carries what one of the streams brings, and no more than one of them has ended. -/
structure Carries (client server : Wire) (relay : Relay) : Prop where
  up : relay.up.Carries client.input
  down : relay.down.Carries server.input
  once : relay.up.outcome = none ∨ relay.down.outcome = none

variable {client server : Wire} {relay : Relay}

theorem Carries.lane (carries : Carries client server relay) (side : Direction) :
    (relay.lane side).Carries (side.source client server).input := by
  cases side with
  | up => exact carries.up
  | down => exact carries.down

theorem outcomes_of_running (running : relay.outcome? = none) :
    relay.up.outcome = none ∧ relay.down.outcome = none := by
  unfold outcome? at running
  cases up : relay.up.outcome with
  | some outcome =>
      rw [up] at running
      exact nomatch running
  | none =>
      rw [up] at running
      exact ⟨rfl, running⟩

/-- A step of one lane leaves the other as it is. -/
theorem carries_step (carries : Carries client server relay) (side : Direction) :
    Carries client server (relay.step side) := by
  unfold step
  split
  · exact carries
  · rename_i running
    obtain ⟨up, down⟩ := outcomes_of_running (Option.not_isSome_iff_eq_none.mp running)
    cases side with
    | up => exact ⟨Lane.carries_step carries.up, carries.down, .inr down⟩
    | down => exact ⟨carries.up, Lane.carries_step carries.down, .inl up⟩

/-- Under any schedule, both lanes carry what their streams bring. -/
theorem carries_run (carries : Carries client server relay) (schedule : List Direction) :
    Carries client server (relay.run schedule) := by
  unfold run
  induction schedule generalizing relay with
  | nil => exact carries
  | cons side schedule ih => exact ih (carries_step carries side)

theorem carries_between (client server : Wire) :
    Carries client server (.between client server) :=
  ⟨Lane.carries_laneTo client server, Lane.carries_laneTo server client, .inl rfl⟩

/-- The relay ended with this lane, and with no other. -/
def EndedBy (relay : Relay) (side : Direction) (outcome : Except IoError Nat) : Prop :=
  (relay.lane side).outcome = some outcome ∧
    ∀ other, (relay.lane other).outcome.isSome → other = side

theorem exists_endedBy (carries : Carries client server relay) {outcome : Except IoError Nat}
    (ended : relay.outcome? = some outcome) : ∃ side, relay.EndedBy side outcome := by
  unfold outcome? at ended
  cases up : relay.up.outcome with
  | some first =>
      rw [up] at ended
      have down : relay.down.outcome = none :=
        carries.once.resolve_left fun running => nomatch running.symm.trans up
      refine ⟨.up, up.trans ended, fun other some => ?_⟩
      cases other with
      | up => rfl
      | down =>
          rw [Relay.lane, down] at some
          exact nomatch some
  | none =>
      rw [up] at ended
      refine ⟨.down, ended, fun other some => ?_⟩
      cases other with
      | up =>
          rw [Relay.lane, up] at some
          exact nomatch some
      | down => rfl

end Relay

/-! ## A transfer -/

/-- The pool that a transfer has taken its buffers from. -/
def Pool.lent (pool : BufferPool) : BufferPool := ((pool.get .zeroed).2.get .zeroed).2

namespace Proxy

/-- The world after an error that ended a transfer was logged. -/
def reported (proxy : Proxy σ ν) (target : String) (outcome : Except IoError Nat) (world : σ) : σ :=
  match outcome with
  | .ok _ => world
  | .error source => ((proxy.delegate.errorLog (.transfer target source)).run world).2

theorem run_outside {α : Type} (act : StateM σ α) (mark : α → Occurrence ν) (state : ProxyState σ ν) :
    (outside act mark).run state =
      ((act.run state.world).1, { state with world := (act.run state.world).2 }) := rfl

theorem run_takeBuffer (state : ProxyState σ ν) : (takeBuffer : ProxyM σ ν Buffer).run state =
    (.zeroed, { state with buffers := (state.buffers.get .zeroed).2 }) :=
  Prod.ext (Buffer.get_zeroed state.buffers) rfl

/-- What a transfer does to the state, with nobody in between. -/
theorem run_transferWith (proxy : Proxy σ ν)
    (relay : Buffer → Buffer → StateM σ (Except IoError Nat × Buffer × Buffer)) (target : String)
    (state : ProxyState σ ν) {outcome : Except IoError Nat} {up down : Buffer} {world : σ}
    (relayed : (relay .zeroed .zeroed).run state.world = ((outcome, up, down), world)) :
    ((proxy.transferWith relay target).run state).2 = { state with
      world := proxy.reported target outcome world
      buffers := (state.buffers.lent.put up).put down } := by
  rw [transferWith, Strand.run_bind, run_takeBuffer, Strand.run_bind, run_takeBuffer, Strand.run_bind,
    run_outside, relayed]
  cases outcome <;> rfl

end Proxy

/-- What has come of a relay between two streams when it has ended. -/
structure Transferred (client server : Wire) (outcome : Except IoError Nat) (final : Relay) :
    Prop where
  toServer : final.up.written <+: client.input
  toClient : final.down.written <+: server.input
  ended : ∃ side, final.EndedBy side outcome ∧
    ∀ count, outcome = .ok count →
      (final.lane side).written = (side.source client server).input

theorem Relay.Carries.transferred {client server : Wire} {final : Relay}
    (carries : final.Carries client server) {outcome : Except IoError Nat}
    (ended : final.outcome? = some outcome) : Transferred client server outcome final := by
  obtain ⟨side, by_side⟩ := exists_endedBy carries ended
  refine ⟨carries.up.isPrefix, carries.down.isPrefix, side, by_side, ?_⟩
  rintro count rfl
  exact (carries.lane side).complete by_side.1

/-- **A transfer carries what each stream sends to the other.** Whatever the two streams bring, in
whatever chunks, whatever their writes and flushes meet, and whichever lane has a turn when, a transfer
that returns has sent each stream a beginning of what the other brought, and all of it where a lane
came to the end of its input. It logs the error that ended it, once, and nothing else, and gives both
buffers to their pool. -/
theorem Proxy.transfer_carries (proxy : Proxy σ ν) (client server : Wire)
    (schedule : List Direction) (keep : Relay → σ → σ) (target : String) (state : ProxyState σ ν)
    {outcome : Except IoError Nat}
    (returns : ((Relay.between client server).run schedule).outcome? = some outcome) :
    let final := (Relay.between client server).run schedule
    let transfer := proxy.transferWith ((Relay.between client server).carry schedule keep) target
    Transferred client server outcome final ∧
      (∀ seen result, transfer.Yields seen result → logs seen = match outcome with
        | .ok _ => []
        | .error source => [.transfer target source]) ∧
      (transfer.run state).2.world = proxy.reported target outcome (keep final state.world) ∧
      (transfer.run state).2.buffers.idle =
        (state.buffers.lent.idle ++ [final.up.buffer, final.down.buffer]).take
          (max state.buffers.lent.capacity state.buffers.lent.idle.length) := by
  intro final transfer
  have carries := Relay.carries_run (Relay.carries_between client server) schedule
  -- the buffers of the pool are those that the relay begins with
  have copied : ∀ world, ((Relay.between client server).carry schedule keep .zeroed .zeroed).run
      world = ((outcome, final.up.buffer, final.down.buffer), keep final world) := by
    intro world
    show ((final.outcome?.getD (.ok 0), _), _) = _
    rw [returns]
    rfl
  have left := run_transferWith proxy _ target state (copied state.world)
  refine ⟨carries.transferred returns, ?_, ?_, ?_⟩
  · intro seen result course
    obtain ⟨world, _, rfl, rfl⟩ := seen_transferWith course
    rw [copied]
    cases outcome <;> rfl
  · rw [left]
  · rw [left]
    exact Pool.idle_put_put ..

/-- A client with three bytes to send. -/
def sender : Wire := { arrivals := [.bytes [1, 2, 3], .ended] }

/-- A server that has a byte to send, and breaks after it has taken two. -/
def breaking : Wire :=
  { arrivals := [.bytes [7]], uptakes := [.takes 2, .fails ⟨.brokenPipe, none⟩] }

/-- The lane of the server has read, and is cut off before it writes. -/
theorem transfer_carries_breaking :
    let final := (Relay.between sender breaking).run [.down, .up, .up, .up]
    Transferred sender breaking (.error ⟨.brokenPipe, none⟩) final ∧
    final.up.written = [1, 2] ∧ final.down.written = [] ∧
    logs ((erasing.transferWith ((Relay.between sender breaking).carry [.down, .up, .up, .up]
        fun _ => id) "b:443").trace (.initial ⟨{}, [], [], 0, ⟨⟨.p256, []⟩, 1⟩⟩ 1 (.ofSecs 1) none)) =
      [.transfer "b:443" ⟨.brokenPipe, none⟩] := by
  have size : Buffer.zeroed.bytes.length = 32768 := List.length_replicate
  obtain ⟨returns, sent, kept⟩ :
      ((Relay.between sender breaking).run [.down, .up, .up, .up]).outcome? =
        some (.error ⟨.brokenPipe, none⟩) ∧
      ((Relay.between sender breaking).run [.down, .up, .up, .up]).up.written = [1, 2] ∧
      ((Relay.between sender breaking).run [.down, .up, .up, .up]).down.written = [] := by
    simp [sender, breaking, Relay.between, Relay.run, Relay.step, Relay.outcome?, Wire.laneTo,
      Lane.step, Lane.read, Lane.write, Lane.finish, Lane.pending, Lane.fillFront, size]
  obtain ⟨carried, logged, -⟩ := erasing.transfer_carries sender breaking [.down, .up, .up, .up]
    (fun _ => id) "b:443" (.initial ⟨{}, [], [], 0, ⟨⟨.p256, []⟩, 1⟩⟩ 1 (.ofSecs 1) none) returns
  exact ⟨carried, sent, kept, logged _ _ (Strand.yields_run _ _)⟩

end Interceptor
