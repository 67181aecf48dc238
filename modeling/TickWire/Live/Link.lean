import TickWire.Error

/-!
# Links

The connection to a gateway as a client sees it: what can be read from it in order, what
was written to it, and whether it was shut down.  A link may also be shut down from
outside while a client uses it; `stopAfter?` says after how many steps of the client
that takes effect, so every moment between two steps can be described.
-/

namespace TickWire

/-- How a read ends. -/
inductive ReadStatus
  /-- The connection is open, and some bytes may have been read. -/
  | ready
  | timeout
  | closed
  deriving DecidableEq, Repr

/-- The bytes that a read gives and how it ends. -/
structure ReadResult where
  bytes : Bytes
  status : ReadStatus
  deriving DecidableEq, Repr

/-- What a read can meet. -/
inductive LinkEvent
  /-- Bytes that arrive together. -/
  | arrival (bytes : Bytes)
  /-- Nothing arrives in time. -/
  | timeout
  /-- The gateway closes the connection. -/
  | closed
  /-- Nothing arrives until the link is shut down from outside. -/
  | silence
  /-- The read fails. -/
  | failure (reason : String)
  /-- The read ends like this, however much room there is; a connection that breaks its
  contract may close with bytes, or claim more of them than there is room for. -/
  | answer (result : ReadResult)
  deriving DecidableEq, Repr

/-- A bound on the number of reads that an event can answer, and on the bytes they give. -/
def LinkEvent.weight : LinkEvent → Nat
  | arrival bytes => bytes.length + 1
  | answer result => result.bytes.length + 1
  | _ => 1

/-- A connection to a gateway. -/
structure Link where
  /-- What reads will meet, in order; after that the connection is closed. -/
  events : List LinkEvent
  /-- What was written, one entry for each write. -/
  sent : List Bytes := []
  /-- How long the reads would wait, in milliseconds, where that is limited. -/
  waits : List (Option Nat) := []
  /-- The number of writes that still succeed, where that is limited. -/
  writesLeft? : Option Nat := none
  /-- Why shutting down fails. -/
  closeFailure? : Option IoFailure := none
  /-- Whether the link was shut down by either side of the program. -/
  isShutDown : Bool := false
  /-- How often the connection itself was shut down. -/
  shutdowns : Nat := 0
  /-- After how many steps the link is shut down from outside. -/
  stopAfter? : Option Nat := none
  /-- What shutting down from outside led to. -/
  stopResult? : Option (Except IoFailure Unit) := none

namespace Link

/-- Shuts the link down; only the first time has an effect. -/
def close (link : Link) : Except IoFailure Unit × Link :=
  if link.isShutDown then (.ok (), link)
  else
    let result := match link.closeFailure? with
      | some failure => .error failure
      | none => .ok ()
    (result, { link with isShutDown := true, shutdowns := link.shutdowns + 1 })

/-- Shuts the link down from outside. -/
def stopFromOutside (link : Link) : Link :=
  let (result, closed) := link.close
  { closed with stopAfter? := none, stopResult? := some result }

/-- Lets a step of the client pass. -/
def tick (link : Link) : Link :=
  match link.stopAfter? with
  | none => link
  | some 0 => link.stopFromOutside
  | some (steps + 1) => { link with stopAfter? := some steps }

/-- Looks whether the link was shut down. -/
def checkShutDown (link : Link) : Bool × Link := (link.tick.isShutDown, link.tick)

/-- Writes bytes. -/
def write (link : Link) (bytes : Bytes) : Except IoFailure Unit × Link :=
  let link := link.tick
  if link.isShutDown then (.error .brokenPipe, link)
  else match link.writesLeft? with
  | none => (.ok (), { link with sent := link.sent ++ [bytes] })
  | some 0 => (.error (.other "write failed"), link)
  | some (left + 1) =>
      (.ok (), { link with sent := link.sent ++ [bytes], writesLeft? := some left })

/-- Meets the next event with room for `room` bytes.  Bytes beyond the room stay. -/
def meet (link : Link) (room : Nat) : Except IoFailure ReadResult × Link :=
  match link.events with
  | [] => (.ok ⟨[], .closed⟩, link)
  | .closed :: later => (.ok ⟨[], .closed⟩, { link with events := later })
  | .timeout :: later => (.ok ⟨[], .timeout⟩, { link with events := later })
  | .failure reason :: later => (.error (.other reason), { link with events := later })
  | .silence :: later => (.ok ⟨[], .closed⟩, { link with events := later }.stopFromOutside)
  | .answer result :: later => (.ok result, { link with events := later })
  | .arrival bytes :: later =>
    let events := if bytes.length ≤ room then later else .arrival (bytes.drop room) :: later
    (.ok ⟨bytes.take room, .ready⟩, { link with events })

/-- Reads at most `room` bytes, waiting no longer than `timeout` where that is given. -/
def read (link : Link) (room : Nat) (timeout : Option Nat) :
    Except IoFailure ReadResult × Link :=
  let link := link.tick
  if link.isShutDown then (.ok ⟨[], .closed⟩, link)
  else { link with waits := link.waits ++ [timeout] }.meet room

/-- A bound on the number of reads until the connection is closed. -/
def budget (link : Link) : Nat :=
  link.events.foldr (fun event total => event.weight + total) 0 + 1

/-- Reads until `want` bytes are there, with a bound on the number of reads.  Bytes that were
not asked for are dropped. -/
def readExactWithin : (bound want : Nat) → Link → Except IoFailure Bytes × Link
  | _, 0, link => (.ok [], link)
  | 0, _ + 1, link => (.error .unexpectedEnd, link)
  | bound + 1, want + 1, link =>
    match link.read (want + 1) none with
    | (.error failure, link) => (.error failure, link)
    | (.ok ⟨_, .closed⟩, link) => (.error .unexpectedEnd, link)
    | (.ok ⟨_, .timeout⟩, link) => readExactWithin bound (want + 1) link
    | (.ok ⟨bytes, .ready⟩, link) =>
      match readExactWithin bound (want + 1 - bytes.length) link with
      | (.ok more, link) => (.ok (bytes.take (want + 1) ++ more), link)
      | (.error failure, link) => (.error failure, link)

/-- Reads exactly `want` bytes, however long it takes. -/
def readExact (link : Link) (want : Nat) : Except IoFailure Bytes × Link :=
  readExactWithin link.budget want link

end Link

end TickWire
