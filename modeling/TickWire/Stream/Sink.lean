import TickWire.Error

/-!
# Sinks

Where bytes are written to.  A write either appends all of its bytes or fails and
appends nothing.  A `Writer` is anything that behaves so; a `Sink` is one that keeps the
bytes, and that refuses them from some number on.
-/

namespace TickWire

/-- What can be written to and flushed: `written` are the bytes that were written. -/
structure Writer (σ : Type) where
  write : σ → Bytes → Except IoFailure Unit × σ
  flush : σ → Except IoFailure Unit × σ
  written : σ → Bytes
  written_of_ok : ∀ {before after : σ} {bytes : Bytes},
    write before bytes = (.ok (), after) → written after = written before ++ bytes
  written_of_error : ∀ {before after : σ} {bytes : Bytes} {failure : IoFailure},
    write before bytes = (.error failure, after) → written after = written before
  written_flush : ∀ state, written (flush state).2 = written state

/-- Bytes that were written, and what the sink refuses. -/
structure Sink where
  /-- The bytes that were written. -/
  written : Bytes := []
  /-- The number of bytes beyond which writes fail. -/
  room? : Option Nat := none
  /-- Why flushing fails. -/
  flushFailure? : Option IoFailure := none
  deriving DecidableEq, Repr

namespace Sink

/-- Whether the sink has room for so many more bytes. -/
def fits (sink : Sink) (count : Nat) : Bool :=
  match sink.room? with
  | some room => decide (sink.written.length + count ≤ room)
  | none => true

/-- Appends bytes. -/
def append (sink : Sink) (bytes : Bytes) : Except IoFailure Unit × Sink :=
  if sink.fits bytes.length then (.ok (), { sink with written := sink.written ++ bytes })
  else (.error (.other "writer full"), sink)

/-- Passes on everything that was written. -/
def passOn (sink : Sink) : Except IoFailure Unit :=
  match sink.flushFailure? with
  | some failure => .error failure
  | none => .ok ()

/-- A sink as something that is written to. -/
def writer : Writer Sink where
  write := append
  flush sink := (sink.passOn, sink)
  written := written
  written_of_ok appended := by
    unfold append at appended
    split at appended <;> cases appended
    rfl
  written_of_error refused := by
    unfold append at refused
    split at refused <;> cases refused
    rfl
  written_flush _ := rfl

/-- Appends bytes; `context` says what for. -/
def write (sink : Sink) (context : String) (bytes : Bytes) : Except Error Unit × Sink :=
  let (result, sink) := sink.append bytes
  (result.mapError (.io · context), sink)

/-- Passes on everything that was written, or says that it could not. -/
def flush (sink : Sink) : Except Error Unit := sink.passOn.mapError (.io · "flushing output")

end Sink

end TickWire
