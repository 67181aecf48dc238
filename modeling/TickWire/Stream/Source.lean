import TickWire.Error

/-!
# Sources

Where bytes are read from.  One read gives some of the bytes that were asked for, as
many as the source likes to give at once; a source may also fail from some position on.
`Source.readExact` reads on until all bytes are there, so what it gives does not depend
on how the source divides them.  Bytes that were read stay read when it fails.
-/

namespace TickWire

/-- The position from which on reading fails, and how it fails. -/
structure SourceFault where
  position : Nat
  failure : IoFailure
  deriving DecidableEq, Repr

/-- Bytes that can be read once, in order. -/
structure Source where
  /-- The bytes that were not read yet. -/
  rest : Bytes
  /-- The number of bytes that were read. -/
  position : Nat := 0
  /-- The greatest number of bytes that one read gives. -/
  chunk? : Option Nat := none
  fault? : Option SourceFault := none
  deriving DecidableEq, Repr

namespace Source

/-- The number of bytes that one read gives at most when `want` are asked for. -/
def allowance (source : Source) (want : Nat) : Nat :=
  let inChunk := match source.chunk? with
    | some chunk => min want chunk
    | none => want
  match source.fault? with
  | some fault => min inChunk (fault.position - source.position)
  | none => inChunk

/-- The source after bytes were taken from its front. -/
def advance (source : Source) (count : Nat) : Source :=
  { source with rest := source.rest.drop count, position := source.position + count }

/-- Why the source cannot be read where it stands. -/
def failure? (source : Source) : Option IoFailure :=
  match source.fault? with
  | some fault => if fault.position ≤ source.position then some fault.failure else none
  | none => none

/-- One read of at most `want` bytes; no bytes mean that the source has ended. -/
def read (source : Source) (want : Nat) : Except IoFailure (Bytes × Source) :=
  match source.failure? with
  | some failure => .error failure
  | none =>
    let bytes := source.rest.take (source.allowance want)
    .ok (bytes, source.advance bytes.length)

/-- Reads until `want` bytes are there, with a bound on the number of reads. -/
def readExactWithin : (bound want : Nat) → Source → Except IoFailure Bytes × Source
  | _, 0, source => (.ok [], source)
  | 0, _ + 1, source => (.error .unexpectedEnd, source)
  | bound + 1, want + 1, source =>
    match source.read (want + 1) with
    | .error failure => (.error failure, source)
    | .ok ([], next) => (.error .unexpectedEnd, next)
    | .ok (byte :: bytes, next) =>
      match readExactWithin bound (want - bytes.length) next with
      | (.ok more, last) => (.ok (byte :: bytes ++ more), last)
      | (.error failure, last) => (.error failure, last)

/-- Reads exactly `want` bytes.  Every read that does not fail gives at least one, so
`want` reads are enough. -/
def readExact (source : Source) (want : Nat) : Except IoFailure Bytes × Source :=
  readExactWithin want want source

end Source

end TickWire
