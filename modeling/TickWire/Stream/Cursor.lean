import TickWire.Bytes.LittleEndian

/-!
# Cursors

Bytes in memory that are written at a position.  Writing replaces what stands there and
moves on; it extends the bytes where they end, and fills a gap before the position.
-/

namespace TickWire

/-- Bytes with others put over them from an offset on; a gap before the offset is filled
with zero bytes. -/
def overwrite (offset : Nat) (patch bytes : Bytes) : Bytes :=
  let filled := bytes ++ List.replicate (offset - bytes.length) 0
  filled.take offset ++ patch ++ filled.drop (offset + patch.length)

/-- Bytes and the position at which the next ones are written. -/
structure Cursor where
  bytes : Bytes
  position : Nat := 0

namespace Cursor

/-- Goes to a position, which may lie behind the end. -/
def seek (position : Nat) (cursor : Cursor) : Cursor := { cursor with position }

/-- Goes to the end. -/
def seekEnd (cursor : Cursor) : Cursor := cursor.seek cursor.bytes.length

/-- Puts bytes at the position and goes behind them. -/
def write (patch : Bytes) (cursor : Cursor) : Cursor where
  bytes := overwrite cursor.position patch cursor.bytes
  position := cursor.position + patch.length

end Cursor

end TickWire
