import TickWire.Proofs.Buffer

/-!
# Buffers as queues

Where bytes lie in the memory of a buffer is of no concern to those who use it.  To them it is
a queue of the unread bytes with a room behind it, whose bytes join the queue when they are
received.  Each action on a buffer is one on its queue, so every run of actions is.
-/

namespace TickWire

/-- What can be done with a buffer. -/
inductive BufferAction
  /-- Puts bytes into the spare room.  Whatever the room holds after a write, these bytes can
  be. -/
  | fill (bytes : Bytes)
  | commit (count : Nat)
  | advance (count : Nat)
  | take (count : Nat)
  | compact
  | clear

/-- What an action on a buffer gives. -/
inductive BufferReply
  | done
  | count (number : Nat)
  | bytes (taken : Bytes)
  deriving DecidableEq

/-- Bytes in the order in which they were received, and those in the room behind them. -/
structure ByteQueue where
  items : Bytes
  spare : Bytes
  deriving DecidableEq

namespace ByteQueue

/-- What an action does to a queue of some capacity.  What lies in room that becomes free is left
open. -/
inductive Step (capacity : Nat) :
    ByteQueue → BufferAction → BufferReply → ByteQueue → Prop where
  | fill (items spare bytes : Bytes) :
      Step capacity ⟨items, spare⟩ (.fill bytes) .done
        ⟨items, bytes.take spare.length ++ spare.drop bytes.length⟩
  | commit (items spare : Bytes) (count : Nat) :
      Step capacity ⟨items, spare⟩ (.commit count) (.count (min count spare.length))
        ⟨items ++ spare.take count, spare.drop count⟩
  | advance (items spare : Bytes) (count : Nat) :
      Step capacity ⟨items, spare⟩ (.advance count) (.count (min count items.length))
        ⟨items.drop count, spare⟩
  | take (items spare : Bytes) (count : Nat) :
      Step capacity ⟨items, spare⟩ (.take count) (.bytes (items.take count))
        ⟨items.drop count, spare⟩
  | compact (items spare : Bytes) {room : Bytes} (size : room.length = capacity - items.length) :
      Step capacity ⟨items, spare⟩ .compact .done ⟨items, room⟩
  | clear (items spare : Bytes) {room : Bytes} (size : room.length = capacity) :
      Step capacity ⟨items, spare⟩ .clear .done ⟨[], room⟩

/-- What actions do to a queue one after the other, with what each of them gives. -/
inductive Run (capacity : Nat) :
    ByteQueue → List BufferAction → List BufferReply → ByteQueue → Prop where
  | nil (queue : ByteQueue) : Run capacity queue [] [] queue
  | cons {queue middle final : ByteQueue} {action : BufferAction} {reply : BufferReply}
      {actions : List BufferAction} {replies : List BufferReply}
      (first : Step capacity queue action reply middle)
      (later : Run capacity middle actions replies final) :
      Run capacity queue (action :: actions) (reply :: replies) final

end ByteQueue

namespace ByteBuffer

def perform : BufferAction → ByteBuffer → BufferReply × ByteBuffer
  | .fill bytes, buffer => (.done, buffer.fill bytes)
  | .commit count, buffer => (.count (buffer.commit count).1, (buffer.commit count).2)
  | .advance count, buffer => (.count (buffer.advance count).1, (buffer.advance count).2)
  | .take count, buffer => (.bytes (buffer.take count).1, (buffer.take count).2)
  | .compact, buffer => (.done, buffer.compact)
  | .clear, buffer => (.done, buffer.clear)

def performAll : List BufferAction → ByteBuffer → List BufferReply × ByteBuffer
  | [], buffer => ([], buffer)
  | action :: later, buffer =>
      let (reply, middle) := buffer.perform action
      let (replies, final) := performAll later middle
      (reply :: replies, final)

/-- A buffer as those see it who use it. -/
def queue (buffer : ByteBuffer) : ByteQueue := ⟨buffer.unread, buffer.spare⟩

theorem queue_ofCapacity (wanted : Nat) : (ofCapacity wanted).queue =
    ⟨[], List.replicate (ofCapacity wanted).capacity 0⟩ := by
  rw [queue, unread_ofCapacity]
  rfl

variable (buffer : ByteBuffer)

theorem capacity_perform (action : BufferAction) :
    (buffer.perform action).2.capacity = buffer.capacity := by
  cases action with
  | compact => exact buffer.capacity_compact
  | _ => rfl

/-- An action on a buffer is the action on its queue. -/
theorem step_perform (action : BufferAction) :
    ByteQueue.Step buffer.capacity buffer.queue action (buffer.perform action).1
      (buffer.perform action).2.queue := by
  cases action with
  | fill bytes =>
      simp only [perform, queue, unread_fill, spare_fill, ← length_spare]
      exact .fill _ _ bytes
  | commit count =>
      have received : (buffer.commit count).1 = min count buffer.spare.length := by
        rw [length_spare]
        rfl
      simp only [perform, queue, unread_commit, spare_commit, received]
      exact .commit _ _ count
  | advance count =>
      have consumed : (buffer.advance count).1 = min count buffer.unread.length := by
        rw [length_unread]
        rfl
      simp only [perform, queue, unread_advance, consumed]
      exact .advance _ _ count
  | take count =>
      simp only [perform, queue, take, unread_advance]
      exact .take _ _ count
  | compact =>
      simp only [perform, queue, unread_compact]
      refine .compact _ _ ?_
      rw [length_spare, spareLength_compact, length_unread]
  | clear =>
      simp only [perform, queue, unread_clear]
      exact .clear _ _ buffer.length_memory

theorem performAll_cons (action : BufferAction) (later : List BufferAction) :
    buffer.performAll (action :: later) =
      ((buffer.perform action).1 :: ((buffer.perform action).2.performAll later).1,
        ((buffer.perform action).2.performAll later).2) := rfl

theorem capacity_performAll (actions : List BufferAction) :
    (buffer.performAll actions).2.capacity = buffer.capacity := by
  induction actions generalizing buffer with
  | nil => rfl
  | cons action later ih =>
      rw [performAll_cons]
      exact (ih _).trans (buffer.capacity_perform action)

/-- A run of actions on a buffer is the run on its queue. -/
theorem run_performAll (actions : List BufferAction) :
    ByteQueue.Run buffer.capacity buffer.queue actions (buffer.performAll actions).1
      (buffer.performAll actions).2.queue := by
  induction actions generalizing buffer with
  | nil => exact .nil buffer.queue
  | cons action later ih =>
      rw [performAll_cons]
      refine .cons (buffer.step_perform action) ?_
      rw [← buffer.capacity_perform action]
      exact ih _

end ByteBuffer

end TickWire
