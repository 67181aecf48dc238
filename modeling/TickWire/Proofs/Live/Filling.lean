import TickWire.Proofs.Live.Streaming
import TickWire.Proofs.Queue

/-!
# Filling the buffer of a channel

One read of a link adds to what is unread, whatever the link does: nothing that was unread is
lost, moved behind other bytes or seen twice, and a fill is refused only where no byte could be
received.  Records are taken from where they may lie in memory.
-/

namespace TickWire.Channel

variable {channel : Channel}

/-- The number of bytes that a fill has room for. -/
def room (channel : Channel) : Nat := channel.buffer.capacity - channel.buffer.unread.length

/-- How a fill ends, whatever the link does.  The link is asked unless the buffer is full, and
what it gives beyond the room is not received. -/
inductive Filled (timeout : Option Nat) (channel : Channel) :
    Except LiveError ReadResult × Channel → Prop where
  | full {after : Channel} (full : channel.room = 0)
      (unread : after.buffer.unread = channel.buffer.unread) (link : after.link = channel.link) :
      Filled timeout channel
        (.error (.configuration (.bufferFull channel.buffer.capacity)), after)
  | failed {failure : IoFailure} {after : Channel} (roomy : 0 < channel.room)
      (read : channel.link.read channel.room timeout = (.error failure, after.link))
      (unread : after.buffer.unread = channel.buffer.unread) :
      Filled timeout channel (.error (.link failure .reading), after)
  | received {result : ReadResult} {after : Channel} (roomy : 0 < channel.room)
      (read : channel.link.read channel.room timeout = (.ok result, after.link))
      (unread : after.buffer.unread =
        channel.buffer.unread ++ result.bytes.take channel.room) :
      Filled timeout channel (.ok result, after)

theorem spareLength_compact_eq_room (channel : Channel) :
    channel.buffer.compact.spareLength = channel.room := by
  rw [ByteBuffer.spareLength_compact, room, ByteBuffer.length_unread]

theorem filled_fill (timeout : Option Nat) (channel : Channel) :
    channel.Filled timeout (fill timeout channel) := by
  have unread := channel.buffer.unread_compact
  unfold fill
  dsimp only
  rw [spareLength_compact_eq_room]
  split
  next full =>
    rw [channel.buffer.capacity_compact]
    exact .full full unread rfl
  next notFull =>
    have roomy : 0 < channel.room := Nat.pos_of_ne_zero notFull
    generalize read : channel.link.read channel.room timeout = outcome
    obtain ⟨result, link⟩ := outcome
    cases result with
    | error failure => exact .failed roomy read unread
    | ok result =>
        refine .received roomy read ?_
        rw [ByteBuffer.unread_commit_fill_take, unread, spareLength_compact_eq_room]

/-- There is no room exactly where as many bytes are unread as the buffer can hold. -/
theorem room_eq_zero_iff (channel : Channel) :
    channel.room = 0 ↔ channel.buffer.unread.length = channel.buffer.capacity := by
  have within := channel.buffer.unreadLength_le_capacity
  rw [← ByteBuffer.length_unread] at within
  rw [room]
  omega

/-- A fill is refused for lack of room exactly where there is none. -/
theorem fill_full_iff (timeout : Option Nat) (channel : Channel) :
    (∃ size, (fill timeout channel).1 = .error (.configuration (.bufferFull size))) ↔
      channel.buffer.unread.length = channel.buffer.capacity := by
  rw [← room_eq_zero_iff]
  have filled := filled_fill timeout channel
  generalize fill timeout channel = outcome at filled
  cases filled with
  | full full => exact iff_of_true ⟨_, rfl⟩ full
  | failed roomy =>
      refine iff_of_false ?_ (Nat.ne_of_gt roomy)
      rintro ⟨size, refused⟩
      cases refused
  | received roomy =>
      refine iff_of_false ?_ (Nat.ne_of_gt roomy)
      rintro ⟨size, refused⟩
      cases refused

/-- What is taken of the unread bytes lies in memory where they begin. -/
theorem take_memory_eq (buffer : ByteBuffer) {count : Nat}
    (enough : count ≤ buffer.unread.length) :
    (buffer.memory.drop buffer.consumed).take count = (buffer.take count).1 := by
  rw [ByteBuffer.length_unread, ByteBuffer.unreadLength] at enough
  rw [ByteBuffer.take, ByteBuffer.unread, List.drop_take, List.take_take, Nat.min_eq_left enough]

/-- Buffers are bounded queues.  In every run of actions on a new buffer the cursors stay in
order and within the capacity, and each action does to the unread bytes what it does to a queue.
A fill adds what is read behind what is unread, leaves it as it is if the link fails, and is
refused exactly if the buffer is full.  Bytes that are taken for a record are the next, from an
aligned place. -/
theorem buffers_are_queues :
    (∀ (wanted : Nat) (actions : List BufferAction),
      let start := ByteBuffer.ofCapacity wanted
      let (replies, final) := start.performAll actions
      wanted ≤ start.capacity ∧ final.capacity = start.capacity ∧
        final.consumed ≤ final.valid ∧ final.valid ≤ final.capacity ∧
        ByteQueue.Run start.capacity ⟨[], List.replicate start.capacity 0⟩ actions replies
          ⟨final.unread, final.spare⟩) ∧
    (∀ (channel : Channel) (timeout : Option Nat),
      channel.Filled timeout (fill timeout channel) ∧
        ((∃ size, (fill timeout channel).1 = .error (.configuration (.bufferFull size))) ↔
          channel.buffer.unread.length = channel.buffer.capacity)) ∧
    ∀ (buffer : ByteBuffer) (count : Nat), count ≤ buffer.unread.length →
      let aligned := realign buffer
      let (taken, rest) := aligned.take count
      aligned.consumed % wordSize = 0 ∧
        (aligned.memory.drop aligned.consumed).take count = taken ∧
        taken.length = count ∧ buffer.unread = taken ++ rest.unread := by
  refine ⟨fun wanted actions => ?_, fun channel timeout => ?_, fun buffer count enough => ?_⟩
  · have run := (ByteBuffer.ofCapacity wanted).run_performAll actions
    rw [ByteBuffer.queue_ofCapacity] at run
    exact ⟨ByteBuffer.le_capacity_ofCapacity wanted, ByteBuffer.capacity_performAll _ actions,
      ByteBuffer.consumed_le_valid _, ByteBuffer.valid_le_capacity _, run⟩
  · exact ⟨filled_fill timeout channel, fill_full_iff timeout channel⟩
  · have unread := unread_realign buffer
    refine ⟨aligned_realign buffer, take_memory_eq _ (unread.symm ▸ enough), ?_, ?_⟩
    · rw [unread, List.length_take, Nat.min_eq_left enough]
    · change buffer.unread =
        (realign buffer).unread.take count ++ ((realign buffer).advance count).2.unread
      rw [ByteBuffer.unread_advance, unread, List.take_append_drop]

/-- Bytes that were consumed are received again where a buffer is told to receive what lies in
its room.  The last of three bytes is taken from the front, to which it is moved. -/
theorem buffers_are_queues_stale_bytes :
    ByteQueue.Run 8 ⟨[], List.replicate 8 0⟩
      [.fill [1, 2, 3], .commit 3, .advance 2, .compact, .commit 9]
      [.done, .count 3, .count 2, .done, .count 7] ⟨[3, 2, 3, 0, 0, 0, 0, 0], []⟩ ∧
    (let buffer := ((ByteBuffer.ofCapacity 5).performAll
      [.fill [1, 2, 3], .commit 3, .advance 2]).2
    buffer.consumed % wordSize = 2 ∧ 1 ≤ buffer.unread.length ∧
      (realign buffer).consumed % wordSize = 0 ∧ ((realign buffer).take 1).1 = [3]) := by
  obtain ⟨runs, -, takes⟩ := buffers_are_queues
  obtain ⟨-, -, -, -, run⟩ :=
    runs 5 [.fill [1, 2, 3], .commit 3, .advance 2, .compact, .commit 9]
  obtain ⟨aligned, -, -, -⟩ := takes
    ((ByteBuffer.ofCapacity 5).performAll [.fill [1, 2, 3], .commit 3, .advance 2]).2 1 (by decide)
  exact ⟨run, by decide, by decide, aligned, by decide⟩

end TickWire.Channel
