import TickWire.Proofs.Live.Channel

/-!
# Lines beyond the limit

The length of a line is looked at between reads, and only while the line has not ended.  So a
line beyond the limit is refused where some read ends between the limit and the end of the
line, and taken where one read leads from before the limit to behind the end.  A buffer that
cannot hold the line with its end refuses it however it is divided.
-/

namespace TickWire.Channel

variable {channel : Channel}

/-- What a read gives is unread after it, if there is room for all. -/
theorem unread_fills_one (steady : channel.link.IsSteady) {bytes : Bytes}
    {later : List LinkEvent} (events : channel.link.events = .arrival bytes :: later)
    (room : channel.buffer.unread.length < channel.buffer.capacity)
    (fits : channel.buffer.unread.length + bytes.length ≤ channel.buffer.capacity) :
    (channel.fills 1).buffer.unread = channel.buffer.unread ++ bytes := by
  have length := channel.buffer.length_unread
  have spare := channel.buffer.spareLength_compact
  have present : channel.buffer.compact.spareLength ≠ 0 := by omega
  have whole : bytes.length ≤ channel.buffer.compact.spareLength := by omega
  simp only [fills, fill, if_neg present, steady.read_eq, Link.meet, events]
  rw [List.take_of_length_le whole, ByteBuffer.unread_commit_fill _ whole,
    ByteBuffer.unread_compact]

/-- What is unread after a read stays unread after more of them. -/
theorem prefix_fills_succ (channel : Channel) (count : Nat) :
    (channel.fills 1).buffer.unread <+: (channel.fills (count + 1)).buffer.unread :=
  unread_prefix_fills count (fill none channel).2

theorem not_isChoked_iff {body : Bytes} {count : Nat} :
    ¬channel.IsChoked body count ↔
      (channel.fills count).buffer.unread.length <
        min handshakeLineLimit channel.buffer.capacity ∨
      body.length < (channel.fills count).buffer.unread.length := by
  rw [IsChoked]
  omega

/-- Reading a line fails only with errors of the protocol, and always where the buffer cannot
hold the line with its end.  The line is given where it is a text and no read ends after the
limit, or with a full buffer, and before the end of the line. -/
theorem readLine_overlong (channel : Channel) (steady : channel.link.IsSteady)
    (line : HandshakeLine) (body more : Bytes) (oneLine : 0x0A ∉ body)
    (whole : channel.incoming = body ++ 0x0A :: more) :
    (∀ error, (readLine line channel).1 = .error error →
      ∃ fault received, error = .protocol fault received) ∧
    (channel.buffer.capacity ≤ body.length →
      ∀ text, (readLine line channel).1 ≠ .ok text) ∧
    ∀ text, (readLine line channel).1 = .ok text ↔
      textBytes text = body ∧ ∀ count,
        (channel.fills count).buffer.unread.length <
          min handshakeLineLimit channel.buffer.capacity ∨
        body.length < (channel.fills count).buffer.unread.length := by
  have free_iff : (∀ count, ¬channel.IsChoked body count) ↔ ∀ count,
      (channel.fills count).buffer.unread.length <
        min handshakeLineLimit channel.buffer.capacity ∨
      body.length < (channel.fills count).buffer.unread.length :=
    forall_congr' fun _ => not_isChoked_iff
  rw [← free_iff]
  have ends := readLine_outcome steady line oneLine whole
  generalize readLine line channel = outcome at ends
  cases ends with
  | @choked count _ choked =>
      refine ⟨fun error failed => ?_, nofun, fun text => iff_of_false nofun ?_⟩
      · cases failed
        exact ⟨_, _, rfl⟩
      · exact fun ⟨_, free⟩ => free count choked
  | @taken found _ isText free fits _ =>
      refine ⟨nofun, fun small => absurd fits (Nat.not_lt_of_le small), fun text => ?_⟩
      constructor
      · rintro ⟨⟩
        exact ⟨isText, free⟩
      · rintro ⟨same, -⟩
        rw [textBytes_injective (isText.trans same.symm)]
  | illegible illegible _ _ =>
      refine ⟨fun error failed => ?_, nofun, fun text => iff_of_false nofun ?_⟩
      · cases failed
        exact ⟨_, _, rfl⟩
      · exact fun ⟨isText, _⟩ => illegible text isText

/-! ## A line of so many letters as the limit -/

/-- Letters up to the limit, which leave no room for the end of the line. -/
def letters : Bytes := List.replicate handshakeLineLimit 0x61

theorem length_letters : letters.length = handshakeLineLimit := List.length_replicate

theorem newline_notMem_letters : 0x0A ∉ letters := by
  simp [letters]

theorem textBytes_letters :
    textBytes (String.ofList (List.replicate handshakeLineLimit 'a')) = letters := by
  have each (count : Nat) :
      Utf8.encode (List.replicate count 'a') = List.replicate count 0x61 := by
    induction count with
    | zero => rfl
    | succ count ih => rw [List.replicate_succ, Utf8.encode_cons, ih]; rfl
  rw [textBytes, String.toList_ofList]
  exact each _

/-- A channel that nothing has been read from yet. -/
def ofEvents (events : List LinkEvent) : Channel :=
  ⟨{ events }, ByteBuffer.ofCapacity defaultBufferSize⟩

theorem isSteady_ofEvents {events : List LinkEvent}
    (calm : ∀ event ∈ events, event.isCalm = true) : (ofEvents events).link.IsSteady :=
  ⟨rfl, rfl, calm⟩

theorem incoming_ofEvents (events : List LinkEvent) :
    (ofEvents events).incoming = events.flatMap LinkEvent.bytes := by
  simp [incoming, ofEvents, Link.pending]

theorem capacity_ofEvents (events : List LinkEvent) :
    (ofEvents events).buffer.capacity = defaultBufferSize := rfl

/-- What the first read gives is unread after it, if the buffer has room for it. -/
theorem unread_fills_one_ofEvents {bytes : Bytes} {later : List LinkEvent}
    (calm : ∀ event ∈ LinkEvent.arrival bytes :: later, event.isCalm = true)
    (fits : bytes.length ≤ defaultBufferSize) :
    ((ofEvents (.arrival bytes :: later)).fills 1).buffer.unread = bytes := by
  have empty : (ofEvents (.arrival bytes :: later)).buffer.unread = [] := by
    simp [ofEvents]
  have unread := unread_fills_one (isSteady_ofEvents calm) rfl
    (by rw [empty, capacity_ofEvents]; decide)
    (by simpa [empty, capacity_ofEvents] using fits)
  rwa [empty, List.nil_append] at unread

/-- The letters arrive, and then their end: the first read ends where the line is too long. -/
theorem readLine_overlong_in_two :
    let channel := ofEvents [.arrival letters, .arrival [0x0A]]
    channel.link.IsSteady ∧ 0x0A ∉ letters ∧ channel.incoming = letters ++ [0x0A] ∧
      ∀ text, (readLine .version channel).1 ≠ .ok text := by
  intro channel
  have calm : ∀ event ∈ [LinkEvent.arrival letters, .arrival [0x0A]], event.isCalm = true := by
    simp [LinkEvent.isCalm]
  have whole : channel.incoming = letters ++ [0x0A] := incoming_ofEvents _
  refine ⟨isSteady_ofEvents calm, newline_notMem_letters, whole, fun text taken => ?_⟩
  have free := (((readLine_overlong channel (isSteady_ofEvents calm) .version letters []
    newline_notMem_letters whole).2.2 text).mp taken).2 1
  rw [unread_fills_one_ofEvents calm (by rw [length_letters]; decide), length_letters,
    capacity_ofEvents] at free
  revert free
  decide

/-- The letters and their end arrive at once, and are a line. -/
theorem readLine_overlong_in_one :
    let channel := ofEvents [.arrival (letters ++ [0x0A])]
    channel.link.IsSteady ∧ 0x0A ∉ letters ∧ channel.incoming = letters ++ [0x0A] ∧
      handshakeLineLimit ≤ letters.length ∧
      ∃ text, textBytes text = letters ∧ (readLine .version channel).1 = .ok text := by
  intro channel
  have calm : ∀ event ∈ [LinkEvent.arrival (letters ++ [0x0A])], event.isCalm = true := by
    simp [LinkEvent.isCalm]
  have steady : channel.link.IsSteady := isSteady_ofEvents calm
  have whole : channel.incoming = letters ++ [0x0A] := by
    simp [channel, incoming_ofEvents, LinkEvent.bytes]
  refine ⟨steady, newline_notMem_letters, whole, Nat.le_of_eq length_letters.symm, ?_⟩
  have free : ∀ count, ¬channel.IsChoked letters count := by
    intro count choked
    cases count with
    | zero =>
        have full := choked.1
        revert full
        decide
    | succ count =>
        -- The first read gives everything, and what was read stays.
        have first : (channel.fills 1).buffer.unread = letters ++ [0x0A] :=
          unread_fills_one_ofEvents calm
            (by simp [length_letters, handshakeLineLimit, defaultBufferSize])
        have longer := (prefix_fills_succ channel count).length_le
        have short := choked.2
        rw [first, List.length_append, List.length_singleton] at longer
        omega
  have ends := readLine_outcome steady .version newline_notMem_letters whole
  generalize readLine .version channel = outcome at ends
  cases ends with
  | @choked count _ choked => exact absurd choked (free count)
  | @taken text _ isText _ _ _ => exact ⟨text, isText, rfl⟩
  | illegible illegible _ _ => exact absurd textBytes_letters (illegible _)

end TickWire.Channel
