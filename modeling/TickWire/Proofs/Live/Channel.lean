import TickWire.Live.Session
import TickWire.Proofs.Buffer
import TickWire.Proofs.Live.Link
import TickWire.Proofs.Outcome
import TickWire.Proofs.Text.Utf8

/-!
# Receiving over a steady link

What is unread in the buffer and what is still to arrive are one row of bytes.  A fill
only moves its border; taking a line takes it off the front.  So a line is the same
however the gateway divides the bytes.
-/

namespace TickWire.Channel

/-- The bytes that arrived and were not consumed, and then those that are to arrive. -/
def incoming (channel : Channel) : Bytes := channel.buffer.unread ++ channel.link.pending

/-- What receiving does to a channel: bytes from the front of those that come in are
taken. -/
structure Took (before : Channel) (bytes : Bytes) (after : Channel) : Prop where
  incoming_eq : before.incoming = bytes ++ after.incoming
  steady : after.link.IsSteady
  timeouts_le : after.link.timeouts ≤ before.link.timeouts
  capacity_eq : after.buffer.capacity = before.buffer.capacity
  frame : after.link =
    { before.link with events := after.link.events, waits := after.link.waits }

namespace Took

variable {before middle after : Channel} {first second : Bytes}

theorem refl (steady : before.link.IsSteady) : before.Took [] before :=
  ⟨rfl, steady, Nat.le_refl _, rfl, rfl⟩

theorem trans (one : before.Took first middle) (two : middle.Took second after) :
    before.Took (first ++ second) after where
  incoming_eq := by rw [one.incoming_eq, two.incoming_eq, List.append_assoc]
  steady := two.steady
  timeouts_le := Nat.le_trans two.timeouts_le one.timeouts_le
  capacity_eq := two.capacity_eq.trans one.capacity_eq
  frame := by rw [two.frame, one.frame]

theorem sent_eq (took : before.Took first after) : after.link.sent = before.link.sent := by
  rw [took.frame]

theorem writesLeft?_eq (took : before.Took first after) :
    after.link.writesLeft? = before.link.writesLeft? := by
  rw [took.frame]

end Took

variable {channel : Channel}

/-- Bytes that are unread as a whole are the front of what is unread. -/
theorem unread_eq_append {bytes later : Bytes} (comes : channel.incoming = bytes ++ later)
    (enough : bytes.length ≤ channel.buffer.unread.length) :
    ∃ following, channel.buffer.unread = bytes ++ following ∧
      following ++ channel.link.pending = later := by
  have within : channel.buffer.unread <+: bytes ++ later := by
    rw [← comes]
    exact List.prefix_append _ _
  obtain ⟨following, unread⟩ :=
    List.prefix_of_prefix_length_le (List.prefix_append bytes later) within enough
  have split : bytes ++ (following ++ channel.link.pending) = bytes ++ later := by
    rw [← List.append_assoc, unread, ← incoming, comes]
  exact ⟨following, unread.symm, List.append_cancel_left split⟩

/-- Unread bytes are consumed without the link. -/
theorem took_advance (steady : channel.link.IsSteady) {bytes later : Bytes}
    (comes : channel.incoming = bytes ++ later)
    (enough : bytes.length ≤ channel.buffer.unread.length) :
    channel.Took bytes
      { channel with buffer := (channel.buffer.advance bytes.length).2 } where
  incoming_eq := by
    obtain ⟨following, unread, rfl⟩ := unread_eq_append comes enough
    simp [incoming, unread]
  steady := steady
  timeouts_le := Nat.le_refl _
  capacity_eq := rfl
  frame := rfl

/-- How a fill over a steady link can end. -/
inductive FillOutcome (channel : Channel) :
    Except LiveError ReadResult × Channel → Prop where
  | ended {after : Channel} (nothing : channel.link.pending = [])
      (took : channel.Took [] after) :
      FillOutcome channel (.ok ⟨[], .closed⟩, after)
  | late {after : Channel} (took : channel.Took [] after)
      (unread : after.buffer.unread = channel.buffer.unread)
      (timeouts : after.link.timeouts + 1 = channel.link.timeouts)
      (budget : after.link.budget < channel.link.budget) :
      FillOutcome channel (.ok ⟨[], .timeout⟩, after)
  | arrived {bytes : Bytes} {after : Channel} (took : channel.Took [] after)
      (unread : after.buffer.unread = channel.buffer.unread ++ bytes)
      (budget : after.link.budget < channel.link.budget) :
      FillOutcome channel (.ok ⟨bytes, .ready⟩, after)

/-- What a read gives goes behind what is unread. -/
theorem took_fill {link : Link} {bytes : Bytes} (gave : channel.link.Gave bytes link)
    (fits : bytes.length ≤ channel.buffer.compact.spareLength) :
    channel.Took []
      ⟨link, ((channel.buffer.compact.fill bytes).commit bytes.length).2⟩ where
  incoming_eq := by
    simp only [incoming, ByteBuffer.unread_commit_fill _ fits, ByteBuffer.unread_compact,
      gave.pending_eq, List.nil_append, List.append_assoc]
  steady := gave.steady
  timeouts_le := gave.timeouts_le
  capacity_eq := ByteBuffer.capacity_compact _
  frame := gave.frame

theorem fill_outcome (steady : channel.link.IsSteady)
    (room : channel.buffer.unread.length < channel.buffer.capacity)
    (timeout : Option Nat) : channel.FillOutcome (fill timeout channel) := by
  rw [ByteBuffer.length_unread] at room
  have spare : 0 < channel.buffer.compact.spareLength := by
    rw [ByteBuffer.spareLength_compact]
    omega
  have received {bytes : Bytes} (fits : bytes.length ≤ channel.buffer.compact.spareLength) :
      ((channel.buffer.compact.fill bytes).commit bytes.length).2.unread =
        channel.buffer.unread ++ bytes := by
    rw [ByteBuffer.unread_commit_fill _ fits, ByteBuffer.unread_compact]
  simp only [fill, Nat.ne_of_gt spare, if_false]
  generalize given : channel.link.read channel.buffer.compact.spareLength timeout = outcome
  cases given ▸ Link.read_outcome steady spare timeout with
  | ended nothing gave => exact .ended nothing (took_fill gave (Nat.zero_le _))
  | late gave timeouts budget =>
      exact .late (took_fill gave (Nat.zero_le _))
        ((received (Nat.zero_le _)).trans (List.append_nil _)) timeouts budget
  | arrived fits gave budget =>
      exact .arrived (took_fill gave fits) (received fits) budget

/-! ## Lines -/

/-- A text as a line, with its end. -/
def lineBytes (text : String) : Bytes := textBytes text ++ [0x0A]

/-- A text that is one line of the handshake, read with a buffer of some capacity. -/
structure IsLine (capacity : Nat) (text : String) : Prop where
  oneLine : '\n' ∉ text.toList
  length_le : (lineBytes text).length ≤ min handshakeLineLimit capacity

instance (capacity : Nat) (text : String) : Decidable (IsLine capacity text) :=
  decidable_of_decidable_of_iff
    (p := '\n' ∉ text.toList ∧ (lineBytes text).length ≤ min handshakeLineLimit capacity)
    ⟨fun ⟨oneLine, length⟩ => ⟨oneLine, length⟩,
      fun isLine => ⟨isLine.oneLine, isLine.length_le⟩⟩

/-- Where no line ends before the place from which a line is searched, the first one is
found. -/
theorem lineBehind?_eq_zero {searched : Nat} {bytes : Bytes}
    (before : 0x0A ∉ bytes.take searched) :
    lineBehind? searched bytes = lineBehind? 0 bytes := by
  rcases Nat.le_total searched bytes.length with within | beyond
  · have absent : (bytes.take searched).findIdx? (· == 0x0A) = none :=
      List.idxOf?_eq_none_iff.mpr before
    have place : bytes.idxOf? 0x0A =
        ((bytes.drop searched).idxOf? 0x0A).map (· + searched) := by
      calc
        bytes.idxOf? 0x0A = (bytes.take searched ++ bytes.drop searched).idxOf? 0x0A := by
          rw [List.take_append_drop]
        _ = ((bytes.drop searched).idxOf? 0x0A).map (· + searched) := by
          rw [List.idxOf?, List.findIdx?_append, absent, Option.none_or, List.length_take,
            Nat.min_eq_left within]
    rw [lineBehind?, lineBehind?, List.drop_zero, place, Option.map_map]
    simp only [Function.comp_def, Nat.zero_add, Nat.add_comm searched]
  · rw [List.take_of_length_le beyond] at before
    rw [lineBehind?, lineBehind?, List.drop_of_length_le beyond, List.drop_zero,
      List.idxOf?_eq_none_iff.mpr before]
    rfl

theorem lineBehind?_of_line {searched : Nat} {body later : Bytes} (oneLine : 0x0A ∉ body)
    (before : 0x0A ∉ (body ++ 0x0A :: later).take searched) :
    lineBehind? searched (body ++ 0x0A :: later) = some body := by
  have absent : body.findIdx? (· == 0x0A) = none := List.idxOf?_eq_none_iff.mpr oneLine
  rw [lineBehind?_eq_zero before, lineBehind?, List.drop_zero, List.idxOf?,
    List.findIdx?_append, absent]
  simp [List.findIdx?_cons]

theorem lineBehind?_of_notMem {bytes : Bytes} (noEnd : 0x0A ∉ bytes) (searched : Nat) :
    lineBehind? searched bytes = none := by
  rw [lineBehind?, List.idxOf?_eq_none_iff.mpr fun member => noEnd (List.mem_of_mem_drop member)]
  rfl

/-- Of a row of bytes that begins with a line, a front holds the whole line, or it has no
end of a line and is not longer than the line. -/
theorem line_in_front {front back body more : Bytes} (oneLine : 0x0A ∉ body)
    (whole : front ++ back = body ++ 0x0A :: more) :
    (∃ later, front = body ++ 0x0A :: later) ∨
      front.length ≤ body.length ∧ 0x0A ∉ front := by
  rcases List.append_eq_append_iff.mp whole with ⟨missing, split, -⟩ | ⟨extra, split, rest⟩
  · subst split
    exact .inr ⟨by simp, fun member => oneLine (List.mem_append_left _ member)⟩
  · cases extra with
    | nil => exact .inr (by simpa [split] using oneLine)
    | cons byte later =>
        obtain ⟨rfl, -⟩ : 0x0A = byte ∧ more = later ++ back := by simpa using rest
        exact .inl ⟨later, split⟩

theorem takeLine_eq (line : HandshakeLine) (text : String) (channel : Channel) :
    takeLine line (textBytes text) channel = (.ok text, { channel with
      buffer := (channel.buffer.advance ((textBytes text).length + 1)).2 }) := by
  rw [takeLine, textBytes, Utf8.decode_encode]
  simp only [bind_of_ok (modify_run _ _), pure_run, String.ofList_toList]

theorem takeLine_of_illegible {line : HandshakeLine} {body : Bytes}
    (illegible : ∀ text, textBytes text ≠ body) (channel : Channel) :
    takeLine line body channel =
      (.error (.protocol (.notUtf8 line) (lossyText body)), channel) := by
  cases read : Utf8.decode body with
  | error fault =>
      rw [takeLine, read]
      rfl
  | ok chars =>
      refine absurd ?_ (illegible (String.ofList chars))
      rw [textBytes, String.toList_ofList, Utf8.encode_of_decode read]

/-- The channel after so many fills. -/
def fills : (count : Nat) → Channel → Channel
  | 0, channel => channel
  | count + 1, channel => fills count (fill none channel).2

/-- A fill adds to what is unread, if it does anything. -/
theorem unread_prefix_fill (timeout : Option Nat) (channel : Channel) :
    channel.buffer.unread <+: (fill timeout channel).2.buffer.unread := by
  rw [← channel.buffer.unread_compact]
  unfold fill
  dsimp only
  split
  · exact List.prefix_refl _
  generalize channel.link.read channel.buffer.compact.spareLength timeout = outcome
  obtain ⟨result, link⟩ := outcome
  cases result with
  | error failure => exact List.prefix_refl _
  | ok result =>
      dsimp only
      rw [ByteBuffer.unread_commit_fill_take]
      exact List.prefix_append _ _

theorem unread_prefix_fills (count : Nat) (channel : Channel) :
    channel.buffer.unread <+: (channel.fills count).buffer.unread := by
  induction count generalizing channel with
  | zero => exact List.prefix_refl _
  | succ count ih => exact (unread_prefix_fill none channel).trans (ih _)

/-- No line ends in the unread bytes that were searched. -/
def IsSearched (channel : Channel) (searched : Nat) : Prop :=
  0x0A ∉ channel.buffer.unread.take searched

theorem isSearched_zero (channel : Channel) : channel.IsSearched 0 := by
  simp [IsSearched]

/-- Bytes that were searched stay where they are when more bytes come. -/
theorem isSearched_fill (timeout : Option Nat) (noEnd : 0x0A ∉ channel.buffer.unread) :
    (fill timeout channel).2.IsSearched channel.buffer.unreadLength := by
  have stays := List.prefix_iff_eq_take.mp (unread_prefix_fill timeout channel)
  rwa [IsSearched, ← ByteBuffer.length_unread, ← stays]

/-- After so many fills the line has not ended, and there is as much of it as a line may have
or as the buffer can hold. -/
def IsChoked (channel : Channel) (body : Bytes) (count : Nat) : Prop :=
  min handshakeLineLimit channel.buffer.capacity ≤ (channel.fills count).buffer.unread.length ∧
    (channel.fills count).buffer.unread.length ≤ body.length

/-- How reading a line can end that comes in over a steady link. -/
inductive LineOutcome (channel : Channel) (line : HandshakeLine) (body : Bytes) :
    Except LiveError String × Channel → Prop where
  | choked {count : Nat} {after : Channel} (choked : channel.IsChoked body count) :
      LineOutcome channel line body
        (.error (.protocol (.lineTooLong line (channel.fills count).buffer.unread.length)
          (lossyText (channel.fills count).buffer.unread)), after)
  | taken {text : String} {after : Channel} (isText : textBytes text = body)
      (free : ∀ count, ¬channel.IsChoked body count)
      (fits : body.length < channel.buffer.capacity) (took : channel.Took (body ++ [0x0A]) after) :
      LineOutcome channel line body (.ok text, after)
  | illegible {after : Channel} (illegible : ∀ text, textBytes text ≠ body)
      (free : ∀ count, ¬channel.IsChoked body count)
      (fits : body.length < channel.buffer.capacity) :
      LineOutcome channel line body
        (.error (.protocol (.notUtf8 line) (lossyText body)), after)

/-- A line that is not choked on before a fill is read as it is after the fill. -/
theorem LineOutcome.of_fill {line : HandshakeLine} {body : Bytes} {result : ReadResult}
    {middle : Channel} {outcome : Except LiveError String × Channel}
    (ends : middle.LineOutcome line body outcome)
    (filled : fill none channel = (.ok result, middle))
    (took : channel.Took [] middle) (freeBefore : ¬channel.IsChoked body 0) :
    channel.LineOutcome line body outcome := by
  have fills_succ (count : Nat) : channel.fills (count + 1) = middle.fills count := by
    rw [fills, filled]
  have isChoked_succ (count : Nat) :
      channel.IsChoked body (count + 1) ↔ middle.IsChoked body count := by
    rw [IsChoked, IsChoked, fills_succ, took.capacity_eq]
  have throughout (free : ∀ count, ¬middle.IsChoked body count) :
      ∀ count, ¬channel.IsChoked body count := by
    intro count choked
    cases count with
    | zero => exact freeBefore choked
    | succ count => exact free count ((isChoked_succ count).mp choked)
  cases ends with
  | @choked count after choked =>
      rw [← fills_succ]
      exact .choked ((isChoked_succ count).mpr choked)
  | taken isText free fits tookLine =>
      exact .taken isText (throughout free) (took.capacity_eq ▸ fits) (took.trans tookLine)
  | illegible illegible free fits =>
      exact .illegible illegible (throughout free) (took.capacity_eq ▸ fits)

/-- A line that is unread as a whole ends the search for it. -/
theorem takeLine_outcome (steady : channel.link.IsSteady) (line : HandshakeLine)
    {body later : Bytes} (unread : channel.buffer.unread = body ++ 0x0A :: later) :
    channel.LineOutcome line body (takeLine line body channel) := by
  have present : body.length < channel.buffer.unread.length := by simp [unread]
  have free : ∀ count, ¬channel.IsChoked body count := by
    intro count choked
    have grows := (unread_prefix_fills count channel).length_le
    have short := choked.2
    omega
  have fits : body.length < channel.buffer.capacity := by
    rw [ByteBuffer.length_unread] at present
    exact Nat.lt_of_lt_of_le present channel.buffer.unreadLength_le_capacity
  by_cases legible : ∃ text, textBytes text = body
  · obtain ⟨text, rfl⟩ := legible
    rw [takeLine_eq]
    have comes : channel.incoming =
        (textBytes text ++ [0x0A]) ++ (later ++ channel.link.pending) := by
      simp [incoming, unread]
    have took := took_advance steady comes (by simp [unread])
    rw [List.length_append] at took
    exact .taken rfl free fits took
  · rw [takeLine_of_illegible (not_exists.mp legible)]
    exact .illegible (not_exists.mp legible) free fits

/-- What comes in before the first newline is the line, unless it is choked on. -/
theorem readLineWithin_outcome (steady : channel.link.IsSteady) (line : HandshakeLine)
    {bound searched : Nat} (enough : channel.link.budget < bound)
    (isSearched : channel.IsSearched searched) {body more : Bytes}
    (oneLine : 0x0A ∉ body) (whole : channel.incoming = body ++ 0x0A :: more) :
    channel.LineOutcome line body (readLineWithin line bound searched channel) := by
  induction bound generalizing channel searched with
  | zero => contradiction
  | succ bound ih =>
      rw [readLineWithin, bind_of_ok (get_run _)]
      rcases line_in_front oneLine whole with ⟨later, unread⟩ | ⟨short, missing⟩
      · rw [IsSearched, unread] at isSearched
        simp only [unread, lineBehind?_of_line oneLine isSearched]
        exact takeLine_outcome steady line unread
      have length := channel.buffer.length_unread
      have isChoked_zero : channel.IsChoked body 0 ↔
          min handshakeLineLimit channel.buffer.capacity ≤ channel.buffer.unread.length :=
        and_iff_left short
      simp only [lineBehind?_of_notMem missing]
      by_cases full : handshakeLineLimit ≤ channel.buffer.unreadLength ∨
          channel.buffer.capacity ≤ channel.buffer.unreadLength
      · rw [if_pos full, ← length]
        exact .choked (isChoked_zero.mpr (by omega))
      rw [if_neg full]
      have free : ¬channel.IsChoked body 0 := by
        rw [isChoked_zero]
        omega
      have room : channel.buffer.unread.length < channel.buffer.capacity := by omega
      -- Whatever a fill brings, the line is still the first that comes in.
      have readOn {result : ReadResult} {middle : Channel}
          (filled : fill none channel = (.ok result, middle))
          (isOpen : result.status ≠ .closed) (took : channel.Took [] middle)
          (budget : middle.link.budget < channel.link.budget) :
          channel.LineOutcome line body ((do
              let result ← fill none
              if result.status = .closed then refuse (.closedWhileReading line)
              readLineWithin line bound channel.buffer.unreadLength : ChannelStep String) channel) := by
        rw [bind_of_ok filled, if_neg isOpen]
        have isSearchedAfter := isSearched_fill none missing
        rw [filled] at isSearchedAfter
        have ends := ih took.steady (by omega) isSearchedAfter
          (took.incoming_eq.symm.trans whole)
        exact ends.of_fill filled took free
      generalize given : fill none channel = outcome
      cases given ▸ fill_outcome steady room none with
      | ended nothing took =>
          rw [incoming, nothing, List.append_nil] at whole
          simp [whole] at missing
      | late took unread timeouts budget => exact readOn given (by simp) took budget
      | arrived took unread budget => exact readOn given (by simp) took budget

theorem readLine_outcome (steady : channel.link.IsSteady) (line : HandshakeLine)
    {body more : Bytes} (oneLine : 0x0A ∉ body)
    (whole : channel.incoming = body ++ 0x0A :: more) :
    channel.LineOutcome line body (readLine line channel) :=
  readLineWithin_outcome steady line (Nat.lt_succ_self _) channel.isSearched_zero oneLine whole

/-- A line is read as it is, however it arrives, and nothing behind it is taken. -/
theorem readLine_eq (steady : channel.link.IsSteady) (line : HandshakeLine) {text : String}
    {more : Bytes} (whole : channel.incoming = lineBytes text ++ more)
    (isLine : IsLine channel.buffer.capacity text) :
    ∃ after, readLine line channel = (.ok text, after) ∧
      channel.Took (lineBytes text) after := by
  have noEnd : 0x0A ∉ textBytes text := fun member =>
    isLine.oneLine (Utf8.mem_of_mem_encode member (by decide))
  have length : (textBytes text).length < min handshakeLineLimit channel.buffer.capacity := by
    exact Nat.lt_of_succ_le (by simpa [lineBytes] using isLine.length_le)
  have split : channel.incoming = textBytes text ++ 0x0A :: more := by
    simp [whole, lineBytes]
  have outcome := readLine_outcome steady line noEnd split
  generalize readLine line channel = result at outcome
  cases outcome with
  | choked choked =>
      obtain ⟨full, short⟩ := choked
      omega
  | @taken found after isText free fits took =>
      obtain rfl := textBytes_injective isText
      exact ⟨after, rfl, took⟩
  | illegible illegible _ _ => exact absurd rfl (illegible text)

/-! ## Sending -/

/-- A text is written at once and whole, and has no influence on what comes in. -/
theorem send_eq (steady : channel.link.IsSteady) (writable : channel.link.writesLeft? ≠ some 0)
    (activity : LinkActivity) (text : String) :
    ∃ after, send activity text channel = (.ok (), after) ∧
      after.incoming = channel.incoming ∧ after.link.IsSteady ∧
      after.link.timeouts = channel.link.timeouts ∧ after.buffer = channel.buffer ∧
      after.link.sent = channel.link.sent ++ [textBytes text] := by
  obtain ⟨left?, written⟩ := steady.write_eq writable (textBytes text)
  have sent : send activity text channel = (.ok (), { channel with link :=
      { channel.link with sent := channel.link.sent ++ [textBytes text]
                          writesLeft? := left? } }) := by
    simp only [send, written]
  exact ⟨_, sent, rfl, steady.of_events_eq rfl rfl rfl, rfl, rfl, rfl⟩

theorem checkShutDown_eq (steady : channel.link.IsSteady) :
    checkShutDown channel = (.ok false, channel) := by
  simp only [checkShutDown, Link.checkShutDown, steady.tick_eq, steady.isOpen]

end TickWire.Channel
