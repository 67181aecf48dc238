import TickWire.Live.Link

/-!
# Reading from a steady link

On a steady link bytes arrive, with timeouts between them, until the gateway closes it.
One read ends in one of three ways; whichever it is, the bytes that it gives are the
first of those that were to arrive, and nothing but reading changes.
-/

namespace TickWire

/-- The bytes that an event brings. -/
def LinkEvent.bytes : LinkEvent → Bytes
  | arrival bytes => bytes
  | _ => []

/-- Whether an event leaves the connection open. -/
def LinkEvent.isCalm : LinkEvent → Bool
  | arrival _ | timeout => true
  | _ => false

namespace Link

/-- The bytes that are still to arrive. -/
def pending (link : Link) : Bytes := link.events.flatMap LinkEvent.bytes

/-- The number of timeouts that reads will meet. -/
def timeouts (link : Link) : Nat := link.events.count .timeout

/-- A link on which bytes arrive and reads may time out, until the gateway closes it. -/
structure IsSteady (link : Link) : Prop where
  isOpen : link.isShutDown = false
  undisturbed : link.stopAfter? = none
  calm : ∀ event ∈ link.events, event.isCalm = true

/-- What reading does to a link: the bytes that were read no longer arrive. -/
structure Gave (before : Link) (bytes : Bytes) (after : Link) : Prop where
  pending_eq : before.pending = bytes ++ after.pending
  steady : after.IsSteady
  timeouts_le : after.timeouts ≤ before.timeouts
  frame : after = { before with events := after.events, waits := after.waits }

namespace Gave

variable {before middle after : Link} {first second : Bytes}

theorem refl (steady : before.IsSteady) : before.Gave [] before :=
  ⟨rfl, steady, Nat.le_refl _, rfl⟩

theorem trans (one : before.Gave first middle) (two : middle.Gave second after) :
    before.Gave (first ++ second) after where
  pending_eq := by rw [one.pending_eq, two.pending_eq, List.append_assoc]
  steady := two.steady
  timeouts_le := Nat.le_trans two.timeouts_le one.timeouts_le
  frame := by rw [two.frame, one.frame]

end Gave

/-- How one read of a steady link can end. -/
inductive ReadOutcome (link : Link) (room : Nat) :
    Except IoFailure ReadResult × Link → Prop where
  /-- Everything has arrived, and the gateway closes the link. -/
  | ended {after : Link} (nothing : link.pending = []) (gave : link.Gave [] after) :
      ReadOutcome link room (.ok ⟨[], .closed⟩, after)
  | late {after : Link} (gave : link.Gave [] after)
      (timeouts : after.timeouts + 1 = link.timeouts) (budget : after.budget < link.budget) :
      ReadOutcome link room (.ok ⟨[], .timeout⟩, after)
  | arrived {bytes : Bytes} {after : Link} (fits : bytes.length ≤ room)
      (gave : link.Gave bytes after) (budget : after.budget < link.budget) :
      ReadOutcome link room (.ok ⟨bytes, .ready⟩, after)

variable {link : Link}

theorem IsSteady.tick_eq (steady : link.IsSteady) : link.tick = link := by
  simp [tick, steady.undisturbed]

theorem IsSteady.read_eq (steady : link.IsSteady) (room : Nat) (timeout : Option Nat) :
    link.read room timeout = { link with waits := link.waits ++ [timeout] }.meet room := by
  simp [read, steady.tick_eq, steady.isOpen]

/-- A link stays steady where writing changes it. -/
theorem IsSteady.of_events_eq (steady : link.IsSteady) {after : Link}
    (events : after.events = link.events) (shutDown : after.isShutDown = link.isShutDown)
    (stop : after.stopAfter? = link.stopAfter?) : after.IsSteady where
  isOpen := shutDown.trans steady.isOpen
  undisturbed := stop.trans steady.undisturbed
  calm := events ▸ steady.calm

theorem IsSteady.write_eq (steady : link.IsSteady) (writable : link.writesLeft? ≠ some 0)
    (bytes : Bytes) :
    ∃ left?, link.write bytes =
      (.ok (), { link with sent := link.sent ++ [bytes], writesLeft? := left? }) := by
  have isOpen : ¬link.isShutDown = true := by simp [steady.isOpen]
  simp only [write, steady.tick_eq, if_neg isOpen]
  split
  · exact ⟨link.writesLeft?, rfl⟩
  next none => exact absurd none writable
  next left _ => exact ⟨some left, rfl⟩

/-- Every byte and every timeout that is still to come can be met by a read of its own. -/
theorem pending_lt_budget (link : Link) : link.pending.length + link.timeouts < link.budget := by
  rw [pending, timeouts, budget]
  induction link.events with
  | nil => decide
  | cons event later ih =>
      have weighs : event.bytes.length + (if event == .timeout then 1 else 0) ≤ event.weight := by
        cases event <;> simp [LinkEvent.bytes, LinkEvent.weight]
      rw [List.flatMap_cons, List.length_append, List.count_cons, List.foldr_cons]
      omega

/-- A steady link gives bytes when its events are replaced by those that are left. -/
theorem Gave.of_events (steady : link.IsSteady) {bytes : Bytes} {left : List LinkEvent}
    {waits : List (Option Nat)} (split : link.pending = bytes ++ left.flatMap LinkEvent.bytes)
    (calm : ∀ event ∈ left, event.isCalm = true)
    (timeouts : left.count .timeout ≤ link.timeouts) :
    link.Gave bytes { link with events := left, waits } where
  pending_eq := split
  steady := ⟨steady.isOpen, steady.undisturbed, calm⟩
  timeouts_le := timeouts
  frame := rfl

theorem read_outcome (steady : link.IsSteady) {room : Nat} (positive : 0 < room)
    (timeout : Option Nat) : link.ReadOutcome room (link.read room timeout) := by
  have calm := steady.calm
  rw [steady.read_eq, meet]
  cases events : link.events with
  | nil =>
      have nothing : link.pending = [] := by simp [pending, events]
      exact .ended nothing (.of_events steady nothing (by simp) (by simp [timeouts]))
  | cons event later =>
      rw [events, List.forall_mem_cons] at calm
      obtain ⟨eventCalm, laterCalm⟩ := calm
      cases event with
      | timeout =>
          refine .late (.of_events steady ?_ laterCalm ?_) ?_ ?_
          · simp [pending, events, LinkEvent.bytes]
          · simp [timeouts, events]
          · simp [timeouts, events]
          · simp [budget, events, LinkEvent.weight]
      | arrival bytes =>
          simp only
          split
          next fits =>
            rw [List.take_of_length_le fits]
            refine .arrived fits (.of_events steady ?_ laterCalm ?_) ?_
            · simp [pending, events, LinkEvent.bytes]
            · simp [timeouts, events]
            · simp [budget, events, LinkEvent.weight]
          next beyond =>
            refine .arrived (List.length_take_le ..) (.of_events steady ?_ ?_ ?_) ?_
            · simp [pending, events, LinkEvent.bytes, ← List.append_assoc]
            · rw [List.forall_mem_cons]
              exact ⟨rfl, laterCalm⟩
            · simp [timeouts, events]
            · simp only [budget, events, List.foldr_cons, LinkEvent.weight, List.length_drop]
              omega
      | closed | silence | failure _ | answer _ => simp [LinkEvent.isCalm] at eventCalm

/-- Reading goes on over timeouts until enough has arrived. -/
theorem readExactWithin_eq (steady : link.IsSteady) {bound want : Nat}
    (enough : link.budget ≤ bound) (arrives : want ≤ link.pending.length) :
    ∃ after, readExactWithin bound want link = (.ok (link.pending.take want), after) ∧
      link.Gave (link.pending.take want) after := by
  induction bound generalizing want link with
  | zero => simp [budget] at enough
  | succ bound ih =>
      cases want with
      | zero => exact ⟨link, by simp [readExactWithin], by simpa using .refl steady⟩
      | succ want =>
          rw [readExactWithin]
          generalize given : link.read (want + 1) none = outcome
          have found := given ▸ read_outcome steady (Nat.succ_pos want) none
          cases found with
          | ended nothing gave => simp [nothing] at arrives
          | @late middle gave timeouts budget =>
              have pending : link.pending = middle.pending := gave.pending_eq
              obtain ⟨after, read, gaveMore⟩ :=
                ih gave.steady (by omega) (pending ▸ arrives)
              exact ⟨after, by rw [pending]; exact read,
                by rw [pending]; exact gave.trans gaveMore⟩
          | @arrived bytes middle fits gave budget =>
              have length := congrArg List.length gave.pending_eq
              rw [List.length_append] at length
              have arrivesLater : want + 1 - bytes.length ≤ middle.pending.length := by omega
              obtain ⟨after, read, gaveMore⟩ := ih gave.steady (by omega) arrivesLater
              have taken : link.pending.take (want + 1) =
                  bytes ++ middle.pending.take (want + 1 - bytes.length) := by
                rw [gave.pending_eq, List.take_append, List.take_of_length_le fits]
              exact ⟨after, by simp only [read, taken, List.take_of_length_le fits],
                by rw [taken]; exact gave.trans gaveMore⟩

/-- What is read exactly is what arrives first, with the timeouts waited for. -/
theorem readExact_eq (steady : link.IsSteady) {bytes later : Bytes}
    (arrives : link.pending = bytes ++ later) :
    ∃ after, link.readExact bytes.length = (.ok bytes, after) ∧ link.Gave bytes after := by
  have read := readExactWithin_eq steady (Nat.le_refl _)
    (arrives ▸ (List.prefix_append bytes later).length_le)
  rwa [arrives, List.take_left] at read

end Link

end TickWire
