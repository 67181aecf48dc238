import TickWire.Bytes.Sha256
import TickWire.Live.Error
import TickWire.Text.Decimal
import TickWire.Text.Segment

/-!
# The handshake

The lines that a client and a gateway exchange before the records.  The gateway sends a
challenge; the client shows that it knows its key by hashing the challenge together with
the key, and the gateway answers whether it lets the client in.
-/

namespace TickWire

/-- What follows the dataset in the host name of a gateway. -/
def gatewayDomain : String := ".lsg.databento.com"

/-- The port of a gateway. -/
def gatewayPort : UInt16 := 13000

/-- The number of last characters of a key that are sent as they are. -/
def bucketLength : Nat := 5

/-- The line that asks for the records. -/
def startLine : String := "start_session\n"

/-- A capital letter from A to Z in lower case; other characters stay as they are. -/
def lowerAscii (char : Char) : Char :=
  if 'A' ≤ char ∧ char ≤ 'Z' then Char.ofNat (char.toNat + 32) else char

/-- The host name of the gateway of a dataset. -/
def gatewayOf (dataset : String) : String :=
  String.ofList (dataset.toList.map fun char =>
    if char = '.' then '-' else lowerAscii char) ++ gatewayDomain

/-- Whether all characters of a text are ASCII. -/
def isAscii (text : String) : Bool := text.toList.all fun char => decide (char.toNat < 128)

/-- Refuses a key that has another form than keys have. -/
def checkKey (key : String) : Except LiveError Unit :=
  if !isAscii key then .error (.configuration .keyNotAscii)
  else if textLength key ≠ keyLength then
    .error (.configuration (.keyLength (textLength key)))
  else .ok ()

/-- The byte at which the last characters of a key begin. -/
def bucketStart (key : String) : Nat :=
  (Utf8.offsets 0 key.toList).reverse[bucketLength - 1]?.getD 0

/-- The last characters of a key, which are cut off at the byte where they begin. -/
def bucket? (key : String) : Option (List Char) :=
  Utf8.dropBytes? (bucketStart key) key.toList

/-- The last characters of a key; `bucket?` always finds them. -/
def bucketOf (key : String) : List Char := (bucket? key).getD []

/-- What is hashed in reply to a challenge. -/
def challengeMessage (challenge key : String) : Bytes :=
  Utf8.encode (challenge.toList ++ '|' :: key.toList)

/-- The reply to a challenge: the hash in hexadecimal, and the last characters of the
key. -/
def challengeReply (challenge key : String) : String :=
  String.ofList
    (Hex.encode (Sha256.digest (challengeMessage challenge key)) ++ '-' :: bucketOf key)

/-- The line that asks to be let in. -/
def authenticationLine (reply dataset : String) (stamped : Bool) : String :=
  let flag := if stamped then "1" else "0"
  s!"auth={reply}|dataset={dataset}|encoding=dbn|ts_out={flag}\n"

/-- The challenge in the line of the gateway. -/
def parseChallenge (line : String) : Except LiveError String :=
  match Segment.dropOpening? "cram=".toList line.toList with
  | some challenge => .ok (String.ofList challenge)
  | none => .error (.protocol .challengeExpected line)

/-- What the segments of a response have said so far. -/
structure ResponseDraft where
  success? : Option Bool := none
  sessionId : UInt64 := 0
  reason? : Option String := none

namespace ResponseDraft

/-- Takes note of a segment. -/
def note (line : String) (draft : ResponseDraft) (segment : List Char) :
    Except LiveError ResponseDraft :=
  match Segment.splitFirst? '=' segment with
  | none => .error (.protocol .malformedResponse line)
  | some (key, value) =>
    if key = "success".toList then
      .ok { draft with success? := some (decide (value = ['1'])) }
    else if key = "error".toList then
      .ok { draft with reason? := some (String.ofList value) }
    else if key = "session_id".toList then
      match Decimal.parseU64? (String.ofList value) with
      | some sessionId => .ok { draft with sessionId }
      | none => .error (.protocol .malformedSessionId line)
    else .ok draft

/-- Takes note of segments in order. -/
def noteAll (line : String) : ResponseDraft → List (List Char) →
    Except LiveError ResponseDraft
  | draft, [] => .ok draft
  | draft, segment :: others => do
      let draft ← draft.note line segment
      noteAll line draft others

/-- What a response says as a whole: the number of the session, or why there is none. -/
def verdict (line : String) (draft : ResponseDraft) : Except LiveError UInt64 :=
  match draft.success? with
  | none => .error (.authentication (.noVerdict line))
  | some false => .error (.authentication (.refused draft.reason?))
  | some true => .ok draft.sessionId

end ResponseDraft

/-- The number of the session in the response of the gateway. -/
def parseResponse (line : String) : Except LiveError UInt64 := do
  let segments := (Segment.split '|' line.toList).filter fun segment => !segment.isEmpty
  let draft ← ResponseDraft.noteAll line {} segments
  draft.verdict line

end TickWire
