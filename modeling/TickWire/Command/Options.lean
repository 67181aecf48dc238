import TickWire.Command.Error
import TickWire.Live.Settings
import TickWire.Metadata.Basic

/-!
# Options of the commands

What the two commands are told: where the output goes and in which form, which session
or file the records come from, and which of them are wanted.
-/

namespace TickWire

/-- Where the output goes and in which form. -/
structure OutputOptions where
  /-- The file that is written, or none for standard output. -/
  path? : Option String := none
  /-- Whether records are written as they are encoded, and not as text. -/
  encoded : Bool := false
  /-- Whether a compressor takes what is written.  The commands write the same bytes
  either way. -/
  compressed : Bool := false
  /-- Whether a file that exists is written over. -/
  overwrite : Bool := false
  /-- The greatest number of records. -/
  limit : Option NonZero := none
  /-- Whether records of earlier versions are upgraded. -/
  upgrade : Bool := false
  deriving DecidableEq

namespace OutputOptions

def policy (options : OutputOptions) : UpgradePolicy :=
  if options.upgrade then .upgrade else .asIs

def compression (options : OutputOptions) : Compression :=
  if options.compressed then .zstd else .none

end OutputOptions

/-- The address of a gateway: a host, and a port after the last colon. -/
def parseGateway (text : String) : Except GatewayFault (String × UInt16) :=
  match Segment.splitLast? ':' text.toList with
  | none =>
    if text.toList.isEmpty then .error (.missingHost text) else .ok (text, gatewayPort)
  | some (host, port) =>
    match Decimal.parseU16? (String.ofList port) with
    | none => .error (.invalidPort text)
    | some port =>
      if host.isEmpty then .error (.missingHost text) else .ok (String.ofList host, port)

/-- A time of replay: a number counts nanoseconds, and anything else is left to the
gateway. -/
def parseReplayStart (text : String) : ReplayStart :=
  match Decimal.parseU64? text with
  | some time => .nanoseconds time
  | none => .text text

/-- What the command that streams a session is told. -/
structure LiveOptions where
  key : String
  dataset : String
  schema : Schema
  symbology : Symbology
  symbols : List String
  start? : Option String
  stamped : Bool
  gateway? : Option (String × UInt16)
  /-- How long one read waits, in milliseconds. -/
  timeout : UInt64
  output : OutputOptions
  deriving DecidableEq

/-- What the command that replays a file is told. -/
structure ReplayOptions where
  input : String
  /-- The schema whose records are wanted, or none for all. -/
  schema? : Option Schema := none
  /-- Whether the metadata is wanted instead of the records. -/
  metadataOnly : Bool := false
  output : OutputOptions := {}
  deriving DecidableEq

/-- A command with its options. -/
inductive Command
  | live (options : LiveOptions)
  | replay (options : ReplayOptions)
  deriving DecidableEq

end TickWire
