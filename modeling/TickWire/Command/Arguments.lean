import TickWire.Command.Options

/-!
# Arguments

How arguments describe a command.  Options have a long name and may have a letter;
letters can be put together.  The value of an option stands after an equals sign, after
its letter, or in the next argument, and is interpreted when the next option or operand
is met.  Everything after two dashes is an operand.
-/

namespace TickWire

/-- What an option does to the options of a command in the making. -/
inductive OptionEffect (σ : Type)
  /-- Sets something, without a value. -/
  | flag (set : σ → σ)
  /-- Takes a value. -/
  | value (set : String → σ → Except CommandLineFault σ)
  /-- Takes values between commas, and may be given again. -/
  | values (add : String → σ → σ)
  | help

/-- An option of a command. -/
structure CommandOption (σ : Type) where
  /-- The name after two dashes. -/
  name : String
  /-- The letter after one dash. -/
  letter? : Option Char := none
  effect : OptionEffect σ

/-- The options of a command, and what it does with an operand if it takes one. -/
structure CommandGrammar (σ : Type) where
  options : List (CommandOption σ)
  operand? : Option (CommandOption σ) := none

/-- What the arguments so far describe. -/
structure ArgumentProgress (σ : Type) where
  draft : σ
  /-- The names of the options that were given. -/
  given : List String := []
  /-- An option whose value was not interpreted yet, and the value if it is there. -/
  pending? : Option (CommandOption σ × Option String) := none

namespace ArgumentProgress

variable {σ : Type}

/-- Whether an option was given. -/
def has (progress : ArgumentProgress σ) (name : String) : Bool :=
  progress.given.contains name

/-- Takes note of an option whose effect is known. -/
def record (progress : ArgumentProgress σ) (name : String)
    (change : σ → Except CommandLineFault σ) : Except CommandLineFault (ArgumentProgress σ) := do
  if progress.has name then throw .conflict
  let draft ← change progress.draft
  return { progress with draft, given := name :: progress.given }

/-- Gives an option its effect. -/
def apply (progress : ArgumentProgress σ) (option : CommandOption σ)
    (value? : Option String) : Except CommandLineFault (ArgumentProgress σ) :=
  match option.effect, value? with
  | .help, _ => .error .helpWanted
  | .flag set, _ => progress.record option.name fun draft => .ok (set draft)
  | .value _, none | .values _, none => .error .missingValue
  | .value set, some value => progress.record option.name (set value)
  | .values add, some value =>
      let parts := (Segment.split ',' value.toList).map String.ofList
      .ok { progress with
        draft := parts.foldl (fun draft part => add part draft) progress.draft }

/-- Interprets the value that was left. -/
def settle (progress : ArgumentProgress σ) : Except CommandLineFault (ArgumentProgress σ) :=
  match progress.pending? with
  | none => .ok progress
  | some (option, value?) => { progress with pending? := none }.apply option value?

/-- Meets an option, with the value that is attached to it if there is one. -/
def meet (progress : ArgumentProgress σ) (option : CommandOption σ)
    (attached? : Option String) : Except CommandLineFault (ArgumentProgress σ) := do
  match option.effect, attached? with
  | .flag _, some _ | .help, some _ => throw .unexpectedValue
  | .flag _, none | .help, none => (← progress.settle).apply option none
  | .value _, some value | .values _, some value =>
      (← progress.settle).apply option (some value)
  | .value _, none | .values _, none =>
      return { ← progress.settle with pending? := some (option, none) }

end ArgumentProgress

namespace CommandGrammar

variable {σ : Type}

def ofName? (grammar : CommandGrammar σ) (name : String) : Option (CommandOption σ) :=
  grammar.options.find? fun option => option.name == name

def ofLetter? (grammar : CommandGrammar σ) (letter : Char) : Option (CommandOption σ) :=
  grammar.options.find? fun option => option.letter? == some letter

/-- Whether an option takes a value. -/
def takesValue (option : CommandOption σ) : Bool :=
  match option.effect with
  | .value _ | .values _ => true
  | .flag _ | .help => false

/-- The value that follows a letter, without an equals sign between them. -/
def attachedValue? : List Char → Option String
  | [] => none
  | '=' :: value => some (String.ofList value)
  | value => some (String.ofList value)

/-- Meets letters that were put together. -/
def meetLetters (grammar : CommandGrammar σ) :
    List Char → ArgumentProgress σ → Except CommandLineFault (ArgumentProgress σ)
  | [], progress => .ok progress
  | letter :: rest, progress =>
    match grammar.ofLetter? letter with
    | none => .error .unknownArgument
    | some option =>
      if takesValue option then progress.meet option (attachedValue? rest)
      else do
        let progress ← progress.meet option none
        meetLetters grammar rest progress

/-- Meets a name, which may be followed by an equals sign and a value. -/
def meetName (grammar : CommandGrammar σ) (text : List Char)
    (progress : ArgumentProgress σ) : Except CommandLineFault (ArgumentProgress σ) :=
  let (name, attached?) := match Segment.splitFirst? '=' text with
    | some (name, value) => (String.ofList name, some (String.ofList value))
    | none => (String.ofList text, none)
  match grammar.ofName? name with
  | none => .error .unknownArgument
  | some option => progress.meet option attached?

/-- Meets an operand; a command takes at most one. -/
def meetOperand (grammar : CommandGrammar σ) (text : String)
    (progress : ArgumentProgress σ) : Except CommandLineFault (ArgumentProgress σ) := do
  match grammar.operand? with
  | none => throw .unknownArgument
  | some operand =>
    if progress.has operand.name ∨ progress.pending?.any (·.1.name == operand.name) then
      throw .unknownArgument
    return { ← progress.settle with pending? := some (operand, some text) }

/-- Meets an argument that is neither a name nor letters: the value that the last option
waits for, or an operand. -/
def meetWord (grammar : CommandGrammar σ) (text : String)
    (progress : ArgumentProgress σ) : Except CommandLineFault (ArgumentProgress σ) :=
  match progress.pending? with
  | some (option, none) => .ok { progress with pending? := some (option, some text) }
  | _ => grammar.meetOperand text progress

/-- Meets arguments in order; `literal` says that all of them are operands. -/
def meetAll (grammar : CommandGrammar σ) : (literal : Bool) → List String →
    ArgumentProgress σ → Except CommandLineFault (ArgumentProgress σ)
  | _, [], progress => progress.settle
  | true, text :: rest, progress => do
      let progress ← grammar.meetOperand text progress
      grammar.meetAll true rest progress
  | false, text :: rest, progress =>
    match text.toList with
    | ['-', '-'] => grammar.meetAll true rest progress
    | '-' :: '-' :: name => do
        let progress ← grammar.meetName name progress
        grammar.meetAll false rest progress
    | '-' :: letter :: letters => do
        let progress ← grammar.meetLetters (letter :: letters) progress
        grammar.meetAll false rest progress
    | _ => do
        let progress ← grammar.meetWord text progress
        grammar.meetAll false rest progress

end CommandGrammar

/-- A value that must be there. -/
def requiredArgument {α : Type} : Option α → Except CommandLineFault α
  | some value => .ok value
  | none => .error .missingArgument

/-- A value that must have a meaning. -/
def validValue {α : Type} : Option α → Except CommandLineFault α
  | some value => .ok value
  | none => .error .invalidValue

/-- A path, which must not be empty. -/
def validPath (text : String) : Except CommandLineFault String :=
  if text.toList.isEmpty then .error .missingValue else .ok text

/-- The options that say where the output goes and in which form. -/
def outputOptions {σ : Type}
    (change : (OutputOptions → Except CommandLineFault OutputOptions) →
      σ → Except CommandLineFault σ)
    (set : (OutputOptions → OutputOptions) → σ → σ) : List (CommandOption σ) :=
  [⟨"output", some 'o', .value fun text => change fun output => do
      let path ← validPath text
      return { output with path? := some path }⟩,
    ⟨"dbn", some 'D', .flag (set fun output => { output with encoded := true })⟩,
    ⟨"zstd", some 'z', .flag (set fun output => { output with compressed := true })⟩,
    ⟨"force", some 'f', .flag (set fun output => { output with overwrite := true })⟩,
    ⟨"limit", some 'l', .value fun text => change fun output => do
      let limit ← validValue ((Decimal.parseU64? text).bind NonZero.of?)
      return { output with limit := some limit }⟩,
    ⟨"upgrade", some 'u', .flag (set fun output => { output with upgrade := true })⟩,
    ⟨"help", some 'h', .help⟩]

/-- The options of a session in the making. -/
structure LiveDraft where
  key? : Option String := none
  dataset? : Option String := none
  schema? : Option Schema := none
  symbology : Symbology := .rawSymbol
  symbols : List String := []
  start? : Option String := none
  stamped : Bool := false
  gateway? : Option (String × UInt16) := none
  timeout : UInt64 := 1000
  output : OutputOptions := {}

namespace LiveDraft

/-- The options of the command that streams a session. -/
def grammar : CommandGrammar LiveDraft where
  options :=
    [⟨"key", none, .value fun text draft => .ok { draft with key? := some text }⟩,
      ⟨"dataset", some 'd', .value fun text draft =>
        .ok { draft with dataset? := some text }⟩,
      ⟨"schema", some 's', .value fun text draft => do
        let schema ← validValue (Spelled.ofSpelling? text)
        return { draft with schema? := some schema }⟩,
      ⟨"stype", none, .value fun text draft => do
        let symbology ← validValue (Spelled.ofSpelling? text)
        return { draft with symbology }⟩,
      ⟨"symbols", none, .values fun text draft =>
        { draft with symbols := draft.symbols ++ [text] }⟩,
      ⟨"start", none, .value fun text draft => .ok { draft with start? := some text }⟩,
      ⟨"ts-out", none, .flag fun draft => { draft with stamped := true }⟩,
      ⟨"gateway", none, .value fun text draft => do
        let gateway ← validValue (parseGateway text).toOption
        return { draft with gateway? := some gateway }⟩,
      ⟨"timeout-ms", none, .value fun text draft => do
        let timeout ← validValue (Decimal.parseU64? text)
        return { draft with timeout }⟩]
    ++ outputOptions
      (fun change draft => do return { draft with output := ← change draft.output })
      (fun set draft => { draft with output := set draft.output })

/-- The options, where the key may come from the environment. -/
def finish (keyFromEnvironment? : Option String) (draft : LiveDraft) :
    Except CommandLineFault LiveOptions := do
  let key ← requiredArgument (draft.key?.or keyFromEnvironment?)
  let dataset ← requiredArgument draft.dataset?
  let schema ← requiredArgument draft.schema?
  if draft.symbols.isEmpty then throw .missingArgument
  return {
    key, dataset, schema
    symbology := draft.symbology
    symbols := draft.symbols
    start? := draft.start?
    stamped := draft.stamped
    gateway? := draft.gateway?
    timeout := draft.timeout
    output := draft.output }

end LiveDraft

/-- The options of a replay in the making. -/
structure ReplayDraft where
  input? : Option String := none
  schema? : Option Schema := none
  metadataOnly : Bool := false
  output : OutputOptions := {}

namespace ReplayDraft

/-- The options of the command that replays a file. -/
def grammar : CommandGrammar ReplayDraft where
  options :=
    [⟨"schema", none, .value fun text draft => do
        let schema ← validValue (Spelled.ofSpelling? text)
        return { draft with schema? := some schema }⟩,
      ⟨"metadata", some 'm', .flag fun draft => { draft with metadataOnly := true }⟩]
    ++ outputOptions
      (fun change draft => do return { draft with output := ← change draft.output })
      (fun set draft => { draft with output := set draft.output })
  operand? := some ⟨"", none, .value fun text draft => do
    let path ← validPath text
    return { draft with input? := some path }⟩

/-- The options; the metadata as text and the encoded output exclude each other. -/
def finish (draft : ReplayDraft) : Except CommandLineFault ReplayOptions := do
  if draft.metadataOnly && draft.output.encoded then throw .conflict
  let input ← requiredArgument draft.input?
  return {
    input
    schema? := draft.schema?
    metadataOnly := draft.metadataOnly
    output := draft.output }

end ReplayDraft

namespace Command

/-- The names of the commands. -/
def names : List String := ["live", "replay", "help"]

/-- Arguments that begin with no command. -/
def refuse (first : String) (rest : List String) : CommandLineFault :=
  match first.toList with
  | ['-', '-'] =>
    match rest with
    | [] => .nothingGiven
    | next :: _ => if next ∈ names then .unknownArgument else .unknownCommand
  | '-' :: '-' :: name =>
    match Segment.splitFirst? '=' name with
    | some (name, _) =>
      if String.ofList name ∈ ["help", "version"] then .unexpectedValue
      else .unknownArgument
    | none =>
      if name = "help".toList then .helpWanted
      else if name = "version".toList then .versionWanted
      else .unknownArgument
  | '-' :: 'h' :: _ => .helpWanted
  | '-' :: 'V' :: _ => .versionWanted
  | '-' :: _ :: _ => .unknownArgument
  | _ => .unknownCommand

/-- The command that arguments describe. -/
def ofArguments (keyFromEnvironment? : Option String) :
    List String → Except CommandLineFault Command
  | [] => .error .nothingGiven
  | "live" :: rest => do
      let progress ← LiveDraft.grammar.meetAll false rest { draft := {} }
      return live (← progress.draft.finish keyFromEnvironment?)
  | "replay" :: rest => do
      let progress ← ReplayDraft.grammar.meetAll false rest { draft := {} }
      return replay (← progress.draft.finish)
  | ["help"] => .error .helpWanted
  | ["help", name] => .error (if name ∈ names then .helpWanted else .unknownCommand)
  | "help" :: _ => .error .unknownCommand
  | first :: rest => .error (refuse first rest)

end Command

end TickWire
