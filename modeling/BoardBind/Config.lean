import BoardBind.Bindings
import BoardBind.Board
import BoardBind.Host.Disk
import BoardBind.Note
import BoardBind.Toml.Document

/-! # Project configuration

A project may keep a configuration file in its directory. It chooses the language and the analysis
tool, describes a board and lists bindings. Unknown keys and values of the wrong type make the
whole file malformed.
-/

namespace BoardBind

/-- The settings of the project table. -/
structure Project where
  language : Option Language := none
  tool : Option String := none
  /-- The time limit of the tool in milliseconds. -/
  timeout : Option Nat := none
  top : Option String := none
  output : Option String := none
  deriving DecidableEq

/-- The contents of a configuration file. -/
structure Config where
  project : Option Project := none
  board : Option Board := none
  /-- The listed bindings, sorted by port. -/
  bindings : List Binding := []
  deriving DecidableEq

namespace Toml.Value

def text? : Value → Option String
  | .text s => some s
  | _ => none

def natural? : Value → Option Nat
  | .integer i => if 0 ≤ i then some i.toNat else none
  | _ => none

/-- Whether a value is a table without contents. -/
def isEmptyTable : Value → Bool
  | .table _ [] => true
  | _ => false

/-- The entries of a table. A date or time counts as a table with one key. -/
def entries? : Value → Option Entries
  | .table _ entries => some entries
  | .dateTime written => some [("$__toml_private_datetime", .text written)]
  | _ => none

/-- One of a few words, given as a string or as the only key of a table whose value is an empty
table. -/
def choice? {α : Type} (choices : List (String × α)) : Value → Option α
  | .text s => choices.lookup s
  | .table _ [(name, payload)] => if payload.isEmptyTable then choices.lookup name else none
  | _ => none

def items? : Value → Option (List Value)
  | .array _ items => some items
  | _ => none

/-- The fields of a record: a table with no other keys, or an array of at least `required` values
in the order of the fields. -/
def fields? (names : List String) (required : Nat) : Value → Option Entries
  | .table _ entries => if entries.all fun entry => entry.1 ∈ names then some entries else none
  | .array _ items => if required ≤ items.length then some (names.zip items) else none
  | _ => none

end Toml.Value

namespace Config

open Toml

/-- Reads a field that may be missing. -/
def optional {α : Type} (read : Value → Option α) (fields : Entries) (name : String) :
    Option (Option α) :=
  match fields.lookup name with
  | none => some none
  | some value => (read value).map some

/-- Reads a field that must be there. -/
def required {α : Type} (read : Value → Option α) (fields : Entries) (name : String) : Option α :=
  (fields.lookup name).bind read

def languages : List (String × Language) :=
  [("vhdl", .vhdl), ("verilog", .verilog), ("systemverilog", .verilog), ("sv", .verilog)]

def directions : List (String × Direction) :=
  [("in", .input), ("input", .input), ("out", .output), ("output", .output)]

def levels : List (String × Logic) :=
  [("0", .low), ("1", .high)]

def project? (value : Value) : Option Project := do
  let fields ← value.fields? ["language", "svinst", "timeout-ms", "top", "output"] 5
  return {
    language := ← optional (Value.choice? languages) fields "language"
    tool := ← optional Value.text? fields "svinst"
    timeout := ← optional Value.natural? fields "timeout-ms"
    top := ← optional Value.text? fields "top"
    output := ← optional Value.text? fields "output" }

def signal? (value : Value) : Option BoardSignal := do
  let fields ← value.fields? ["name", "dir", "width", "idle"] 4
  return {
    name := ← required Value.text? fields "name"
    direction := ← required (Value.choice? directions) fields "dir"
    declaredWidth := (← optional Value.natural? fields "width").map UInt64.ofNat
    idle := ← optional (Value.choice? levels) fields "idle" }

def board? (value : Value) : Option Board := do
  let fields ← value.fields? ["name", "signal"] 1
  let signals ← optional (fun value => do (← value.items?).mapM signal?) fields "signal"
  return { name := ← required Value.text? fields "name", signals := signals.getD [] }

/-- Reads a table of bindings, sorted by port. -/
def bindings? (value : Value) : Option (List Binding) := do
  let bindings ← (← value.entries?).mapM fun (port, value) => return ⟨port, ← value.text?⟩
  return bindings.mergeSort fun a b => !decide (b.port < a.port)

def parse? (text : String) : Option Config := do
  let entries ← Toml.parse text
  let fields ← (Value.table .header entries).fields? ["project", "board", "assign"] 3
  return {
    project := ← optional project? fields "project"
    board := ← optional board? fields "board"
    bindings := (← optional bindings? fields "assign").getD [] }

def fileName : String := "hdltop.toml"

end Config

/-- Why a project's configuration was not read. -/
inductive ConfigError where
  | missingDirectory (dir : Path)
  | notText (file : Path)
  | malformed (file : Path)
  | board (file : Path) (fault : BoardError)
  deriving DecidableEq

def ConfigError.message : ConfigError → String
  | .missingDirectory dir => "directory " ++ dir.quoted ++ " does not exist"
  | .notText file =>
    "failed to read configuration file " ++ file.quoted ++ ": stream did not contain valid UTF-8"
  | .malformed file => "failed to parse configuration file " ++ file.quoted
  | .board file fault => "invalid board in " ++ file.quoted ++ ": " ++ fault.message

namespace Config

def ofBytes (file : Path) (bytes : List UInt8) : Except ConfigError Config :=
  match String.fromUTF8? (ByteArray.mk bytes.toArray) with
  | none => .error (.notText file)
  | some text =>
    match parse? text with
    | none => .error (.malformed file)
    | some config =>
      match config.board.bind Board.fault? with
      | some fault => .error (.board file fault)
      | none => .ok config

/-- Reads the configuration file of a directory; without one everything has its default. -/
def load (disk : Disk) (dir : Path) : Noted ConfigError Config :=
  let file := dir.join ⟨fileName⟩
  match disk.find file with
  | .ok (_, .file bytes _) => Noted.lift (ofBytes file bytes)
  | _ => do
    Noted.say [.debug ("no " ++ fileName ++ " found in " ++ dir.quoted ++ "; using defaults")]
    return {}

end Config

end BoardBind
