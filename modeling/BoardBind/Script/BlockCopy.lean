import BoardBind.Script.FileTool
import BoardBind.Script.Filter
import BoardBind.Script.Split

/-! # Copies in blocks

A file is read in blocks of a size, changed on the way, and written from a place on into another
file. What is told about the copy comes as names with values.
-/

namespace BoardBind.Script

/-- What a copy in blocks is told. -/
structure BlockCopy where
  source : Option (List Char) := none
  target : Option (List Char) := none
  inSize : Option Nat := none
  outSize : Option Nat := none
  bothSize : Option Nat := none
  /-- The size of the records that lines are turned into, or the other way round. -/
  recordSize : Nat := 0
  /-- A number of blocks, or of bytes if it is marked so. -/
  count : Option (Nat × Bool) := none
  skip : Nat × Bool := (0, false)
  seek : Nat × Bool := (0, false)
  changes : List (List Char) := []
  inFlags : List (List Char) := []
  outFlags : List (List Char) := []
  /-- What is told at the end. -/
  status : List Char := []

/-- What is wrong with what a copy is told; a hint follows if it is marked so. -/
structure BlockFault where
  text : List Char
  hasHint : Bool := false

/-- The size that a text means, and whether it is marked as a number of bytes. Products have a
small x between their factors. -/
def blockNumber? (text : List Char) : Option (Nat × Bool) :=
  let factor? := fun part : List Char =>
    let digits := part.takeWhile Char.isDigit
    match natural? digits, part.drop digits.length with
    | none, _ => none
    | some n, ['c'] => some (n, false)
    | some n, ['w'] => some (2 * n, false)
    | some n, ['B'] => some (n, true)
    | some n, unit =>
      match unit.getLast?, unitSize? unit with
      | _, some size => some (n * size, false)
      | _, none => none
  match (text.splitOn 'x').mapM factor? with
  | none => none
  | some factors =>
    some (factors.foldl (fun n f => n * f.1) 1, (factors.getLast?.map (·.2)).getD false)

namespace BlockCopy

/-- The names of the changes that can be made on the way. -/
def knownChanges : List String :=
  ["ascii", "ebcdic", "ibm", "block", "unblock", "lcase", "ucase", "sparse", "swab", "noerror",
    "nocreat", "excl", "notrunc", "sync", "fdatasync", "fsync"]

/-- The names of the ways to open files. -/
def knownFlags : List String :=
  ["append", "binary", "cio", "direct", "directory", "dsync", "noatime", "nocache", "noctty",
    "nofollow", "nolinks", "nonblock", "sync", "text", "fullblock", "count_bytes", "skip_bytes",
    "seek_bytes"]

def changes? (c : BlockCopy) (name : String) : Bool := c.changes.contains name.toList

def listed (known : List String) (kind : String) (value : List Char) :
    Except BlockFault (List (List Char)) :=
  let parts := value.splitOn ','
  match parts.find? fun part => String.ofList part ∉ known with
  | some part =>
    .error { text := "invalid ".toList ++ kind.toList ++ ": ".toList ++ inMarks part, hasHint := true }
  | none => .ok parts

def tell (c : BlockCopy) (operand : List Char) : Except BlockFault BlockCopy :=
  let name := operand.takeWhile (· ≠ '=')
  let value := operand.drop (name.length + 1)
  let number := fun (least : Nat) => (show Except BlockFault (Nat × Bool) from
    match blockNumber? value with
    | some (n, isBytes) =>
      if n < least then .error { text := "invalid number: ".toList ++ inMarks value }
      else .ok (n, isBytes)
    | none => .error { text := "invalid number: ".toList ++ inMarks value })
  let unknown : Except BlockFault BlockCopy :=
    .error { text := "unrecognized operand ".toList ++ inMarks operand, hasHint := true }
  if !operand.contains '=' then unknown
  else
    match String.ofList name with
    | "if" => .ok { c with source := some value }
    | "of" => .ok { c with target := some value }
    | "bs" => (number 1).map fun n => { c with bothSize := some n.1 }
    | "ibs" => (number 1).map fun n => { c with inSize := some n.1 }
    | "obs" => (number 1).map fun n => { c with outSize := some n.1 }
    | "cbs" => (number 1).map fun n => { c with recordSize := n.1 }
    | "count" => (number 0).map fun n => { c with count := some n }
    | "skip" => (number 0).map fun n => { c with skip := n }
    | "iseek" => (number 0).map fun n => { c with skip := n }
    | "seek" => (number 0).map fun n => { c with seek := n }
    | "oseek" => (number 0).map fun n => { c with seek := n }
    | "conv" =>
      (listed knownChanges "conversion" value).map fun list => { c with changes := c.changes ++ list }
    | "iflag" =>
      (listed knownFlags "input flag" value).map fun list => { c with inFlags := c.inFlags ++ list }
    | "oflag" =>
      (listed knownFlags "output flag" value).map fun list =>
        { c with outFlags := c.outFlags ++ list }
    | "status" =>
      if String.ofList value ∈ ["none", "noxfer", "progress"] then .ok { c with status := value }
      else .error { text := "invalid status level: ".toList ++ inMarks value, hasHint := true }
    | _ => unknown

/-- Two changes that cannot be made together. -/
def clash? (c : BlockCopy) : Option (List Char) :=
  [("ascii", "ebcdic"), ("ascii", "ibm"), ("ebcdic", "ibm"), ("block", "unblock"),
    ("lcase", "ucase"), ("excl", "nocreat")].findSome? fun (a, b) =>
      if c.changes? a && c.changes? b then
        some ("cannot combine ".toList ++ a.toList ++ " and ".toList ++ b.toList)
      else none

def readSize (c : BlockCopy) : Nat := (c.bothSize <|> c.inSize).getD 512

def writeSize (c : BlockCopy) : Nat := (c.bothSize <|> c.outSize).getD 512

def skipped (c : BlockCopy) : Nat :=
  if c.skip.2 || c.inFlags.contains "skip_bytes".toList then c.skip.1 else c.skip.1 * c.readSize

def start (c : BlockCopy) : Nat :=
  if c.seek.2 || c.outFlags.contains "seek_bytes".toList then c.seek.1
  else c.seek.1 * c.writeSize

/-- The greatest number of bytes that are read. -/
def limit? (c : BlockCopy) : Option Nat :=
  c.count.map fun (n, isBytes) =>
    if isBytes || c.inFlags.contains "count_bytes".toList then n else n * c.readSize

def swapped : List Char → List Char
  | a :: b :: rest => b :: a :: swapped rest
  | rest => rest

def blocked (size : Nat) (text : List Char) : List Char :=
  (plainLines text).flatMap fun line => line.take size ++ List.replicate (size - line.length) ' '

def unblocked (size : Nat) (text : List Char) : List Char :=
  joinLines ((groupsOf size text.length text).map fun r =>
    (r.reverse.dropWhile (· = ' ')).reverse)

/-- The bytes that were read, changed as asked. -/
def changed (c : BlockCopy) (text : List Char) : List Char :=
  let isRecorded := (c.changes? "block" || c.changes? "unblock") && c.recordSize ≠ 0
  let missing := (c.readSize - text.length % c.readSize) % c.readSize
  let text := if c.changes? "sync" then
      text ++ List.replicate missing (if isRecorded then ' ' else '\x00')
    else text
  let text := if c.changes? "swab" then swapped text else text
  let text := if c.changes? "lcase" then text.map Char.toLower
    else if c.changes? "ucase" then text.map Char.toUpper else text
  if !isRecorded then text
  else if c.changes? "block" then blocked c.recordSize text
  else unblocked c.recordSize text

/-- The number of lines that are too long for a record. -/
def truncatedLines (c : BlockCopy) (text : List Char) : Nat :=
  if c.changes? "block" && c.recordSize ≠ 0 then
    (plainLines text).countP fun line => c.recordSize < line.length
  else 0

/-- Whole and partial blocks of a number of bytes. -/
def blockCounts (size count : Nat) : List Char :=
  decimal (count / size) ++ '+' :: (if count % size = 0 then ['0'] else ['1'])

/-- A number of bytes with one digit of a larger unit behind it. -/
def scaledBytes (base : Nat) (units : List String) (n : Nat) : List Char :=
  let step := fun (state : Nat × Nat) (_ : String) =>
    if n < state.1 * base then state else (state.1 * base, state.2 + 1)
  let (unit, rank) := units.foldl step (1, 0)
  let tenths := (n * 20 + unit) / (2 * unit)
  let shown := if tenths < 100 then decimal (tenths / 10) ++ '.' :: decimal (tenths % 10)
    else decimal ((2 * n + unit) / (2 * unit))
  shown ++ ' ' :: (units.getD (rank - 1) "").toList

def report (c : BlockCopy) (read written truncated : Nat) : List Char :=
  if c.status = "none".toList then []
  else
    let records := blockCounts c.readSize read ++ " records in\n".toList ++
      blockCounts c.writeSize written ++ " records out\n".toList ++
      (if truncated = 0 then []
        else decimal truncated ++
          (if truncated = 1 then " truncated record\n" else " truncated records\n").toList)
    if c.status = "noxfer".toList then records
    else
      let sizes := if written < 1000 then []
        else " (".toList ++ scaledBytes 1000 ["kB", "MB", "GB", "TB"] written ++
          (if written < 1024 then []
            else ", ".toList ++ scaledBytes 1024 ["KiB", "MiB", "GiB", "TiB"] written) ++ [')']
      records ++ decimal written ++ (if written = 1 then " byte" else " bytes").toList ++ sizes ++
        " copied, 0.0001 s, 1.0 MB/s\n".toList

/-- What a file holds after bytes have been written into it. -/
def merged (c : BlockCopy) (old new : List UInt8) : List UInt8 :=
  if c.outFlags.contains "append".toList then
    (if c.changes? "notrunc" then old else old.take c.start) ++ new
  else
    let before := old.take c.start
    let after := if c.changes? "notrunc" then old.drop (c.start + new.length) else []
    before ++ List.replicate (c.start - before.length) 0 ++ new ++ after

def run (s : Setting) (c : BlockCopy) : Effect :=
  let complained := fun (name : List Char) (reason : OsError) =>
    s.failing 1 ("failed to open ".toList ++ inMarks name ++ ": ".toList ++ reason.reason.toList)
  let sourceName := c.source.getD ['-']
  let stopped := fun complaint : List Char =>
    ({ said := [s.complaint complaint, { isComplaint := true, text := c.report 0 0 0 }]
       status := 1 } : Effect)
  match s.open sourceName with
  | .error .isDirectory =>
    stopped ("error reading ".toList ++
      inMarks (c.source.getD "standard input".toList) ++ ": Is a directory".toList)
  | .error reason => complained sourceName reason
  | .ok stream =>
    let limit := c.limit?
    let needed := c.skipped + limit.getD 0
    let all := (stream.written needed).text
    let isEndless := stream.isEndless && limit.isNone
    let read := (all.drop c.skipped).take (limit.getD all.length)
    let isShort := all.length < c.skipped
    let written := c.changed read
    let warning := if isShort && c.status ≠ "none".toList then
        [s.complaint ((c.source.getD (inMarks "standard input".toList)) ++
          ": cannot skip to specified offset".toList)] else []
    let report : List Saying :=
      [{ isComplaint := true
         text := c.report read.length written.length (c.truncatedLines read) }]
    let left := if c.source.isNone then some (all.drop (c.skipped + read.length)) else none
    match c.target with
    | none =>
      if isEndless then { said := warning, unit := stream.unit, left }
      else { said := warning ++ { text := written } :: report, left }
    | some name =>
      let isThere := s.disk.hasEntry (s.path name)
      if isThere && c.changes? "excl" then complained name .alreadyExists
      else if !isThere && c.changes? "nocreat" then complained name .noEntry
      else
        match openedPlace s.disk (s.path name) with
        | .error reason => complained name reason
        | .ok place =>
          let old := match s.disk.at? place with
            | some (.file bytes _) => bytes
            | _ => []
          let disk := writeAt s.making s.disk place false (c.merged old (toBytes written))
          { said := warning ++ report, disk := some disk, left
            microseconds := if isEndless then endlessTime else 0 }

end BlockCopy

def dd : Utility := withOptions {} 1 fun s o =>
  match o.operands.foldlM (fun (c : BlockCopy) operand => c.tell operand) {} with
  | .error fault => if fault.hasHint then s.misused 1 fault.text else s.failing 1 fault.text
  | .ok c =>
    match c.clash? with
    | some complaint => s.failing 1 complaint
    | none => c.run s

end BoardBind.Script
