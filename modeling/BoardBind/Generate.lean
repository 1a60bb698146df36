import BoardBind.Board.AssignmentTable
import BoardBind.Host.Disk
import BoardBind.Note
import BoardBind.Skeleton
import BoardBind.Template.Render

/-! # Writing generated files

A wrapper is written only if no target is bound twice, and what its owner wrote into the previous
file is carried over. A skeleton is written only if its names are valid. Either file is written
completely or not at all.
-/

namespace BoardBind

open Text

/-- Why a file was not generated. -/
inductive GenerateError where
  | unreadable (path : Path) (reason : OsError)
  | unwritable (path : Path) (reason : OsError)
  | conflict (target : String) (ports : List String)
  | name (fault : NameError)
  | emptyPort (name : String)
  | directory (reason : OsError)
  deriving DecidableEq

def GenerateError.message : GenerateError → String
  | .unreadable path reason =>
    "failed to read previous output " ++ path.quoted ++ ": " ++ reason.message
  | .unwritable path reason => "failed to write " ++ path.quoted ++ ": " ++ reason.message
  | .conflict target ports =>
    "board signal " ++ target ++ " is assigned to " ++ toString ports.length ++ " ports: " ++
      ", ".intercalate ports
  | .name fault => fault.message
  | .emptyPort port => "port width must be at least 1 for port " ++ quoted port
  | .directory reason => reason.message

/-- The preserved regions of a previous file, none if there is no such file. -/
def preservedRegions (disk : Disk) (path : Path) : Except GenerateError (List String) :=
  if disk.hasEntry path then
    match disk.read path with
    | .ok bytes => .ok (regions (ofBytes bytes))
    | .error reason => .error (.unreadable path reason)
  else .ok []

def writeText (disk : Disk) (path : Path) (text : String) : Except GenerateError Disk :=
  (disk.replace path text.toUTF8.toList).mapError fun reason => .unwritable path reason

/-- Generates a file from a template, unless a target is bound twice. -/
def generate (disk : Disk) (template : String) (dest : Path) (w : Wrapper)
    (table : AssignmentTable) : Except GenerateError Disk :=
  match table.conflicts with
  | entry :: _ => .error (.conflict entry.target.name entry.ports)
  | [] => do
    let preserved ← preservedRegions disk dest
    writeText disk dest (render template w preserved)

/-- What generating a file reports on the way. -/
def generateNotes (disk : Disk) (template : String) (dest : Path) (w : Wrapper)
    (table : AssignmentTable) : List Note :=
  if table.conflicts ≠ [] then []
  else
    match preservedRegions disk dest with
    | .error _ => []
    | .ok preserved =>
      [.debug ("preserving " ++ toString preserved.length ++ " regions of " ++ dest.quoted)] ++
        match generate disk template dest w table with
        | .ok _ => [.info ("generated " ++ dest.quoted)]
        | .error _ => []

/-- Generates the file of a new unit, unless a name is at fault. -/
def generateSkeleton (disk : Disk) (template : String) (dest : Path) (lang : Language)
    (unit : String) (ports : List Port) : Except GenerateError Disk :=
  match Skeleton.fault? lang unit ports with
  | some fault => .error (.name fault)
  | none => writeText disk dest (Skeleton.render template lang unit ports)

end BoardBind
