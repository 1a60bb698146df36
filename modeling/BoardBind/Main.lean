import BoardBind.Command.Program
import BoardBind.Script.Launch

/-! # The command line

The first argument names a command, which runs on a copy of the working directory. What it added to
the copy is then written back. Without a command the arguments are read as the program's own.

A command takes the way in which programs are launched as a parameter. Here it is given the one of
`BoardBind.Script`, which stands in for the programs of a system; nothing else depends on that.
-/

namespace BoardBind.CommandLine

/-- Copies what an entry of the directory at a place holds. Links are left out. -/
partial def copyEntry (place : Place) (entry : IO.FS.DirEntry) : IO (List (Place × Node)) := do
  let here := place ++ [entry.fileName]
  match (← entry.path.symlinkMetadata).type with
  | .dir =>
    let inner ← (← entry.path.readDir).toList.mapM (copyEntry here)
    return (here, .directory) :: inner.flatten
  | .file => return [(here, .file (← IO.FS.readBinFile entry.path).toList true)]
  | _ => return []

def copyDisk : IO Disk := do
  let directory ← IO.currentDir
  let inner ← (← directory.readDir).toList.mapM (copyEntry Place.here)
  let working := directory.components.filter (· ≠ "")
  return { machine := { Machine.usual with working }, nodes := inner.flatten }

def store (place : Place) : Node → IO Unit
  | .file bytes _ => IO.FS.writeBinFile place.text ⟨bytes.toArray⟩
  | .directory => IO.FS.createDirAll place.text
  | .link _ => return ()

/-- Prints why a run failed. -/
def complain (message : Option String) : IO UInt32 := do
  IO.eprintln ("error: " ++ message.getD "the arguments or the settings are malformed")
  return 1

def runHere (command : Command.Name) (arguments : List String) : IO UInt32 := do
  let disk ← copyDisk
  let toolVariable ← IO.getEnv "SVINST"
  let outcome := Command.run command arguments { disk, launch := Script.launch, toolVariable }
  for (place, node) in disk.added outcome.disk do
    store place node
  IO.print outcome.printed
  for note in outcome.notes.filter (·.isShown false) do
    IO.eprintln (note.level.display ++ " " ++ note.text)
  match outcome.failure with
  | none => return 0
  | some (.usage (.help text)) =>
    IO.println text
    return 0
  | some failure => complain (failure.message? false)

/-- Reports how the program's own arguments are refused. -/
def refuse (arguments : List String) : IO UInt32 :=
  match Command.Program.refusal? arguments with
  | none => return 0
  | some (.help text) => do
    IO.println text
    return 0
  | some cause => complain (cause.message? false)

end BoardBind.CommandLine

/-- Runs the command that the first argument names. -/
def main (arguments : List String) : IO UInt32 :=
  match arguments with
  | [] => BoardBind.CommandLine.refuse []
  | first :: rest =>
    match BoardBind.Command.Name.ofText? first with
    | some command => BoardBind.CommandLine.runHere command rest
    | none => BoardBind.CommandLine.refuse arguments
