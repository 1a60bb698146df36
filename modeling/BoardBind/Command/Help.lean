import BoardBind.Command.Failure
import BoardBind.Command.Manual

/-! # Printing manuals -/

namespace BoardBind.Command

open Text

/-- The commands that have a manual. -/
inductive Topic where
  | check
  | gen
  | new
  deriving DecidableEq

namespace Topic

def all : List (String × Topic) :=
  [("check", .check), ("gen", .gen), ("new", .new)]

def read (name : String) : Except String Topic :=
  match all.lookup name with
  | some topic => .ok topic
  | none => .error (UnknownChoice.topic name).message

def usage : Topic → List String
  | .check => checkUsage
  | .gen => genUsage
  | .new => newUsage

/-- What the manual says beyond the usage. -/
def details : Topic → List String
  | .check => checkManual
  | .gen => genManual
  | .new => newManual

def dropLastEmpty (lines : List String) : List String :=
  (lines.reverse.dropWhile (· = "")).reverse

/-- The manual of a command: its usage without the pointer to the manual, then the details. -/
def manual (topic : Topic) : List String :=
  dropLastEmpty (topic.usage.filter fun line =>
    (literal "Use 'hdltop help".toList line.toList).isNone) ++ topic.details

end Topic

/-- The choices made for a run of the command. -/
structure Help where
  list : Bool
  topic : Option Topic
  deriving DecidableEq

namespace Help

def reading : Reading Help := do
  askHelp (unlines helpUsage)
  let list ← flag "list"
  let topic ← positional "topic" Topic.read
  return { list, topic }

def text (c : Help) : String :=
  if c.list then unlines (Topic.all.map Prod.fst)
  else
    match c.topic with
    | some topic => unlines topic.manual ++ "\n"
    | none => unlines mainUsage ++ "\n"

def run (c : Help) (host : Host) : Outcome :=
  { disk := host.disk, printed := c.text }

end Help

end BoardBind.Command
