import BoardBind.Graph
import BoardBind.Source

/-! # The hierarchy of a design

The units that the sources declare are registered unless they have no ports, which marks them as
testbenches. Instances of registered units inside registered units are the edges of a graph. The
units that no other unit instantiates are the roots of the design; from each of them the tree of
its instances is listed. A design must have a unit, and no unit may contain itself.
-/

namespace BoardBind

/-- A registered unit with its ports. -/
structure Registered where
  unit : DesignUnit
  ports : List Port
  deriving DecidableEq

/-- Why the sources make no design. -/
inductive DesignError where
  | source (cause : SourceError)
  | sources (causes : List SourceError)
  /-- A unit registered twice; `term` is the word for a unit. -/
  | duplicate (term unit : String)
  | noUnit (term : String)
  | circular (term : String)
  deriving DecidableEq

def DesignError.message : DesignError → String
  | .source cause => cause.message
  | .sources causes => toString causes.length ++ " files have problems"
  | .duplicate term unit => term ++ " " ++ unit ++ " is duplicated"
  | .noUnit term => "no " ++ term ++ " found"
  | .circular term => "circular reference between " ++ term ++ " instantiations"

/-- A unit in the listing of a design's trees. -/
structure TreeItem where
  /-- The number of instances between the unit and its root. -/
  level : Nat
  name : String
  file : String
  deriving DecidableEq

abbrev UnitGraph := Graph Registered

namespace UnitGraph

def indexOf? (g : UnitGraph) (name : String) : Option Nat :=
  g.labels.findIdx? fun r => r.unit.name = name

def find? (g : UnitGraph) (name : String) : Option Registered :=
  g.labels.find? fun r => r.unit.name = name

/-- Registers a declared unit: one without ports is passed over, one known already is refused. -/
def register (lang : Language) (g : UnitGraph) (r : Registered) : Except DesignError UnitGraph :=
  if (g.indexOf? r.unit.name).isSome then .error (.duplicate lang.unitTerm r.unit.spelling)
  else if r.ports = [] then .ok g
  else .ok (g.addNode r)

def registerAll (lang : Language) : List Registered → UnitGraph → Except DesignError UnitGraph
  | [], g => .ok g
  | r :: rest, g => (g.register lang r).bind (registerAll lang rest)

/-- Adds the edge of an instance between registered units. -/
def link (g : UnitGraph) (i : Instance) : UnitGraph :=
  match g.indexOf? i.parent, g.indexOf? i.child with
  | some parent, some child => g.addEdge parent child
  | _, _ => g

def linkAll (g : UnitGraph) (instances : List Instance) : UnitGraph :=
  instances.foldl link g

def items (g : UnitGraph) (walked : List (Nat × Nat)) : List TreeItem :=
  walked.filterMap fun (level, node) =>
    (g.label? node).map fun r => ⟨level, r.unit.name, r.unit.file⟩

def trees (lang : Language) (g : UnitGraph) : Except DesignError (List (List TreeItem)) :=
  g.roots.mapM fun root =>
    match g.walk root with
    | .ok walked => .ok (g.items walked)
    | .error _ => .error (.circular lang.unitTerm)

end UnitGraph

/-- The first of the longest lists. -/
def longest {α : Type} : List (List α) → List α
  | [] => []
  | first :: rest =>
    rest.foldl (fun best next => if best.length < next.length then next else best) first

/-- A resolved design. -/
structure Design where
  language : Language
  graph : UnitGraph
  /-- The trees of all roots, one after the other. -/
  items : List TreeItem
  /-- The folded name of the root of the largest tree. -/
  suggested : String

namespace Design

/-- The units that a file declares, each with all ports recorded for its name. -/
def declared (d : Declarations) : List Registered :=
  d.units.map fun u => ⟨u, d.portsOf u.name⟩

/-- The graph of all units and instances of the given files. -/
def graphOf (lang : Language) (files : List Declarations) : Except DesignError UnitGraph :=
  (UnitGraph.registerAll lang (files.flatMap declared) Graph.empty).map fun g =>
    g.linkAll (files.flatMap (·.instances))

def ofGraph (lang : Language) (g : UnitGraph) : Except DesignError Design :=
  if g.nodeCount = 0 then .error (.noUnit lang.unitTerm)
  else if g.roots = [] then .error (.circular lang.unitTerm)
  else
    (g.trees lang).map fun trees =>
      { language := lang
        graph := g
        items := trees.flatten
        suggested := (((longest trees).head?).map (·.name)).getD "" }

/-- Resolves the design that the given files declare. -/
def resolve (lang : Language) (files : List Declarations) : Except DesignError Design :=
  (graphOf lang files).bind (ofGraph lang)

def unit? (d : Design) (name : String) : Option Registered :=
  d.graph.find? (d.language.fold name)

/-- What registering units reports on the way. -/
def registerNotes (lang : Language) : List Registered → UnitGraph → List Note
  | [], _ => []
  | r :: rest, g =>
    match g.register lang r with
    | .error _ => []
    | .ok next =>
      .debug (if r.ports = [] then
          "skipping " ++ lang.unitTerm ++ " " ++ r.unit.spelling ++ " without ports"
        else
          "registered " ++ lang.unitTerm ++ " " ++ r.unit.spelling ++ " from " ++ r.unit.file)
        :: registerNotes lang rest next

/-- What adding edges reports on the way. -/
def linkNotes (lang : Language) : List Instance → UnitGraph → List Note
  | [], _ => []
  | i :: rest, g =>
    (match g.indexOf? i.parent, g.indexOf? i.child with
     | some parent, some child =>
       if g.edgeStatus parent child = .repeated then
         [.debug ("ignoring repeated instance of " ++ i.child ++ " in " ++ i.parent)]
       else []
     | _, _ =>
       [.debug ("dropping instance of " ++ i.child ++ " in " ++ i.parent ++
         ": not a registered " ++ lang.unitTerm)]) ++ linkNotes lang rest (g.link i)

/-- What resolving a design reports on the way. -/
def resolveNotes (lang : Language) (files : List Declarations) : List Note :=
  let units := files.flatMap declared
  registerNotes lang units Graph.empty ++
    match UnitGraph.registerAll lang units Graph.empty with
    | .error _ => []
    | .ok g =>
      linkNotes lang (files.flatMap (·.instances)) g ++
        match resolve lang files with
        | .error _ => []
        | .ok d => [.debug ("suggesting " ++ lang.unitTerm ++ " " ++ d.suggested ++ " as top")]

/-- The failure of a file that was not read. -/
def failure? (source : Noted SourceError Declarations) : Option SourceError :=
  match source.result with
  | .error e => some e
  | .ok _ => none

/-- The declarations of all files, or the failures of those that were not read. -/
def gather (sources : List (Noted SourceError Declarations)) :
    Except DesignError (List Declarations) :=
  match sources.filterMap failure? with
  | [] => .ok (sources.filterMap fun source => source.result.toOption)
  | [e] => .error (.source e)
  | causes => .error (.sources causes)

/-- The notes of a file that was read, and a warning for one that was not. -/
def sourceNotes (source : Noted SourceError Declarations) : List Note :=
  source.notes ++ (failure? source).toList.map fun e => .warn e.message

/-- The design of source files that have been read. -/
def ofSources (lang : Language) (sources : List (Noted SourceError Declarations)) :
    Noted DesignError Design := do
  Noted.say (sources.flatMap sourceNotes)
  let files ← Noted.lift (gather sources)
  Noted.say (resolveNotes lang files)
  Noted.lift (resolve lang files)

/-- Reads source files and resolves their design. Returns the disk afterwards, which the tool may
have changed. -/
def read (lang : Language) (tool : Option AnalysisTool) (launch : Launcher) (disk : Disk)
    (paths : List Path) : Disk × Noted DesignError Design :=
  let (after, sources) := readSources lang tool launch disk paths
  (after, ofSources lang sources)

end Design

end BoardBind
