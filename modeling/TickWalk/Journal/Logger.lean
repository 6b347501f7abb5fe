import TickWalk.Failure
import TickWalk.Journal.Line

/-!
# Loggers

Loggers form a tree by the dots in their names. A line passes when its level is at least that of the
nearest logger above it that has one; it then goes to every handler of its logger and of all loggers
above, each of which may drop it. Without any handler, warnings go to standard error as they are.
-/

namespace TickWalk.Journal

inductive Outlet
  | stdout
  | stderr
  | file (name : String)
deriving DecidableEq

inductive HandlerKind
  | console
  | daily
  | sized
deriving DecidableEq

structure Handler where
  kind : HandlerKind
  outlet : Outlet
  level : Level
  detailed : Bool
deriving DecidableEq

structure Logger where
  name : String
  level : Level
  handlers : List Handler
deriving DecidableEq

/-- All loggers that have been set up, and all files that have been opened. -/
structure Registry where
  loggers : List Logger
  files : List String

/-- How a logger is to be set up; the console is one of the two standard streams, if any. -/
structure Setup where
  name : String
  level : Level
  console : Option Outlet
  file : Option String
  detailed : Bool

namespace Level

def ofValue : Value → Except Failure Level
  | .int i => .ok i
  | .bool b => .ok b.toInt
  | .text s =>
    match ofName? s with
    | some l => .ok l
    | none => .error .unknownLevel
  | _ => .error .wrongKind

end Level

/-- The logger above all others. -/
def rootName : String := "root"

/-- The name that a logger has; without a name it is the logger above all others. -/
def loggerName (name : String) : String := if name.isEmpty then rootName else name

/-- What stands before the dots of a name that is given backwards, the longest first. It is not empty,
and a dot at its own end does not end another one. -/
def above : List Char → List String
  | '.' :: c :: rest => String.ofList (c :: rest).reverse :: above rest
  | _ :: rest => above rest
  | [] => []

/-- The names of a logger and of all those above it, the nearest first. The logger above all others is
known by its name alone, and not by what stands before a dot. -/
def lineage (name : String) : List String :=
  let own := loggerName name
  if own = rootName then [rootName]
  else own :: (above own.toList.reverse).filter (· != rootName) ++ [rootName]

example : lineage "a.b.c" = ["a.b.c", "a.b", "a", "root"] := by decide

/-- The name of the file that a path inside the log directory means. -/
def fileName (path : String) : Except Failure String :=
  match (path.splitOn "/").filter fun p => !p.isEmpty && p != "." with
  | [] => .error .isDirectory
  | [".."] => .error .isDirectory
  | [name] => .ok name
  | _ => .error .directoryMissing

/-- A file name without its last ending. -/
def stem (name : String) : String :=
  let parts := name.splitOn "."
  match parts.getLast? with
  | some ending =>
    let start := ".".intercalate parts.dropLast
    if ending.isEmpty || start.isEmpty then name else start
  | none => name

/-- The file for errors beside a log file. -/
def errorFile (name : String) : String := stem name ++ "_errors.log"

def Handler.text (h : Handler) (l : Line) : String :=
  if h.detailed then s!"{loggerName l.source} - {Level.name l.level} - {l.text}\n"
  else s!"{Level.name l.level} - {l.text}\n"

namespace Registry

def empty : Registry := ⟨[], []⟩

/-- A logger that has not been set up has no level and no handler of its own. -/
def logger (r : Registry) (name : String) : Logger :=
  (r.loggers.find? (·.name == name)).getD
    ⟨name, if name = rootName then Level.warning else 0, []⟩

def put (r : Registry) (l : Logger) : Registry :=
  { r with loggers := l :: r.loggers.filter (·.name != l.name) }

def opened (r : Registry) (name : String) : Registry :=
  if r.files.contains name then r else { r with files := r.files ++ [name] }

/-- Sets up a logger. Its level is always set; handlers are added only when it has none, the console
first. A file that cannot be opened leaves the console in place. -/
def setUp (r : Registry) (s : Setup) : Registry × Except Failure Logger :=
  let old := r.logger (loggerName s.name)
  let leveled := { old with level := s.level }
  if !old.handlers.isEmpty then (r.put leveled, .ok leveled)
  else
    let console := s.console.toList.map fun o => ⟨.console, o, s.level, s.detailed⟩
    let withConsole := { leveled with handlers := console }
    match s.file with
    | none => (r.put withConsole, .ok withConsole)
    | some path =>
      match fileName path with
      | .error e => (r.put withConsole, .error e)
      | .ok name =>
        let daily : Handler := ⟨.daily, .file name, s.level, s.detailed⟩
        let errors : Handler := ⟨.sized, .file (errorFile name), Level.error, true⟩
        let full := { leveled with handlers := console ++ [daily, errors] }
        (((r.put full).opened name).opened (errorFile name), .ok full)

/-- The level that lines of a logger have to reach. -/
def threshold (r : Registry) (name : String) : Level :=
  (((lineage name).map fun n => (r.logger n).level).find? (· != 0)).getD 0

def write (r : Registry) (l : Line) : List (Outlet × String) :=
  if l.level ≤ 0 || l.level < r.threshold l.source then []
  else
    let handlers := (lineage l.source).flatMap fun n => (r.logger n).handlers
    if handlers.isEmpty then
      if l.level < Level.warning then [] else [(.stderr, l.text ++ "\n")]
    else
      (handlers.filter fun h => h.level ≤ l.level).map fun h => (h.outlet, h.text l)

end Registry

/-- The setup of the program's own logger: on standard error, so that standard output holds results
only. -/
def commandSetup (debug : Bool) (file : Option String) : Setup :=
  ⟨"ticklens", if debug then Level.debug else Level.info, some .stderr, file, debug⟩

def textAt (outlet : Outlet) (written : List (Outlet × String)) : String :=
  String.join ((written.filter (·.1 == outlet)).map (·.2))

end TickWalk.Journal
