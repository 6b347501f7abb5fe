/-!
# Lines of the journal

A line carries a level; lines below the level of a logger or of one of its outlets are dropped
there. Five levels have names, every other one shows its number.
-/

namespace TickWalk.Journal

abbrev Level := Int

namespace Level

def debug : Level := 10
def info : Level := 20
def warning : Level := 30
def error : Level := 40
def critical : Level := 50

def name (level : Level) : String :=
  if level = 0 then "NOTSET"
  else if level = debug then "DEBUG"
  else if level = info then "INFO"
  else if level = warning then "WARNING"
  else if level = error then "ERROR"
  else if level = critical then "CRITICAL"
  else s!"Level {level}"

def ofName? : String → Option Level
  | "NOTSET" => some 0
  | "DEBUG" => some debug
  | "INFO" => some info
  | "WARN" => some warning
  | "WARNING" => some warning
  | "ERROR" => some error
  | "FATAL" => some critical
  | "CRITICAL" => some critical
  | _ => none

end Level

structure Line where
  level : Level
  source : String
  text : String
deriving DecidableEq

end TickWalk.Journal
