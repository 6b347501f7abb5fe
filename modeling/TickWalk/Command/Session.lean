import TickWalk.Command.Run
import TickWalk.Journal.Logger

/-!
# A session at the command line

From the arguments to what stands on the two standard streams. Without a command the help is shown;
a line that is refused shows the usage and why.
-/

namespace TickWalk.Command

open Options

/-- What a session leaves: its code or failure, the text on both streams, and the chain reads. -/
structure Session where
  exit : Except Failure Int
  stdout : String
  stderr : String
  reads : List ChainRead

/-- The journal of a run, its lines going through the program's own logger. -/
def journalText (debug : Bool) (events : List Event) : String :=
  let registry := (Journal.Registry.empty.setUp (Journal.commandSetup debug none)).1
  let written := events.flatMap fun
    | .line l => registry.write l
    | _ => []
  Journal.textAt .stderr written

def chainReads (events : List Event) : List ChainRead :=
  events.filterMap fun
    | .chain r => some r
    | _ => none

def refusalLine (program : String) (reason : Refusal) : String :=
  s!"{program}: error: {reason.message}"

def session (env : Environment) (args : List String) (node : Node) : Session :=
  match read args with
  | .error (.help program) => ⟨.ok 0, menu.helpOf program, "", []⟩
  | .error (.refused program reason) =>
    ⟨.ok 2, "", menu.usageOf program ++ refusalLine program reason ++ "\n", []⟩
  | .ok none => ⟨.ok 0, menu.help, "", []⟩
  | .ok (some i) =>
    let o := (perform env i).run node
    let stderr := journalText i.pool.debug o.events
    match o.result with
    | .ok r => ⟨r.exit, r.output, stderr, chainReads o.events⟩
    | .error e => ⟨.error e, "", stderr, chainReads o.events⟩

end TickWalk.Command
