import TickWalk.Provider

/-!
# Scripted providers

A scripted provider answers each kind of question from a list of its own, one item after the other
and whatever the question says. An item may also be a failure.
-/

namespace TickWalk

/-- An answer to be given, or a failure to be raised. -/
inductive Cue
  | answer (v : Value)
  | raise (kind message : String)

structure Script where
  find : List Cue
  fetch : List Cue
  version : List Cue

namespace Script

/-- The next item of one list, and what is left of it. -/
def next (name : String) : List Cue → Except Failure Value × List Cue
  | [] => (.error (.exhausted name), [])
  | .answer v :: rest => (.ok v, rest)
  | .raise kind message :: rest => (.error (.raised kind message), rest)

def provider : Provider Script where
  answerFind _ _ _ _ := do
    let s ← Action.get
    let (result, rest) := next "find" s.find
    Action.set { s with find := rest }
    Action.lift result
  answerFetch _ _ := do
    let s ← Action.get
    let (result, rest) := next "fetch" s.fetch
    Action.set { s with fetch := rest }
    Action.lift result
  answerVersion _ := do
    let s ← Action.get
    let (result, rest) := next "version" s.version
    Action.set { s with version := rest }
    Action.lift result

end Script

end TickWalk
