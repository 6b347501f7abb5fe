import TickWalk.Options.Form
import TickWalk.Text.Digit

/-!
# Reading a command line

Each argument is told apart first: an item of the form under its name or an unambiguous beginning of
it, something that looks like an item and is none, or a plain argument. A negative number is plain,
and so is everything after two dashes. Then items take their values from left to right. What no item
takes is left over.
-/

namespace TickWalk.Options

inductive Refusal
  | ambiguous (given : String) (names : List String)
  | noValue (item : String)
  | notInteger (item given : String)
  | notAmong (item given : String) (names : List String)
  | strayValue (item given : String)
  | missing (items : List String)
  | leftOver (given : List String)
deriving DecidableEq

def choices (names : List String) : String := ", ".intercalate (names.map Text.quoted)

def Refusal.message : Refusal → String
  | ambiguous given names =>
    s!"ambiguous option: {given} could match " ++ ", ".intercalate names
  | noValue item => s!"argument {item}: expected one argument"
  | notInteger item given => s!"argument {item}: invalid int value: {Text.quoted given}"
  | notAmong item given names =>
    s!"argument {item}: invalid choice: {Text.quoted given} (choose from {choices names})"
  | strayValue item given => s!"argument {item}: ignored explicit argument {Text.quoted given}"
  | missing items => "the following arguments are required: " ++ ", ".intercalate items
  | leftOver given => "unrecognized arguments: " ++ " ".intercalate given

/-- Why reading ends before a command can run: help is asked for, or the line is refused. -/
inductive Stop
  | help (program : String)
  | refused (program : String) (reason : Refusal)

inductive Mark
  | plain
  | separator
  | unknown
  | item (i : Item) (name : String) (value : Option String)

/-- The text before and after the first equals sign. -/
def splitValue (s : String) : String × Option String :=
  let cs := s.toList
  match cs.dropWhile (· != '=') with
  | [] => (s, none)
  | _ :: value => (String.ofList (cs.takeWhile (· != '=')), some (String.ofList value))

def isNegative (s : String) : Bool :=
  let isDigit (c : Char) : Bool := (Text.decimal? c).isSome
  let cs := if s.toList.getLast? = some '\n' then s.toList.dropLast else s.toList
  match cs with
  | '-' :: ds =>
    match ds.dropWhile isDigit with
    | [] => !ds.isEmpty
    | '.' :: fraction => !fraction.isEmpty && fraction.all isDigit
    | _ => false
  | _ => false

namespace Form

/-- The items that an argument may mean, with the value that is attached to it. -/
def readings (f : Form) (arg : String) : List (Item × String × Option String) :=
  if "--".isPrefixOf arg then
    let (start, value) := splitValue arg
    f.names.filterMap fun (name, i) => if start.isPrefixOf name then some (i, name, value) else none
  else
    let short := String.ofList (arg.toList.take 2)
    f.names.filterMap fun (name, i) =>
      if name = short then some (i, name, some (String.ofList (arg.toList.drop 2)))
      else if arg.isPrefixOf name then some (i, name, none)
      else none

/-- The item that an argument names in full, with an attached value if there is one. -/
def named? (f : Form) (arg : String) : Option Mark :=
  match f.item? arg with
  | some i => some (.item i arg none)
  | none =>
    match splitValue arg with
    | (name, some value) => (f.item? name).map fun i => .item i name (some value)
    | _ => none

def mark (f : Form) (arg : String) : Except Refusal Mark :=
  if arg.toList.head? ≠ some '-' || arg = "-" then .ok .plain
  else
    match f.named? arg with
    | some m => .ok m
    | none =>
      match f.readings arg with
      | [(i, name, value)] => .ok (.item i name value)
      | _ :: _ :: _ => .error (.ambiguous arg ((f.readings arg).map fun r => r.2.1))
      | [] => .ok (if isNegative arg || arg.toList.contains ' ' then .plain else .unknown)

def marks (f : Form) : List String → Except Refusal (List (String × Mark))
  | [] => .ok []
  | "--" :: rest => .ok (("--", .separator) :: rest.map (·, .plain))
  | arg :: rest => do
    let m ← f.mark arg
    let more ← marks f rest
    .ok ((arg, m) :: more)

def valueOf (i : Item) (given : String) : Except Refusal Value :=
  match i.kind with
  | .integer =>
    match (Value.text given).toInteger with
    | .ok n => .ok (.int n)
    | .error _ => .error (.notInteger i.title given)
  | .choice names =>
    if names.contains given then .ok (.text given) else .error (.notAmong i.title given names)
  | _ => .ok (.text given)

/-- An item without a value; a value attached to it is refused, unless it is a row of short names
that need none either. -/
def bare (f : Form) (i : Item) (name : String) (value : Option String) : Except Stop Settings :=
  let stray : Option String :=
    match value with
    | none => none
    | some v =>
      if "--".isPrefixOf name || v.isEmpty then some v
      else
        let rest := v.toList.dropWhile fun c => (f.item? (String.ofList ['-', c])).isSome
        if rest.isEmpty then none else some (String.ofList rest)
  match stray with
  | some v => .error (.refused f.program (.strayValue i.title v))
  | none => if i.kind = .help then .error (.help f.program) else .ok [(i.key, .bool true)]

def filled (f : Form) (i : Item) (value : String) : Except Stop Settings :=
  match valueOf i value with
  | .ok v => .ok [(i.key, v)]
  | .error e => .error (.refused f.program e)

/-- Lets the items take their values; the second list is what is left over. -/
def fill (f : Form) : List (String × Mark) → Except Stop (Settings × List String)
  | [] => .ok ([], [])
  | (_, .item i name value) :: rest =>
    if i.takesValue then
      match value, rest with
      | some v, rest => do
        let here ← f.filled i v
        let (there, left) ← fill f rest
        .ok (here ++ there, left)
      | none, (v, .plain) :: rest => do
        let here ← f.filled i v
        let (there, left) ← fill f rest
        .ok (here ++ there, left)
      | none, _ => .error (.refused f.program (.noValue i.title))
    else do
      let here ← f.bare i name value
      let (there, left) ← fill f rest
      .ok (here ++ there, left)
  | (arg, _) :: rest => do
    let (there, left) ← fill f rest
    .ok (there, arg :: left)

def read (f : Form) (args : List String) : Except Stop (Settings × List String) :=
  match f.marks args with
  | .error e => .error (.refused f.program e)
  | .ok ms => do
    let (settings, left) ← f.fill ms
    let missing := f.items.filter fun i => i.required && !settings.isSet i.key
    if missing.isEmpty then .ok (settings, left)
    else .error (.refused f.program (.missing (missing.map (·.title))))

end Form

namespace Menu

/-- What stands before the command and is left over, and the command with all that follows. -/
def lead (m : Menu) : List (String × Mark) → Except Stop (List String × List String)
  | [] => .ok ([], [])
  | (arg, .plain) :: rest => .ok ([], arg :: rest.map (·.1))
  | (arg, .separator) :: rest =>
    .ok (if rest.isEmpty then ([arg], []) else ([], arg :: rest.map (·.1)))
  | (arg, .unknown) :: rest => do
    let (left, command) ← lead m rest
    .ok (arg :: left, command)
  | (_, .item i name value) :: rest => do
    let _ ← m.form.bare i name value
    lead m rest

/-- The command of a line with its settings, if it names one; nothing may be left over. -/
def read (m : Menu) (args : List String) : Except Stop (Option (String × Settings)) :=
  match m.form.marks args with
  | .error e => .error (.refused m.form.program e)
  | .ok ms => do
    let (before, rest) ← m.lead ms
    let (result, left) ←
      match rest with
      | [] => .ok (none, before)
      | name :: rest =>
        match m.commands.find? (·.name == name) with
        | none =>
          .error (.refused m.form.program (.notAmong "command" name (m.commands.map (·.name))))
        | some c => do
          let (settings, left) ← c.form.read rest
          .ok (some (name, settings), before ++ left)
    if left.isEmpty then .ok result else .error (.refused m.form.program (.leftOver left))

end Menu

end TickWalk.Options
