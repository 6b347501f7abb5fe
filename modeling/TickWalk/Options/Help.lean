import TickWalk.Options.Form

/-!
# Help on a command line

The usage of a form is a paragraph that goes on behind the name of the program. The help lists every
item with what it is for, in a column of its own; an item that is too long for its column has a line
of its own.
-/

namespace TickWalk.Options

def lineWidth : Nat := 78

def itemColumn : Nat := 24

def blanks (n : Nat) : String := String.ofList (List.replicate n ' ')

def alternatives (names : List String) : String := "\x7b" ++ ",".intercalate names ++ "\x7d"

namespace Item

def placeholder (i : Item) : String :=
  match i.kind with
  | .choice names => alternatives names
  | _ =>
    String.ofList ((i.key.toList.dropWhile (· == '-')).map fun c => if c = '-' then '_' else c.toUpper)

def withValue (i : Item) (name : String) : String :=
  if i.takesValue then name ++ " " ++ i.placeholder else name

/-- The pieces of an item in the usage; a required one may be broken before its value. -/
def usage (i : Item) : List String :=
  let name := i.names.headD ""
  if i.required then name :: (if i.takesValue then [i.placeholder] else [])
  else ["[" ++ i.withValue name ++ "]"]

def heading (i : Item) : String := ", ".intercalate (i.names.map i.withValue)

end Item

/-- Words set in lines of at most `width`. -/
def wrapped (width : Nat) (text : String) : List String :=
  let rec go : List String → String → List String
    | [], line => [line]
    | w :: ws, line =>
      if width < line.length + 1 + w.length then line :: go ws w else go ws (line ++ " " ++ w)
  match (text.splitOn " ").filter (!·.isEmpty) with
  | [] => []
  | w :: ws => go ws w

/-- The usage paragraph: pieces behind the program, the lines after the first one indented. -/
def usageText (program : String) (pieces : List String) : String :=
  let start := "usage: " ++ program ++ " "
  let rec go : List String → String → List String
    | [], line => [line]
    | p :: ps, line =>
      if lineWidth < line.length + p.length && line.length ≠ start.length then
        line :: go ps (blanks start.length ++ p ++ " ")
      else go ps (line ++ p ++ " ")
  let lines := (go pieces start).map fun l => String.ofList l.toList.dropLast
  "\n".intercalate lines ++ "\n"

/-- An entry of the help: how far it is indented, its heading, and what it is for. -/
structure Entry where
  indent : Nat
  heading : String
  about : String

/-- An entry with what it is for from `column` on. -/
def Entry.lines (column : Nat) (e : Entry) : List String :=
  let about := wrapped (lineWidth - column) e.about
  let room := column - e.indent - 2
  if e.heading.length ≤ room then
    let start := blanks e.indent ++ e.heading ++ blanks (room - e.heading.length + 2)
    match about with
    | [] => [start]
    | first :: rest => (start ++ first) :: rest.map (blanks column ++ ·)
  else (blanks e.indent ++ e.heading) :: about.map (blanks column ++ ·)

/-- Sections of entries, all in the same columns. -/
def sections (groups : List (String × List Entry)) : String :=
  let widths := groups.flatMap fun g => g.2.map fun e => e.indent + e.heading.length
  let column := min (widths.foldl max 0 + 2) itemColumn
  "\n".intercalate (groups.map fun g =>
    g.1 ++ ":\n" ++ String.join (g.2.flatMap fun e => (e.lines column).map (· ++ "\n")))

namespace Form

def entries (f : Form) : List Entry := f.items.map fun i => ⟨2, i.heading, i.about⟩

def usage (f : Form) : String := usageText f.program (f.items.flatMap Item.usage)

def help (f : Form) : String := f.usage ++ "\n" ++ sections [("options", f.entries)]

end Form

namespace Menu

def names (m : Menu) : String := alternatives (m.commands.map (·.name))

def usage (m : Menu) : String :=
  usageText m.form.program (m.form.items.flatMap Item.usage ++ [m.names, "..."])

def help (m : Menu) : String :=
  let commands : List Entry :=
    ⟨2, m.names, "Commands"⟩ :: m.commands.map fun c => ⟨4, c.name, c.about⟩
  m.usage ++ "\n" ++ m.about ++ "\n\n" ++
    sections [("positional arguments", commands), ("options", m.form.entries)]

def formOf? (m : Menu) (program : String) : Option Form :=
  (m.commands.find? (·.form.program == program)).map (·.form)

def helpOf (m : Menu) (program : String) : String :=
  match m.formOf? program with
  | some f => f.help
  | none => m.help

def usageOf (m : Menu) (program : String) : String :=
  match m.formOf? program with
  | some f => f.usage
  | none => m.usage

end Menu

end TickWalk.Options
