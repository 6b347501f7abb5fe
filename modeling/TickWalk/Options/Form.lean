import TickWalk.Value.Integer

/-!
# Forms of a command line

A `Form` lists what may be given to a command: items that take a value, flags, and the request for
help. A `Menu` has commands with a form each.
-/

namespace TickWalk.Options

inductive Kind
  | text
  | integer
  | choice (names : List String)
  | flag
  | help
deriving DecidableEq

structure Item where
  names : List String
  kind : Kind
  required : Bool
  about : String
deriving DecidableEq

structure Form where
  program : String
  items : List Item

structure Command where
  name : String
  about : String
  form : Form

structure Menu where
  form : Form
  about : String
  commands : List Command

namespace Item

/-- All names, as messages call the item. -/
def title (i : Item) : String := "/".intercalate i.names

/-- The name under which a value is kept: the last and longest one. -/
def key (i : Item) : String := i.names.getLast?.getD ""

def takesValue (i : Item) : Bool :=
  match i.kind with
  | .flag => false
  | .help => false
  | _ => true

end Item

/-- The request for help, which every form has. -/
def helpItem : Item := ⟨["-h", "--help"], .help, false, "show this help message and exit"⟩

namespace Form

/-- Every name with its item, in the order of the form. -/
def names (f : Form) : List (String × Item) := f.items.flatMap fun i => i.names.map (·, i)

def item? (f : Form) (name : String) : Option Item := f.names.lookup name

end Form

/-- What has been given, under the key of each item; the last value of an item counts. -/
abbrev Settings := List (String × Value)

namespace Settings

def value? (s : Settings) (key : String) : Option Value := Value.field? s key

def text? (s : Settings) (key : String) : Option String :=
  match s.value? key with
  | some (.text t) => some t
  | _ => none

def integer? (s : Settings) (key : String) : Option Int :=
  match s.value? key with
  | some (.int i) => some i
  | _ => none

def isSet (s : Settings) (key : String) : Bool := (s.value? key).isSome

end Settings

end TickWalk.Options
