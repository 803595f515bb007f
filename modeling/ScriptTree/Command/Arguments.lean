/-!
# Arguments of the command line

`Request.ofArguments` says what the arguments ask for. They are taken from left to right, so that a
request for help counts only if nothing before it is wrong.
-/

namespace ScriptTree.Command
set_option autoImplicit false

/-- The forms in which a table is listed. -/
inductive ListingForm where
  | text
  | json
deriving DecidableEq, Repr

/-- What the program can do. -/
inductive Action where
  | render (input : String) (output : Option String)
  | operators (table : Option String) (format : ListingForm)
deriving DecidableEq, Repr

/-- What there is help for. -/
inductive Topic where
  | program
  | render
  | operators
  | help
deriving DecidableEq, Repr

/-- What the arguments ask for. -/
inductive Request where
  | run (a : Action)
  | help (t : Topic)
  | version
deriving DecidableEq, Repr

/-- Why the arguments of an action are not taken to their end. -/
inductive Halt where
  | help
  | misuse
deriving DecidableEq, Repr

/-- An option with a value: its letter, its long name, and the values it admits. -/
structure Setting where
  letter : Char
  name : String
  admits : String → Bool

/-- What an action takes: its options, and how many values besides. -/
structure Shape where
  options : List Setting
  places : Nat

/-- The values that were given. -/
structure Given where
  options : List (Char × String)
  values : List String

namespace Shape

/-- Takes the value of an option, which may be given only once. -/
def takeOption (g : Given) (o : Setting) (value : String) : Except Halt Given :=
  if (g.options.lookup o.letter).isSome ∨ !o.admits value then .error .misuse
  else .ok ⟨g.options ++ [(o.letter, value)], g.values⟩

/-- Takes a value that belongs to no option. -/
def takeValue (s : Shape) (g : Given) (value : String) : Except Halt Given :=
  if s.places ≤ g.values.length ∨ value.isEmpty then .error .misuse
  else .ok ⟨g.options, g.values ++ [value]⟩

/-- An argument that is an option, or would have to be one. -/
def isOption (arg : String) : Bool :=
  match arg.toList with
  | '-' :: _ :: _ => true
  | _ => false

/-- The option that an argument names, and the value that stands in the same argument. -/
def option? (s : Shape) (arg : String) : Option (Setting × Option String) :=
  match arg.toList with
  | '-' :: '-' :: long =>
    let name := String.ofList (long.takeWhile (· ≠ '='))
    let value? :=
      match long.dropWhile (· ≠ '=') with
      | [] => none
      | _ :: value => some (String.ofList value)
    (s.options.find? fun o => o.name == name).map fun o => (o, value?)
  | '-' :: letter :: rest =>
    let value? :=
      match rest with
      | [] => none
      | '=' :: value => some (String.ofList value)
      | value => some (String.ofList value)
    (s.options.find? fun o => o.letter == letter).map fun o => (o, value?)
  | _ => none

/-- An argument that asks for help. -/
def asksHelp (arg : String) : Bool :=
  match arg.toList with
  | '-' :: 'h' :: _ => true
  | _ => arg == "--help"

/-- Takes the arguments of an action. After `--` all of them are values. -/
def take (s : Shape) (g : Given) : List String → Except Halt Given
  | [] => .ok g
  | arg :: rest =>
    if arg = "--" then rest.foldlM s.takeValue g
    else if !isOption arg then do s.take (← s.takeValue g arg) rest
    else if asksHelp arg then .error .help
    else
      match s.option? arg with
      | none => .error .misuse
      | some (o, some value) => do s.take (← takeOption g o value) rest
      | some (o, none) =>
        match rest with
        | [] => .error .misuse
        | value :: rest =>
          if isOption value then .error .misuse
          else do s.take (← takeOption g o value) rest

end Shape

/-- The names of files are not empty. -/
def pathOption (letter : Char) (name : String) : Setting :=
  ⟨letter, name, fun value => !value.isEmpty⟩

/-- The option that names the form of a listing. -/
def formatOption : Setting :=
  ⟨'f', "format", fun value => value == "text" || value == "json"⟩

/-- What rendering takes. -/
def renderShape : Shape :=
  ⟨[pathOption 'o' "output"], 1⟩

/-- What listing operators takes. -/
def operatorsShape : Shape :=
  ⟨[pathOption 't' "table", formatOption], 0⟩

/-- The request of an action's arguments. -/
def request? (s : Shape) (t : Topic) (action? : Given → Option Action) (args : List String) :
    Option Request :=
  match s.take ⟨[], []⟩ args with
  | .ok g => (action? g).map .run
  | .error .help => some (.help t)
  | .error .misuse => none

/-- Rendering of a file. -/
def renderAction? (g : Given) : Option Action :=
  match g.values with
  | [input] => some (.render input (g.options.lookup 'o'))
  | _ => none

/-- Listing of a table. -/
def operatorsAction? (g : Given) : Option Action :=
  some (.operators (g.options.lookup 't')
    (if g.options.lookup 'f' = some "json" then .json else .text))

/-- What the arguments ask for; `none` if they are wrong. -/
def Request.ofArguments : List String → Option Request
  | "render" :: args => request? renderShape .render renderAction? args
  | "operators" :: args => request? operatorsShape .operators operatorsAction? args
  | ["help"] => some (.help .program)
  | ["help", "render"] => some (.help .render)
  | ["help", "operators"] => some (.help .operators)
  | ["help", "help"] => some (.help .help)
  | arg :: _ =>
    if Shape.asksHelp arg then some (.help .program)
    else
      match arg.toList with
      | '-' :: 'V' :: _ => some .version
      | _ => if arg = "--version" then some .version else none
  | [] => none

end ScriptTree.Command
