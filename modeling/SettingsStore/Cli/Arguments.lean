import SettingsStore.Document.Overrides

/-!
# Command lines

A command line has options, then the name of a command, then the command's own arguments. An option
takes the argument after it, unless that looks like an option, or what is attached to it. Asking for
help ends the reading at that point, and so does the first mistake.
-/

namespace SettingsStore.Cli

inductive Command where
  | show
  | set (patch : String)
  | validate (file : String)
  | overrides
  | permissions
deriving DecidableEq, Repr

/-- What the user can ask for help with. -/
inductive Topic where
  | program
  | show
  | set
  | validate
  | overrides
  | permissions
  | help
deriving DecidableEq, Repr

namespace Topic

def name : Topic → String
  | .program => "config-cli"
  | .show => "show"
  | .set => "set"
  | .validate => "validate"
  | .overrides => "overrides"
  | .permissions => "permissions"
  | .help => "help"

/-- The commands, in the order in which they are listed. -/
def commands : List Topic := [.show, .set, .validate, .overrides, .permissions, .help]

def ofName? (name : String) : Option Topic := commands.find? (·.name = name)

end Topic

/-- What a user wants to be done, and on which store in which roles. -/
structure Invocation where
  store : String
  roles : List String
  command : Command
deriving DecidableEq, Repr

inductive Parsed where
  | run (i : Invocation)
  | help (topic : Topic)
  | misuse
deriving DecidableEq, Repr

/-- The options given so far. -/
structure Given where
  store : Option String := none
  roles : Option (List String) := none

inductive Opt where
  | store
  | roles
deriving DecidableEq, Repr

/-- What an argument is among options. -/
inductive Shape where
  | help
  /-- An option, with what is attached to it. -/
  | option (o : Opt) (value : Option String)
  | word
  | wrong
deriving DecidableEq, Repr

/-- An argument with two dashes; a value can follow an equals sign. -/
def longShape (cs : List Char) : Shape :=
  let name := String.ofList (cs.takeWhile (· ≠ '='))
  let value := match cs.dropWhile (· ≠ '=') with
    | _ :: value => some (String.ofList value)
    | [] => none
  if name = "help" ∧ value = none then .help
  else if name = "config" then .option .store value
  else if name = "roles" then .option .roles value
  else .wrong

/-- What is attached to an option of one letter, with or without an equals sign. -/
def attached : List Char → Option String
  | [] => none
  | '=' :: cs => some (String.ofList cs)
  | cs => some (String.ofList cs)

def shape (arg : String) : Shape :=
  match arg.toList with
  | '-' :: '-' :: cs => longShape cs
  | ['-'] => .word
  | '-' :: 'h' :: _ => .help
  | '-' :: 'c' :: cs => .option .store (attached cs)
  | '-' :: 'r' :: cs => .option .roles (attached cs)
  | '-' :: _ => .wrong
  | _ => .word

/-- Sets an option. The store can be given once, roles add up. -/
def Given.add (g : Given) (o : Opt) (value : String) : Option Given :=
  match o with
  | .store => if g.store.isSome then none else some { g with store := some value }
  | .roles => some { g with roles := some (g.roles.getD [] ++ Text.splitAt ',' value) }

/-! ## Arguments of a command -/

/-- The file that a command wants. After two dashes every argument is a word. -/
def fileCommand (topic : Topic) (make : String → Command) (finish : Command → Parsed) :
    Option String → List String → Parsed
  | some file, [] => finish (make file)
  | none, [] => .misuse
  | file, "--" :: args => match file, args with
    | some file, [] => finish (make file)
    | none, [file] => if file = "" then .misuse else finish (make file)
    | _, _ => .misuse
  | file, arg :: args => match shape arg, file with
    | .help, _ => .help topic
    | .word, none => if arg = "" then .misuse else fileCommand topic make finish (some arg) args
    | _, _ => .misuse

/-- A command without arguments. -/
def bareCommand (topic : Topic) (command : Command) (finish : Command → Parsed) :
    List String → Parsed
  | [] | ["--"] => finish command
  | arg :: _ => if shape arg = .help then .help topic else .misuse

/-- The topics that help is asked for. -/
def helpCommand : List String → Parsed
  | [] => .help .program
  | [name] => match Topic.ofName? name with
    | some topic => .help topic
    | none => .misuse
  | _ => .misuse

def readCommand (finish : Command → Parsed) (args : List String) : Topic → Parsed
  | .show => bareCommand .show .show finish args
  | .set => fileCommand .set .set finish none args
  | .validate => fileCommand .validate .validate finish none args
  | .overrides => bareCommand .overrides .overrides finish args
  | .permissions => bareCommand .permissions .permissions finish args
  | .help => helpCommand args
  | .program => .misuse

/-! ## Whole command lines -/

def storeVariable : String := "CONFIG_DSN"

def defaultStore : String := "config.json"

def defaultRole : String := "system_admin"

/-- What is to be done with the options given. -/
def Given.finish (g : Given) (env : Environment) (command : Command) : Parsed :=
  .run {
    store := (g.store <|> env.find? storeVariable).getD defaultStore
    roles := g.roles.getD [defaultRole]
    command }

def readOptions (env : Environment) (g : Given) : List String → Parsed
  | [] => .misuse
  | arg :: args => match shape arg with
    | .help => .help .program
    | .wrong => .misuse
    | .word => match Topic.ofName? arg with
      | some topic => readCommand (g.finish env) args topic
      | none => .misuse
    | .option o (some value) => match g.add o value with
      | some g => readOptions env g args
      | none => .misuse
    | .option o none => match args with
      | [] => .misuse
      | value :: args =>
        if shape value ≠ .word then .misuse
        else match g.add o value with
          | some g => readOptions env g args
          | none => .misuse

def parse (env : Environment) (args : List String) : Parsed := readOptions env {} args

end SettingsStore.Cli
