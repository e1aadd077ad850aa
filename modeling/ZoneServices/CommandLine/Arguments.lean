import ZoneServices.Text.Numeral

/-!
# Arguments of the command line

A command is a word that may be followed by options, each with a value: `--option value` or
`--option=value`.  An option may be given once.  A value that is an argument of its own cannot
start with a hyphen, unless it is just a hyphen.  Arguments are judged in order, so that a fault
counts only if no argument before it asks for help.
-/

namespace ZoneServices

/-- What the program is asked to do. -/
inductive CommandLine where
  | analyze (origin : Text) (input settings : Option Text) (maxRecords : Option Nat)
  | generate (origin : Text) (input : Option Text)
  | services
deriving DecidableEq, Repr

/-- Why there is no command to run. -/
inductive Usage where
  | help
  | wrong
deriving DecidableEq, Repr

namespace Arguments

/-- An option that takes a value. -/
inductive Setting where
  | origin
  | input
  | settings
  | maxRecords
deriving DecidableEq, Repr

/-- The name of an option, without its hyphens. -/
def Setting.name : Setting → Text
  | .origin => "origin".toList
  | .input => "input".toList
  | .settings => "config".toList
  | .maxRecords => "max-records".toList

/-- Whether a value fits an option: a path is not empty, and a number is one. -/
def Setting.fits (setting : Setting) (value : Text) : Bool :=
  match setting with
  | .origin => true
  | .input | .settings => !value.isEmpty
  | .maxRecords => (Numeral.count? value).isSome

/-- Whether an argument asks for help; what follows the short option does not matter. -/
def asksHelp (argument : Text) : Bool :=
  argument == "--help".toList || "-h".toList.isPrefixOf argument

/-- Whether an argument asks for the version, which comes to asking for help. -/
def asksVersion (argument : Text) : Bool :=
  argument == "--version".toList || "-V".toList.isPrefixOf argument

/-- Whether words behind `help` name nothing or one of the commands, which include `help`. -/
def namesCommand : List Text → Bool
  | [] => true
  | [name] => (["analyze", "generate", "services", "help"].map String.toList).contains name
  | _ => false

/-- The option of a name, if the command has it. -/
def find? (allowed : List Setting) (name : Text) : Option Setting :=
  allowed.find? fun setting => setting.name == name

/-- Whether an argument can be the value of an option that stands before it. -/
def isValue (argument : Text) : Bool :=
  argument == ['-'] || argument.head? != some '-'

/-- The values that were given, each with its option. -/
abbrev Values : Type := List (Setting × Text)

/-- The values with one for an option, if it fits and there is none already. -/
def addValue (values : Values) (setting : Setting) (value : Text) : Except Usage Values :=
  if setting.fits value && values.all fun given => given.1 != setting then
    .ok (values ++ [(setting, value)])
  else
    .error .wrong

/--
The values that arguments give to the options of a command, behind those that were given before.
-/
def readValues (allowed : List Setting) (values : Values) : List Text → Except Usage Values
  | [] => .ok values
  | argument :: rest =>
    if asksHelp argument then
      .error .help
    else
      match argument with
      | '-' :: '-' :: option =>
        match option.dropWhile (· != '=') with
        | _ :: value =>
          match find? allowed (option.takeWhile (· != '=')) with
          | some setting =>
            match addValue values setting value with
            | .ok values => readValues allowed values rest
            | .error usage => .error usage
          | none => .error .wrong
        | [] =>
          if option.isEmpty then
            if rest.isEmpty then .ok values else .error .wrong
          else
            match find? allowed option, rest with
            | some setting, value :: rest =>
              if isValue value then
                match addValue values setting value with
                | .ok values => readValues allowed values rest
                | .error usage => .error usage
              else
                .error .wrong
            | _, _ => .error .wrong
      | _ => .error .wrong

/-- The value of an option that has to be given. -/
def required (values : Values) (setting : Setting) : Except Usage Text :=
  match values.lookup setting with
  | some value => .ok value
  | none => .error .wrong

/-- The number that an option gives, if it is given. -/
def count (values : Values) (setting : Setting) : Option Nat :=
  (values.lookup setting).bind Numeral.count?

/-- The command that arguments ask for. -/
def read : List Text → Except Usage CommandLine
  | [] => .error .wrong
  | name :: arguments => do
    if asksHelp name || asksVersion name then
      throw .help
    else if name == "help".toList then
      throw (if namesCommand arguments then .help else .wrong)
    else if name == "analyze".toList then
      let values ← readValues [.origin, .input, .settings, .maxRecords] [] arguments
      let origin ← required values .origin
      return .analyze origin (values.lookup .input) (values.lookup .settings)
        (count values .maxRecords)
    else if name == "generate".toList then
      let values ← readValues [.origin, .input] [] arguments
      let origin ← required values .origin
      return .generate origin (values.lookup .input)
    else if name == "services".toList then
      let _ ← readValues [] [] arguments
      return .services
    else
      throw .wrong

end Arguments

end ZoneServices
