import Rethrow.Path
import Rethrow.Text.Basic
import Rethrow.Text.Datum

/-!
The command line. Arguments are first told apart into options and values, then taken in order: options as they come,
and the first run of values as the paths.
-/
set_option autoImplicit false

namespace Rethrow.Command

inductive Flag where
  | help
  | fix
  | format
  | errorConstructor
  | changedSince
  | config
  | verbose
  | logFormat
deriving DecidableEq, Repr

namespace Flag

def takesValue : Flag → Bool
  | help | fix | verbose => false
  | _ => true

def title : Flag → String
  | help => "-h/--help"
  | fix => "--fix"
  | format => "--format"
  | errorConstructor => "--error-constructor"
  | changedSince => "--changed-since"
  | config => "--config"
  | verbose => "-v/--verbose"
  | logFormat => "--log-format"

end Flag

abbrev Table := List (String × Flag)

def mainTable : Table := [("-h", .help), ("--help", .help)]

def analyzeTable : Table :=
  [("-h", .help), ("--help", .help), ("--fix", .fix), ("--format", .format),
    ("--error-constructor", .errorConstructor), ("--changed-since", .changedSince), ("--config", .config),
    ("-v", .verbose), ("--verbose", .verbose), ("--log-format", .logFormat)]

inductive Format where
  | text
  | json
deriving DecidableEq, Repr

inductive LogFormat where
  | console
  | json
deriving DecidableEq, Repr

def formats : List (String × Format) := [("text", .text), ("json", .json)]
def logFormats : List (String × LogFormat) := [("console", .console), ("json", .json)]

structure Options where
  paths : List String := ["."]
  fix : Bool := false
  format : Format := .text
  constructors : List String := []
  changedSince : Option String := none
  config : Option Path := none
  verbosity : Nat := 0
  logFormat : LogFormat := .console
deriving Repr

inductive Program where
  | main
  | analyze
deriving DecidableEq, Repr

def Program.name : Program → String
  | main => "causelint"
  | analyze => "causelint analyze"

inductive Stop where
  | help (program : Program)
  | ambiguous (argument : String) (options : List String)
  | ignoredValue (program : Program) (flag : Flag) (value : String)
  | missingValue (flag : Flag)
  | badChoice (flag : Flag) (value : String) (choices : List String)
  | badCommand (value : String)
  | missingCommand
  | unrecognized (arguments : List String)
deriving DecidableEq, Repr

def choiceText (value : String) (choices : List String) : String :=
  s!"invalid choice: {quoted value} (choose from {commaJoined (choices.map quoted)})"

def Stop.program : Stop → Program
  | help program | ignoredValue program .. => program
  | ambiguous .. | missingValue _ | badChoice .. => .analyze
  | badCommand _ | missingCommand | unrecognized _ => .main

def Stop.fault? : Stop → Option String
  | help _ => none
  | ambiguous argument options => some s!"ambiguous option: {argument} could match {commaJoined options}"
  | ignoredValue _ flag value => some s!"argument {flag.title}: ignored explicit argument {quoted value}"
  | missingValue flag => some s!"argument {flag.title}: expected one argument"
  | badChoice flag value choices => some s!"argument {flag.title}: {choiceText value choices}"
  | badCommand value => some ("argument \x7banalyze\x7d: " ++ choiceText value ["analyze"])
  | missingCommand => some "the following arguments are required: \x7banalyze\x7d"
  | unrecognized arguments => some s!"unrecognized arguments: {spaceJoined arguments}"

def Stop.message? (stop : Stop) : Option String :=
  stop.fault?.map fun fault => s!"{stop.program.name}: error: {fault}"

inductive Argument where
  | value
  | mark
  | option (flag : Flag) (spelling : String) (attached : Option String)
  | unknown
deriving DecidableEq, Repr

def isNegativeNumber (text : String) : Bool :=
  match text.toList with
  | '-' :: body =>
    let body := if body.getLast? = some '\n' then body.dropLast else body
    match Join.splitOn '.' body with
    | [digits] => !digits.isEmpty && digits.all isDecimalDigit
    | [whole, part] => whole.all isDecimalDigit && !part.isEmpty && part.all isDecimalDigit
    | _ => false
  | _ => false

def splitAttached (text : String) : String × Option String :=
  let name := text.toList.takeWhile (· ≠ '=')
  match text.toList.drop name.length with
  | _ :: rest => (String.ofList name, some (String.ofList rest))
  | [] => (text, none)

/-- The options that an argument may stand for: a long option may be cut short, and a short one may have text attached
to it. -/
def matches? (table : Table) (text : String) : List (Flag × String × Option String) :=
  match text.toList with
  | '-' :: '-' :: _ =>
    let (name, attached) := splitAttached text
    (table.filter fun entry => name.toList.isPrefixOf entry.1.toList).map fun entry => (entry.2, entry.1, attached)
  | '-' :: letter :: rest =>
    (table.filter fun entry => entry.1.toList = ['-', letter]).map fun entry =>
      (entry.2, entry.1, some (String.ofList rest))
  | _ => []

def classify (table : Table) (text : String) : Except Stop Argument :=
  if text.toList.head? ≠ some '-' then .ok .value
  else match table.lookup text with
    | some flag => .ok (.option flag text none)
    | none =>
      let (name, attached) := splitAttached text
      if text = "-" then .ok .value
      else match attached, table.lookup name with
        | some value, some flag => .ok (.option flag name (some value))
        | _, _ =>
          match matches? table text with
          | [(flag, spelling, attached)] => .ok (.option flag spelling attached)
          | [] => .ok (if isNegativeNumber text || text.toList.contains ' ' then .value else .unknown)
          | several => .error (.ambiguous text (several.map (·.2.1)))

def classifyAll (table : Table) : List String → Except Stop (List (String × Argument))
  | [] => .ok []
  | text :: rest =>
    if text = "--" then .ok ((text, .mark) :: rest.map fun value => (value, .value))
    else do
      let argument ← classify table text
      return (text, argument) :: (← classifyAll table rest)

def expand (program : Program) (table : Table) (flag : Flag) (long : Bool) :
    List Char → Except Stop (List (Flag × Option String))
  | [] => .error (.ignoredValue program flag "")
  | letter :: rest =>
    if flag.takesValue then .ok [(flag, some (String.ofList (letter :: rest)))]
    else if long then .error (.ignoredValue program flag (String.ofList (letter :: rest)))
    else match table.lookup (String.ofList ['-', letter]) with
      | none => .error (.ignoredValue program flag (String.ofList (letter :: rest)))
      | some next =>
        if rest.isEmpty then .ok [(flag, none), (next, none)]
        else (expand program table next false rest).map ((flag, none) :: ·)

def expandOption (program : Program) (table : Table) (flag : Flag) (spelling : String) :
    Option String → Except Stop (List (Flag × Option String))
  | none => .ok [(flag, none)]
  | some value =>
    if flag.takesValue then .ok [(flag, some value)]
    else expand program table flag (spelling.toList.take 2 = ['-', '-']) value.toList

def choose {α : Type} (flag : Flag) (choices : List (String × α)) (value : String) : Except Stop α :=
  match choices.lookup value with
  | some choice => .ok choice
  | none => .error (.badChoice flag value (choices.map (·.1)))

def Options.take (options : Options) (flag : Flag) (value : String) : Except Stop Options :=
  match flag with
  | .help => .error (.help .analyze)
  | .fix => .ok { options with fix := true }
  | .verbose => .ok { options with verbosity := options.verbosity + 1 }
  | .format => (choose flag formats value).map fun format => { options with format }
  | .logFormat => (choose flag logFormats value).map fun logFormat => { options with logFormat }
  | .errorConstructor => .ok { options with constructors := options.constructors ++ [value] }
  | .changedSince => .ok { options with changedSince := some value }
  | .config => .ok { options with config := some (Path.ofText value) }

def Options.takeAll (options : Options) : List (Flag × Option String) → Except Stop Options
  | [] => .ok options
  | (flag, value) :: rest => do takeAll (← options.take flag (value.getD "")) rest

structure Reading where
  options : Options := {}
  pathsTaken : Bool := false
  extra : List String := []
deriving Repr

/-- A run of values: the paths, if none were given before. The first mark in it is dropped. -/
def Reading.takeRun (reading : Reading) (run : List String) : Reading :=
  if reading.pathsTaken then { reading with extra := reading.extra ++ run }
  else
    let paths := run.erase "--"
    let options := if paths.isEmpty then reading.options else { reading.options with paths }
    { reading with pathsTaken := true, options }

def readArguments (reading : Reading) (run : List String) : List (String × Argument) → Except Stop Reading
  | [] => .ok (if run.isEmpty then reading else reading.takeRun run.reverse)
  | (text, .value) :: rest | (text, .mark) :: rest => readArguments reading (text :: run) rest
  | (text, .unknown) :: rest =>
    let reading := if run.isEmpty then reading else reading.takeRun run.reverse
    readArguments { reading with extra := reading.extra ++ [text] } [] rest
  | (_, .option flag spelling attached) :: rest => do
    let reading := if run.isEmpty then reading else reading.takeRun run.reverse
    if flag.takesValue && attached.isNone then
      match rest with
      | (value, .value) :: rest =>
        let options ← reading.options.take flag value
        readArguments { reading with options } [] rest
      | _ => throw (.missingValue flag)
    else
      let taken ← expandOption .analyze analyzeTable flag spelling attached
      let options ← reading.options.takeAll taken
      readArguments { reading with options } [] rest

def parseAnalyze (arguments : List String) : Except Stop (Options × List String) := do
  let classified ← classifyAll analyzeTable arguments
  let reading ← readArguments {} [] classified
  return (reading.options, reading.extra)

def parseCommand (extra : List String) : List (String × Argument) → Except Stop (List String × List String)
  | [] => .error .missingCommand
  | (text, .unknown) :: rest => parseCommand (extra ++ [text]) rest
  | (_, .option flag spelling attached) :: _ => do
    discard (expandOption .main mainTable flag spelling attached)
    throw (.help .main)
  | (text, .value) :: rest =>
    if text = "analyze" then .ok (extra, rest.map (·.1)) else .error (.badCommand text)
  | (text, .mark) :: rest => if rest.isEmpty then .error .missingCommand else .error (.badCommand text)

def parse (arguments : List String) : Except Stop Options := do
  let (before, rest) ← parseCommand [] (← classifyAll mainTable arguments)
  let (options, after) ← parseAnalyze rest
  let extra := before ++ after
  unless extra.isEmpty do throw (.unrecognized extra)
  return options

end Rethrow.Command
