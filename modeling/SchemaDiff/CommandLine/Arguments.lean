import SchemaDiff.Text.Quoted
import SchemaDiff.Text.Word
/-
The arguments of the program: its options, how each argument is taken for an option, for the value
of one or for the command, and the values that are the result. Options may be shortened as long as
only one is meant, values may be attached with an equals sign, and short options may share one dash.
-/
namespace SchemaDiff.CommandLine
open SchemaDiff.Text

inductive Flag where
  | help
  | source
  | target
  | sourceLabel
  | targetLabel
  | noCollation
  | plan
  | jsonOut
  | sqlOut
  | reportOut
  | noColor
  | verbose
  | logFormat
  | version
deriving DecidableEq, Repr

namespace Flag

def spellings : Flag → List Text
  | help => ["-h", "--help"]
  | source => ["--source"]
  | target => ["--target"]
  | sourceLabel => ["--source-label"]
  | targetLabel => ["--target-label"]
  | noCollation => ["--no-collation"]
  | plan => ["--plan"]
  | jsonOut => ["--json-out"]
  | sqlOut => ["--sql-out"]
  | reportOut => ["--report-out"]
  | noColor => ["--no-color"]
  | verbose => ["--verbose", "-v"]
  | logFormat => ["--log-format"]
  | version => ["--version"]

def takesValue : Flag → Bool
  | source | target | sourceLabel | targetLabel | jsonOut | sqlOut | reportOut | logFormat => true
  | help | noCollation | plan | noColor | verbose | version => false

def all : List Flag := [
  help, source, target, sourceLabel, targetLabel, noCollation, plan, jsonOut, sqlOut, reportOut,
  noColor, verbose, logFormat, version]

def label (flag : Flag) : Text := ['/'].intercalate flag.spellings

end Flag

def spellings : List (Text × Flag) := Flag.all.flatMap fun flag => flag.spellings.map (·, flag)

def commands : List Text := ["compare", "compare-livedb"]

def logFormats : List Text := ["text", "json"]

inductive UsageError where
  | ambiguous (argument : Text) (candidates : List Text)
  | valueMissing (flag : Flag)
  | valueRefused (flag : Flag) (value : Text)
  | notAChoice (label value : Text) (choices : List Text)
  | missing (labels : List Text)
  | unrecognized (arguments : List Text)
deriving DecidableEq, Repr

def commas (ts : List Text) : Text := (lit ", ").intercalate ts

def UsageError.message : UsageError → Text
  | ambiguous argument candidates =>
    "ambiguous option: " ++ argument ++ " could match " ++ commas candidates
  | valueMissing flag => "argument " ++ flag.label ++ ": expected one argument"
  | valueRefused flag value =>
    "argument " ++ flag.label ++ ": ignored explicit argument " ++ quoted value
  | notAChoice label value choices =>
    "argument " ++ label ++ ": invalid choice: " ++ quoted value ++ " (choose from "
    ++ commas (choices.map quoted) ++ ")"
  | missing labels => "the following arguments are required: " ++ commas labels
  | unrecognized arguments => "unrecognized arguments: " ++ [' '].intercalate arguments

inductive Stop where
  | help
  | version
  | usage (e : UsageError)
deriving DecidableEq, Repr

inductive Shape where
  | plain
  | separator
  | option (spelling : Text) (flag : Flag) (attached : Option Text)
  | unknown
deriving DecidableEq, Repr

def looksNegative (t : Text) : Bool :=
  let body := if t.getLast? = some '\n' then t.dropLast else t
  match body with
  | '-' :: digits =>
    match cutAt '.' digits with
    | (whole, none) => whole ≠ [] && whole.all isDigit
    | (whole, some fraction) => whole.all isDigit && fraction ≠ [] && fraction.all isDigit
  | _ => false

def candidates (argument : Text) : List (Text × Flag × Option Text) :=
  match argument with
  | '-' :: '-' :: _ =>
    let (start, value) := cutAt '=' argument
    (spellings.filter fun (spelling, _) => start.isPrefixOf spelling).map
      fun (spelling, flag) => (spelling, flag, value)
  | _ =>
    spellings.filterMap fun (spelling, flag) =>
      if spelling = argument.take 2 then some (spelling, flag, some (argument.drop 2))
      else if argument.isPrefixOf spelling then some (spelling, flag, none)
      else none

def shapeOf (argument : Text) : Except UsageError Shape :=
  match argument with
  | '-' :: _ :: _ =>
    match spellings.lookup argument, cutAt '=' argument with
    | some flag, _ => .ok (.option argument flag none)
    | none, (start, value) =>
      match value, spellings.lookup start with
      | some v, some flag => .ok (.option start flag (some v))
      | _, _ =>
        match candidates argument with
        | [] => .ok (if looksNegative argument || argument.contains ' ' then .plain else .unknown)
        | [(spelling, flag, attached)] => .ok (.option spelling flag attached)
        | many => .error (.ambiguous argument (many.map (·.1)))
  | _ => .ok .plain

def separator : Text := "--"

def shapes : List Text → Except UsageError (List (Text × Shape))
  | [] => .ok []
  | argument :: rest =>
    if argument = separator then .ok ((argument, .separator) :: rest.map (·, .plain))
    else do
      let shape ← shapeOf argument
      let others ← shapes rest
      return (argument, shape) :: others

inductive Given where
  | text (t : Text)
  /-- Two dashes attached to the option: they count as a separator and are dropped, which leaves the
  option given but without a value. -/
  | dropped
deriving DecidableEq, Repr

namespace Given

def ofAttached (value : Text) : Given := if value = separator then dropped else text value

def shown : Given → Text
  | text t => t
  | dropped => "[]"

def text? : Given → Option Text
  | text t => some t
  | dropped => none

end Given

structure Arguments where
  command : Text
  source : Given
  target : Given
  sourceLabel : Given := .text "Database 1"
  targetLabel : Given := .text "Database 2"
  noCollation : Bool := false
  plan : Bool := false
  jsonOut : Option Given := none
  sqlOut : Option Given := none
  reportOut : Option Given := none
  noColor : Bool := false
  verbose : Nat := 0
  logFormat : Given := .text "text"
deriving DecidableEq, Repr

/-- What has been read so far. The three values that have to be given may still be missing. -/
structure Progress where
  command : Option Text := none
  source : Option Given := none
  target : Option Given := none
  others : Arguments := { command := [], source := .text [], target := .text [] }
  unrecognized : List Text := []

namespace Progress

def leaveOver (p : Progress) (arguments : List Text) : Progress :=
  { p with unrecognized := p.unrecognized ++ arguments }

def takeCommand (p : Progress) (value : Text) : Except Stop Progress :=
  if commands.contains value then .ok { p with command := some value }
  else .error (.usage (.notAChoice "command" value commands))

def takeSwitch (p : Progress) : Flag → Except Stop Progress
  | .help => .error .help
  | .version => .error .version
  | .noCollation => .ok { p with others.noCollation := true }
  | .plan => .ok { p with others.plan := true }
  | .noColor => .ok { p with others.noColor := true }
  | .verbose => .ok { p with others.verbose := p.others.verbose + 1 }
  | _ => .ok p

def takeValue (p : Progress) (flag : Flag) (value : Given) : Except Stop Progress :=
  match flag with
  | .source => .ok { p with source := some value }
  | .target => .ok { p with target := some value }
  | .sourceLabel => .ok { p with others.sourceLabel := value }
  | .targetLabel => .ok { p with others.targetLabel := value }
  | .jsonOut => .ok { p with others.jsonOut := some value }
  | .sqlOut => .ok { p with others.sqlOut := some value }
  | .reportOut => .ok { p with others.reportOut := some value }
  | .logFormat =>
    match value with
    | .text t =>
      if logFormats.contains t then .ok { p with others.logFormat := value }
      else .error (.usage (.notAChoice flag.label t logFormats))
    | .dropped => .ok { p with others.logFormat := value }
  | _ => .ok p

def finish (p : Progress) : Except Stop Arguments :=
  match p.command, p.source, p.target with
  | some command, some source, some target =>
    if p.unrecognized = [] then .ok { p.others with command, source, target }
    else .error (.usage (.unrecognized p.unrecognized))
  | command, source, target =>
    let labels : List (Text × Bool) := [
      ("command", command.isSome), (Flag.source.label, source.isSome),
      (Flag.target.label, target.isSome)]
    .error (.usage (.missing ((labels.filter (!·.2)).map (·.1))))

end Progress

/-- What one argument with an option in it amounts to: options without values, then perhaps an
option that takes a value, with the value if attached. -/
structure Reading where
  switches : List Flag := []
  valued : Option (Flag × Option Text) := none

def Reading.after (flag : Flag) (r : Reading) : Reading := { r with switches := flag :: r.switches }

def Reading.alone (flag : Flag) : Reading :=
  if flag.takesValue then { valued := some (flag, none) } else { switches := [flag] }

def readLetters (flag : Flag) : Text → Except UsageError Reading
  | [] => .ok (.alone flag)
  | c :: rest =>
    if flag.takesValue then .ok { valued := some (flag, some (c :: rest)) }
    else
      match spellings.lookup ['-', c] with
      | none => .error (.valueRefused flag (c :: rest))
      | some next => (readLetters next rest).map (·.after flag)

def readOption (spelling : Text) (flag : Flag) : Option Text → Except UsageError Reading
  | none => .ok (.alone flag)
  | some value =>
    if flag.takesValue then .ok { valued := some (flag, some value) }
    else if value = [] ∨ spelling[1]? = some '-' then .error (.valueRefused flag value)
    else readLetters flag value

/-- The arguments after the last option: the command, if it is not known yet, with a separator on
either side of it; all else is left over. -/
def readTail (p : Progress) (arguments : List (Text × Shape)) : Except Stop Progress :=
  let isSeparator := fun x : Text × Shape => decide (x.2 = .separator)
  let leftOver := fun xs : List (Text × Shape) => xs.map (·.1)
  match p.command, arguments.dropWhile isSeparator with
  | none, (value, _) :: rest => do
    let p ← p.takeCommand value
    return p.leaveOver (leftOver (rest.dropWhile isSeparator))
  | _, _ => .ok (p.leaveOver (leftOver arguments))

def hasOption (arguments : List (Text × Shape)) : Bool :=
  arguments.any fun (_, shape) => shape ≠ .plain && shape ≠ .separator

def takeSwitches (p : Progress) (flags : List Flag) : Except Stop Progress :=
  flags.foldlM Progress.takeSwitch p

def usageStop {α : Type} : Except UsageError α → Except Stop α
  | .ok a => .ok a
  | .error e => .error (.usage e)

/-- Reads arguments from left to right. Before the last option the first plain argument is the
command, and the other ones are left over. -/
def scan (p : Progress) : List (Text × Shape) → Except Stop Progress
  | [] => .ok p
  | (argument, shape) :: rest =>
    if !hasOption ((argument, shape) :: rest) then readTail p ((argument, shape) :: rest)
    else
      match shape with
      | .plain | .separator =>
        if p.command.isNone then do scan (← p.takeCommand argument) rest
        else scan (p.leaveOver [argument]) rest
      | .unknown => scan (p.leaveOver [argument]) rest
      | .option spelling flag attached => do
        let r ← usageStop (readOption spelling flag attached)
        match r.valued with
        | none => scan (← takeSwitches p r.switches) rest
        | some (flag, some value) =>
          scan (← (← takeSwitches p r.switches).takeValue flag (.ofAttached value)) rest
        | some (flag, none) =>
          match rest with
          | (value, .plain) :: others =>
            scan (← (← takeSwitches p r.switches).takeValue flag (.text value)) others
          | _ => .error (.usage (.valueMissing flag))

def readArguments (arguments : List Text) : Except Stop Arguments := do
  let shaped ← usageStop (shapes arguments)
  (← scan {} shaped).finish

end SchemaDiff.CommandLine
