import TagAudit.Migration.Vendor
import TagAudit.Text.Digit

namespace TagAudit

/-- An option that takes no value. -/
inductive Flag where
  | debug
  | excludePaused
  | skipDashboard
  | skipGraph
  | withServer
  deriving DecidableEq

/-- An option that takes a value. -/
inductive Setting where
  | outputDirectory
  | rulesConfig
  | vendor
  | catalog
  | transportUrl
  deriving DecidableEq

/-- What the name of an option stands for. -/
inductive Switch where
  | shortHelp
  | help
  | flag (f : Flag)
  | setting (s : Setting)
  deriving DecidableEq

namespace Switch

/-- The options by name. -/
def names : List (String × Switch) :=
  [("-h", shortHelp), ("--help", help), ("--debug", flag .debug),
    ("--exclude-paused", flag .excludePaused), ("--skip-dashboard", flag .skipDashboard),
    ("--skip-graph", flag .skipGraph), ("--output-dir", setting .outputDirectory),
    ("--rules-config", setting .rulesConfig), ("--ssg", flag .withServer),
    ("--vendor", setting .vendor), ("--catalog", setting .catalog),
    ("--transport-url", setting .transportUrl)]

/-- The options whose names start with a text. -/
def startingWith (start : String) : List Switch :=
  (names.filter fun (name, _) => Text.startsWith name start).map (·.2)

end Switch

/-- Why a command line cannot be used. -/
inductive UsageError where
  | ambiguous (text : String)
  | valueMissing (text : String)
  | valueUnexpected (text : String)
  | vendorUnknown (key : String)
  | fileMissing
  | unrecognized (texts : List String)
  deriving DecidableEq

def UsageError.message : UsageError → String
  | ambiguous text => "ambiguous option: " ++ text
  | valueMissing text => "argument " ++ text ++ ": expected one argument"
  | valueUnexpected text => "argument " ++ text ++ ": ignored explicit argument"
  | vendorUnknown key => "argument --vendor: invalid choice: '" ++ key ++ "'"
  | fileMissing => "the following arguments are required: file"
  | unrecognized texts => "unrecognized arguments: " ++ " ".intercalate texts

/-- A part of a command line, seen on its own. -/
inductive Argument where
  | value (text : String)
  /-- All parts behind it are values. -/
  | separator
  /-- An option as it is written, with the value that is attached to it. -/
  | option (s : Switch) (text : String) (attached : Option String)
  /-- What looks like an option, but is none. -/
  | unknown (text : String)

namespace Argument

def separatorText : String := "--"

/-- Whether a text is a minus sign with an integer or a decimal behind it; a line may end there. -/
def isNegative (text : String) : Bool :=
  match text.toList with
  | '-' :: rest =>
    let rest := if rest.getLast? == some '\n' then rest.dropLast else rest
    match rest.dropWhile Text.isDigit with
    | [] => !rest.isEmpty
    | '.' :: fraction => !fraction.isEmpty && fraction.all Text.isDigit
    | _ => false
  | _ => false

/-- The parts of a text before and behind the first equals sign. -/
def splitValue (text : String) : String × Option String :=
  let name := text.toList.takeWhile (· != '=')
  match text.toList.drop name.length with
  | _ :: behind => (String.ofList name, some (String.ofList behind))
  | [] => (text, none)

/-- What starts like an option and is none may still be a value. -/
def ofOther (text : String) : Argument :=
  if isNegative text || Text.contains text " " then value text else unknown text

/-- The short option for help, with all that follows it attached. -/
def shortHelp (text : String) : Argument :=
  let behind := String.ofList (text.toList.drop 2)
  option .shortHelp text (if behind.isEmpty then none else some behind)

/-- A part before the separator. A long name may be cut short as long as it stays the only one. -/
def ofText (text : String) : Except UsageError Argument :=
  if !Text.startsWith text "-" || text == "-" then .ok (value text)
  else
    let (name, attached) := splitValue text
    match Switch.names.lookup name with
    | some .shortHelp => .ok (shortHelp text)
    | some s => .ok (option s text attached)
    | none =>
      if Text.startsWith text "--" then
        match Switch.startingWith name with
        | [] => .ok (ofOther text)
        | [s] => .ok (option s text attached)
        | _ => .error (.ambiguous text)
      else if Text.startsWith text "-h" then .ok (shortHelp text)
      else .ok (ofOther text)

def ofTexts : List String → Except UsageError (List Argument)
  | [] => .ok []
  | text :: rest =>
    if text == separatorText then .ok (separator :: rest.map value)
    else do return (← ofText text) :: (← ofTexts rest)

end Argument

/-- What a command line asks for. -/
structure Options where
  file : String
  flags : List Flag
  /-- The values given for settings, in order. -/
  settings : List (Setting × String)

namespace Options

def has (o : Options) (f : Flag) : Bool := o.flags.contains f

def values (o : Options) (s : Setting) : List String := (o.settings.filter (·.1 == s)).map (·.2)

/-- The last value given for a setting; an empty one is as good as none. -/
def value? (o : Options) (s : Setting) : Option String :=
  (o.values s).getLast?.filter fun v => !v.isEmpty

end Options

/-- What is to be done for a command line. -/
inductive Request where
  | help
  | run (o : Options)

/-- What the parts of a command line have given so far. -/
structure CommandLine where
  file : Option String
  flags : List Flag
  settings : List (Setting × String)
  /-- The parts that have no meaning. -/
  excess : List String

namespace CommandLine

def empty : CommandLine := ⟨none, [], [], []⟩

def set (l : CommandLine) (s : Setting) (value : String) : Except UsageError CommandLine :=
  if s = .vendor ∧ !(Vendor.all.map (·.key)).contains value then .error (.vendorUnknown value)
  else .ok { l with settings := l.settings ++ [(s, value)] }

def leaveOver (l : CommandLine) (text : String) : CommandLine :=
  { l with excess := l.excess ++ [text] }

def request (l : CommandLine) : Except UsageError Request :=
  match l.file with
  | none => .error .fileMissing
  | some file =>
    if l.excess.isEmpty then .ok (.run ⟨file, l.flags, l.settings⟩)
    else .error (.unrecognized l.excess)

/-- Whether what follows a short option can be further short options, of which the first may be
repeated. -/
def isCluster (letters : List Char) : Bool :=
  match letters.dropWhile (· == 'h') with
  | [] => true
  | c :: _ => c != '=' && c != '-'

/-- Reads the parts in order up to the first mistake or request for help. The first value is the
file; a separator right before or behind it belongs to it. -/
def read (l : CommandLine) : List Argument → Except UsageError Request
  | [] => l.request
  | .option .help _ none :: _ => .ok .help
  | .option .shortHelp _ none :: _ => .ok .help
  | .option .shortHelp text (some attached) :: _ =>
    if isCluster attached.toList then .ok .help else .error (.valueUnexpected text)
  | .option (.flag f) _ none :: rest => { l with flags := l.flags ++ [f] }.read rest
  | .option (.setting s) _ (some value) :: rest => do (← l.set s value).read rest
  | .option (.setting s) _ none :: .value value :: rest => do (← l.set s value).read rest
  | .option (.setting _) text none :: _ => .error (.valueMissing text)
  | .option _ text (some _) :: _ => .error (.valueUnexpected text)
  | .unknown text :: rest => (l.leaveOver text).read rest
  | .separator :: .value text :: rest =>
    if l.file.isNone then { l with file := some text }.read rest
    else ((l.leaveOver Argument.separatorText).leaveOver text).read rest
  | .separator :: rest => (l.leaveOver Argument.separatorText).read rest
  | .value text :: .separator :: rest =>
    if l.file.isNone then { l with file := some text }.read rest
    else ((l.leaveOver text).leaveOver Argument.separatorText).read rest
  | .value text :: rest =>
    if l.file.isNone then { l with file := some text }.read rest
    else (l.leaveOver text).read rest

end CommandLine

/-- What a command line asks for. -/
def Request.ofTexts (texts : List String) : Except UsageError Request := do
  CommandLine.empty.read (← Argument.ofTexts texts)

end TagAudit
