import Respecify.Settings
import Respecify.Text.Quoted

/-!
# Arguments of the command line

The command takes flags, of which an unambiguous start is enough, and at most
one other argument: the directory of the workspace.  After `--` nothing is a
flag.
-/

namespace Respecify.CommandLine

/-- What the command is asked to do. -/
structure Options where
  workspace : Text
  dryRun : Bool := false
  showUnchanged : Bool := false
  logLevel : Text
deriving DecidableEq, Repr

/-- The flags. -/
inductive Flag where
  | help
  | dryRun
  | showUnchanged
  | logLevel
deriving DecidableEq, Repr

/-- The levels of messages that can be asked for. -/
def levelNames : List Text :=
  [text "DEBUG", text "INFO", text "WARNING", text "ERROR", text "CRITICAL"]

/-- Why the arguments are refused. -/
inductive UsageError where
  | unrecognized (arguments : List Text)
  | noValue (flag : Flag)
  | extraValue (flag : Flag) (value : Text)
  | noLevel (value : Text)
  | ambiguous (argument : Text)
deriving DecidableEq, Repr

namespace Flag

/-- The name of the flag. -/
def name : Flag → Text
  | .help => text "--help"
  | .dryRun => text "--dry-run"
  | .showUnchanged => text "--show-unchanged"
  | .logLevel => text "--log-level"

/-- How messages name the flag. -/
def label : Flag → Text
  | .help => text "-h/--help"
  | flag => flag.name

/-- All flags. -/
def all : List Flag :=
  [.help, .dryRun, .showUnchanged, .logLevel]

/-- The flag with exactly that name. -/
def named? (word : Text) : Option Flag :=
  if word = text "-h" then some .help else all.find? fun flag => flag.name == word

end Flag

/-- The wording of the error. -/
def UsageError.message : UsageError → Text
  | .unrecognized arguments =>
      text "unrecognized arguments: " ++ Text.join (text " ") arguments
  | .noValue flag => text "argument " ++ flag.label ++ text ": expected one argument"
  | .extraValue flag value =>
      text "argument " ++ flag.label ++ text ": ignored explicit argument " ++ value.quoted
  | .noLevel value =>
      text "argument --log-level: invalid choice: " ++ value.quoted ++ text " (choose from " ++
        Text.join (text ", ") (levelNames.map Text.quoted) ++ text ")"
  | .ambiguous argument => text "ambiguous option: " ++ argument

/-! ## Words -/

/-- What one argument is. -/
inductive Word where
  /-- An argument that is no flag. -/
  | plain (value : Text)
  /-- The two dashes after which nothing is a flag. -/
  | separator
  /-- A flag by its full name or a start of it, with what follows a `=`. -/
  | flag (flag : Flag) (value : Option Text)
  /-- The short flag for help, with the letters that follow. -/
  | short (letters : Text)
  /-- It looks like a flag and is none. -/
  | unknown (value : Text)
  /-- The start of several flags. -/
  | ambiguous (value : Text)
deriving DecidableEq, Repr

/-- A dash. -/
def dash : Nat := 0x2D

/-- An equals sign. -/
def equals : Nat := 0x3D

/-- What stands before the first equals sign, and what stands after it. -/
def splitEquals (argument : Text) : Text × Option Text :=
  match argument.dropWhile (· != equals) with
  | [] => (argument, none)
  | _ :: value => (argument.takeWhile (· != equals), some value)

/-- A decimal digit. -/
def isDigit (c : Nat) : Bool :=
  0x30 ≤ c && c ≤ 0x39

/-- A dash and a number, possibly with a decimal point. -/
def isNegativeNumber : Text → Bool
  | 0x2D :: rest =>
      match rest.dropWhile isDigit with
      | [] => !rest.isEmpty
      | 0x2E :: fraction => !fraction.isEmpty && fraction.all isDigit
      | _ => false
  | _ => false

/-- What an argument is that starts with a dash and is no exact name. -/
def wordOfDashed (argument : Text) : Word :=
  let (name, value) := splitEquals argument
  match Flag.named? name, value with
  | some .help, some letters =>
      if name = text "-h" then .short letters else .flag .help (some letters)
  | some flag, some _ => .flag flag value
  | _, _ =>
      let fallback : Word :=
        if isNegativeNumber argument || argument.contains 0x20 then .plain argument
        else .unknown argument
      if argument.startsWith (text "--") then
        match Flag.all.filter fun flag => flag.name.startsWith name with
        | [] => fallback
        | [flag] => .flag flag value
        | _ => .ambiguous argument
      else if argument.startsWith (text "-h") then .short (argument.drop 2)
      else fallback

/-- What an argument is, before any separator. -/
def wordOf (argument : Text) : Word :=
  match argument with
  | [] => .plain []
  | c :: rest =>
      if c ≠ dash then .plain argument
      else if argument = text "--" then .separator
      else
        match Flag.named? argument with
        | some flag => .flag flag none
        | none => if rest.isEmpty then .plain argument else wordOfDashed argument

/-- What the arguments are. -/
def wordsOf : List Text → List Word
  | [] => []
  | argument :: rest =>
      match wordOf argument with
      | .separator => .separator :: rest.map .plain
      | word => word :: wordsOf rest

/-! ## Options -/

/-- What the arguments ask for. -/
inductive Request where
  | run (options : Options)
  | help
  | refused (error : UsageError)
deriving DecidableEq, Repr

/-- What has been read so far. -/
structure Progress where
  options : Options
  /-- The workspace has been given. -/
  placed : Bool
  /-- Arguments for which there is no use. -/
  extras : List Text

/-- Read the level of messages. -/
def withLogLevel (value : Text) (options : Options) : Except UsageError Options :=
  let level := value.upperCase
  if levelNames.contains level then .ok { options with logLevel := level }
  else .error (.noLevel level)

/-- The arguments for which there is no use decide at the end. -/
def finish (progress : Progress) : Request :=
  if progress.extras.isEmpty then .run progress.options
  else .refused (.unrecognized progress.extras)

/-- The text of a word that is no flag. -/
def plainText : Word → Text
  | .plain value | .unknown value | .ambiguous value => value
  | _ => text "--"

/-- Read the words after the separator, and the separator itself. -/
def readAfterSeparator (progress : Progress) (rest : List Word) : Request :=
  let values := rest.map plainText
  if progress.placed then
    finish { progress with extras := progress.extras ++ text "--" :: values }
  else
    match values with
    | [] => finish progress
    | value :: others =>
        finish { progress with
          options := { progress.options with workspace := value }
          extras := progress.extras ++ others }

/-- Read the words. -/
def read (progress : Progress) : List Word → Request
  | [] => finish progress
  | .plain value :: rest =>
      if progress.placed then read { progress with extras := progress.extras ++ [value] } rest
      else
        let placed := { progress with
          options := { progress.options with workspace := value }, placed := true }
        match rest with
        | .separator :: others =>
            finish { placed with extras := placed.extras ++ others.map plainText }
        | _ => read placed rest
  | .separator :: rest => readAfterSeparator progress rest
  | .unknown value :: rest => read { progress with extras := progress.extras ++ [value] } rest
  | .ambiguous value :: _ => .refused (.ambiguous value)
  | .short letters :: _ =>
      if !letters.isEmpty && letters.all (· == 0x68) then .help
      else .refused (.extraValue .help letters)
  | .flag .help none :: _ => .help
  | .flag .dryRun none :: rest =>
      read { progress with options := { progress.options with dryRun := true } } rest
  | .flag .showUnchanged none :: rest =>
      read { progress with options := { progress.options with showUnchanged := true } } rest
  | .flag .logLevel (some value) :: rest =>
      match withLogLevel value progress.options with
      | .ok options => read { progress with options } rest
      | .error error => .refused error
  | .flag .logLevel none :: .plain value :: rest =>
      match withLogLevel value progress.options with
      | .ok options => read { progress with options } rest
      | .error error => .refused error
  | .flag .logLevel none :: _ => .refused (.noValue .logLevel)
  | .flag flag (some value) :: _ => .refused (.extraValue flag value)

/-- What the arguments ask for, given the settings. -/
def request (settings : Settings) (arguments : List Text) : Request :=
  read ⟨{ workspace := settings.workspace, logLevel := settings.logLevel }, false, []⟩
    (wordsOf arguments)

end Respecify.CommandLine
