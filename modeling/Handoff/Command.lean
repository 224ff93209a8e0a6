/-
Module: Handoff.Command
Purpose: The command line of the converter, apart from reading and writing files. Arguments
  are scanned in a fixed order: help and version first (anywhere on the line), then each
  option once, as `--key value` or `--key=value` (a value may be quoted with matching quotes),
  then the input path, the first argument left. A run's settings are the loaded
  configuration (or the defaults) with the options laid over it; the mode is read for the
  chosen framework. Diagnostics and palette entries are printed one per line.
Main exports: Command.Options, Command.Request, Command.ArgError, Command.parseArgs,
  Command.applyOptions, Command.helpText, Command.versionText, Command.diagnosticLine,
  Command.paletteLine.
-/
import Handoff.Conversion
import Handoff.Float.Parse

namespace Handoff

namespace Command

/-- What a run is asked to do. -/
structure Options where
  backend : Option BackendKind
  mode : Option String
  configPath : Option String
  noVectors : Bool
  noVariables : Bool
  threshold : Option Float
  iconSize : Option Float
  layerNames : Bool
  diagnostics : Bool
  palette : Bool
  quiet : Bool
  input : String

/-- What the command line asks for. -/
inductive Request where
  | help
  | version
  | run (options : Options)

/-- Why the arguments were refused. -/
inductive ArgError where
  | optionWithoutValue (key : String)
  | parsingFailed (value cause : String)
  | missingArgument

/-- The text of an argument error. -/
def ArgError.message : ArgError → String
  | .optionWithoutValue key => "the '" ++ key ++ "' option doesn't have an associated value"
  | .parsingFailed value cause => "failed to parse '" ++ value ++ "': " ++ cause
  | .missingArgument => "free-standing argument is missing"

/-- Scanning steps over the arguments not yet taken. -/
abbrev Scan := StateT (List String) (Except ArgError)

/-- The first position of an argument satisfying a test. -/
def findIndex (p : String → Bool) : List String → Option Nat
  | [] => none
  | a :: rest => if p a then some 0 else (findIndex p rest).map (· + 1)

/-- Takes the first argument equal to one of the keys, tried in order. -/
def takeFlag (keys : List String) : Scan Bool := do
  let args ← get
  match keys.findSome? fun k => findIndex (· == k) args with
  | some i => set (args.eraseIdx i); return true
  | none => return false

/-- The value of a `--key=value` argument: an opening quote must be matched by the same
closing quote, and the value must not be empty. -/
def inlineValue (key : String) (arg : String) : Except ArgError String :=
  let value := (arg.drop (key.length + 1)).toString
  let unquoted : Option String :=
    match value.toList with
    | q :: rest =>
        if q == '"' || q == '\'' then
          match rest.reverse with
          | c :: inner => if c == q then some (String.ofList inner.reverse) else none
          | [] => none
        else some value
    | [] => some value
  match unquoted with
  | some v => if v.isEmpty then .error (.optionWithoutValue key) else .ok v
  | none => .error (.optionWithoutValue key)

/-- Takes the value of an option, read by `parse`; the option and its value are removed
only when the value reads. -/
def takeValue {α : Type} (key : String) (parse : String → Except String α) :
    Scan (Option α) := do
  let args ← get
  let found : Option (String × Nat × Nat) ←
    match findIndex (· == key) args with
    | some i =>
        match args[i + 1]? with
        | some v => pure (some (v, i, 2))
        | none => throw (.optionWithoutValue key)
    | none =>
        match findIndex (fun a => a.startsWith (key ++ "=")) args with
        | some i =>
            match inlineValue key (args.getD i "") with
            | .ok v => pure (some (v, i, 1))
            | .error e => throw e
        | none => pure none
  match found with
  | none => return none
  | some (value, i, width) =>
      match parse value with
      | .ok x =>
          set ((args.take i) ++ (args.drop (i + width)))
          return some x
      | .error cause => throw (.parsingFailed value cause)

/-- Takes the first argument left. -/
def takeFree : Scan String := do
  match ← get with
  | [] => throw .missingArgument
  | a :: rest => set rest; return a

/-- A number read from text. -/
def readNumber (s : String) : Except String Float :=
  match Float.ofDecimalText? s with
  | some n => .ok n
  | none => .error "invalid number"

/-- A palette threshold: a percentage from 0 to 100. -/
def readPercent (s : String) : Except String Float := do
  let n ← readNumber s
  if 0.0 ≤ n && n ≤ 100.0 then return n else throw "threshold out of bounds"

/-- An icon size: a positive number. -/
def readSize (s : String) : Except String Float := do
  let n ← readNumber s
  if n > 0.0 then return n else throw "icon size must be positive"

/-- The options of a run, scanned in their fixed order. -/
def scanOptions : Scan Options := do
  let backend ← takeValue "--backend" BackendKind.parse
  let mode ← takeValue "--mode" Except.ok
  let configPath ← takeValue "--config" Except.ok
  let noVectors ← takeFlag ["--no-vectors"]
  let noVariables ← takeFlag ["--no-variables"]
  let threshold ← takeValue "--threshold" readPercent
  let iconSize ← takeValue "--icon-size" readSize
  let layerNames ← takeFlag ["--layer-names"]
  let diagnostics ← takeFlag ["--diagnostics"]
  let palette ← takeFlag ["--palette"]
  let quiet ← takeFlag ["--quiet"]
  let input ← takeFree
  return ⟨backend, mode, configPath, noVectors, noVariables, threshold, iconSize, layerNames,
    diagnostics, palette, quiet, input⟩

/-- What a command line asks for: help or the version wherever they stand, else a run. -/
def parseArgs (args : List String) : Except ArgError Request := do
  let scan : Scan Request := do
    if ← takeFlag ["-h", "--help"] then return .help
    if ← takeFlag ["-V", "--version"] then return .version
    return .run (← scanOptions)
  return (← scan.run args).1

/-- The settings of a run: the options laid over a configuration. -/
def applyOptions (o : Options) (config : RunConfig) : Except String RunConfig := do
  let mut c := config
  if let some b := o.backend then c := { c with backend := b }
  if let some mode := o.mode then
    c ← match c.backend with
      | .html | .tailwind => (fun m => { c with markupMode := m }) <$> MarkupMode.parse mode
      | .flutter => (fun m => { c with flutterMode := m }) <$> FlutterMode.parse mode
      | .swiftUi => (fun m => { c with swiftuiMode := m }) <$> SwiftUiMode.parse mode
      | .compose => (fun m => { c with composeMode := m }) <$> ComposeMode.parse mode
  if o.noVectors then c := { c with embedVectors := false }
  if o.noVariables then c := { c with useVariables := false }
  if let some t := o.threshold then c := { c with paletteThreshold := t }
  if let some s := o.iconSize then c := { c with iconSizeThreshold := s }
  if o.layerNames then c := { c with showLayerNames := true }
  return c

/-- The settings read from a configuration text, with the options laid over them. -/
def configure (o : Options) (configText : Option String) : Except String RunConfig := do
  let base ← match configText with
    | none => pure RunConfig.default
    | some text =>
        match parseConfig text with
        | .ok c => pure c
        | .error e => throw ("invalid config: " ++ e.message)
  applyOptions o base

/-- The version of the program. -/
def versionText : String := "0.1.0"

/-- The usage text. -/
def helpText : String :=
  "altcode converts a design-tool node tree into framework source code.\n\n" ++
  "USAGE:\n" ++
  "  altcode [OPTIONS] <input.json>    # from file\n" ++
  "  altcode [OPTIONS] -               # from stdin\n\n" ++
  "OPTIONS:\n" ++
  "  -h, --help                        Prints help information\n" ++
  "  -V, --version                     Prints version information\n\n" ++
  "  --backend BACKEND                 Sets the target framework\n" ++
  "                                    [default: html]\n" ++
  "                                    [possible values: html, tailwind, flutter,\n" ++
  "                                    swiftui, compose]\n" ++
  "  --mode MODE                       Sets the generation mode of the backend\n" ++
  "                                    html, tailwind: html, jsx\n" ++
  "                                    flutter: snippet, stateless, full-app\n" ++
  "                                    swiftui: snippet, struct, preview\n" ++
  "                                    compose: snippet, composable\n" ++
  "  --config PATH                     Loads a JSON run configuration.\n" ++
  "                                    Other options override its fields\n" ++
  "  --no-vectors                      Emits icons as shapes instead of inline\n" ++
  "                                    vector markup\n" ++
  "  --no-variables                    Emits literal colors instead of variables\n" ++
  "  --threshold PERCENT               Sets the nearest-palette color threshold\n" ++
  "                                    [default: 5]\n" ++
  "  --icon-size PX                    Sets the largest size at which shapes\n" ++
  "                                    count as icons\n" ++
  "                                    [default: 64]\n" ++
  "  --layer-names                     Annotates the output with layer names\n" ++
  "  --diagnostics                     Prints diagnostics to the stderr\n" ++
  "  --palette                         Prints the palette summary to the stderr\n" ++
  "  --quiet                           Disables log output\n\n" ++
  "ARGS:\n" ++
  "  <input.json>                      Input document\n"

/-- A diagnostic as one line: severity, node in brackets when there is one, message. -/
def diagnosticLine (d : Diagnostic) : String :=
  match d.node with
  | some n => d.severity.name ++ " [" ++ Nat.repr n ++ "]: " ++ d.message
  | none => d.severity.name ++ ": " ++ d.message

/-- A text padded with spaces on the right to a width in characters. -/
def padRight (s : String) (width : Nat) : String := s ++ Text.spaces (width - s.length)

/-- A text padded with spaces on the left to a width in characters. -/
def padLeft (s : String) (width : Nat) : String := Text.spaces (width - s.length) ++ s

/-- A palette entry as one line: the colour, its count, and its variable if any. -/
def paletteLine (e : PaletteEntry) : String :=
  let head := padRight e.hex 10 ++ " " ++ padLeft (Nat.repr e.occurrences) 4
  match e.variableName with
  | some v => head ++ "  " ++ v
  | none => head

/-- The text of a failed run, as the single fatal issue it stands for. -/
def failureLine (f : Failure) : String := diagnosticLine ⟨f.message, .fatal, none⟩

end Command

end Handoff
