/-
Module: Handoff.Config
Purpose: The settings of a conversion run: the target framework and its generation modes,
  whether and how values snap to scales, the palette threshold, and the vector and
  variable options. Every setting has a default, so a partial JSON object is accepted; an
  absent `scales` keeps the utility-class tables, a given one replaces them all. Names of
  frameworks parse ignoring ASCII case; names of modes parse exactly.
Main exports: BackendKind, MarkupMode, FlutterMode, SwiftUiMode, ComposeMode, NumericScale,
  ScaleTable, RunConfig, RunConfig.default, parseConfig, BackendKind.parse,
  RunConfig.scaleTable.
-/
import Handoff.Scale
import Handoff.Design.Schema

namespace Handoff

open Json

/-- Target frameworks. -/
inductive BackendKind where
  | html
  | tailwind
  | flutter
  | swiftUi
  | compose
  deriving DecidableEq, Repr, Inhabited

namespace BackendKind

/-- Every framework, in declaration order. -/
def all : List BackendKind := [.html, .tailwind, .flutter, .swiftUi, .compose]

/-- The identifier of a framework. -/
def id : BackendKind → String
  | .html => "html"
  | .tailwind => "tailwind"
  | .flutter => "flutter"
  | .swiftUi => "swiftui"
  | .compose => "compose"

/-- A framework by identifier, ignoring ASCII case. -/
def parse (s : String) : Except String BackendKind :=
  match all.find? (fun k => NodeAttrs.sameIgnoringAsciiCase k.id s) with
  | some k => .ok k
  | none => .error ("unknown backend '" ++ s ++ "'")

/-- A framework from its variant index among `all`. -/
def ofIndex (i : Nat) : BackendKind := all.getD i .html

end BackendKind

/-- Markup flavour of the web backends. -/
inductive MarkupMode where
  | html
  | jsx
  deriving DecidableEq, Repr, Inhabited

/-- Generation modes of the Flutter backend. -/
inductive FlutterMode where
  | snippet
  | stateless
  | fullApp
  deriving DecidableEq, Repr, Inhabited

/-- Generation modes of the SwiftUI backend. -/
inductive SwiftUiMode where
  | snippet
  | viewStruct
  | preview
  deriving DecidableEq, Repr, Inhabited

/-- Generation modes of the Compose backend. -/
inductive ComposeMode where
  | snippet
  | composable
  deriving DecidableEq, Repr, Inhabited

/-- The error for a mode name that is not known. -/
def unknownMode (s : String) : String := "unknown mode '" ++ s ++ "'"

/-- A markup flavour by its exact name. -/
def MarkupMode.parse : String → Except String MarkupMode
  | "html" => .ok .html
  | "jsx" => .ok .jsx
  | s => .error (unknownMode s)

/-- A Flutter mode by its exact name. -/
def FlutterMode.parse : String → Except String FlutterMode
  | "snippet" => .ok .snippet
  | "stateless" => .ok .stateless
  | "full-app" => .ok .fullApp
  | s => .error (unknownMode s)

/-- A SwiftUI mode by its exact name. -/
def SwiftUiMode.parse : String → Except String SwiftUiMode
  | "snippet" => .ok .snippet
  | "struct" => .ok .viewStruct
  | "preview" => .ok .preview
  | s => .error (unknownMode s)

/-- A Compose mode by its exact name. -/
def ComposeMode.parse : String → Except String ComposeMode
  | "snippet" => .ok .snippet
  | "composable" => .ok .composable
  | s => .error (unknownMode s)

/-- An ordered table from tokens to values. -/
structure NumericScale where
  entries : List (String × Float)

namespace NumericScale

/-- A table from its entries. -/
def ofList (entries : List (String × Float)) : NumericScale := ⟨entries⟩

/-- The values in increasing total order. -/
def values (s : NumericScale) : List Float :=
  (s.entries.map Prod.snd).mergeSort fun a b => a.totalKey ≤ b.totalKey

/-- The first token whose value is the scale's nearest value within the threshold. -/
def nearest (s : NumericScale) (goal thresholdPercent : Float) : Option (String × Float) :=
  match nearestValueWithin goal s.values thresholdPercent with
  | some v => s.entries.find? fun e => e.2 == v
  | none => none

/-- Whether the table is empty. -/
def isEmpty (s : NumericScale) : Bool := s.entries.isEmpty

end NumericScale

/-- The scales of one framework. -/
structure ScaleTable where
  spacing : NumericScale
  fontSize : NumericScale
  radius : NumericScale

namespace ScaleTable

/-- The utility-class framework's default spacing, in pixels. -/
def tailwindSpacing : NumericScale := .ofList
  [("0", 0.0), ("px", 1.0), ("0.5", 2.0), ("1", 4.0), ("1.5", 6.0), ("2", 8.0), ("2.5", 10.0),
    ("3", 12.0), ("3.5", 14.0), ("4", 16.0), ("5", 20.0), ("6", 24.0), ("7", 28.0), ("8", 32.0),
    ("9", 36.0), ("10", 40.0), ("11", 44.0), ("12", 48.0), ("14", 56.0), ("16", 64.0),
    ("20", 80.0), ("24", 96.0), ("28", 112.0), ("32", 128.0), ("36", 144.0), ("40", 160.0),
    ("44", 176.0), ("48", 192.0), ("52", 208.0), ("56", 224.0), ("60", 240.0), ("64", 256.0),
    ("72", 288.0), ("80", 320.0), ("96", 384.0)]

/-- The utility-class framework's default font sizes, in pixels. -/
def tailwindFontSize : NumericScale := .ofList
  [("xs", 12.0), ("sm", 14.0), ("base", 16.0), ("lg", 18.0), ("xl", 20.0), ("2xl", 24.0),
    ("3xl", 30.0), ("4xl", 36.0), ("5xl", 48.0), ("6xl", 60.0), ("7xl", 72.0), ("8xl", 96.0),
    ("9xl", 128.0)]

/-- The utility-class framework's default corner radii, in pixels. -/
def tailwindRadius : NumericScale := .ofList
  [("none", 0.0), ("sm", 2.0), ("DEFAULT", 4.0), ("md", 6.0), ("lg", 8.0), ("xl", 12.0),
    ("2xl", 16.0), ("3xl", 24.0), ("full", 9999.0)]

/-- The utility-class framework's default scales. -/
def tailwind : ScaleTable := ⟨tailwindSpacing, tailwindFontSize, tailwindRadius⟩

end ScaleTable

/-- The settings of a run. -/
structure RunConfig where
  backend : BackendKind
  markupMode : MarkupMode
  flutterMode : FlutterMode
  swiftuiMode : SwiftUiMode
  composeMode : ComposeMode
  /-- Snap values onto the framework's scales. -/
  roundValues : Bool
  /-- Percentage threshold for snapping values. -/
  scaleThreshold : Float
  /-- Percentage threshold for matching named colours. -/
  paletteThreshold : Float
  scales : List (BackendKind × ScaleTable)
  /-- Replace flattenable subtrees by exported vector markup. -/
  embedVectors : Bool
  /-- Resolve variables bound to paints. -/
  useVariables : Bool
  /-- Largest width and height at which a primitive shape counts as an icon. -/
  iconSizeThreshold : Float
  /-- Annotate emitted code with layer names. -/
  showLayerNames : Bool
  maxConcurrency : Nat

namespace RunConfig

/-- The default settings. -/
def default : RunConfig where
  backend := .html
  markupMode := .html
  flutterMode := .snippet
  swiftuiMode := .snippet
  composeMode := .snippet
  roundValues := true
  scaleThreshold := 15.0
  paletteThreshold := 5.0
  scales := [(.tailwind, ScaleTable.tailwind)]
  embedVectors := true
  useVariables := true
  iconSizeThreshold := 64.0
  showLayerNames := false
  maxConcurrency := 8

/-- The scale table of a framework, when rounding is on and one is configured. -/
def scaleTable (c : RunConfig) (k : BackendKind) : Option ScaleTable :=
  if !c.roundValues then none else (c.scales.find? fun e => e.1 == k).map Prod.snd

end RunConfig

/-- Numeric scales: a map from tokens to numbers. -/
def numericScaleShape : Shape := .map .text .double

/-- Scale tables: every table defaulted. -/
def scaleTableShape : Shape :=
  defaultedRecord "ScaleTable"
    [("spacing", numericScaleShape), ("font_size", numericScaleShape),
      ("radius", numericScaleShape)]

/-- Run settings: every setting defaulted. -/
def configShape : Shape :=
  defaultedRecord "RunConfig"
    [("backend", .choice (BackendKind.all.map BackendKind.id)),
      ("markupMode", .choice ["html", "jsx"]),
      ("flutterMode", .choice ["snippet", "stateless", "full-app"]),
      ("swiftuiMode", .choice ["snippet", "struct", "preview"]),
      ("composeMode", .choice ["snippet", "composable"]), ("roundValues", .flag),
      ("scaleThreshold", .double), ("paletteThreshold", .double),
      ("scales", .map (.choice (BackendKind.all.map BackendKind.id)) scaleTableShape),
      ("embedVectors", .flag), ("useVariables", .flag), ("iconSizeThreshold", .double),
      ("showLayerNames", .flag), ("maxConcurrency", .natural 64 "usize")]

/-- A numeric scale read under `numericScaleShape`. -/
def NumericScale.ofDatum (d : Datum) : NumericScale :=
  ⟨d.members.map fun (k, v) => (k, v.doubleOr 0.0)⟩

/-- A scale table read under `scaleTableShape`. -/
def ScaleTable.ofDatum (d : Datum) : ScaleTable :=
  ⟨NumericScale.ofDatum (d.field 0), NumericScale.ofDatum (d.field 1),
    NumericScale.ofDatum (d.field 2)⟩

/-- The variant index of a choice datum, or a fallback. -/
def choiceOr (fallback : Nat) : Datum → Nat
  | .choice i => i
  | _ => fallback

/-- Settings read under `configShape`, defaults for what is absent. -/
def RunConfig.ofDatum (d : Datum) : RunConfig :=
  let base := RunConfig.default
  let flag (i : Nat) (fallback : Bool) : Bool := (d.field i).flagOr fallback
  let double (i : Nat) (fallback : Float) : Float := (d.field i).doubleOr fallback
  { backend := BackendKind.ofIndex (choiceOr 0 (d.field 0))
    markupMode := if choiceOr 0 (d.field 1) == 1 then .jsx else .html
    flutterMode := match choiceOr 0 (d.field 2) with
      | 1 => .stateless
      | 2 => .fullApp
      | _ => .snippet
    swiftuiMode := match choiceOr 0 (d.field 3) with
      | 1 => .viewStruct
      | 2 => .preview
      | _ => .snippet
    composeMode := if choiceOr 0 (d.field 4) == 1 then .composable else .snippet
    roundValues := flag 5 base.roundValues
    scaleThreshold := double 6 base.scaleThreshold
    paletteThreshold := double 7 base.paletteThreshold
    scales := match d.field 8 with
      | .absent => base.scales
      | m => m.members.map fun (k, v) =>
          (BackendKind.ofIndex ((BackendKind.all.map BackendKind.id).idxOf k), ScaleTable.ofDatum v)
    embedVectors := flag 9 base.embedVectors
    useVariables := flag 10 base.useVariables
    iconSizeThreshold := double 11 base.iconSizeThreshold
    showLayerNames := flag 12 base.showLayerNames
    maxConcurrency := (d.field 13).naturalOr base.maxConcurrency }

/-- Settings from their JSON text. -/
def parseConfig (text : String) : Except ReadError RunConfig :=
  (readText configShape configShape text).map RunConfig.ofDatum

end Handoff
