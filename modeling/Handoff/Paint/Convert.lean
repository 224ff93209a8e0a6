/-
Module: Handoff.Paint.Convert
Purpose: Paints and effects of the description from the tool's records. Hidden ones vanish
  silently; a solid paint without a colour, a gradient that cannot be built, and unknown
  types are reported and dropped. A gradient's opacity is already in its stops, so its
  paint has opacity one. A shadow without colour is black at a quarter opacity.
Main exports: convertPaint, convertEffect.
-/
import Handoff.Paint.Gradient
import Handoff.Diagnostic

namespace Handoff

/-- The image scale mode a tool setting names. -/
def imageScaleMode : Option String → ImageScaleMode
  | some "FIT" => .fit
  | some "TILE" => .tile
  | some "CROP" => .crop
  | _ => .fill

/-- A paint of node `node`, or nothing (with the reason reported when it is not hidden). -/
def convertPaint (raw : RawPaint) (node : Nat) : Option PaintEntry × List Diagnostic :=
  if !raw.isVisible then (none, [])
  else
    let kind? : Except String PaintKind :=
      match raw.kind with
      | "SOLID" =>
          match raw.color with
          | some c => .ok (.solid c)
          | none => .error "solid paint without a color; skipped"
      | "IMAGE" => .ok (.image ⟨raw.imageRef.getD "", imageScaleMode raw.scaleMode⟩)
      | k =>
          if k.startsWith "GRADIENT_" then
            match normalizeGradient raw with
            | some g => .ok (.gradient g)
            | none => .error ("unusable " ++ k ++ " paint; skipped")
          else .error ("unsupported paint type: " ++ k)
    match kind? with
    | .error message => (none, [Diagnostic.warning node message])
    | .ok kind =>
        let opacity := match kind with
          | .gradient _ => 1.0
          | _ => raw.opacity.getD 1.0
        (some ⟨kind, opacity, none, raw.boundVariable⟩, [])

/-- The colour of a shadow without one. -/
def defaultShadowColor : Color := ⟨0.0, 0.0, 0.0, 0.25⟩

/-- An effect of node `node`, or nothing (unknown types reported). -/
def convertEffect (raw : RawEffect) (node : Nat) : Option Effect × List Diagnostic :=
  if !raw.isVisible then (none, [])
  else
    let offset := raw.offset.getD ⟨0.0, 0.0⟩
    let shadow : Shadow :=
      ⟨raw.color.getD defaultShadowColor, offset.x, offset.y, raw.radius, raw.spread.getD 0.0⟩
    match raw.kind with
    | "DROP_SHADOW" => (some (.dropShadow shadow), [])
    | "INNER_SHADOW" => (some (.innerShadow shadow), [])
    | "LAYER_BLUR" => (some (.layerBlur raw.radius), [])
    | "BACKGROUND_BLUR" => (some (.backgroundBlur raw.radius), [])
    | other => (none, [Diagnostic.warning node ("unsupported effect type: " ++ other)])

end Handoff
