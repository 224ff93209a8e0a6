/-
Module: Handoff.Proofs.Paint.Opacity
Purpose: Where the opacity of a paint goes. A solid paint keeps it on its entry, and the colour
  read from the entry folds it in clamped to [0, 1]. A gradient folds it into the alpha of every
  stop as it is, not clamped, and its entry has opacity one, so the colours read from its stops
  (the CSS and native gradients, the colour of a text filled with one) carry it once, by the
  other rule. The two rules agree on opacities from zero to one, where clamping changes nothing,
  and part outside: at opacity two a half-transparent stop comes out opaque, while a solid of
  the same colour stays half transparent.
Main exports: Float.clampTo_unit, normalizeGradient_stops, convertPaint_solid,
  convertPaint_gradient, OpacityFolded, convertPaint_folds_opacity,
  doubleOpacityGradient_stop_opaque.
-/
import Handoff.Paint.Convert
import Handoff.Proofs.Float.Order

namespace Float

theorem isNaN_eq_false_of_le {x y : Float} (h : x ≤ y) : x.isNaN = false ∧ y.isNaN = false := by
  rw [Float.le_iff_unpack] at h
  simp only [Float.isNaN, Float.Model.isNaN]
  -- NaN is at most nothing and nothing is at most NaN
  cases u : x.toModel.unpack <;> cases v : y.toModel.unpack <;> rw [u, v] at h <;>
    first | exact ⟨rfl, rfl⟩ | cases h

/-- Clamping to [0, 1] leaves an opacity in that range as it is. -/
theorem clampTo_unit {o : Float} (low : 0.0 ≤ o) (high : o ≤ 1.0) : o.clampTo 0.0 1.0 = o := by
  obtain ⟨zero, number⟩ := isNaN_eq_false_of_le low
  have one := (isNaN_eq_false_of_le high).2
  have notBelow : ¬o < 0.0 := not_lt_of_le_of_number zero number low
  have notAbove : ¬1.0 < o := not_lt_of_le_of_number number one high
  simp [clampTo, notBelow, notAbove]

end Float

namespace Handoff

/-! ### Gradients -/

/-- The kinds of paint a gradient is built from. -/
theorem normalizeGradient_kind {raw : RawPaint} {g : Gradient} (built : normalizeGradient raw = some g) :
    raw.kind = "GRADIENT_LINEAR" ∨ raw.kind = "GRADIENT_RADIAL" ∨ raw.kind = "GRADIENT_DIAMOND" ∨
      raw.kind = "GRADIENT_ANGULAR" := by
  unfold normalizeGradient at built
  -- every other kind of paint gives no gradient
  repeat' split at built
  all_goals simp_all

/-- Every kind of gradient has the normalised stops of its paint. -/
theorem normalizeGradient_stops {raw : RawPaint} {g : Gradient} (built : normalizeGradient raw = some g) :
    g.stops = gradientStops raw := by
  unfold normalizeGradient at built
  simp only at built
  repeat' split at built
  -- each branch builds its gradient on the stops, or builds none
  all_goals first | (cases built; rfl) | cases built

/-- The colours of a gradient's stops: each stop's colour with the paint opacity folded into its
alpha as it is. -/
theorem effectiveColor_gradientStops (raw : RawPaint) :
    (gradientStops raw).map GradientStop.effectiveColor = raw.gradientStops.map fun s =>
      { s.color with a := (s.color.a.toBinary64 * raw.opacity.getD 1.0).toBinary32 } := by
  simp [gradientStops, GradientStop.effectiveColor]

/-- For an opacity from zero to one, a stop's colour is the stop colour at that opacity, as a
solid paint of that colour gives it. -/
theorem effectiveColor_gradientStops_of_unit (raw : RawPaint) (low : 0.0 ≤ raw.opacity.getD 1.0)
    (high : raw.opacity.getD 1.0 ≤ 1.0) :
    (gradientStops raw).map GradientStop.effectiveColor =
      raw.gradientStops.map fun s => s.color.withOpacity (raw.opacity.getD 1.0) := by
  rw [effectiveColor_gradientStops]
  simp [Color.withOpacity, Float.clampTo_unit low high]

/-! ### Paint entries -/

section Entries

variable {raw : RawPaint} (node : Nat) (visible : raw.isVisible = true)
include visible

theorem convertPaint_solid (solid : raw.kind = "SOLID") {c : Color} (colored : raw.color = some c) :
    convertPaint raw node = (some ⟨.solid c, raw.opacity.getD 1.0, none, raw.boundVariable⟩, []) := by
  simp [convertPaint, visible, solid, colored]

theorem convertPaint_gradient {g : Gradient} (built : normalizeGradient raw = some g) :
    convertPaint raw node = (some ⟨.gradient g, 1.0, none, raw.boundVariable⟩, []) := by
  rcases normalizeGradient_kind built with kind | kind | kind | kind <;>
    simp [convertPaint, visible, kind, built]

end Entries

/-! ### Where the opacity of a paint goes -/

/-- Where the opacity \x60o\x60 of a raw paint goes. A solid's entry keeps it, and the entry's
colour has alpha \x60a * clamp(o, 0, 1)\x60; a gradient's entry has opacity one and each stop has
alpha \x60a * o\x60; for \x60o\x60 from zero to one, a stop has the colour a solid of its colour at
that opacity has. -/
structure OpacityFolded (raw : RawPaint) (node : Nat) : Prop where
  solid : ∀ c, raw.kind = "SOLID" → raw.color = some c →
    ∃ e, convertPaint raw node = (some e, []) ∧ e.opacity = raw.opacity.getD 1.0 ∧
      e.solidColor =
        some { c with a := (c.a.toBinary64 * (raw.opacity.getD 1.0).clampTo 0.0 1.0).toBinary32 }
  gradient : ∀ g, normalizeGradient raw = some g →
    ∃ e, convertPaint raw node = (some e, []) ∧ e.kind = .gradient g ∧ e.opacity = 1.0 ∧
      g.stops.map GradientStop.effectiveColor = raw.gradientStops.map fun s =>
        { s.color with a := (s.color.a.toBinary64 * raw.opacity.getD 1.0).toBinary32 }
  agree : ∀ g, normalizeGradient raw = some g → 0.0 ≤ raw.opacity.getD 1.0 →
    raw.opacity.getD 1.0 ≤ 1.0 →
      g.stops.map GradientStop.effectiveColor =
        raw.gradientStops.map fun s => s.color.withOpacity (raw.opacity.getD 1.0)

/-- A shown paint's opacity is folded into its colours once: clamped for a solid, as it is for
the stops of a gradient, and the two agree on opacities from zero to one. -/
theorem convertPaint_folds_opacity (raw : RawPaint) (node : Nat) (visible : raw.isVisible = true) :
    OpacityFolded raw node where
  solid _ solid colored := ⟨_, convertPaint_solid node visible solid colored, rfl, rfl⟩
  gradient _ built := ⟨_, convertPaint_gradient node visible built, rfl, rfl, by
    rw [normalizeGradient_stops built, effectiveColor_gradientStops]⟩
  agree _ built low high := by
    rw [normalizeGradient_stops built, effectiveColor_gradientStops_of_unit raw low high]

/-- Red at half alpha. -/
def halfRed : Color := ⟨1.0, 0.0, 0.0, 0.5⟩

/-- A linear gradient at opacity two over one stop of red at half alpha. -/
def doubleOpacityGradient : RawPaint where
  kind := "GRADIENT_LINEAR"
  visible := none
  opacity := some 2.0
  color := none
  gradientStops := [⟨0.0, halfRed⟩]
  gradientHandlePositions := []
  imageRef := none
  scaleMode := none
  boundVariable := none

/-- At opacity two the stop of that gradient comes out opaque, while red at half alpha painted
solid at opacity two keeps half alpha. -/
theorem doubleOpacityGradient_stop_opaque :
    doubleOpacityGradient.isVisible = true ∧
      (∃ g, normalizeGradient doubleOpacityGradient = some g ∧
        g.stops.map (fun s => s.effectiveColor.a) = [1.0]) ∧
      (halfRed.withOpacity 2.0).a = 0.5 := by
  have visible : doubleOpacityGradient.isVisible = true := rfl
  obtain ⟨g, built⟩ : ∃ g, normalizeGradient doubleOpacityGradient = some g := ⟨_, rfl⟩
  obtain ⟨e, -, -, -, stops⟩ := (convertPaint_folds_opacity doubleOpacityGradient 0 visible).gradient g built
  have alphas : g.stops.map (fun s => s.effectiveColor.a) =
      [(halfRed.a.toBinary64 * 2.0).toBinary32] := by
    rw [show (fun s : GradientStop => s.effectiveColor.a) = Color.a ∘ GradientStop.effectiveColor
      from rfl, ← List.map_map, stops]
    rfl
  refine ⟨visible, ⟨g, built, ?_⟩, by decide +kernel⟩
  rw [alphas]
  decide +kernel

end Handoff
