/-
Module: Handoff.Proofs.Normalize.Flow
Purpose: How the pass places and sizes each node in the flow of the node it ends up in, after
  groups are dissolved. A root is in the flow; any other node is placed at its own coordinates
  exactly when its parent has no flow or it opts out. A node may stretch along an axis only
  when it takes part in a flow: every other request to fill, whether the tool sets it or the
  node's own flow implies it, becomes fixed with exactly one warning for that axis. A flow
  container is marked as holding absolutely placed children exactly when one of its children is
  placed so.
Main exports: requestedSizing, fillDropped, Settled, classifyChild_absolute_iff,
  classifyChild_settles, describeNode_fillDropped, normalizeRoots_flow_placement.
-/
import Handoff.Proofs.Normalize.Placement

namespace Handoff

/-! ### Dropped fill requests -/

/-- The sizing a tool node asks for along an axis: the mode it sets, or else its own flow's
sizing along that axis, or else fixed. -/
def requestedSizing (explicit : Option String) (own : Option SizingMode) : SizingMode :=
  match explicit with
  | some mode => axisSizing (some mode)
  | none => own.getD .fixed

/-- Whether an issue is the warning that node `i` may not fill along `axis`. -/
def fillDropped (i : Nat) (axis : String) (d : Diagnostic) : Bool :=
  d.node == some i &&
    d.message == axis ++ " FILL sizing needs a parent with auto layout; using FIXED"

/-- Node `i` settled its request along `axis` as the flow it sits in allows: a request to fill
is granted only when the node takes part in a flow; otherwise the axis is fixed and exactly one
warning says so. -/
def Settled (diagnostics : List Diagnostic) (i : Nat) (axis : String) (flows : Bool)
    (requested granted : SizingMode) : Prop :=
  if requested = .fill ∧ flows = false then
    granted = .fixed ∧ diagnostics.countP (fillDropped i axis) = 1
  else granted = requested ∧ diagnostics.countP (fillDropped i axis) = 0

/-- Issues that are no dropped fill: each message starts with neither axis's initial, as every
dropped-fill warning does. -/
def NoFillDropped (ds : List Diagnostic) : Prop :=
  ∀ d ∈ ds, d.message.toList.head? ≠ some 'h' ∧ d.message.toList.head? ≠ some 'v'

namespace NoFillDropped

@[simp] theorem nil : NoFillDropped [] := by simp [NoFillDropped]

@[simp] theorem append {ds ds' : List Diagnostic} :
    NoFillDropped (ds ++ ds') ↔ NoFillDropped ds ∧ NoFillDropped ds' := by
  simp only [NoFillDropped, List.mem_append]
  constructor
  · intro both
    exact ⟨fun d mem => both d (.inl mem), fun d mem => both d (.inr mem)⟩
  · rintro ⟨early, late⟩ d (mem | mem)
    · exact early d mem
    · exact late d mem

/-- Along the two axes the pass sizes, none of these issues is a dropped fill. -/
theorem countP_eq_zero {ds : List Diagnostic} (none_ : NoFillDropped ds) (i : Nat) {axis : String}
    (named : axis = "horizontal" ∨ axis = "vertical") : ds.countP (fillDropped i axis) = 0 := by
  rw [List.countP_eq_zero]
  intro d mem dropped
  simp only [fillDropped, Bool.and_eq_true, beq_iff_eq] at dropped
  have lead := none_ d mem
  rw [dropped.2] at lead
  rcases named with rfl | rfl <;> simp at lead

end NoFillDropped

theorem convertPaint_noFillDropped (raw : RawPaint) (node : Nat) :
    NoFillDropped (convertPaint raw node).2 := by
  intro d mem
  unfold convertPaint at mem
  (repeat' split at mem) <;> simp_all [Diagnostic.warning]

theorem convertPaints_noFillDropped (node : Nat) :
    ∀ ps : List RawPaint, NoFillDropped (convertPaints node ps).2
  | [] => NoFillDropped.nil
  | p :: rest => by
      simp only [convertPaints, NoFillDropped.append]
      exact ⟨convertPaint_noFillDropped p node, convertPaints_noFillDropped node rest⟩

theorem convertEffects_noFillDropped (node : Nat) :
    ∀ es : List RawEffect, NoFillDropped (convertEffects node es).2
  | [] => NoFillDropped.nil
  | e :: rest => by
      simp only [convertEffects, NoFillDropped.append]
      refine ⟨fun d mem => ?_, convertEffects_noFillDropped node rest⟩
      unfold convertEffect at mem
      (repeat' split at mem) <;> simp_all [Diagnostic.warning]

theorem firstPaint_noFillDropped (node : Nat) :
    ∀ ps : List RawPaint, NoFillDropped (firstPaint node ps).2
  | [] => NoFillDropped.nil
  | p :: rest => by
      have head := convertPaint_noFillDropped p node
      unfold firstPaint
      split
      · rename_i e ds converted
        rw [converted] at head
        exact head
      · rename_i ds converted
        rw [converted] at head
        simp only [NoFillDropped.append]
        exact ⟨head, firstPaint_noFillDropped node rest⟩

theorem segmentRuns_noFillDropped (raw : NodeAttrs) (id : Nat) :
    ∀ (segments : List RawTextSegment) (fills : List PaintEntry),
      NoFillDropped (segmentRuns raw id segments fills).2.2
  | [], _ => NoFillDropped.nil
  | s :: rest, fills => by
      simp only [segmentRuns, NoFillDropped.append]
      exact ⟨firstPaint_noFillDropped id s.fills, segmentRuns_noFillDropped raw id rest _⟩

theorem buildText_noFillDropped (raw : NodeAttrs) (fills : List PaintEntry) (id : Nat) :
    NoFillDropped (buildText raw fills id).2.2 := by
  have segments := segmentRuns_noFillDropped raw id raw.segments fills
  simp only [buildText]
  split
  · exact NoFillDropped.nil
  · split
    · exact segments
    · simp only [NoFillDropped.append]
      exact ⟨segments, by simp [NoFillDropped, Diagnostic.warning]⟩

theorem classifyLayout_noFillDropped (raw : NodeAttrs) (id : Nat) :
    NoFillDropped (classifyLayout raw id).2 := by
  intro d mem
  unfold classifyLayout at mem
  split at mem <;> simp only at mem <;> (try split at mem) <;> simp_all [Diagnostic.warning]

/-! ### Placement and sizing of one node -/

/-- A node is placed at its own coordinates exactly when its parent has no flow or it opts
out of it. -/
theorem classifyChild_absolute_iff (raw : NodeAttrs) (own parentLayout : Option LayoutDescriptor)
    (id : Nat) :
    (classifyChild raw own parentLayout id).1.1 = .absolute ↔
      parentLayout = none ∨ raw.layoutPositioning = some "ABSOLUTE" := by
  simp only [classifyChild]
  cases parentLayout with
  | none => simp
  | some l =>
      by_cases optsOut : raw.layoutPositioning = some "ABSOLUTE" <;> simp [optsOut]

theorem settleFill_eq (id : Nat) (axis : String) (flows : Bool) (mode : SizingMode) :
    settleFill id axis flows mode =
      if mode = .fill ∧ flows = false then
        (.fixed, [Diagnostic.warning id
          (axis ++ " FILL sizing needs a parent with auto layout; using FIXED")])
      else (mode, []) := by
  unfold settleFill
  by_cases fills : mode = .fill <;> cases flows <;> simp [fills]

/-- Each axis of a node is settled as its flow allows, and the warnings for both axes are the
only issues placing it reports. -/
theorem classifyChild_settles (raw : NodeAttrs) (own parentLayout : Option LayoutDescriptor)
    (i : Nat) :
    let r := classifyChild raw own parentLayout i
    let flows := parentLayout.isSome && r.1.1 == .flow
    Settled r.2 i "horizontal" flows
        (requestedSizing raw.layoutSizingHorizontal (own.map LayoutDescriptor.horizontalSizing))
        r.1.2.horizontal ∧
      Settled r.2 i "vertical" flows
        (requestedSizing raw.layoutSizingVertical (own.map LayoutDescriptor.verticalSizing))
        r.1.2.vertical := by
  intro r flows
  -- both axes go through one settling step each, with the flow the node takes part in
  have shape : r.1.2.horizontal = (settleFill i "horizontal" flows
        (requestedSizing raw.layoutSizingHorizontal (own.map LayoutDescriptor.horizontalSizing))).1 ∧
      r.1.2.vertical = (settleFill i "vertical" flows
        (requestedSizing raw.layoutSizingVertical (own.map LayoutDescriptor.verticalSizing))).1 ∧
      r.2 = (settleFill i "horizontal" flows
          (requestedSizing raw.layoutSizingHorizontal (own.map LayoutDescriptor.horizontalSizing))).2 ++
        (settleFill i "vertical" flows
          (requestedSizing raw.layoutSizingVertical (own.map LayoutDescriptor.verticalSizing))).2 := by
    exact ⟨rfl, rfl, rfl⟩
  obtain ⟨horizontal, vertical, issues⟩ := shape
  rw [horizontal, vertical, issues]
  constructor <;> unfold Settled <;>
    simp only [settleFill_eq] <;> split_ifs <;> simp_all [fillDropped, Diagnostic.warning]

/-- Of what describing a node reports, only the settling of its axes can be a dropped fill. -/
theorem describeNode_fillDropped (a : NodeAttrs) (parent : Option ParentContext) (absorbed : Float)
    (i : Nat) (u : String) {axis : String} (named : axis = "horizontal" ∨ axis = "vertical") :
    (describeNode a parent absorbed i u).2.2.countP (fillDropped i axis) =
      (classifyChild a (contextOf a parent absorbed i).layout (parent.bind ParentContext.layout)
        i).2.countP (fillDropped i axis) := by
  obtain ⟨others, none_, split⟩ : ∃ others, NoFillDropped others ∧
      (describeNode a parent absorbed i u).2.2 = others ++
        (classifyChild a (contextOf a parent absorbed i).layout (parent.bind ParentContext.layout)
          i).2 := by
    refine ⟨_, ?_, rfl⟩
    simp only [NoFillDropped.append]
    refine ⟨⟨⟨⟨⟨⟨⟨?kind, ?bounds⟩, ?singular⟩, convertPaints_noFillDropped _ _⟩,
      convertPaints_noFillDropped _ _⟩, convertEffects_noFillDropped _ _⟩, ?text⟩, ?layout⟩
    case kind => split <;> simp [NoFillDropped, Diagnostic.warning]
    case bounds =>
      split
      · split <;> simp [NoFillDropped, Diagnostic.warning]
      · simp [NoFillDropped, Diagnostic.warning]
    case singular => split_ifs <;> simp [NoFillDropped, Diagnostic.warning]
    -- text and flow are read only for the kinds that have them
    case text =>
      generalize instDecidableEqBool _ true = isText
      cases isText
      · exact NoFillDropped.nil
      · exact buildText_noFillDropped _ _ _
    case layout =>
      generalize instDecidableEqBool _ true = isContainer
      cases isContainer
      · exact NoFillDropped.nil
      · exact classifyLayout_noFillDropped _ _
  rw [split, List.countP_append, none_.countP_eq_zero i named, Nat.zero_add]

/-! ### Settling, read at the level of a whole run -/

namespace Settled

variable {ds ds' : List Diagnostic} {i : Nat} {axis : String} {flows : Bool}
  {requested granted : SizingMode}

/-- Settling reads the issues only through the warnings about dropped fills. -/
theorem of_countP_eq (settled : Settled ds i axis flows requested granted)
    (same : ds'.countP (fillDropped i axis) = ds.countP (fillDropped i axis)) :
    Settled ds' i axis flows requested granted := by
  unfold Settled at settled ⊢
  rw [same]
  exact settled

/-- A granted fill means the node takes part in a flow. -/
theorem flows_of_fill (settled : Settled ds i axis flows requested granted)
    (fill : granted = .fill) : flows = true := by
  unfold Settled at settled
  split_ifs at settled with dropped
  · rw [fill] at settled
    cases settled.1
  · rw [fill] at settled
    cases flows
    · exact absurd ⟨settled.1.symm, rfl⟩ dropped
    · rfl

end Settled

/-- Among the issues of a run whose placements have distinct ids, those about the node of one
placement are that placement's own. -/
theorem countP_issues_of_mem {ps : List Placement} (distinct : (ps.map Placement.id).Nodup)
    {p : Placement} (mem : p ∈ ps) (f : Diagnostic → Bool)
    (about : ∀ d, f d = true → d.node = some p.id) :
    (ps.flatMap Placement.issues).countP f = p.issues.countP f := by
  obtain ⟨before, after, rfl⟩ := List.append_of_mem mem
  -- what the other placements report is about other nodes
  have away : ∀ l : List Placement, (∀ q ∈ l, q.id ≠ p.id) →
      (l.flatMap Placement.issues).countP f = 0 := by
    intro l others
    rw [List.countP_eq_zero]
    intro d reported counted
    obtain ⟨q, atQ, ofQ⟩ := List.mem_flatMap.1 reported
    have named := (describeNode_about q.attrs q.parent q.absorbed q.id "" d ofQ).2
    rw [about d counted, Option.some.injEq] at named
    exact others q atQ named.symm
  simp only [List.map_append, List.map_cons, List.nodup_append, List.nodup_cons,
    List.mem_cons, List.mem_map] at distinct
  obtain ⟨-, ⟨notAfter, -⟩, apart⟩ := distinct
  have notBefore : ∀ q ∈ before, q.id ≠ p.id := fun q atQ same =>
    apart q.id ⟨q, atQ, rfl⟩ p.id (.inl rfl) same
  have notAfter' : ∀ q ∈ after, q.id ≠ p.id := fun q atQ same => notAfter ⟨q, atQ, same⟩
  rw [List.flatMap_append, List.flatMap_cons, List.countP_append, List.countP_append,
    away before notBefore, away after notAfter', Nat.zero_add, Nat.add_zero]

/-- A placement inside another sits, in the tree, under that other's node, whose flow is the
context's flow marked; so the tree's parent of the node has a flow exactly when the context the
node was described under has one. -/
theorem parentLayout_isSome {tree : AltTree} {ps : List Placement}
    (placed : ∀ q ∈ ps, ∃ children u,
      tree.get? q.id = some (placedNode tree q.parent q.absorbed q.id q.attrs children u))
    {p : Placement} (mem : p ∈ ps)
    (within : p.parent = none ∨ ∃ q ∈ ps, p.parent = some q.context) :
    ((tree.parentOf p.id).bind AltNode.layout).isSome = (p.parent.bind ParentContext.layout).isSome := by
  obtain ⟨children, u, atP⟩ := placed p mem
  rcases within with root | ⟨q, atQ, under⟩
  · simp [AltTree.parentOf, atP, root]
  · obtain ⟨children', u', atQ'⟩ := placed q atQ
    simp [AltTree.parentOf, atP, under, Placement.context, contextOf_id, atQ', placedNode_layout]

/-- A node placed with a fill along either axis takes part in the flow of a parent with a
layout. -/
theorem placedNode_flows_of_fill {t : AltTree} {parent : Option ParentContext} {absorbed : Float}
    {k : Nat} {a : NodeAttrs} {children : List Nat} {u : String}
    (fill : (placedNode t parent absorbed k a children u).sizing.horizontal = .fill ∨
      (placedNode t parent absorbed k a children u).sizing.vertical = .fill) :
    (parent.bind ParentContext.layout).isSome = true ∧
      (placedNode t parent absorbed k a children u).positioning = .flow := by
  obtain ⟨settledH, settledV⟩ := classifyChild_settles a (contextOf a parent absorbed k).layout
    (parent.bind ParentContext.layout) k
  have joined : ((parent.bind ParentContext.layout).isSome &&
      (classifyChild a (contextOf a parent absorbed k).layout
        (parent.bind ParentContext.layout) k).1.1 == .flow) = true := by
    rw [placedNode_sizing] at fill
    rcases fill with horizontal | vertical
    · exact settledH.flows_of_fill horizontal
    · exact settledV.flows_of_fill vertical
  simp only [Bool.and_eq_true, beq_iff_eq] at joined
  -- a parent with a layout is a parent, and the node is placed as that parent's flow says
  have inner : parent.isSome = true := by
    cases parent with
    | none => simp at joined
    | some _ => rfl
  rw [placedNode_positioning, if_pos inner]
  exact ⟨joined.1, joined.2⟩

/-- In the tree a pass builds, a node that fills along either axis is placed in the flow. -/
theorem normalizeRoots_fill_in_flow (roots : List DesignNode) :
    ∃ tree diagnostics, normalizeRoots roots false = .ok (tree, diagnostics) ∧
      ∀ i n, tree.get? i = some n → (n.sizing.horizontal = .fill ∨ n.sizing.vertical = .fill) →
        n.positioning = .flow := by
  obtain ⟨tree, diagnostics, run, ids, placed, -⟩ := normalizeRoots_placed roots
  refine ⟨tree, diagnostics, run, fun i n found fill => ?_⟩
  obtain ⟨p, atI, -⟩ := placement_of_get? ids found
  obtain ⟨mem, rfl⟩ := placement_of_getElem? ids atI
  obtain ⟨children, u, atP⟩ := placed p mem
  rw [found, Option.some.injEq] at atP
  subst atP
  exact (placedNode_flows_of_fill fill).2

/-- A pass over a selection that is not cancelled succeeds and places each node it builds in
the flow of the node it ends up in, groups dissolved: a root is in the flow; any other node is
placed at its own coordinates exactly when its parent has no flow or it opts out; each axis is
settled as its flow allows, so a node stretches only where it takes part in its parent's flow,
and every other request to fill, set or implied by its own flow, is fixed with one warning for
that axis; and a flow is marked as holding absolutely placed children exactly when one of its
children is placed so. The node at id `i` stands for the `i`-th node the selection shows. -/
theorem normalizeRoots_flow_placement (roots : List DesignNode) :
    ∃ tree diagnostics, normalizeRoots roots false = .ok (tree, diagnostics) ∧
      ∀ i n a, tree.get? i = some n → (shown roots)[i]? = some a →
        let parentLayout := (tree.parentOf i).bind AltNode.layout
        let flows := parentLayout.isSome && n.positioning == .flow
        (n.parent = none → n.positioning = .flow) ∧
        (n.parent.isSome →
          (n.positioning = .absolute ↔ parentLayout = none ∨ a.layoutPositioning = some "ABSOLUTE")) ∧
        Settled diagnostics i "horizontal" flows
          (requestedSizing a.layoutSizingHorizontal (n.layout.map LayoutDescriptor.horizontalSizing))
          n.sizing.horizontal ∧
        Settled diagnostics i "vertical" flows
          (requestedSizing a.layoutSizingVertical (n.layout.map LayoutDescriptor.verticalSizing))
          n.sizing.vertical ∧
        ((n.sizing.horizontal = .fill ∨ n.sizing.vertical = .fill) →
          n.parent.isSome ∧ parentLayout.isSome ∧ n.positioning = .flow) ∧
        ∀ l, n.layout = some l → (l.hasAbsoluteChildren = true ↔
          ∃ c ∈ n.children, ∃ m, tree.get? c = some m ∧ m.positioning = .absolute) := by
  obtain ⟨tree, diagnostics, run, ids, placed, reported⟩ := normalizeRoots_placed roots
  refine ⟨tree, diagnostics, run, fun i n a found shownAt => ?_⟩
  intro parentLayout flows
  -- the placement of node `i`
  obtain ⟨p, atI, shownP⟩ := placement_of_get? ids found
  obtain ⟨mem, pid⟩ := placement_of_getElem? ids atI
  have pattrs : p.attrs = a := Option.some.inj (shownP.symm.trans shownAt)
  obtain ⟨children, u, atP⟩ := placed p mem
  rw [pid, found, Option.some.injEq] at atP
  subst atP pattrs
  have within := placements_parent none [] 0 roots p mem
  have hasFlow : parentLayout.isSome = (p.parent.bind ParentContext.layout).isSome := by
    show ((tree.parentOf i).bind AltNode.layout).isSome = _
    rw [← pid]
    exact parentLayout_isSome placed mem within
  -- what placing the node decided, and that nothing else in the run is about its fills
  have sameFlows : flows = ((p.parent.bind ParentContext.layout).isSome &&
      (classifyChild p.attrs (contextOf p.attrs p.parent p.absorbed i).layout
        (p.parent.bind ParentContext.layout) i).1.1 == .flow) := by
    simp only [flows, hasFlow, placedNode_positioning]
    cases p.parent <;> simp
  have counted : ∀ axis, axis = "horizontal" ∨ axis = "vertical" →
      diagnostics.countP (fillDropped i axis) =
        (classifyChild p.attrs (contextOf p.attrs p.parent p.absorbed i).layout
          (p.parent.bind ParentContext.layout) i).2.countP (fillDropped i axis) := by
    intro axis named
    rw [reported, countP_issues_of_mem (by rw [ids]; exact List.nodup_range) mem _
      fun d dropped => by
        simp only [fillDropped, Bool.and_eq_true, beq_iff_eq] at dropped
        rw [pid]; exact dropped.1]
    unfold Placement.issues
    rw [pid, describeNode_fillDropped _ _ _ _ _ named]
  have ownSizing : (placedNode tree p.parent p.absorbed i p.attrs children u).layout.map
        LayoutDescriptor.horizontalSizing =
        (contextOf p.attrs p.parent p.absorbed i).layout.map LayoutDescriptor.horizontalSizing ∧
      (placedNode tree p.parent p.absorbed i p.attrs children u).layout.map
        LayoutDescriptor.verticalSizing =
        (contextOf p.attrs p.parent p.absorbed i).layout.map LayoutDescriptor.verticalSizing := by
    simp only [placedNode_layout, Option.map_map]
    exact ⟨rfl, rfl⟩
  obtain ⟨settledH, settledV⟩ := classifyChild_settles p.attrs
    (contextOf p.attrs p.parent p.absorbed i).layout (p.parent.bind ParentContext.layout) i
  have grantedH : Settled diagnostics i "horizontal" flows
      (requestedSizing p.attrs.layoutSizingHorizontal
        ((placedNode tree p.parent p.absorbed i p.attrs children u).layout.map
          LayoutDescriptor.horizontalSizing))
      (placedNode tree p.parent p.absorbed i p.attrs children u).sizing.horizontal := by
    rw [ownSizing.1, sameFlows]
    exact settledH.of_countP_eq (counted _ (.inl rfl))
  have grantedV : Settled diagnostics i "vertical" flows
      (requestedSizing p.attrs.layoutSizingVertical
        ((placedNode tree p.parent p.absorbed i p.attrs children u).layout.map
          LayoutDescriptor.verticalSizing))
      (placedNode tree p.parent p.absorbed i p.attrs children u).sizing.vertical := by
    rw [ownSizing.2, sameFlows]
    exact settledV.of_countP_eq (counted _ (.inr rfl))
  refine ⟨fun root => ?_, fun inner => ?_, grantedH, grantedV, fun fill => ?_, fun l flowOf => ?_⟩
  · -- a root is in the flow
    simp only [placedNode_parent, Option.map_eq_none_iff] at root
    simp [placedNode_positioning, root]
  · -- any other node is placed by the flow it was described under
    simp only [placedNode_parent, Option.isSome_map] at inner
    obtain ⟨c, atC⟩ := Option.isSome_iff_exists.1 inner
    have noFlow : parentLayout = none ↔ c.layout = none := by
      rw [← Option.not_isSome_iff_eq_none, ← Option.not_isSome_iff_eq_none, hasFlow, atC]
      rfl
    rw [placedNode_positioning, if_pos inner, classifyChild_absolute_iff, noFlow, atC]
    rfl
  · -- a granted fill needs a flow to fill
    obtain ⟨hasLayout, inFlow⟩ := placedNode_flows_of_fill fill
    refine ⟨?_, hasFlow ▸ hasLayout, inFlow⟩
    rw [placedNode_parent, Option.isSome_map]
    cases atParent : p.parent with
    | none => simp [atParent] at hasLayout
    | some _ => rfl
  · -- the mark reads how the children are placed
    simp only [placedNode_layout, Option.map_eq_some_iff] at flowOf
    obtain ⟨l₀, -, rfl⟩ := flowOf
    simp only [markAbsoluteChildren, List.any_eq_true, List.mem_map, List.mem_filterMap,
      beq_iff_eq, placedNode_children]
    constructor
    · rintro ⟨_, ⟨m, ⟨c, atC, found⟩, rfl⟩, absolute⟩
      exact ⟨c, atC, m, found, absolute⟩
    · rintro ⟨c, atC, m, found, absolute⟩
      exact ⟨_, ⟨m, ⟨c, atC, found⟩, rfl⟩, absolute⟩

end Handoff
