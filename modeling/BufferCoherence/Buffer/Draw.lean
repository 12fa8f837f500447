import BufferCoherence.Buffer.Copying

/-!
# Draws

What a buffer does before a draw reads it. The layout of the draw is analysed; then the object is
brought up to date, unless nothing changed. A buffer whose layout changes too often, or whose
vertices are converted as a whole too often, gives its object up for good.

Barriers and the view of the object are here too: they are what a draw asks for besides the bytes.
-/

namespace BufferCoherence.Site

variable {δ : Type} [Device δ]

/-! ## 1. Analysis -/

/-- The layout of a draw analysed; the answer is whether the conversion map changed. -/
def analyseLayout (draw : Draw) : Step (Site δ) Bool := do
  let s ← get
  let b := s.buffer
  let fixup := (Device.caps s.machine.device).fixups draw.vertexShader
  let a := b.conversion.analyse b.id draw.layout fixup (b.usage.has Usage.staticDecl)
  noteAll a.notices
  change fun b => { b with conversion := a.conversion }
  pure a.changed

/-- A draw counted that changed nothing. -/
def countQuietDraw : Step (Site δ) Unit :=
  change fun b => { b with hysteresis := b.hysteresis.countQuietDraw }

/-- An event counted; the answer is whether the buffer has to give up its object. -/
def countEvent (event : Hysteresis → Verdict × Hysteresis) : Step (Site δ) Bool := do
  let b ← current
  let (action, hysteresis) := event b.hysteresis
  change fun b => { b with hysteresis }
  pure (action == .dropObject)

/-! ## 2. Loading -/

/-- The object brought up to date. A failure is only told. -/
def loadPending : Step (Site δ) Unit := do
  match ← refreshObject.outcome with
  | .ok () => pure ()
  | .error f =>
    let b ← current
    note (.objectLoadFailed b.id f)

/-- The bytes of the whole buffer loaded again, since its vertices are converted in another way. -/
def reload : Step (Site δ) Unit := do
  let b ← current
  note (.reloading b.id)
  match ← refreshShadow.outcome with
  | .ok () =>
    declareStale Location.gpuObject
    loadPending
  | .error f => note (.shadowLoadFailed b.id f)

/-- The conversion map changed. -/
def loadChanged : Step (Site δ) Unit := do
  let exhausted ← countEvent Hysteresis.countDeclaration
  let b ← current
  if exhausted || (b.isConverted && b.isDynamic) then
    note (.stopsConverting b.id)
    dropObject
  else reload

/-- Spans changed, and the conversion map did not. -/
def loadDirty : Step (Site δ) Unit := do
  let b ← current
  if b.isConverted && b.dirty.isFull then
    if ← countEvent Hysteresis.countConversion then
      note (.tooManyConversions b.id)
      dropObject
    else loadPending
  else
    countQuietDraw
    loadPending

/-- The layout analysed, and the object brought up to date where something changed. -/
def loadPrepared (draw : Option Draw) : Step (Site δ) Unit := do
  let changed ← match draw with
    | some draw => analyseLayout draw
    | none => pure false
  let b ← current
  if changed then loadChanged
  else if b.dirty.isPending then loadDirty
  else countQuietDraw

/-- The object made current for a draw; without a draw, only pending changes are uploaded. -/
def readyForDraw (draw : Option Draw) : Step (Site δ) Unit := do
  let b ← current
  if b.mapCount > 0 && b.mapBase.isSome then note (.mappedThroughObject b.id)
  else
    if b.mapCount > 0 then note (.loadingMapped b.id)
    if b.objectAllowed then
      if ← reserveObject then loadPrepared draw else note (.prepareFailed b.id)

/-! ## 3. Barriers -/

/-- The barrier that a use asks for, recorded. The uses are tracked also while there is no
    object. -/
def barrier (bind : BindFlags) : Step (Site δ) Unit := do
  let b ← current
  match b.backend with
  | .modern tracker =>
    let (transition, tracker) := tracker.request bind
    change fun b => { b with backend := .modern tracker }
    match transition, b.object with
    | none, _ => pure ()
    | some _, none => note (.barrierWithoutObject b.id)
    | some t, some o =>
      note (.barrier t.source t.target b.id)
      onDevice (Device.recordBarrier ⟨o.handle, o.offset, b.size, t.source, t.target⟩)
  | _ => note (.noBarrierNeeded b.id)

/-- The view of the object, as the buffer's own user remembers it. -/
def objectInfo : Step (Site δ) (Option ObjectView) := do
  let s ← get
  match s.buffer.backend, s.buffer.object with
  | .modern _, some o =>
    match (s.machine.users.cell s.buffer.user).view with
    | some view => pure (some view)
    | none =>
      let (view, users) := o.refresh s.machine.users s.buffer.user
      set { s with machine.users := users }
      pure (some view)
  | _, _ => pure none

end BufferCoherence.Site
