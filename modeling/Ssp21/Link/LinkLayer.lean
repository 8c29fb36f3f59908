import Ssp21.Foundation.Runs
import Ssp21.Link.LinkFrame

/-!
# The link layer's receive side

`LinkLayer` sits between a lower layer that hands out chunks of a byte stream and
an upper layer that asks for one payload at a time.  The chunks the lower layer
holds are part of the model state (`lower`); the lower layer hands out a chunk
only if it has one, so an empty slice means that there is none.

A frame that `getFrame` has completed stays in the parser until the upper layer
comes back for the next one, and `startRxFromUpper` discards it only if a
non-empty payload was handed out before.  A `run` is any schedule of arrivals,
announcements and calls of the upper layer.
-/

namespace Ssp21

open Wire Link

structure LinkLayer where
  localAddr : UInt16
  remoteAddr : UInt16
  isOpen : Bool
  upperIsProcessingRxData : Bool
  remainder : Bytes
  parser : LinkParser
  lower : List Bytes
  deriving DecidableEq, Repr

namespace LinkLayer

/-- The largest payload that the parser of a layer accepts. -/
def payloadLimit : UInt16 := UInt16.ofNat maxConfigPayloadSize

/-- The constructor. -/
def create (localAddr remoteAddr : UInt16) : LinkLayer where
  localAddr := localAddr
  remoteAddr := remoteAddr
  isOpen := false
  upperIsProcessingRxData := false
  remainder := []
  parser := LinkParser.create payloadLimit
  lower := []

def onLowerOpen (layer : LinkLayer) : LinkLayer :=
  { layer with isOpen := true }

/-- `lower->start_rx_from_upper()`: the next chunk, or nothing. -/
def lowerStartRx (layer : LinkLayer) : Bytes × LinkLayer :=
  match layer.lower with
  | [] => ([], layer)
  | chunk :: rest => (chunk, { layer with lower := rest })

/-- `read_frame_one_iteration`: true to continue. -/
def readFrameOneIteration (layer : LinkLayer) : Bool × LinkLayer :=
  if layer.remainder = [] then
    let (chunk, layer) := layer.lowerStartRx
    (chunk ≠ [], { layer with remainder := chunk })
  else
    let (parser, rest) := layer.parser.parse layer.remainder
    (!parser.hasResult, { layer with parser := parser, remainder := rest })

/-- The loop of `get_frame`.  A turn takes a chunk from the lower layer or parses
the one it has. -/
def getFrameLoop : Nat → LinkLayer → LinkLayer
  | 0, layer => layer
  | fuel + 1, layer =>
      let (more, layer) := layer.readFrameOneIteration
      if more then getFrameLoop fuel layer else layer

/-- `get_frame`: whether a frame is available is `parser.hasResult` afterwards. -/
def getFrame (layer : LinkLayer) : LinkLayer :=
  if layer.parser.hasResult then layer
  else getFrameLoop (2 * layer.lower.length + 2) layer

def discardRxData (layer : LinkLayer) : LinkLayer :=
  { layer with parser := layer.parser.reset }

def startRxFromUpperImpl (layer : LinkLayer) : Bytes × LinkLayer :=
  let layer := layer.getFrame
  match layer.parser.read with
  | some result => (if result.destination = layer.localAddr then result.payload else [], layer)
  | none => ([], layer)

/-- `ILowerLayer::start_rx_from_upper`. -/
def startRxFromUpper (layer : LinkLayer) : Bytes × LinkLayer :=
  let layer :=
    if layer.upperIsProcessingRxData then
      { layer.discardRxData with upperIsProcessingRxData := false }
    else layer
  let (ret, layer) := layer.startRxFromUpperImpl
  (ret, if ret ≠ [] then { layer with upperIsProcessingRxData := true } else layer)

/-- `on_lower_rx_ready`: whether the upper layer is notified. -/
def onLowerRxReady (layer : LinkLayer) : Bool × LinkLayer :=
  if layer.isOpen then
    let layer := layer.getFrame
    (layer.parser.hasResult, layer)
  else (false, layer)

/-! ## Schedules -/

/-- What can happen to the receive side. -/
inductive Event
  | arrive (chunk : Bytes)
  | rxReady
  | startRx
  deriving DecidableEq, Repr

/-- One event; the second component is what the upper layer receives. -/
def step (layer : LinkLayer) : Event → LinkLayer × List Bytes
  | .arrive chunk =>
      (if chunk = [] then layer else { layer with lower := layer.lower ++ [chunk] }, [])
  | .rxReady => (layer.onLowerRxReady.2, [])
  | .startRx =>
      let (ret, layer) := layer.startRxFromUpper
      (layer, if ret = [] then [] else [ret])

/-- A schedule; the second component is everything the upper layer receives. -/
def run (layer : LinkLayer) (events : List Event) : LinkLayer × List Bytes :=
  Runs.collect step layer events

@[simp]
theorem run_nil (layer : LinkLayer) : layer.run [] = (layer, []) :=
  rfl

@[simp]
theorem run_cons (layer : LinkLayer) (event : Event) (events : List Event) :
    layer.run (event :: events) = (((layer.step event).1.run events).1,
      (layer.step event).2 ++ ((layer.step event).1.run events).2) :=
  rfl

theorem run_append (layer : LinkLayer) (front back : List Event) :
    layer.run (front ++ back) = (((layer.run front).1.run back).1,
      (layer.run front).2 ++ ((layer.run front).1.run back).2) :=
  Runs.collect_append layer front back

/-- The bytes that arrive in a schedule. -/
def arrivals : List Event → Bytes
  | [] => []
  | .arrive chunk :: events => chunk ++ arrivals events
  | .rxReady :: events => arrivals events
  | .startRx :: events => arrivals events

/-! ## The loop of `getFrame` -/

/-- The bytes that have arrived and have not been given to the parser. -/
def unparsed (layer : LinkLayer) : Bytes :=
  layer.remainder ++ layer.lower.flatten

/-- How far `getFrame` goes: to the next frame, or to the end of what has arrived. -/
def Settled (layer : LinkLayer) : Prop :=
  layer.parser.hasResult = true ∨ layer.unparsed = []

/-- All bytes have been parsed, and no frame is complete. -/
structure Drained (layer : LinkLayer) : Prop where
  parsed : layer.unparsed = []
  hasResult : layer.parser.hasResult = false

/-- How many turns the loop of `getFrame` can take. -/
def work (layer : LinkLayer) : Nat :=
  2 * layer.lower.length + if layer.remainder = [] then 0 else 1

theorem getFrameLoop_empty (fuel : Nat) {layer : LinkLayer} (hrem : layer.remainder = [])
    (hlower : layer.lower = []) : getFrameLoop (fuel + 1) layer = layer := by
  obtain ⟨localAddr, remoteAddr, isOpen, processing, remainder, parser, lower⟩ := layer
  simp only at hrem hlower
  subst hrem hlower
  rfl

theorem getFrameLoop_fetch (fuel : Nat) {layer : LinkLayer} {chunk : Bytes} {rest : List Bytes}
    (hrem : layer.remainder = []) (hlower : layer.lower = chunk :: rest) (hchunk : chunk ≠ []) :
    getFrameLoop (fuel + 1) layer =
      getFrameLoop fuel { layer with remainder := chunk, lower := rest } := by
  simp [getFrameLoop, readFrameOneIteration, lowerStartRx, hrem, hlower, hchunk]

theorem getFrameLoop_parse (fuel : Nat) {layer : LinkLayer} (hrem : layer.remainder ≠ []) :
    getFrameLoop (fuel + 1) layer =
      let next := { layer with
        parser := (layer.parser.parse layer.remainder).1
        remainder := (layer.parser.parse layer.remainder).2 }
      if next.parser.hasResult then next else getFrameLoop fuel next := by
  simp only [getFrameLoop, readFrameOneIteration, if_neg hrem]
  cases (layer.parser.parse layer.remainder).1.hasResult <;> rfl

end LinkLayer
end Ssp21
