import Ssp21.Link.LinkLayer
import Ssp21.Link.Resynchronization
import Mathlib.Data.List.TakeWhile

/-!
# What the link layer delivers from any stream

The stream below a link layer need not consist of frames: it may start in the middle of one, be
damaged, or carry the frames of other stations.  What the upper layer receives is still decided by
the stream alone, and not by the chunks it arrives in, by the moments at which they are announced
or by those at which the upper layer asks.

* `LinkParser.parse_scan`: one call of `parse` goes on to the next frame that the scanner finds, or
  to the end of its input.
* `Standing`: where the layer stands in the bytes that have arrived, with the frames that it has
  handed out so far.
* `received_scanned`: an upper layer that has asked often enough has received the payloads of the
  frames that the scanner finds, up to the first one that is not for it.
* `Valid`: the same for a stream that consists of frames, some of which are still to come.
* `received_all_iff`: when the upper layer receives every payload that is meant for it.
-/

namespace Ssp21

open Wire Link

namespace LinkParser

/-! ## One call of the parser -/

/-- How far a call of `parse` gets in its input: through it, or to the end of a frame. -/
inductive Parsed (limit : UInt16) (pending input : Bytes) (parser : LinkParser)
    (rest : Bytes) : Prop
  | whole (hrest : rest = []) (hframes : (Scanner.scan limit pending input).frames = [])
      (hholds : Holds (Scanner.scan limit pending input).pending parser)
  | frame (front : Bytes) (result : Result) (hinput : front ++ rest = input)
      (hframes : (Scanner.scan limit pending front).frames = [result])
      (hpending : (Scanner.scan limit pending front).pending = [])
      (hread : parser.read = some result)

theorem parse_scan (input : Bytes) {pending : Bytes} {parser : LinkParser}
    (h : Holds pending parser) :
    Parsed parser.context.maxPayloadLength pending input (parser.parse input).1
        (parser.parse input).2 ∧
      (parser.parse input).1.context.maxPayloadLength = parser.context.maxPayloadLength := by
  induction input generalizing pending parser with
  | nil =>
      rw [parse_nil]
      exact ⟨.whole rfl rfl h, rfl⟩
  | cons byte bytes ih =>
      obtain ⟨hrest, hadds, hwf, hnext⟩ := parse_byte h byte
      have hparse := parse_append h.wf [byte] bytes
      rw [List.singleton_append] at hparse
      rcases hnext with ⟨hframes, hholds⟩ | ⟨hpending, result, hframes, hread⟩
      · -- the byte completes nothing, and the call goes on behind it
        rw [if_neg (by rw [hholds.hasResult]; decide)] at hparse
        obtain ⟨hparsed, hlimit⟩ := ih hholds
        rw [hadds.limit] at hparsed hlimit
        rw [hparse]
        refine ⟨?_, hlimit⟩
        cases hparsed with
        | whole hend hnone hlast =>
            exact .whole hend (by simp [Scanner.scan, hframes, hnone]) hlast
        | frame front result hinput hfound hempty hread =>
            exact .frame (byte :: front) result (by rw [List.cons_append, hinput])
              (by simp [Scanner.scan, hframes, hfound]) hempty hread
      · rw [if_pos (hasResult_of_read hread), hrest, List.nil_append] at hparse
        rw [hparse]
        refine ⟨.frame [byte] result rfl ?_ ?_ hread, hadds.limit⟩
        · rw [Scanner.scan_singleton, hframes]
        · rw [Scanner.scan_singleton, hpending]

end LinkParser

namespace LinkLayer

open LinkParser (Result Holds)
open Scanner (scan)

/-! ## Where the layer stands in a stream -/

/-- A frame whose payload the upper layer receives. -/
def wanted (localAddr : UInt16) (result : Result) : Bool :=
  result.destination == localAddr && result.payload ≠ []

/-- Where the layer stands in the bytes that have arrived, of which it has parsed `front`, when it
has handed out the frames `taken`. -/
inductive Place (stream : Bytes) (taken : List Result) (layer : LinkLayer) : Prop
  | collecting (front : Bytes) (hidle : layer.upperIsProcessingRxData = false)
      (hstream : front ++ layer.unparsed = stream)
      (hframes : (scan payloadLimit [] front).frames = taken)
      (hholds : Holds (scan payloadLimit [] front).pending layer.parser)
  | offered (front : Bytes) (result : Result) (hidle : layer.upperIsProcessingRxData = false)
      (hstream : front ++ layer.unparsed = stream)
      (hframes : (scan payloadLimit [] front).frames = taken ++ [result])
      (hpending : (scan payloadLimit [] front).pending = [])
      (hread : layer.parser.read = some result)
  | lent (front : Bytes) (result : Result) (hbusy : layer.upperIsProcessingRxData = true)
      (hstream : front ++ layer.unparsed = stream)
      (hframes : (scan payloadLimit [] front).frames = taken)
      (hpending : (scan payloadLimit [] front).pending = [])
      (hread : layer.parser.read = some result)

structure Standing (localAddr : UInt16) (stream : Bytes) (taken : List Result) (layer : LinkLayer) :
    Prop where
  place : Place stream taken layer
  wf : layer.parser.WellFormed
  limited : layer.parser.context.maxPayloadLength = payloadLimit
  chunks : ∀ chunk ∈ layer.lower, chunk ≠ []
  addr : layer.localAddr = localAddr
  taken_wanted : ∀ result ∈ taken, wanted localAddr result = true

variable {localAddr : UInt16} {stream : Bytes} {taken : List Result} {layer : LinkLayer}

/-- What has been found in the front of a stream, and what is found behind it. -/
theorem scan_frames_append (front back : Bytes) :
    (scan payloadLimit [] (front ++ back)).frames =
      (scan payloadLimit [] front).frames ++
        (scan payloadLimit (scan payloadLimit [] front).pending back).frames := by
  rw [Scanner.scan_append]

theorem scan_pending_append (front back : Bytes) :
    (scan payloadLimit [] (front ++ back)).pending =
      (scan payloadLimit (scan payloadLimit [] front).pending back).pending := by
  rw [Scanner.scan_append]

/-- The frames that are handed out come first in the stream. -/
theorem Standing.taken_front (h : Standing localAddr stream taken layer) :
    taken <+: (scan payloadLimit [] stream).frames := by
  cases h.place with
  | collecting front _ hstream hframes =>
      rw [← hstream, scan_frames_append, hframes]
      exact List.prefix_append _ _
  | offered front result _ hstream hframes =>
      rw [← hstream, scan_frames_append, hframes, List.append_assoc]
      exact List.prefix_append _ _
  | lent front result _ hstream hframes =>
      rw [← hstream, scan_frames_append, hframes]
      exact List.prefix_append _ _

theorem create_standing (localAddr remoteAddr : UInt16) :
    Standing localAddr [] [] (create localAddr remoteAddr) := by
  have hwf := LinkParser.create_wellFormed payloadLimit
  exact ⟨.collecting [] rfl rfl rfl (LinkParser.holds_nil hwf rfl), hwf, rfl, by simp [create], rfl,
    by simp⟩

theorem Standing.onLowerOpen (h : Standing localAddr stream taken layer) :
    Standing localAddr stream taken layer.onLowerOpen := by
  refine ⟨?_, h.wf, h.limited, h.chunks, h.addr, h.taken_wanted⟩
  cases h.place with
  | collecting front hidle hstream hframes hholds =>
      exact .collecting front hidle hstream hframes hholds
  | offered front result hidle hstream hframes hpending hread =>
      exact .offered front result hidle hstream hframes hpending hread
  | lent front result hbusy hstream hframes hpending hread =>
      exact .lent front result hbusy hstream hframes hpending hread

/-- More bytes change nothing but what is to be parsed. -/
theorem Standing.arrive (h : Standing localAddr stream taken layer) (chunk : Bytes) :
    Standing localAddr (stream ++ chunk) taken (layer.step (.arrive chunk)).1 := by
  by_cases hchunk : chunk = []
  · subst hchunk
    simpa [step] using h
  · have hunparsed : { layer with lower := layer.lower ++ [chunk] }.unparsed =
        layer.unparsed ++ chunk := by
      simp [unparsed]
    have hstream {front : Bytes} (hfront : front ++ layer.unparsed = stream) :
        front ++ { layer with lower := layer.lower ++ [chunk] }.unparsed = stream ++ chunk := by
      rw [hunparsed, ← List.append_assoc, hfront]
    simp only [step, if_neg hchunk]
    refine ⟨?_, h.wf, h.limited, ?_, h.addr, h.taken_wanted⟩
    · cases h.place with
      | collecting front hidle hfront hframes hholds =>
          exact .collecting front hidle (hstream hfront) hframes hholds
      | offered front result hidle hfront hframes hpending hread =>
          exact .offered front result hidle (hstream hfront) hframes hpending hread
      | lent front result hbusy hfront hframes hpending hread =>
          exact .lent front result hbusy (hstream hfront) hframes hpending hread
    · intro c hmem
      rcases List.mem_append.mp hmem with hold | hnew
      · exact h.chunks c hold
      · rw [List.mem_singleton.mp hnew]
        exact hchunk

/-! ## The next frame -/

/-- Parsing the chunk at hand, for a layer that collects a frame. -/
theorem Standing.parse (h : Standing localAddr stream taken layer)
    (hidle : layer.upperIsProcessingRxData = false) {front : Bytes}
    (hstream : front ++ layer.unparsed = stream)
    (hframes : (scan payloadLimit [] front).frames = taken)
    (hholds : Holds (scan payloadLimit [] front).pending layer.parser) :
    Standing localAddr stream taken
      { layer with
        parser := (layer.parser.parse layer.remainder).1
        remainder := (layer.parser.parse layer.remainder).2 } ∧
    ((layer.parser.parse layer.remainder).1.hasResult = false →
      (layer.parser.parse layer.remainder).2 = [] ∧
      (scan payloadLimit [] (front ++ layer.remainder)).frames = taken ∧
      Holds (scan payloadLimit [] (front ++ layer.remainder)).pending
        (layer.parser.parse layer.remainder).1) := by
  obtain ⟨hparsed, hlimit⟩ := LinkParser.parse_scan layer.remainder hholds
  have hwf := LinkParser.parse_wellFormed h.wf layer.remainder
  rw [h.limited] at hparsed hlimit
  cases hparsed with
  | whole hrest hnone hlast =>
      rw [← scan_pending_append] at hlast
      have hsame : (scan payloadLimit [] (front ++ layer.remainder)).frames = taken := by
        rw [scan_frames_append, hframes, hnone, List.append_nil]
      refine ⟨⟨.collecting (front ++ layer.remainder) hidle ?_ hsame hlast, hwf, hlimit, h.chunks,
        h.addr, h.taken_wanted⟩, fun _ => ⟨hrest, hsame, hlast⟩⟩
      simpa [unparsed, hrest] using hstream
  | frame more result hinput hfound hempty hread =>
      refine ⟨⟨.offered (front ++ more) result hidle ?_ ?_ ?_ hread, hwf, hlimit, h.chunks, h.addr,
        h.taken_wanted⟩, fun hnone => ?_⟩
      · have hsplit : front ++ more ++ ((layer.parser.parse layer.remainder).2 ++
            layer.lower.flatten) = front ++ (more ++ (layer.parser.parse layer.remainder).2 ++
              layer.lower.flatten) := by simp only [List.append_assoc]
        rw [hinput] at hsplit
        exact hsplit.trans hstream
      · rw [scan_frames_append, hframes, hfound]
      · rw [scan_pending_append, hempty]
      · rw [LinkParser.hasResult_of_read hread] at hnone
        cases hnone

/-- The loop of `getFrame` ends at the next frame, or when all has been parsed. -/
theorem Standing.loop (fuel : Nat) {layer : LinkLayer}
    (h : Standing localAddr stream taken layer) (hidle : layer.upperIsProcessingRxData = false)
    {front : Bytes} (hstream : front ++ layer.unparsed = stream)
    (hframes : (scan payloadLimit [] front).frames = taken)
    (hholds : Holds (scan payloadLimit [] front).pending layer.parser) (hfuel : layer.work < fuel) :
    Standing localAddr stream taken (getFrameLoop fuel layer) ∧ Settled (getFrameLoop fuel layer) ∧
      (getFrameLoop fuel layer).upperIsProcessingRxData = false := by
  -- the measure is `work`: fetching a chunk trades two units for one, parsing takes the last
  induction fuel generalizing layer front with
  | zero => omega
  | succ fuel ih =>
      by_cases hrem : layer.remainder = []
      · cases hlower : layer.lower with
        | nil =>
            rw [getFrameLoop_empty fuel hrem hlower]
            exact ⟨h, Or.inr (by simp [unparsed, hrem, hlower]), hidle⟩
        | cons chunk rest =>
            have hchunk : chunk ≠ [] := h.chunks chunk (by rw [hlower]; exact List.mem_cons_self)
            rw [getFrameLoop_fetch fuel hrem hlower hchunk]
            have hstream' : front ++
                ({ layer with remainder := chunk, lower := rest } : LinkLayer).unparsed =
                  stream := by
              simpa [unparsed, hrem, hlower] using hstream
            refine ih ⟨.collecting front hidle hstream' hframes hholds, h.wf, h.limited, ?_, h.addr,
              h.taken_wanted⟩ hidle hstream' hframes hholds ?_
            · intro c hmem
              exact h.chunks c (by rw [hlower]; exact List.mem_cons_of_mem _ hmem)
            · simp only [work, hlower, hrem, List.length_cons, if_true, if_neg hchunk] at hfuel ⊢
              omega
      · obtain ⟨hnext, hmore⟩ := h.parse hidle hstream hframes hholds
        rw [getFrameLoop_parse fuel hrem]
        cases hres : (layer.parser.parse layer.remainder).1.hasResult with
        | true =>
            simp only [hres, if_true]
            exact ⟨hnext, Or.inl hres, hidle⟩
        | false =>
            obtain ⟨hrest, hsame, hlast⟩ := hmore hres
            simp only [hres, Bool.false_eq_true, if_false]
            refine ih hnext hidle ?_ hsame hlast ?_
            · simpa [unparsed, hrest] using hstream
            · simp only [work, if_neg hrem, hrest, if_true] at hfuel ⊢
              omega

theorem Standing.getFrame (h : Standing localAddr stream taken layer)
    (hidle : layer.upperIsProcessingRxData = false) :
    Standing localAddr stream taken layer.getFrame ∧ Settled layer.getFrame ∧
      layer.getFrame.upperIsProcessingRxData = false := by
  cases h.place with
  | collecting front _ hstream hframes hholds =>
      rw [LinkLayer.getFrame, if_neg (by simp [hholds.hasResult])]
      refine h.loop _ hidle hstream hframes hholds ?_
      simp only [work]
      split_ifs <;> omega
  | offered front result _ _ _ _ hread =>
      have hres := LinkParser.hasResult_of_read hread
      rw [LinkLayer.getFrame, if_pos hres]
      exact ⟨h, Or.inl hres, hidle⟩
  | lent front result hbusy =>
      rw [hidle] at hbusy
      cases hbusy

theorem Standing.rxReady (h : Standing localAddr stream taken layer) :
    Standing localAddr stream taken (layer.step .rxReady).1 := by
  simp only [step, onLowerRxReady]
  split_ifs
  · cases hbusy : layer.upperIsProcessingRxData with
    | false => exact (h.getFrame hbusy).1
    | true =>
        -- a layer that lends a frame has one
        cases h.place with
        | collecting front hidle => rw [hbusy] at hidle; cases hidle
        | offered front result hidle => rw [hbusy] at hidle; cases hidle
        | lent front result _ _ _ _ hread =>
            simpa [LinkLayer.getFrame, LinkParser.hasResult_of_read hread] using h
  · exact h

/-- Coming back for the next payload discards the one handed out before. -/
theorem Standing.discard (h : Standing localAddr stream taken layer) :
    Standing localAddr stream taken
        (if layer.upperIsProcessingRxData then
          { layer.discardRxData with upperIsProcessingRxData := false } else layer) ∧
      (if layer.upperIsProcessingRxData then
        { layer.discardRxData with upperIsProcessingRxData := false } else
        layer).upperIsProcessingRxData = false := by
  cases h.place with
  | collecting front hidle => simpa [hidle] using h
  | offered front result hidle => simpa [hidle] using h
  | lent front result hbusy hstream hframes hpending hread =>
      have hreset := LinkParser.reset_wellFormed h.wf
      simp only [hbusy, if_true]
      refine ⟨⟨.collecting front rfl hstream hframes ?_, hreset, h.limited, h.chunks, h.addr,
        h.taken_wanted⟩, trivial⟩
      rw [hpending]
      exact LinkParser.holds_nil hreset rfl

/-- What one call of `startRxFromUpper` does: it hands out the next frame, or it stays where it is,
because all has been parsed or because the next frame is not for this layer. -/
inductive Asks (localAddr : UInt16) (stream : Bytes) (taken : List Result) (layer : LinkLayer)
    (received : List Bytes) : Prop
  | delivers (result : Result) (hwanted : wanted localAddr result = true)
      (hreceived : received = [result.payload])
      (hstanding : Standing localAddr stream (taken ++ [result]) layer)
  | stays (hreceived : received = []) (hstanding : Standing localAddr stream taken layer)
      (hend : layer.Drained ∧ (scan payloadLimit [] stream).frames = taken ∨
        ∃ result rest, (scan payloadLimit [] stream).frames = taken ++ result :: rest ∧
          wanted localAddr result = false)

theorem Standing.startRx (h : Standing localAddr stream taken layer) :
    Asks localAddr stream taken (layer.step .startRx).1 (layer.step .startRx).2 := by
  obtain ⟨hready, hidle⟩ := h.discard
  simp only [step, startRxFromUpper, startRxFromUpperImpl]
  generalize (if layer.upperIsProcessingRxData then
    { layer.discardRxData with upperIsProcessingRxData := false } else layer) = ready
    at hready hidle
  obtain ⟨hnext, hsettled, hidle'⟩ := hready.getFrame hidle
  cases hnext.place with
  | collecting front _ hstream hframes hholds =>
      simp only [LinkParser.read_of_hasResult hholds.hasResult]
      have hdone := hsettled.resolve_left (by simp [hholds.hasResult])
      refine .stays rfl hnext (Or.inl ⟨⟨hdone, hholds.hasResult⟩, ?_⟩)
      rw [← hstream, hdone, List.append_nil, hframes]
  | offered front result _ hstream hframes hpending hread =>
      simp only [hread]
      rw [hnext.addr]
      cases hwanted : wanted localAddr result with
      | true =>
          obtain ⟨hdest, hpayload⟩ : result.destination = localAddr ∧ result.payload ≠ [] := by
            simpa [wanted] using hwanted
          simp only [hdest, if_true, ne_eq, hpayload, not_false_eq_true]
          refine .delivers result hwanted rfl
            ⟨.lent front result rfl hstream hframes hpending hread,
            hnext.wf, hnext.limited, hnext.chunks, rfl, ?_⟩
          intro other hmem
          rcases List.mem_append.mp hmem with hold | hnew
          · exact h.taken_wanted other hold
          · rw [List.mem_singleton.mp hnew]
            exact hwanted
      | false =>
          have hempty : (if result.destination = localAddr then result.payload else []) = [] := by
            simpa [wanted] using hwanted
          simp only [hempty, ne_eq, not_true_eq_false, if_true, if_false]
          have hblocked : (scan payloadLimit [] stream).frames = taken ++ result ::
              (scan payloadLimit (scan payloadLimit [] front).pending
                ready.getFrame.unparsed).frames := by
            rw [← hstream, scan_frames_append, hframes, List.append_assoc, List.singleton_append]
          exact .stays rfl hnext (Or.inr ⟨result, _, hblocked, hwanted⟩)
  | lent front result hbusy =>
      rw [hidle'] at hbusy
      cases hbusy

/-! ## A layer with nothing left -/

theorem Standing.unparsed_eq_nil (h : Standing localAddr stream taken layer)
    (hparsed : layer.unparsed = []) : layer.remainder = [] ∧ layer.lower = [] := by
  obtain ⟨hremainder, hlower⟩ := List.append_eq_nil_iff.mp hparsed
  refine ⟨hremainder, List.eq_nil_iff_forall_not_mem.mpr fun chunk hmem => ?_⟩
  exact h.chunks chunk hmem (List.flatten_eq_nil_iff.mp hlower chunk hmem)

/-- An open layer that is notified of bytes finds a frame, or uses up all of them. -/
theorem Standing.rxReady_drained (h : Standing localAddr stream taken layer)
    (hopen : layer.isOpen = true) (hnone : (layer.step .rxReady).1.parser.hasResult = false) :
    (layer.step .rxReady).1.Drained := by
  refine ⟨?_, hnone⟩
  simp only [step, onLowerRxReady, if_pos hopen] at hnone ⊢
  cases hbusy : layer.upperIsProcessingRxData with
  | false => exact (h.getFrame hbusy).2.1.resolve_left (by simp [hnone])
  | true =>
      cases h.place with
      | collecting front hidle => cases hidle.symm.trans hbusy
      | offered front result hidle => cases hidle.symm.trans hbusy
      | lent front result _ _ _ _ hread =>
          have hres := LinkParser.hasResult_of_read hread
          rw [LinkLayer.getFrame, if_pos hres, hres] at hnone
          cases hnone

/-- So does a layer that is asked for a message. -/
theorem Standing.startRx_drained (h : Standing localAddr stream taken layer)
    (hnone : (layer.step .startRx).1.parser.hasResult = false) :
    (layer.step .startRx).1.Drained := by
  obtain ⟨hready, hidle⟩ := h.discard
  refine ⟨?_, hnone⟩
  simp only [step, startRxFromUpper, startRxFromUpperImpl] at hnone ⊢
  generalize (if layer.upperIsProcessingRxData then
    { layer.discardRxData with upperIsProcessingRxData := false } else layer) = ready
    at hready hidle hnone ⊢
  have hsettled := (hready.getFrame hidle).2.1
  split_ifs at hnone ⊢ <;> split at hnone <;> exact hsettled.resolve_left (by simp [hnone])

/-! ## Whole schedules -/

/-- In any schedule the upper layer receives the payloads of wanted frames from the front of the
stream. -/
theorem run_standing (events : List Event) (h : Standing localAddr stream taken layer) :
    ∃ more, (layer.run events).2 = more.map Result.payload ∧
      Standing localAddr (stream ++ arrivals events) (taken ++ more) (layer.run events).1 := by
  induction events generalizing stream taken layer with
  | nil => exact ⟨[], rfl, by simpa [arrivals] using h⟩
  | cons event events ih =>
      cases event with
      | arrive chunk =>
          obtain ⟨more, hrun, hlast⟩ := ih (h.arrive chunk)
          refine ⟨more, by simpa [step] using hrun, ?_⟩
          simpa [arrivals, List.append_assoc] using hlast
      | rxReady =>
          obtain ⟨more, hrun, hlast⟩ := ih h.rxReady
          exact ⟨more, by simpa [step] using hrun, by simpa [arrivals] using hlast⟩
      | startRx =>
          rcases h.startRx with ⟨result, -, hreceived, hnext⟩ | ⟨hreceived, hnext, -⟩
          · obtain ⟨more, hrun, hlast⟩ := ih hnext
            refine ⟨result :: more, by simp [hreceived, hrun], ?_⟩
            simpa [arrivals, List.append_assoc] using hlast
          · obtain ⟨more, hrun, hlast⟩ := ih hnext
            exact ⟨more, by simp [hreceived, hrun], by simpa [arrivals] using hlast⟩

/-- Each further call takes the next frame of the stream, up to the first one that is not wanted. -/
theorem run_startRx_standing (count : Nat) {rest : List Result}
    (h : Standing localAddr stream taken layer)
    (hrest : (scan payloadLimit [] stream).frames = taken ++ rest) :
    (layer.run (List.replicate count .startRx)).2 =
      ((rest.takeWhile (wanted localAddr)).take count).map Result.payload := by
  induction count generalizing taken layer rest with
  | zero => simp
  | succ count ih =>
      rw [List.replicate_succ, run_cons]
      rcases h.startRx with ⟨result, hwanted, hreceived, hnext⟩ | ⟨hreceived, hnext, hend⟩
      · -- the frame that is handed out is the first one that is left
        have hfront := hnext.taken_front
        rw [hrest, List.prefix_append_right_inj] at hfront
        obtain ⟨tail, rfl⟩ := hfront
        have hmore := ih hnext (hrest.trans (List.append_assoc taken [result] tail).symm)
        simp [hreceived, hmore, hwanted]
      · have hstuck : rest.takeWhile (wanted localAddr) = [] := by
          rcases hend with ⟨-, hdone⟩ | ⟨result, tail, htail, hunwanted⟩
          · rw [hrest] at hdone
            simp [List.append_right_eq_self.mp hdone]
          · rw [hrest] at htail
            simp [List.append_cancel_left htail, hunwanted]
        simp [hreceived, ih hnext hrest, hstuck]

/-- An upper layer that has asked often enough has received the wanted frames at the front of the
stream. -/
theorem Standing.received (h : Standing localAddr stream taken layer) (events : List Event)
    {count : Nat}
    (hcount : (scan payloadLimit [] (stream ++ arrivals events)).frames.length ≤
      taken.length + count) :
    taken.map Result.payload ++ (layer.run (events ++ List.replicate count .startRx)).2 =
      ((scan payloadLimit [] (stream ++ arrivals events)).frames.takeWhile (wanted localAddr)).map
        Result.payload := by
  obtain ⟨more, hrun, hstanding⟩ := run_standing events h
  obtain ⟨rest, hrest⟩ := hstanding.taken_front
  have hwanted := hstanding.taken_wanted
  have hlen : (rest.takeWhile (wanted localAddr)).length ≤ count := by
    have hle := (@List.takeWhile_prefix _ rest (wanted localAddr)).length_le
    rw [← hrest, List.length_append, List.length_append] at hcount
    omega
  rw [run_append, hrun, run_startRx_standing count hstanding hrest.symm,
    List.take_of_length_le hlen,
    ← hrest, List.takeWhile_append_of_pos hwanted, List.map_append, List.map_append,
    List.append_assoc]

/-- The bytes of a sequence of frames. -/
def encodeAll (frames : List Frame) : Bytes :=
  (frames.map Frame.encode).flatten

/-- The frames whose payload the upper layer is to receive. -/
def deliverable (localAddr : UInt16) (frame : Frame) : Bool :=
  frame.destination == localAddr && frame.payload ≠ []

/-- Frames that fit into the parser's buffer. -/
def AllFit (frames : List Frame) : Prop :=
  ∀ frame ∈ frames, frame.payload.length ≤ maxConfigPayloadSize

theorem scan_encodeAll {frames : List Frame} (hfit : AllFit frames) :
    scan payloadLimit [] (encodeAll frames) = ⟨[], frames.map Frame.content, []⟩ :=
  LinkParser.scan_frames hfit

/-- The stream below the layer consists of frames, of which the upper layer has not received those
of `pending`.  The bytes `future` have not arrived. -/
def Valid (localAddr : UInt16) (pending : List Frame) (future : Bytes) (layer : LinkLayer) : Prop :=
  ∃ stream taken, Standing localAddr stream taken layer ∧
    (scan payloadLimit [] (stream ++ future)).frames = taken ++ pending.map Frame.content ∧
    (scan payloadLimit [] (stream ++ future)).pending = []

section Valid

variable {pending : List Frame} {future : Bytes}

theorem create_valid (localAddr remoteAddr : UInt16) :
    Valid localAddr [] [] (create localAddr remoteAddr) :=
  ⟨[], [], create_standing localAddr remoteAddr, rfl, rfl⟩

theorem Valid.onLowerOpen (h : Valid localAddr pending future layer) :
    Valid localAddr pending future layer.onLowerOpen := by
  obtain ⟨stream, taken, hstanding, hframes⟩ := h
  exact ⟨stream, taken, hstanding.onLowerOpen, hframes⟩

/-- More frames are sent. -/
theorem Valid.extend (h : Valid localAddr pending future layer) {more : List Frame}
    (hfit : AllFit more) : Valid localAddr (pending ++ more) (future ++ encodeAll more) layer := by
  obtain ⟨stream, taken, hstanding, hframes, hdone⟩ := h
  refine ⟨stream, taken, hstanding, ?_, ?_⟩
  · rw [← List.append_assoc, scan_frames_append, hdone, hframes, scan_encodeAll hfit,
      List.append_assoc, List.map_append]
  · rw [← List.append_assoc, scan_pending_append, hdone, scan_encodeAll hfit]

theorem Valid.arrive {chunk : Bytes} (h : Valid localAddr pending (chunk ++ future) layer) :
    Valid localAddr pending future (layer.step (.arrive chunk)).1 := by
  obtain ⟨stream, taken, hstanding, hframes⟩ := h
  rw [← List.append_assoc] at hframes
  exact ⟨stream ++ chunk, taken, hstanding.arrive chunk, hframes⟩

theorem Valid.rxReady (h : Valid localAddr pending future layer) :
    Valid localAddr pending future (layer.step .rxReady).1 := by
  obtain ⟨stream, taken, hstanding, hframes⟩ := h
  exact ⟨stream, taken, hstanding.rxReady, hframes⟩

/-- What one call of `startRxFromUpper` does: it takes the next frame, or there is none, or the next
one is not for this layer. -/
inductive StartRx (localAddr : UInt16) (pending : List Frame) (future : Bytes) (layer : LinkLayer)
    (received : List Bytes) : Prop
  | delivers (frame : Frame) (rest : List Frame) (hpending : pending = frame :: rest)
      (hreceived : received = [frame.payload]) (hvalid : Valid localAddr rest future layer)
  | refuses (hreceived : received = []) (hvalid : Valid localAddr pending future layer)
      (hend : layer.Drained ∨ ∃ frame ∈ pending, deliverable localAddr frame = false)

theorem Valid.startRx (h : Valid localAddr pending future layer) :
    StartRx localAddr pending future (layer.step .startRx).1 (layer.step .startRx).2 := by
  obtain ⟨stream, taken, hstanding, hframes, hdone⟩ := h
  rcases hstanding.startRx with ⟨result, hwanted, hreceived, hnext⟩ | ⟨hreceived, hnext, hend⟩
  · -- the frame that is handed out is the first of those to come
    have hfront := hnext.taken_front.trans
      (show (scan payloadLimit [] stream).frames <+:
        (scan payloadLimit [] (stream ++ future)).frames by
        rw [scan_frames_append]
        exact List.prefix_append _ _)
    rw [hframes, List.prefix_append_right_inj] at hfront
    obtain ⟨tail, htail⟩ := hfront
    cases pending with
    | nil => cases htail
    | cons frame rest =>
        obtain ⟨rfl, rfl⟩ := List.cons.inj htail
        refine .delivers frame rest rfl hreceived ⟨stream, _, hnext, ?_, hdone⟩
        rw [hframes, List.append_assoc]
        rfl
  · refine .refuses hreceived ⟨stream, taken, hnext, hframes, hdone⟩ (hend.imp And.left ?_)
    rintro ⟨result, rest, hstuck, hunwanted⟩
    rw [scan_frames_append, hstuck, List.append_assoc] at hframes
    cases pending with
    | nil => cases List.append_cancel_left hframes
    | cons frame pending =>
        obtain ⟨rfl, -⟩ := List.cons.inj (List.append_cancel_left hframes)
        exact ⟨frame, List.mem_cons_self, hunwanted⟩

/-- If no bytes are on the way, then no frames are. -/
theorem Drained.pending_eq_nil (hdrained : layer.Drained)
    (hvalid : Valid localAddr pending [] layer) : pending = [] := by
  obtain ⟨stream, taken, hstanding, hframes, -⟩ := hvalid
  cases hstanding.place with
  | collecting front _ hstream htaken =>
      rw [hdrained.parsed, List.append_nil] at hstream
      rw [List.append_nil, ← hstream, htaken] at hframes
      exact List.map_eq_nil_iff.mp (List.append_right_eq_self.mp hframes.symm)
  | offered front result _ _ _ _ hread =>
      cases (LinkParser.hasResult_of_read hread).symm.trans hdrained.hasResult
  | lent front result _ _ _ _ hread =>
      cases (LinkParser.hasResult_of_read hread).symm.trans hdrained.hasResult

end Valid

/-- **When every addressed payload arrives.**  The upper layer receives the
non-empty payloads of all frames for the local address exactly when no deliverable
frame stands behind one that is not deliverable. -/
theorem received_all_iff (localAddr remoteAddr : UInt16) (frames : List Frame)
    (hfit : AllFit frames) (events : List Event) (harrive : arrivals events = encodeAll frames)
    (count : Nat) (hcount : frames.length ≤ count) :
    ((create localAddr remoteAddr).onLowerOpen.run
        (events ++ List.replicate count .startRx)).2 =
      (frames.filter (deliverable localAddr)).map Frame.payload ↔
    ∀ frame ∈ frames.dropWhile (deliverable localAddr), deliverable localAddr frame = false := by
  have hsplit : frames.filter (deliverable localAddr) =
      frames.takeWhile (deliverable localAddr) ++
        (frames.dropWhile (deliverable localAddr)).filter (deliverable localAddr) := by
    conv_lhs => rw [← @List.takeWhile_append_dropWhile _ (deliverable localAddr) frames]
    rw [List.filter_append]
    congr 1
    exact List.filter_eq_self.mpr (fun frame hin => List.mem_takeWhile_imp hin)
  have hreceived : ((create localAddr remoteAddr).onLowerOpen.run
      (events ++ List.replicate count .startRx)).2 =
        (frames.takeWhile (deliverable localAddr)).map Frame.payload := by
    have hall := (create_standing localAddr remoteAddr).onLowerOpen.received events
      (show _ ≤ [].length + count by simpa [harrive, scan_encodeAll hfit] using hcount)
    rw [List.nil_append, harrive, scan_encodeAll hfit, List.takeWhile_map, List.map_map] at hall
    exact hall
  rw [hreceived, hsplit, List.map_append]
  simp

theorem received_all_iff_two :
    ((create 1 10).onLowerOpen.run
        ([.arrive ((encodeAll [⟨1, 10, [0xAB, 0xCD]⟩, ⟨2, 10, []⟩]).take 9), .rxReady, .startRx,
          .arrive ((encodeAll [⟨1, 10, [0xAB, 0xCD]⟩, ⟨2, 10, []⟩]).drop 9), .rxReady] ++
          List.replicate 2 .startRx)).2 = [[0xAB, 0xCD]] :=
  (received_all_iff 1 10 [⟨1, 10, [0xAB, 0xCD]⟩, ⟨2, 10, []⟩]
    (by simp [AllFit, maxConfigPayloadSize])
    [.arrive ((encodeAll [⟨1, 10, [0xAB, 0xCD]⟩, ⟨2, 10, []⟩]).take 9), .rxReady, .startRx,
      .arrive ((encodeAll [⟨1, 10, [0xAB, 0xCD]⟩, ⟨2, 10, []⟩]).drop 9), .rxReady]
    (by decide +kernel) 2 (by decide)).mpr (by decide +kernel)

/-- A frame for another station, or one without payload, is offered forever: the
frame behind it never reaches the upper layer. -/
theorem received_all_blocked :
    ((create 1 10).onLowerOpen.run
        ([.arrive (Frame.encode ⟨2, 10, [0x55]⟩), .rxReady, .startRx,
          .arrive (Frame.encode ⟨1, 10, [0xAB]⟩), .rxReady] ++
          List.replicate 2 .startRx)).2 = [] ∧
    ((create 1 10).onLowerOpen.run
        ([.arrive (Frame.encode ⟨1, 10, []⟩ ++ Frame.encode ⟨1, 10, [0xAB]⟩), .rxReady] ++
          List.replicate 5 .startRx)).2 = [] ∧
    (([⟨2, 10, [0x55]⟩, ⟨1, 10, [0xAB]⟩] : List Frame).filter (deliverable 1)).map Frame.payload =
      [[0xAB]] ∧
    (([⟨1, 10, []⟩, ⟨1, 10, [0xAB]⟩] : List Frame).filter (deliverable 1)).map Frame.payload =
      [[0xAB]] := by
  decide +kernel

end LinkLayer

end Ssp21
