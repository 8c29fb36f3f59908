import Ssp21.Link.LinkLayer

/-!
# Closing and reopening the link layer

A parser that waits for a frame still has the bytes of earlier frames in its
buffer, and its last result.  `LinkParser.Similar` relates two parsers that differ
only in what they will overwrite before they read it; similar parsers stay similar
and offer the same frames.

`LinkLayer.onLowerClose` resets the parser and nothing else.  The unread rest of
the last chunk and the flag inherited from `ILowerLayer` survive a close, so the
reopened layer behaves like a new one only if both happen to be in their initial
state.
-/

namespace Ssp21

open Wire Link

namespace LinkParser

/-! ## Parsers that differ in stale data only -/

/-- The number of buffered bytes that a state will read again. -/
def State.known : State → Nat
  | .waitSync1 => 0
  | .waitSync2 => 1
  | .waitHeader num => num
  | .waitBody num => num
  | .waitRead _ => 0

/-- A source that reads only bytes below `bound` of the buffer. -/
def Source.Within (bound : Nat) : Source → Prop
  | external _ => True
  | buffered offset length => length = 0 ∨ offset + length ≤ bound

/-- Two contexts with one limit whose buffers agree on the first `bound` bytes. -/
structure SameFront (limit : UInt16) (bound : Nat) (ctx ctx' : Context) : Prop where
  limit_left : ctx.maxPayloadLength = limit
  limit_right : ctx'.maxPayloadLength = limit
  bytes : ctx.buffer.take bound = ctx'.buffer.take bound
  room_left : bound ≤ ctx.buffer.length
  room_right : bound ≤ ctx'.buffer.length

/-- The fields of a frame that a state still needs. -/
structure SameFields (state : State) (ctx ctx' : Context) : Prop where
  body : ∀ num, state = .waitBody num → ctx.payloadLength = ctx'.payloadLength ∧
    ctx.result.destination = ctx'.result.destination ∧ ctx.result.source = ctx'.result.source
  read : ∀ num, state = .waitRead num → ctx.result = ctx'.result

/-- Two outcomes that differ only in what will be overwritten. -/
structure Matches (limit : UInt16) (bound : Nat) (o o' : Outcome) : Prop where
  state : o.1 = o'.1
  rest : o.2.2 = o'.2.2
  known : o.1.known ≤ bound
  within : o.2.2.Within bound
  front : SameFront limit bound o.2.1 o'.2.1
  fields : SameFields o.1 o.2.1 o'.2.1

theorem SameFields.of_none {state : State} (ctx ctx' : Context)
    (hbody : ∀ num, state ≠ .waitBody num) (hread : ∀ num, state ≠ .waitRead num) :
    SameFields state ctx ctx' :=
  ⟨fun num h => absurd h (hbody num), fun num h => absurd h (hread num)⟩

theorem Source.Within.mono {bound bound' : Nat} (hle : bound ≤ bound') {input : Source}
    (h : input.Within bound) : input.Within bound' := by
  cases input with
  | external bytes => trivial
  | buffered offset length => exact h.imp_right (fun hin => hin.trans hle)

theorem Source.Within.advance {bound : Nat} {input : Source} (h : input.Within bound)
    (count : Nat) : (input.advance count).Within bound := by
  cases input with
  | external bytes => trivial
  | buffered offset length =>
      simp only [Source.Within, Source.advance] at h ⊢
      omega

namespace SameFront

variable {limit : UInt16} {bound : Nat} {ctx ctx' : Context}

theorem mono (h : SameFront limit bound ctx ctx') {bound' : Nat} (hle : bound' ≤ bound) :
    SameFront limit bound' ctx ctx' := by
  refine ⟨h.limit_left, h.limit_right, ?_, hle.trans h.room_left, hle.trans h.room_right⟩
  have htake := congrArg (List.take bound') h.bytes
  rwa [List.take_take, List.take_take, Nat.min_eq_left hle] at htake

/-- What stands between two places below the bound. -/
theorem slice (h : SameFront limit bound ctx ctx') {offset width : Nat}
    (hin : offset + width ≤ bound) :
    (ctx.buffer.drop offset).take width = (ctx'.buffer.drop offset).take width := by
  rw [List.take_drop, List.take_drop, (h.mono hin).bytes]

theorem sourceBytes (h : SameFront limit bound ctx ctx') {input : Source}
    (hin : input.Within bound) : input.bytes ctx.buffer = input.bytes ctx'.buffer := by
  cases input with
  | external bytes => rfl
  | buffered offset length =>
      rcases hin with rfl | hin
      · simp [Source.bytes]
      · exact h.slice hin

/-- One write into both buffers, not behind the bound. -/
theorem write (h : SameFront limit bound ctx ctx') {offset : Nat} (hoffset : offset ≤ bound)
    (bytes : Bytes) :
    SameFront limit (max bound (offset + bytes.length))
      { ctx with buffer := writeAt ctx.buffer offset bytes }
      { ctx' with buffer := writeAt ctx'.buffer offset bytes } := by
  have hroom := h.room_left
  have hroom' := h.room_right
  refine ⟨h.limit_left, h.limit_right, ?_, ?_, ?_⟩
  · have hfront := (h.mono hoffset).bytes
    have hlen : (ctx'.buffer.take offset ++ bytes).length = offset + bytes.length := by
      simp only [List.length_append, List.length_take]
      omega
    simp only [writeAt, hfront]
    generalize ctx'.buffer.take offset ++ bytes = front at hlen ⊢
    rw [List.take_append, List.take_append, hlen]
    congr 1
    -- behind the written bytes both buffers are as before
    by_cases hpast : offset + bytes.length ≤ bound
    · have hback := h.slice (show offset + bytes.length + (bound - (offset + bytes.length)) ≤
        bound by omega)
      rw [Nat.max_eq_left hpast]
      exact hback
    · rw [Nat.max_eq_right (by omega), Nat.sub_self, List.take_zero, List.take_zero]
  · simp only [writeAt, List.length_append, List.length_take, List.length_drop]
    omega
  · simp only [writeAt, List.length_append, List.length_take, List.length_drop]
    omega

end SameFront

section Parsing

variable {limit : UInt16} {bound : Nat} {ctx ctx' : Context} {input : Source}

/-- Two outcomes match, with at least as long a common front as before. -/
def MatchesFrom (limit : UInt16) (bound : Nat) (o o' : Outcome) : Prop :=
  ∃ longer, bound ≤ longer ∧ Matches limit longer o o'

/-- A parsing function keeps matching positions matching. -/
def Respects (parse : State → Context → Source → Outcome) : Prop :=
  ∀ limit bound state ctx ctx' input,
    Matches limit bound (state, ctx, input) (state, ctx', input) →
      MatchesFrom limit bound (parse state ctx input) (parse state ctx' input)

theorem parseSync1_matches (count : Nat) (hfront : SameFront limit bound ctx ctx')
    (hwithin : input.Within bound) :
    MatchesFrom limit bound (parseSync1 count ctx input) (parseSync1 count ctx' input) := by
  induction count generalizing input with
  | zero =>
      exact ⟨bound, Nat.le_refl _, rfl, rfl, Nat.zero_le _, hwithin, hfront,
        .of_none _ _ (by simp [parseSync1]) (by simp [parseSync1])⟩
  | succ count ih =>
      have hbytes := hfront.sourceBytes hwithin
      simp only [parseSync1, hbytes]
      split_ifs with hsync
      · refine ⟨_, Nat.le_max_left _ _, rfl, rfl, ?_,
          (hwithin.advance _).mono (Nat.le_max_left _ _),
          hfront.write (Nat.zero_le _) _, .of_none _ _ (by simp) (by simp)⟩
        simp only [State.known, List.length_singleton]
        omega
      · exact ih (hwithin.advance _)

theorem parseSync2_matches (hknown : 1 ≤ bound) (hfront : SameFront limit bound ctx ctx')
    (hwithin : input.Within bound) :
    MatchesFrom limit bound (parseSync2 ctx input) (parseSync2 ctx' input) := by
  have hbytes := hfront.sourceBytes hwithin
  simp only [parseSync2, hbytes]
  split_ifs with hsync
  · refine ⟨_, Nat.le_max_left _ _, rfl, rfl, ?_, (hwithin.advance _).mono (Nat.le_max_left _ _),
      hfront.write hknown _, .of_none _ _ (by simp) (by simp)⟩
    simp only [State.known, List.length_singleton]
    omega
  · exact ⟨bound, Nat.le_refl _, rfl, rfl, Nat.zero_le _, hwithin.advance _, hfront,
      .of_none _ _ (by simp) (by simp)⟩

/-- Moving bytes into the buffer moves the same bytes on both sides. -/
theorem transferData_front (target : Nat) {num : Nat} (hnum : num ≤ bound)
    (hfront : SameFront limit bound ctx ctx') (hwithin : input.Within bound) :
    (transferData num ctx input target).1 = (transferData num ctx' input target).1 ∧
    (transferData num ctx input target).2.2 = (transferData num ctx' input target).2.2 ∧
    ∃ longer, bound ≤ longer ∧ (transferData num ctx input target).1 ≤ longer ∧
      SameFront limit longer (transferData num ctx input target).2.1
        (transferData num ctx' input target).2.1 := by
  have hbytes := hfront.sourceBytes hwithin
  have hlength : (input.bytes ctx'.buffer).length = input.length := by
    cases input with
    | external bytes => rfl
    | buffered offset length =>
        have hroom := hfront.room_right
        simp only [Source.Within, Source.bytes, Source.length, List.length_take,
          List.length_drop] at hwithin ⊢
        omega
  have hmoved : SameFront limit
      (max bound (num + ((input.bytes ctx'.buffer).take (min (target - num) input.length)).length))
      (transferData num ctx input target).2.1 (transferData num ctx' input target).2.1 := by
    simp only [transferData, hbytes]
    exact hfront.write hnum _
  refine ⟨rfl, rfl, _, Nat.le_max_left _ _, ?_, hmoved⟩
  -- as many bytes are written as the count says
  simp only [transferData, List.length_take, hlength]
  omega

theorem numberAt_front (hfront : SameFront limit bound ctx ctx') {offset width : Nat}
    (hin : offset + width ≤ bound) :
    numberAt ctx.buffer offset width = numberAt ctx'.buffer offset width := by
  rw [numberAt, numberAt, hfront.slice hin]

/-- A whole header is read alike, also if its bytes are parsed again. -/
theorem finishHeader_matches {reparse : State → Context → Source → Outcome}
    (hrespects : Respects reparse) (hknown : headerTotalSize ≤ bound)
    (hfront : SameFront limit bound ctx ctx') (hwithin : input.Within bound) :
    MatchesFrom limit bound
      ((finishHeader reparse ctx).1, (finishHeader reparse ctx).2, input)
      ((finishHeader reparse ctx').1, (finishHeader reparse ctx').2, input) := by
  have hsize : headerTotalSize = 12 := rfl
  have hread : SameFront limit bound (readHeader ctx) (readHeader ctx') :=
    ⟨hfront.limit_left, hfront.limit_right, hfront.bytes, hfront.room_left, hfront.room_right⟩
  have hlength : (readHeader ctx).payloadLength = (readHeader ctx').payloadLength :=
    congrArg UInt16.ofNat (numberAt_front hfront (show 6 + 2 ≤ bound by omega))
  have hdestination : (readHeader ctx).result.destination = (readHeader ctx').result.destination :=
    congrArg UInt16.ofNat (numberAt_front hfront (show 2 + 2 ≤ bound by omega))
  have hsource : (readHeader ctx).result.source = (readHeader ctx').result.source :=
    congrArg UInt16.ofNat (numberAt_front hfront (show 4 + 2 ≤ bound by omega))
  unfold finishHeader
  generalize readHeader ctx = header at hread hlength hdestination hsource ⊢
  generalize readHeader ctx' = header' at hread hlength hdestination hsource ⊢
  have hcrc : numberAt header.buffer headerFieldsSize crcSize =
      numberAt header'.buffer headerFieldsSize crcSize :=
    numberAt_front hread (hknown.trans' (by decide))
  have hfields : header.buffer.take headerFieldsSize = header'.buffer.take headerFieldsSize :=
    (hread.mono (hknown.trans' (by decide))).bytes
  have hreports : ∀ reports reports', SameFront limit bound
      { header with reports := reports } { header' with reports := reports' } := fun _ _ =>
    ⟨hread.limit_left, hread.limit_right, hread.bytes, hread.room_left, hread.room_right⟩
  have hlimit := hread.limit_left.trans hread.limit_right.symm
  simp only
  by_cases hbad : CastagnoliCRC32.calculate (header.buffer.take headerFieldsSize) ≠
      UInt32.ofNat (numberAt header.buffer headerFieldsSize crcSize)
  · have hbad' := hbad
    rw [hfields, hcrc] at hbad'
    rw [if_pos hbad, if_pos hbad']
    -- the bytes behind the synchronization bytes are parsed again
    obtain ⟨longer, hle, hmatches⟩ : MatchesFrom limit bound _ _ :=
      hrespects limit bound .waitSync1
        { header with reports := header.reports ++ [.badHeaderCrc _ _] }
        { header' with reports := header'.reports ++ [.badHeaderCrc _ _] }
        (.buffered 2 (headerTotalSize - 2))
        ⟨rfl, rfl, Nat.zero_le _, Or.inr (by omega), hreports _ _,
          .of_none _ _ (by simp) (by simp)⟩
    exact ⟨longer, hle, hmatches.state, rfl, hmatches.known, hwithin.mono hle, hmatches.front,
      hmatches.fields⟩
  · have hgood := hbad
    rw [hfields, hcrc] at hgood
    rw [if_neg hbad, if_neg hgood]
    by_cases hlong : header.payloadLength > header.maxPayloadLength
    · have hlong' := hlong
      rw [hlength, hlimit] at hlong'
      rw [if_pos hlong, if_pos hlong']
      exact ⟨bound, Nat.le_refl _, rfl, rfl, Nat.zero_le _, hwithin, hreports _ _,
        .of_none _ _ (by simp) (by simp)⟩
    · have hshort := hlong
      rw [hlength, hlimit] at hshort
      rw [if_neg hlong, if_neg hshort]
      exact ⟨bound, Nat.le_refl _, rfl, rfl, hknown, hwithin, hread,
        ⟨fun _ _ => ⟨hlength, hdestination, hsource⟩, by simp⟩⟩

theorem parseHeader_matches {reparse : State → Context → Source → Outcome}
    (hrespects : Respects reparse) {num : Nat} (hnum : num ≤ bound)
    (hfront : SameFront limit bound ctx ctx') (hwithin : input.Within bound) :
    MatchesFrom limit bound (parseHeader reparse num ctx input)
      (parseHeader reparse num ctx' input) := by
  obtain ⟨hcount, hrest, longer, hle, hknown, hnext⟩ :=
    transferData_front headerTotalSize hnum hfront hwithin
  have hwithin' : (transferData num ctx input headerTotalSize).2.2.Within longer :=
    (hwithin.advance _).mono hle
  simp only [parseHeader]
  generalize transferData num ctx input headerTotalSize = moved at *
  generalize transferData num ctx' input headerTotalSize = moved' at *
  obtain ⟨count, moved, rest⟩ := moved
  obtain ⟨count', moved', rest'⟩ := moved'
  obtain rfl : count = count' := hcount
  obtain rfl : rest = rest' := hrest
  by_cases hmore : count ≠ headerTotalSize
  · rw [if_pos hmore, if_pos hmore]
    exact ⟨longer, hle, rfl, rfl, hknown, hwithin', hnext, .of_none _ _ (by simp) (by simp)⟩
  · rw [if_neg hmore, if_neg hmore]
    rw [not_not] at hmore
    obtain ⟨longest, hle', hmatches⟩ :=
      finishHeader_matches hrespects (hmore ▸ hknown) hnext hwithin'
    exact ⟨longest, hle.trans hle', hmatches⟩

/-- A whole body is checked alike, and yields the same frame. -/
theorem finishBody_matches (total : Nat) (hfront : SameFront limit bound ctx ctx')
    (hwithin : input.Within bound) (hlength : ctx.payloadLength = ctx'.payloadLength)
    (hdestination : ctx.result.destination = ctx'.result.destination)
    (hsource : ctx.result.source = ctx'.result.source)
    (hknown : headerTotalSize + ctx.payloadLength.toNat + crcSize ≤ bound) :
    MatchesFrom limit bound ((finishBody total ctx).1, (finishBody total ctx).2, input)
      ((finishBody total ctx').1, (finishBody total ctx').2, input) := by
  have hpayload : (ctx.buffer.drop headerTotalSize).take ctx.payloadLength.toNat =
      (ctx'.buffer.drop headerTotalSize).take ctx'.payloadLength.toNat := by
    rw [← hlength]
    exact hfront.slice (by omega)
  have hcrc : numberAt ctx.buffer (headerTotalSize + ctx.payloadLength.toNat) crcSize =
      numberAt ctx'.buffer (headerTotalSize + ctx'.payloadLength.toNat) crcSize := by
    rw [← hlength]
    exact numberAt_front hfront hknown
  simp only [finishBody, hpayload, hcrc]
  split_ifs with hbad
  · exact ⟨bound, Nat.le_refl _, rfl, rfl, Nat.zero_le _, hwithin,
      ⟨hfront.limit_left, hfront.limit_right, hfront.bytes, hfront.room_left, hfront.room_right⟩,
      .of_none _ _ (by simp) (by simp)⟩
  · exact ⟨bound, Nat.le_refl _, rfl, rfl, Nat.zero_le _, hwithin,
      ⟨hfront.limit_left, hfront.limit_right, hfront.bytes, hfront.room_left, hfront.room_right⟩,
      ⟨by simp, fun _ _ => by simp [hdestination, hsource]⟩⟩

theorem parseBody_matches {num : Nat} (hlength : ctx.payloadLength = ctx'.payloadLength)
    (hdestination : ctx.result.destination = ctx'.result.destination)
    (hsource : ctx.result.source = ctx'.result.source) (hnum : num ≤ bound)
    (hfront : SameFront limit bound ctx ctx') (hwithin : input.Within bound) :
    MatchesFrom limit bound (parseBody num ctx input) (parseBody num ctx' input) := by
  obtain ⟨hcount, hrest, longer, hle, hknown, hnext⟩ :=
    transferData_front (headerTotalSize + ctx'.payloadLength.toNat + crcSize) hnum hfront hwithin
  have hwithin' := (hwithin.advance (min (headerTotalSize + ctx'.payloadLength.toNat + crcSize -
    num) input.length)).mono hle
  simp only [parseBody, hlength]
  by_cases hmore : (transferData num ctx input
      (headerTotalSize + ctx'.payloadLength.toNat + crcSize)).1 ≠
        headerTotalSize + ctx'.payloadLength.toNat + crcSize
  · rw [if_pos hmore, if_pos (hcount ▸ hmore)]
    exact ⟨longer, hle, by simp only [hcount], hrest, hknown, hwithin', hnext,
      ⟨fun _ _ => ⟨hlength, hdestination, hsource⟩, by simp⟩⟩
  · rw [if_neg hmore, if_neg (hcount ▸ hmore)]
    rw [not_not] at hmore
    rw [hmore] at hknown
    obtain ⟨longest, hle', hmatches⟩ := finishBody_matches
      (headerTotalSize + ctx'.payloadLength.toNat + crcSize) hnext hwithin' hlength hdestination
      hsource (by
        simp only [transferData, hlength]
        exact hknown)
    exact ⟨longest, hle.trans hle', hmatches⟩

theorem parseOne_respects {reparse : State → Context → Source → Outcome}
    (hrespects : Respects reparse) : Respects (parseOne reparse) := by
  intro limit bound state ctx ctx' input h
  cases state with
  | waitSync1 => exact parseSync1_matches _ h.front h.within
  | waitSync2 => exact parseSync2_matches h.known h.front h.within
  | waitHeader num => exact parseHeader_matches hrespects h.known h.front h.within
  | waitBody num =>
      obtain ⟨hlength, hdestination, hsource⟩ := h.fields.body num rfl
      exact parseBody_matches hlength hdestination hsource h.known h.front h.within
  | waitRead num => exact ⟨bound, Nat.le_refl _, h⟩

theorem parseLoop_respects {reparse : State → Context → Source → Outcome}
    (hrespects : Respects reparse) (fuel : Nat) : Respects (parseLoop reparse fuel) := by
  induction fuel with
  | zero => exact fun limit bound state ctx ctx' input h => ⟨bound, Nat.le_refl _, h⟩
  | succ fuel ih =>
      intro limit bound state ctx ctx' input h
      simp only [parseLoop]
      split_ifs with hstop
      · exact ⟨bound, Nat.le_refl _, h⟩
      · obtain ⟨longer, hle, hone⟩ := parseOne_respects hrespects limit bound state ctx ctx' input h
        generalize parseOne reparse state ctx input = next at hone
        generalize parseOne reparse state ctx' input = next' at hone
        obtain ⟨state, ctx, rest⟩ := next
        obtain ⟨state', ctx', rest'⟩ := next'
        obtain rfl : state = state' := hone.state
        obtain rfl : rest = rest' := hone.rest
        obtain ⟨longest, hle', hmore⟩ := ih limit longer state ctx ctx' rest hone
        exact ⟨longest, hle.trans hle', hmore⟩

theorem parseMany_respects (depth : Nat) : Respects (parseMany depth) := by
  induction depth with
  | zero => exact fun limit bound state ctx ctx' input h => ⟨bound, Nat.le_refl _, h⟩
  | succ depth ih =>
      intro limit bound state ctx ctx' input h
      exact parseLoop_respects ih _ limit bound state ctx ctx' input h

end Parsing

/-- Two parsers with one limit that differ only in what they will overwrite. -/
structure Similar (limit : UInt16) (parser parser' : LinkParser) : Prop where
  wf : parser.WellFormed
  wf' : parser'.WellFormed
  positions : ∃ bound, Matches limit bound (parser.state, parser.context, .external [])
    (parser'.state, parser'.context, .external [])

namespace Similar

variable {limit : UInt16} {parser parser' : LinkParser}

theorem state_eq (h : Similar limit parser parser') : parser.state = parser'.state := by
  obtain ⟨bound, hmatches⟩ := h.positions
  exact hmatches.state

theorem hasResult_eq (h : Similar limit parser parser') :
    parser.hasResult = parser'.hasResult := by
  rw [hasResult, hasResult, h.state_eq]

theorem read_eq (h : Similar limit parser parser') : parser.read = parser'.read := by
  obtain ⟨bound, hmatches⟩ := h.positions
  simp only [read, h.state_eq]
  cases hstate : parser'.state with
  | waitRead num =>
      have hresult : parser.context.result = parser'.context.result :=
        hmatches.fields.read num (h.state_eq.trans hstate)
      simp [State.isWaitRead, hresult]
  | _ => simp [State.isWaitRead]

/-- Parsers with one limit are similar as soon as both wait for a frame. -/
theorem of_start (hwf : parser.WellFormed) (hwf' : parser'.WellFormed)
    (hlimit : parser.context.maxPayloadLength = limit)
    (hlimit' : parser'.context.maxPayloadLength = limit)
    (hstart : parser.state = .waitSync1) (hstart' : parser'.state = .waitSync1) :
    Similar limit parser parser' := by
  refine ⟨hwf, hwf', 0, hstart.trans hstart'.symm, rfl, ?_, trivial,
    ⟨hlimit, hlimit', rfl, Nat.zero_le _, Nat.zero_le _⟩, ?_⟩
  · simp [hstart, State.known]
  · exact .of_none _ _ (by simp [hstart]) (by simp [hstart])

theorem limits (h : Similar limit parser parser') :
    parser.context.maxPayloadLength = limit ∧ parser'.context.maxPayloadLength = limit := by
  obtain ⟨bound, hmatches⟩ := h.positions
  exact ⟨hmatches.front.limit_left, hmatches.front.limit_right⟩

theorem reset (h : Similar limit parser parser') : Similar limit parser.reset parser'.reset :=
  of_start (reset_wellFormed h.wf) (reset_wellFormed h.wf') h.limits.1 h.limits.2 rfl rfl

/-- Similar parsers take the same bytes and stay similar. -/
theorem parse (h : Similar limit parser parser') (input : Bytes) :
    Similar limit (parser.parse input).1 (parser'.parse input).1 ∧
      (parser.parse input).2 = (parser'.parse input).2 := by
  obtain ⟨bound, hmatches⟩ := h.positions
  obtain ⟨ctx, state⟩ := parser
  obtain ⟨ctx', state'⟩ := parser'
  obtain rfl : state = state' := hmatches.state
  obtain ⟨longer, -, hafter⟩ := parseMany_respects 2 limit bound state ctx ctx' (.external input)
    ⟨rfl, rfl, hmatches.known, trivial, hmatches.front, hmatches.fields⟩
  refine ⟨⟨parse_wellFormed h.wf _, parse_wellFormed h.wf' _, longer, hafter.state, rfl,
    hafter.known, trivial, hafter.front, hafter.fields⟩, ?_⟩
  -- what is left are bytes of the caller, on both sides
  obtain ⟨rest, hrest⟩ := feed_external (parseMany_wf 1) h.wf input
  obtain ⟨rest', hrest'⟩ := feed_external (parseMany_wf 1) h.wf' input
  have hsame := hafter.rest
  change (feed (parseMany 1) state ctx input).2.2 = (feed (parseMany 1) state ctx' input).2.2
    at hsame
  simp only [parse_eq_feed, hrest, hrest', Source.bytes] at hsame ⊢
  exact Source.external.inj hsame

end Similar

end LinkParser

namespace LinkLayer

/-! ## Lives of a layer

The callbacks of the upper layer are the last thing that each event does, so calls
made from inside a callback are events of their own. -/

/-- `on_lower_close`; a layer that is not open ignores it. -/
def onLowerClose (layer : LinkLayer) : LinkLayer :=
  if layer.isOpen then { layer with isOpen := false, parser := layer.parser.reset } else layer

/-- What can happen to a layer from its construction on. -/
inductive LifeEvent
  | lowerOpen
  | lowerClose
  | receive (event : Event)
  deriving DecidableEq, Repr

/-- What the upper layer is given: a notification or a payload. -/
inductive Delivery
  | rxReady
  | payload (bytes : Bytes)
  deriving DecidableEq, Repr

/-- Whether an event notifies the upper layer. -/
def notifies (layer : LinkLayer) (event : Event) : Bool :=
  event = .rxReady && layer.onLowerRxReady.1

def lifeStep (layer : LinkLayer) : LifeEvent → LinkLayer × List Delivery
  | .lowerOpen => (layer.onLowerOpen, [])
  | .lowerClose => (layer.onLowerClose, [])
  | .receive event =>
      let (next, received) := layer.step event
      (next, (if layer.notifies event then [.rxReady] else []) ++ received.map .payload)

def lifeRun (layer : LinkLayer) (events : List LifeEvent) : LinkLayer × List Delivery :=
  Runs.collect lifeStep layer events

/-- Two layers with one address, over one lower layer, that differ in stale data of the
parser only. -/
structure Alike (localAddr : UInt16) (layer layer' : LinkLayer) : Prop where
  addr : layer.localAddr = localAddr
  addr' : layer'.localAddr = localAddr
  isOpen : layer.isOpen = layer'.isOpen
  processing : layer.upperIsProcessingRxData = layer'.upperIsProcessingRxData
  remainder : layer.remainder = layer'.remainder
  lower : layer.lower = layer'.lower
  parser : LinkParser.Similar payloadLimit layer.parser layer'.parser

namespace Alike

variable {localAddr : UInt16} {layer layer' : LinkLayer}

theorem lowerStartRx (h : Alike localAddr layer layer') :
    layer.lowerStartRx.1 = layer'.lowerStartRx.1 ∧
      Alike localAddr layer.lowerStartRx.2 layer'.lowerStartRx.2 := by
  obtain ⟨addr, remoteAddr, isOpen, processing, remainder, parser, lower⟩ := layer
  obtain ⟨addr', remoteAddr', isOpen', processing', remainder', parser', lower'⟩ := layer'
  obtain rfl : lower = lower' := h.lower
  cases lower with
  | nil => exact ⟨rfl, h⟩
  | cons chunk rest =>
      exact ⟨rfl, h.addr, h.addr', h.isOpen, h.processing, h.remainder, rfl, h.parser⟩

theorem readFrameOneIteration (h : Alike localAddr layer layer') :
    layer.readFrameOneIteration.1 = layer'.readFrameOneIteration.1 ∧
      Alike localAddr layer.readFrameOneIteration.2 layer'.readFrameOneIteration.2 := by
  simp only [LinkLayer.readFrameOneIteration, h.remainder]
  split_ifs with hempty
  · obtain ⟨hchunk, hnext⟩ := h.lowerStartRx
    exact ⟨by rw [hchunk], hnext.addr, hnext.addr', hnext.isOpen, hnext.processing, hchunk,
      hnext.lower,
      hnext.parser⟩
  · obtain ⟨hnext, hrest⟩ := h.parser.parse layer'.remainder
    exact ⟨by rw [hnext.hasResult_eq], h.addr, h.addr', h.isOpen, h.processing, hrest,
      h.lower, hnext⟩

theorem getFrameLoop (h : Alike localAddr layer layer') (fuel : Nat) :
    Alike localAddr (LinkLayer.getFrameLoop fuel layer) (LinkLayer.getFrameLoop fuel layer') := by
  induction fuel generalizing layer layer' with
  | zero => exact h
  | succ fuel ih =>
      obtain ⟨hmore, hnext⟩ := h.readFrameOneIteration
      simp only [LinkLayer.getFrameLoop, hmore]
      split_ifs
      · exact ih hnext
      · exact hnext

theorem getFrame (h : Alike localAddr layer layer') :
    Alike localAddr layer.getFrame layer'.getFrame := by
  simp only [LinkLayer.getFrame, h.parser.hasResult_eq, h.lower]
  split_ifs
  · exact h
  · exact h.getFrameLoop _

theorem startRxFromUpperImpl (h : Alike localAddr layer layer') :
    layer.startRxFromUpperImpl.1 = layer'.startRxFromUpperImpl.1 ∧
      Alike localAddr layer.startRxFromUpperImpl.2 layer'.startRxFromUpperImpl.2 := by
  have hframe := h.getFrame
  simp only [LinkLayer.startRxFromUpperImpl, hframe.parser.read_eq, hframe.addr, hframe.addr']
  cases layer'.getFrame.parser.read with
  | none => exact ⟨rfl, hframe⟩
  | some result => exact ⟨rfl, hframe⟩

theorem discard (h : Alike localAddr layer layer') :
    Alike localAddr { layer.discardRxData with upperIsProcessingRxData := false }
      { layer'.discardRxData with upperIsProcessingRxData := false } :=
  ⟨h.addr, h.addr', h.isOpen, rfl, h.remainder, h.lower, h.parser.reset⟩

/-- What is returned is lent to the upper layer. -/
theorem lend {result result' : Bytes × LinkLayer} (hret : result.1 = result'.1)
    (h : Alike localAddr result.2 result'.2) :
    Alike localAddr
      (if result.1 ≠ [] then { result.2 with upperIsProcessingRxData := true } else result.2)
      (if result'.1 ≠ [] then { result'.2 with upperIsProcessingRxData := true }
        else result'.2) := by
  rw [hret]
  split_ifs
  · exact ⟨h.addr, h.addr', h.isOpen, rfl, h.remainder, h.lower, h.parser⟩
  · exact h

theorem startRxFromUpper (h : Alike localAddr layer layer') :
    layer.startRxFromUpper.1 = layer'.startRxFromUpper.1 ∧
      Alike localAddr layer.startRxFromUpper.2 layer'.startRxFromUpper.2 := by
  have hfirst : Alike localAddr
      (if layer.upperIsProcessingRxData then
        { layer.discardRxData with upperIsProcessingRxData := false } else layer)
      (if layer'.upperIsProcessingRxData then
        { layer'.discardRxData with upperIsProcessingRxData := false } else layer') := by
    rw [h.processing]
    split_ifs
    · exact h.discard
    · exact h
  obtain ⟨hret, hnext⟩ := hfirst.startRxFromUpperImpl
  exact ⟨hret, lend hret hnext⟩

theorem onLowerRxReady (h : Alike localAddr layer layer') :
    layer.onLowerRxReady.1 = layer'.onLowerRxReady.1 ∧
      Alike localAddr layer.onLowerRxReady.2 layer'.onLowerRxReady.2 := by
  simp only [LinkLayer.onLowerRxReady, h.isOpen]
  split_ifs
  · exact ⟨h.getFrame.parser.hasResult_eq, h.getFrame⟩
  · exact ⟨rfl, h⟩

theorem onLowerClose (h : Alike localAddr layer layer') :
    Alike localAddr layer.onLowerClose layer'.onLowerClose := by
  simp only [LinkLayer.onLowerClose, h.isOpen]
  split_ifs
  · exact ⟨h.addr, h.addr', rfl, h.processing, h.remainder, h.lower, h.parser.reset⟩
  · exact h

/-- One event of the receive side: layers that are alike hand out the same and stay alike. -/
theorem step (h : Alike localAddr layer layer') (event : Event) :
    (layer.step event).2 = (layer'.step event).2 ∧
      Alike localAddr (layer.step event).1 (layer'.step event).1 := by
  cases event with
  | arrive chunk =>
      simp only [LinkLayer.step, h.lower]
      split_ifs
      · exact ⟨trivial, h⟩
      · exact ⟨trivial, h.addr, h.addr', h.isOpen, h.processing, h.remainder, rfl, h.parser⟩
  | rxReady => exact ⟨rfl, h.onLowerRxReady.2⟩
  | startRx =>
      obtain ⟨hret, hnext⟩ := h.startRxFromUpper
      simp only [LinkLayer.step, hret]
      exact ⟨trivial, hnext⟩

theorem lifeStep (h : Alike localAddr layer layer') (event : LifeEvent) :
    (layer.lifeStep event).2 = (layer'.lifeStep event).2 ∧
      Alike localAddr (layer.lifeStep event).1 (layer'.lifeStep event).1 := by
  cases event with
  | lowerOpen =>
      exact ⟨rfl, h.addr, h.addr', rfl, h.processing, h.remainder, h.lower, h.parser⟩
  | lowerClose => exact ⟨rfl, h.onLowerClose⟩
  | receive event =>
      obtain ⟨hreceived, hnext⟩ := h.step event
      simp only [LinkLayer.lifeStep, notifies, h.onLowerRxReady.1, hreceived]
      exact ⟨rfl, hnext⟩

/-- Whole lives. -/
theorem lifeRun (h : Alike localAddr layer layer') (events : List LifeEvent) :
    (layer.lifeRun events).2 = (layer'.lifeRun events).2 ∧
      Alike localAddr (layer.lifeRun events).1 (layer'.lifeRun events).1 :=
  Runs.collect_related (fun _ _ event halike => halike.lifeStep event) h events

end Alike

/-! ## The reopen law -/

theorem create_alike (localAddr remoteAddr : UInt16) :
    Alike localAddr (create localAddr remoteAddr) (create localAddr remoteAddr) :=
  ⟨rfl, rfl, rfl, rfl, rfl, rfl, .of_start (LinkParser.create_wellFormed _)
    (LinkParser.create_wellFormed _) rfl rfl rfl rfl⟩

/-- A close that leaves nothing behind: it resets the parser (or finds it reset), the last
chunk has been parsed to its end, and the upper layer does not hold a payload. -/
def ClosesClean (layer : LinkLayer) : Prop :=
  (layer.isOpen = true ∨ layer.parser.state = .waitSync1) ∧ layer.remainder = [] ∧
    layer.upperIsProcessingRxData = false

instance (layer : LinkLayer) : Decidable layer.ClosesClean :=
  inferInstanceAs (Decidable (_ ∧ _ ∧ _))

/-- A clean close makes a layer like any other one that is closed and has nothing. -/
theorem ClosesClean.alike {localAddr : UInt16} {layer fresh : LinkLayer} (h : layer.ClosesClean)
    (hlayer : Alike localAddr layer layer) (hfresh : Alike localAddr fresh fresh)
    (hclosed : fresh.isOpen = false) (hstart : fresh.parser.state = .waitSync1)
    (hremainder : fresh.remainder = []) (hprocessing : fresh.upperIsProcessingRxData = false)
    (hlower : layer.lower = fresh.lower) : Alike localAddr layer.onLowerClose fresh := by
  obtain ⟨hopen, hrest, hidle⟩ := h
  simp only [LinkLayer.onLowerClose]
  split_ifs with hnow
  · exact ⟨hlayer.addr, hfresh.addr, hclosed.symm, hidle.trans hprocessing.symm,
      hrest.trans hremainder.symm, hlower,
      .of_start (LinkParser.reset_wellFormed hlayer.parser.wf) hfresh.parser.wf
        hlayer.parser.limits.1 hfresh.parser.limits.1 rfl hstart⟩
  · have hwait := hopen.resolve_left hnow
    exact ⟨hlayer.addr, hfresh.addr, (Bool.eq_false_of_not_eq_true hnow).trans hclosed.symm,
      hidle.trans hprocessing.symm, hrest.trans hremainder.symm, hlower,
      .of_start hlayer.parser.wf hfresh.parser.wf hlayer.parser.limits.1 hfresh.parser.limits.1
        hwait hstart⟩

/-- **Link layer reopen law.**  After a clean close the layer delivers on every later
input what a new layer delivers over the same lower layer. -/
theorem reopened_as_new (localAddr remoteAddr : UInt16) (history : List LifeEvent)
    (hclean : ((create localAddr remoteAddr).lifeRun history).1.ClosesClean)
    (later : List LifeEvent) :
    let closed := ((create localAddr remoteAddr).lifeRun history).1.onLowerClose
    (closed.lifeRun later).2 =
      ({ create localAddr remoteAddr with lower := closed.lower }.lifeRun later).2 := by
  intro closed
  have hstart := create_alike localAddr remoteAddr
  have hreached := (hstart.lifeRun history).2
  have hlower : ((create localAddr remoteAddr).lifeRun history).1.lower = closed.lower := by
    simp only [closed, LinkLayer.onLowerClose]
    split_ifs <;> rfl
  have hfresh : Alike localAddr { create localAddr remoteAddr with lower := closed.lower }
      { create localAddr remoteAddr with lower := closed.lower } :=
    ⟨rfl, rfl, rfl, rfl, rfl, rfl, hstart.parser⟩
  exact ((hclean.alike hreached hfresh rfl rfl rfl rfl hlower).lifeRun later).1

/-- A close between two chunks, and then a frame that arrives afterwards. -/
theorem reopened_as_new_sample :
    let history : List LifeEvent :=
      [.lowerOpen, .receive (.arrive ((Frame.encode ⟨1, 10, [0xAB]⟩).take 15)), .receive .rxReady]
    let later : List LifeEvent :=
      [.lowerOpen, .receive (.arrive (Frame.encode ⟨1, 10, [0xCD]⟩)), .receive .rxReady,
        .receive .startRx]
    ((((create 1 10).lifeRun history).1.onLowerClose).lifeRun later).2 =
      [.rxReady, .payload [0xCD]] := by
  intro history later
  have h := reopened_as_new 1 10 history (by decide +kernel) later
  rw [h]
  decide +kernel

/-- What a close leaves behind.  First the layer has taken two frames in one chunk and
offers the first one: after the reopening the second one is delivered, although nothing
has arrived since.  Then the upper layer holds a payload: the first frame behind the
reopening is announced and dropped. -/
theorem reopened_differs :
    ((((create 1 10).lifeRun [.lowerOpen,
        .receive (.arrive (Frame.encode ⟨1, 10, [0xAB]⟩ ++ Frame.encode ⟨1, 10, [0xCD]⟩)),
        .receive .rxReady]).1.onLowerClose).lifeRun [.lowerOpen, .receive .startRx]).2 =
          [.payload [0xCD]] ∧
    ((create 1 10).lifeRun [.lowerOpen, .receive .startRx]).2 = [] ∧
    ((((create 1 10).lifeRun [.lowerOpen, .receive (.arrive (Frame.encode ⟨1, 10, [0xAB]⟩)),
        .receive .rxReady, .receive .startRx]).1.onLowerClose).lifeRun
      [.lowerOpen, .receive (.arrive (Frame.encode ⟨1, 10, [0xCD]⟩)), .receive .rxReady,
        .receive .startRx]).2 = [.rxReady] ∧
    ((create 1 10).lifeRun
      [.lowerOpen, .receive (.arrive (Frame.encode ⟨1, 10, [0xCD]⟩)), .receive .rxReady,
        .receive .startRx]).2 =
        [.rxReady, .payload [0xCD]] := by
  decide +kernel

end LinkLayer

end Ssp21
