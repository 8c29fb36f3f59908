import Ssp21.Link.CastagnoliCRC32

/-!
# The link frame parser

A frame is two synchronization bytes, destination, source and payload length, a
checksum of these eight bytes, the payload and a checksum of the payload.  The
parser collects a frame in its own buffer, whatever pieces the input comes in.

* `Source` is what a parsing function reads from: the caller's bytes, or a part
  of the parser's own buffer when a header whose checksum does not match is
  processed again in place.
* `parseMany` has a nesting depth, because a header that fails is reprocessed by
  a nested call.  Ten reprocessed bytes cannot complete another header, so depth
  two is all `parse` needs.
* `parse_append` is the main result: parsing a chunk in two pieces leaves the
  parser where parsing it in one piece does, with the same unconsumed rest.
-/

namespace Ssp21

open Wire

namespace Link

def sync1 : UInt8 := 0x07
def sync2 : UInt8 := 0xAA
def maxConfigPayloadSize : Nat := 4092
def crcSize : Nat := 4
def headerFieldsSize : Nat := 8
def headerTotalSize : Nat := headerFieldsSize + crcSize
def minFrameSize : Nat := headerTotalSize + crcSize

end Link

namespace LinkParser

open Link

/-- What the parser tells its reporter. -/
inductive Report
  | badHeaderCrc (expected actual : UInt32)
  | badBodyCrc (expected actual : UInt32)
  | badBodyLength (maxAllowed actual : UInt16)
  deriving DecidableEq, Repr

/-- A received frame. -/
structure Result where
  destination : UInt16
  source : UInt16
  payload : Bytes
  deriving DecidableEq, Repr

/-- The position inside a frame, with the number of bytes buffered so far. -/
inductive State
  | waitSync1
  | waitSync2
  | waitHeader (numBuffered : Nat)
  | waitBody (numBuffered : Nat)
  | waitRead (numBuffered : Nat)
  deriving DecidableEq, Repr

def State.isWaitRead : State → Bool
  | .waitRead _ => true
  | _ => false

def State.numBuffered : State → Nat
  | .waitSync1 => 0
  | .waitSync2 => 1
  | .waitHeader num | .waitBody num | .waitRead num => num

/-- Everything the parsing functions share: the limit, the frame buffer, the
frame being read, and the reports made so far. -/
structure Context where
  maxPayloadLength : UInt16
  buffer : Bytes
  result : Result
  payloadLength : UInt16
  reports : List Report
  deriving DecidableEq, Repr

/-- Overwrite the buffer from an offset on. -/
def writeAt (buffer : Bytes) (offset : Nat) (bytes : Bytes) : Bytes :=
  buffer.take offset ++ bytes ++ buffer.drop (offset + bytes.length)

/-- What a parsing function consumes. -/
inductive Source
  | external (bytes : Bytes)
  | buffered (offset length : Nat)
  deriving DecidableEq, Repr

namespace Source

def length : Source → Nat
  | external bytes => bytes.length
  | buffered _ length => length

/-- The bytes of a source, given the parser's buffer. -/
def bytes (buffer : Bytes) : Source → Bytes
  | external bytes => bytes
  | buffered offset length => (buffer.drop offset).take length

def advance (count : Nat) : Source → Source
  | external bytes => external (bytes.drop count)
  | buffered offset length => buffered (offset + count) (length - count)

end Source

/-- What a parsing function leaves: the next state, the context, the rest. -/
abbrev Outcome := State × Context × Source

/-- Scan for the first synchronization byte, one byte at a time. -/
def parseSync1 : Nat → Context → Source → Outcome
  | 0, ctx, input => (.waitSync1, ctx, input)
  | count + 1, ctx, input =>
      let value := (input.bytes ctx.buffer).headD 0
      if value = sync1 then
        (.waitSync2, { ctx with buffer := writeAt ctx.buffer 0 [value] }, input.advance 1)
      else parseSync1 count ctx (input.advance 1)

def parseSync2 (ctx : Context) (input : Source) : Outcome :=
  let value := (input.bytes ctx.buffer).headD 0
  if value = sync2 then
    (.waitHeader 2, { ctx with buffer := writeAt ctx.buffer 1 [value] }, input.advance 1)
  else (.waitSync1, ctx, input.advance 1)

/-- Move input bytes into the buffer until it holds `maxBytesToBuffer` of them. -/
def transferData (numBuffered : Nat) (ctx : Context) (input : Source) (maxBytesToBuffer : Nat) :
    Nat × Context × Source :=
  let remaining := maxBytesToBuffer - numBuffered
  let numToCopy := min remaining input.length
  let moved := (input.bytes ctx.buffer).take numToCopy
  (numToCopy + numBuffered, { ctx with buffer := writeAt ctx.buffer numBuffered moved },
    input.advance numToCopy)

/-- The number that stands at an offset of the buffer. -/
def numberAt (buffer : Bytes) (offset width : Nat) : Nat :=
  ofBigEndian ((buffer.drop offset).take width)

/-- Read the header fields out of the buffer. -/
def readHeader (ctx : Context) : Context :=
  { ctx with
    result := { ctx.result with
      destination := UInt16.ofNat (numberAt ctx.buffer 2 2)
      source := UInt16.ofNat (numberAt ctx.buffer 4 2) }
    payloadLength := UInt16.ofNat (numberAt ctx.buffer 6 2) }

/-- What happens once the whole header is buffered.  `reparse` is the nested call
that processes the header bytes behind the synchronization bytes again. -/
def finishHeader (reparse : State → Context → Source → Outcome) (ctx : Context) :
    State × Context :=
  let ctx := readHeader ctx
  let actualCrc := UInt32.ofNat (numberAt ctx.buffer headerFieldsSize crcSize)
  let expectedCrc := CastagnoliCRC32.calculate (ctx.buffer.take headerFieldsSize)
  if expectedCrc ≠ actualCrc then
    let ctx := { ctx with reports := ctx.reports ++ [.badHeaderCrc expectedCrc actualCrc] }
    let (state, ctx, _) := reparse .waitSync1 ctx (.buffered 2 (headerTotalSize - 2))
    (state, ctx)
  else if ctx.payloadLength > ctx.maxPayloadLength then
    (.waitSync1, { ctx with
      reports := ctx.reports ++ [.badBodyLength ctx.maxPayloadLength ctx.payloadLength] })
  else (.waitBody headerTotalSize, ctx)

def parseHeader (reparse : State → Context → Source → Outcome) (numBuffered : Nat)
    (ctx : Context) (input : Source) : Outcome :=
  let (newNumBuffered, ctx, input) := transferData numBuffered ctx input headerTotalSize
  if newNumBuffered ≠ headerTotalSize then (.waitHeader newNumBuffered, ctx, input)
  else
    let (state, ctx) := finishHeader reparse ctx
    (state, ctx, input)

/-- What happens once the whole frame is buffered. -/
def finishBody (totalFrameSize : Nat) (ctx : Context) : State × Context :=
  let payload := (ctx.buffer.drop headerTotalSize).take ctx.payloadLength.toNat
  let ctx := { ctx with result := { ctx.result with payload := payload } }
  let expectedCrc := CastagnoliCRC32.calculate payload
  let actualCrc :=
    UInt32.ofNat (numberAt ctx.buffer (headerTotalSize + ctx.payloadLength.toNat) crcSize)
  if expectedCrc ≠ actualCrc then
    (.waitSync1, { ctx with reports := ctx.reports ++ [.badBodyCrc expectedCrc actualCrc] })
  else (.waitRead totalFrameSize, ctx)

def parseBody (numBuffered : Nat) (ctx : Context) (input : Source) : Outcome :=
  let totalFrameSize := headerTotalSize + ctx.payloadLength.toNat + crcSize
  let (newNumBuffered, ctx, input) := transferData numBuffered ctx input totalFrameSize
  if newNumBuffered ≠ totalFrameSize then (.waitBody newNumBuffered, ctx, input)
  else
    let (state, ctx) := finishBody totalFrameSize ctx
    (state, ctx, input)

def parseOne (reparse : State → Context → Source → Outcome) (state : State) (ctx : Context)
    (input : Source) : Outcome :=
  match state with
  | .waitSync1 => parseSync1 input.length ctx input
  | .waitSync2 => parseSync2 ctx input
  | .waitHeader num => parseHeader reparse num ctx input
  | .waitBody num => parseBody num ctx input
  | .waitRead num => (.waitRead num, ctx, input)

/-- The loop of `parse_many`.  Every turn consumes input, so that the length of
the input bounds the number of turns. -/
def parseLoop (reparse : State → Context → Source → Outcome) :
    Nat → State → Context → Source → Outcome
  | 0, state, ctx, input => (state, ctx, input)
  | fuel + 1, state, ctx, input =>
      if input.length = 0 ∨ state.isWaitRead then (state, ctx, input)
      else
        let (state, ctx, input) := parseOne reparse state ctx input
        parseLoop reparse fuel state ctx input

def parseMany : Nat → State → Context → Source → Outcome
  | 0, state, ctx, input => (state, ctx, input)
  | depth + 1, state, ctx, input => parseLoop (parseMany depth) input.length state ctx input

/-! ## Well-formed positions -/

/-- The buffer holds a maximal frame, and fewer bytes are buffered than the item
being collected has. -/
structure Wf (state : State) (ctx : Context) : Prop where
  room : minFrameSize + ctx.maxPayloadLength.toNat ≤ ctx.buffer.length
  header : ∀ num, state = .waitHeader num → 2 ≤ num ∧ num < headerTotalSize
  body : ∀ num, state = .waitBody num → headerTotalSize ≤ num ∧
    num < headerTotalSize + ctx.payloadLength.toNat + crcSize ∧
    ctx.payloadLength ≤ ctx.maxPayloadLength

theorem le_writeAt_length (buffer : Bytes) (offset : Nat) (bytes : Bytes) :
    buffer.length ≤ (writeAt buffer offset bytes).length := by
  simp only [writeAt, List.length_append, List.length_take, List.length_drop]
  omega

/-- Writing at two adjacent places is one longer write. -/
theorem writeAt_writeAt (buffer : Bytes) (offset : Nat) (front back : Bytes)
    (hin : offset ≤ buffer.length) :
    writeAt (writeAt buffer offset front) (offset + front.length) back =
      writeAt buffer offset (front ++ back) := by
  have hfront : (buffer.take offset ++ front).length = offset + front.length := by
    simp [hin]
  have htake : (buffer.take offset ++ front ++ buffer.drop (offset + front.length)).take
      (offset + front.length) = buffer.take offset ++ front := List.take_left' hfront
  have hdrop : (buffer.take offset ++ front ++ buffer.drop (offset + front.length)).drop
      (offset + front.length + back.length) = buffer.drop (offset + (front ++ back).length) := by
    rw [← List.drop_drop, List.drop_left' hfront, List.drop_drop, List.length_append,
      Nat.add_assoc]
  simp only [writeAt]
  rw [htake, hdrop]
  simp only [List.append_assoc]

@[simp] theorem Source.length_advance (count : Nat) (input : Source) :
    (input.advance count).length = input.length - count := by
  cases input <;> simp [Source.advance, Source.length]

/-- A position that waits for no item is well formed as soon as the buffer has room. -/
theorem Wf.ofRoom {state : State} {ctx : Context}
    (hroom : minFrameSize + ctx.maxPayloadLength.toNat ≤ ctx.buffer.length)
    (hheader : ∀ num, state ≠ .waitHeader num) (hbody : ∀ num, state ≠ .waitBody num) :
    Wf state ctx :=
  ⟨hroom, fun num h => absurd h (hheader num), fun num h => absurd h (hbody num)⟩

theorem room_writeAt {ctx : Context} (offset : Nat) (bytes : Bytes)
    (hroom : minFrameSize + ctx.maxPayloadLength.toNat ≤ ctx.buffer.length) :
    minFrameSize + ctx.maxPayloadLength.toNat ≤ (writeAt ctx.buffer offset bytes).length :=
  hroom.trans (le_writeAt_length _ _ _)

/-- An outcome that is well formed and left less than `bound` bytes. -/
structure Progress (bound : Nat) (outcome : Outcome) : Prop where
  wf : Wf outcome.1 outcome.2.1
  rest_lt : outcome.2.2.length < bound

theorem parseSync1_progress (count : Nat) (ctx : Context) (input : Source) (bound : Nat)
    (hroom : minFrameSize + ctx.maxPayloadLength.toNat ≤ ctx.buffer.length)
    (hlen : input.length < bound ∨ 0 < count ∧ 0 < input.length ∧ input.length ≤ bound) :
    Progress bound (parseSync1 count ctx input) := by
  induction count generalizing input with
  | zero =>
      refine ⟨Wf.ofRoom hroom (by simp [parseSync1]) (by simp [parseSync1]), ?_⟩
      simpa [parseSync1] using hlen
  | succ count ih =>
      simp only [parseSync1]
      split_ifs
      · exact ⟨Wf.ofRoom (room_writeAt _ _ hroom) (by simp) (by simp), by simp; omega⟩
      · exact ih _ (Or.inl (by rw [Source.length_advance]; omega))

theorem parseSync2_progress (ctx : Context) (input : Source)
    (hroom : minFrameSize + ctx.maxPayloadLength.toNat ≤ ctx.buffer.length)
    (hlen : 0 < input.length) : Progress input.length (parseSync2 ctx input) := by
  simp only [parseSync2]
  split_ifs
  · refine ⟨⟨room_writeAt _ _ hroom, ?_, by simp⟩, by simp; omega⟩
    intro num hnum
    cases hnum
    decide
  · exact ⟨Wf.ofRoom hroom (by simp) (by simp), by simp; omega⟩

/-- What `transferData` guarantees while there is something to collect. -/
theorem transferData_spec {num target : Nat} (ctx : Context) (input : Source)
    (hnum : num < target) (hlen : 0 < input.length) :
    num < (transferData num ctx input target).1 ∧
    (transferData num ctx input target).1 ≤ target ∧
    (transferData num ctx input target).2.2.length < input.length := by
  simp only [transferData, Source.length_advance]
  omega

section Nested

variable (reparse : State → Context → Source → Outcome)

/-- The nested call keeps positions well formed. -/
def KeepsWf : Prop :=
  ∀ state ctx input, Wf state ctx → Wf (reparse state ctx input).1 (reparse state ctx input).2.1

variable {reparse}

theorem finishHeader_wf (hkeeps : KeepsWf reparse) {ctx : Context}
    (hroom : minFrameSize + ctx.maxPayloadLength.toNat ≤ ctx.buffer.length) :
    Wf (finishHeader reparse ctx).1 (finishHeader reparse ctx).2 := by
  simp only [finishHeader]
  split_ifs with hcrc hlong
  · exact hkeeps _ _ _ (Wf.ofRoom hroom (by simp) (by simp))
  · exact Wf.ofRoom hroom (by simp) (by simp)
  · refine ⟨hroom, by simp, ?_⟩
    intro num hnum
    cases hnum
    refine ⟨Nat.le_refl _, ?_, by simpa using hlong⟩
    simp only [crcSize]
    omega

theorem parseHeader_progress (hkeeps : KeepsWf reparse) {num : Nat} {ctx : Context}
    {input : Source} (hwf : Wf (.waitHeader num) ctx) (hlen : 0 < input.length) :
    Progress input.length (parseHeader reparse num ctx input) := by
  obtain ⟨hlow, hhigh⟩ := hwf.header num rfl
  obtain ⟨hmore, hle, hrest⟩ := transferData_spec ctx input hhigh hlen
  have hroom := room_writeAt num
    ((input.bytes ctx.buffer).take (min (headerTotalSize - num) input.length)) hwf.room
  simp only [parseHeader]
  split_ifs with hdone
  · refine ⟨⟨hroom, ?_, by simp⟩, hrest⟩
    intro num' hnum'
    cases hnum'
    omega
  · exact ⟨finishHeader_wf hkeeps hroom, hrest⟩

theorem parseBody_progress {num : Nat} {ctx : Context} {input : Source}
    (hwf : Wf (.waitBody num) ctx) (hlen : 0 < input.length) :
    Progress input.length (parseBody num ctx input) := by
  obtain ⟨hlow, hhigh, hmax⟩ := hwf.body num rfl
  obtain ⟨hmore, hle, hrest⟩ := transferData_spec ctx input hhigh hlen
  have hroom := room_writeAt num ((input.bytes ctx.buffer).take
    (min (headerTotalSize + ctx.payloadLength.toNat + crcSize - num) input.length)) hwf.room
  simp only [parseBody]
  split_ifs with hdone
  · refine ⟨⟨hroom, by simp, ?_⟩, hrest⟩
    intro num' hnum'
    cases hnum'
    exact ⟨by omega, by simp only [transferData] at *; omega, hmax⟩
  · refine ⟨?_, hrest⟩
    simp only [finishBody]
    split_ifs
    · exact Wf.ofRoom hroom (by simp) (by simp)
    · exact Wf.ofRoom hroom (by simp) (by simp)

/-- Every turn of the loop consumes input and keeps the position well formed. -/
theorem parseOne_progress (hkeeps : KeepsWf reparse) {state : State} {ctx : Context}
    {input : Source} (hwf : Wf state ctx) (hlen : 0 < input.length)
    (hwait : state.isWaitRead = false) :
    Progress input.length (parseOne reparse state ctx input) := by
  cases state with
  | waitSync1 => exact parseSync1_progress _ _ _ _ hwf.room (Or.inr ⟨hlen, hlen, Nat.le_refl _⟩)
  | waitSync2 => exact parseSync2_progress _ _ hwf.room hlen
  | waitHeader num => exact parseHeader_progress hkeeps hwf hlen
  | waitBody num => exact parseBody_progress hwf hlen
  | waitRead num => cases hwait

theorem parseLoop_wf (hkeeps : KeepsWf reparse) (fuel : Nat) :
    KeepsWf (parseLoop reparse fuel) := by
  induction fuel with
  | zero => exact fun state ctx input hwf => hwf
  | succ fuel ih =>
      intro state ctx input hwf
      simp only [parseLoop]
      split_ifs with hstop
      · exact hwf
      · rw [not_or, Bool.not_eq_true] at hstop
        exact ih _ _ _ (parseOne_progress hkeeps hwf (by omega) hstop.2).wf

/-- The length of the input is enough fuel. -/
theorem parseLoop_fuel (hkeeps : KeepsWf reparse) (fuel : Nat) {state : State} {ctx : Context}
    {input : Source} (hwf : Wf state ctx) (hfuel : input.length ≤ fuel) :
    parseLoop reparse fuel state ctx input =
      parseLoop reparse input.length state ctx input := by
  induction fuel using Nat.strong_induction_on generalizing state ctx input with
  | _ fuel ih =>
      cases hlen : input.length with
      | zero =>
          cases fuel with
          | zero => rfl
          | succ fuel => simp [parseLoop, hlen]
      | succ len =>
          obtain ⟨fuel, rfl⟩ : ∃ n, fuel = n + 1 := ⟨fuel - 1, by omega⟩
          simp only [parseLoop]
          split_ifs with hstop
          · rfl
          · rw [not_or, Bool.not_eq_true] at hstop
            have hpos : 0 < input.length := by omega
            have hstep := parseOne_progress hkeeps hwf hpos hstop.2
            have hlt := hstep.rest_lt
            have hrest : (parseOne reparse state ctx input).2.2.length ≤ len := by omega
            have hbound : len ≤ fuel := by omega
            rw [ih fuel (Nat.lt_succ_self fuel) hstep.wf (hrest.trans hbound),
              ih len (Nat.lt_succ_of_le hbound) hstep.wf hrest]

end Nested

theorem parseMany_wf (depth : Nat) : KeepsWf (parseMany depth) := by
  induction depth with
  | zero => exact fun state ctx input hwf => hwf
  | succ depth ih => exact fun state ctx input => parseLoop_wf ih _ state ctx input

/-! ## Parsing in pieces -/

/-- Buffering one byte and then more is buffering them at once. -/
theorem transferData_cons {num target : Nat} (ctx : Context) (byte : UInt8) (bytes : Bytes)
    (hnum : num + 1 < target) (hin : num ≤ ctx.buffer.length) :
    transferData num ctx (.external (byte :: bytes)) target =
      transferData (num + 1) { ctx with buffer := writeAt ctx.buffer num [byte] }
        (.external bytes) target := by
  have hcount : min (target - num) (bytes.length + 1) =
      min (target - (num + 1)) bytes.length + 1 := by omega
  have hwrite := writeAt_writeAt ctx.buffer num [byte]
    (bytes.take (min (target - (num + 1)) bytes.length)) hin
  simp only [List.length_singleton, List.singleton_append] at hwrite
  simp only [transferData, Source.length, Source.bytes, Source.advance, List.length_cons, hcount,
    List.take_succ_cons, List.drop_succ_cons, hwrite]
  congr 1
  omega

theorem transferData_one {num target : Nat} (ctx : Context) (byte : UInt8) (bytes : Bytes)
    (hnum : num < target) (hend : target = num + 1 ∨ bytes = []) :
    transferData num ctx (.external (byte :: bytes)) target =
      (num + 1, { ctx with buffer := writeAt ctx.buffer num [byte] }, .external bytes) := by
  have hcount : min (target - num) (bytes.length + 1) = 1 := by
    rcases hend with h | h
    · omega
    · simp [h]
      omega
  simp [transferData, Source.length, Source.bytes, Source.advance, hcount, Nat.add_comm]

section Pieces

variable {reparse : State → Context → Source → Outcome}

/-- The whole loop over a caller's bytes. -/
def feed (reparse : State → Context → Source → Outcome) (state : State) (ctx : Context)
    (bytes : Bytes) : Outcome :=
  parseLoop reparse bytes.length state ctx (.external bytes)

theorem feed_wf (hkeeps : KeepsWf reparse) {state : State} {ctx : Context} (hwf : Wf state ctx)
    (bytes : Bytes) : Wf (feed reparse state ctx bytes).1 (feed reparse state ctx bytes).2.1 :=
  parseLoop_wf hkeeps _ _ _ _ hwf

theorem feed_nil (state : State) (ctx : Context) :
    feed reparse state ctx [] = (state, ctx, .external []) := rfl

theorem feed_waitRead (num : Nat) (ctx : Context) (bytes : Bytes) :
    feed reparse (.waitRead num) ctx bytes = (.waitRead num, ctx, .external bytes) := by
  cases bytes with
  | nil => rfl
  | cons byte bytes => simp [feed, parseLoop, State.isWaitRead]

theorem feed_cons {state : State} {ctx : Context} (byte : UInt8) (bytes : Bytes)
    (hwait : state.isWaitRead = false) :
    feed reparse state ctx (byte :: bytes) =
      let step := parseOne reparse state ctx (.external (byte :: bytes))
      parseLoop reparse bytes.length step.1 step.2.1 step.2.2 := by
  simp [feed, parseLoop, hwait, Source.length]

/-- A parsing function that takes just the first byte of its input. -/
theorem feed_cons_of_one {state : State} {ctx : Context} {byte : UInt8} (bytes : Bytes)
    (next : State × Context) (hwait : state.isWaitRead = false)
    (hone : ∀ rest, parseOne reparse state ctx (.external (byte :: rest)) =
      (next.1, next.2, .external rest)) :
    feed reparse state ctx (byte :: bytes) =
      feed reparse (feed reparse state ctx [byte]).1 (feed reparse state ctx [byte]).2.1 bytes := by
  rw [feed_cons _ _ hwait, feed_cons _ _ hwait, hone, hone]
  rfl

/-- A parsing function that goes on after the first byte just as it goes on with
the rest. -/
theorem feed_cons_of_same (hkeeps : KeepsWf reparse) {state : State} {ctx : Context}
    {byte : UInt8} (bytes : Bytes) (next : State × Context) (hwait : state.isWaitRead = false)
    (hwait' : next.1.isWaitRead = false) (hwf : Wf next.1 next.2)
    (hone : parseOne reparse state ctx (.external [byte]) = (next.1, next.2, .external []))
    (hstep : bytes ≠ [] → parseOne reparse state ctx (.external (byte :: bytes)) =
      parseOne reparse next.1 next.2 (.external bytes)) :
    feed reparse state ctx (byte :: bytes) =
      feed reparse (feed reparse state ctx [byte]).1 (feed reparse state ctx [byte]).2.1 bytes := by
  have hfirst : feed reparse state ctx [byte] = (next.1, next.2, .external []) := by
    rw [feed_cons _ _ hwait, hone]
    rfl
  rw [hfirst]
  cases bytes with
  | nil => rw [hfirst, feed_nil]
  | cons byte' bytes =>
      have hprogress := parseOne_progress hkeeps hwf
        (show 0 < (Source.external (byte' :: bytes)).length by simp [Source.length]) hwait'
      have hlt := hprogress.rest_lt
      change _ < bytes.length + 1 at hlt
      rw [feed_cons _ _ hwait, hstep (by simp), feed_cons _ _ hwait']
      simp only [List.length_cons]
      rw [parseLoop_fuel hkeeps _ hprogress.wf (Nat.le_of_lt hlt),
        parseLoop_fuel hkeeps _ hprogress.wf (Nat.le_of_lt_succ hlt)]

/-- The context with one more byte in the buffer. -/
def Context.push (ctx : Context) (num : Nat) (byte : UInt8) : Context :=
  { ctx with buffer := writeAt ctx.buffer num [byte] }

theorem feed_split_header (hkeeps : KeepsWf reparse) {num : Nat} {ctx : Context}
    (hwf : Wf (.waitHeader num) ctx) (byte : UInt8) (bytes : Bytes) :
    feed reparse (.waitHeader num) ctx (byte :: bytes) =
      feed reparse (feed reparse (.waitHeader num) ctx [byte]).1
        (feed reparse (.waitHeader num) ctx [byte]).2.1 bytes := by
  obtain ⟨hlow, hhigh⟩ := hwf.header num rfl
  have hin : num ≤ ctx.buffer.length := by
    have hroom := hwf.room
    simp only [minFrameSize] at hroom
    omega
  by_cases hlast : headerTotalSize = num + 1
  · refine feed_cons_of_one bytes (finishHeader reparse (ctx.push num byte)) rfl (fun rest => ?_)
    simp only [parseOne, parseHeader, transferData_one ctx byte rest hhigh (Or.inl hlast)]
    simp [hlast, Context.push]
  · refine feed_cons_of_same hkeeps bytes (.waitHeader (num + 1), ctx.push num byte) rfl rfl ?_ ?_
      (fun _ => ?_)
    · refine ⟨room_writeAt _ _ hwf.room, ?_, by simp⟩
      intro num' hnum'
      cases hnum'
      omega
    · simp only [parseOne, parseHeader, transferData_one ctx byte [] hhigh (Or.inr rfl)]
      rw [if_pos (Ne.symm hlast)]
      rfl
    · simp only [parseOne, parseHeader,
        transferData_cons ctx byte bytes (by omega : num + 1 < headerTotalSize) hin]
      rfl

theorem feed_split_body (hkeeps : KeepsWf reparse) {num : Nat} {ctx : Context}
    (hwf : Wf (.waitBody num) ctx) (byte : UInt8) (bytes : Bytes) :
    feed reparse (.waitBody num) ctx (byte :: bytes) =
      feed reparse (feed reparse (.waitBody num) ctx [byte]).1
        (feed reparse (.waitBody num) ctx [byte]).2.1 bytes := by
  obtain ⟨hlow, hhigh, hmax⟩ := hwf.body num rfl
  have hin : num ≤ ctx.buffer.length := by
    have hroom := hwf.room
    have hle := UInt16.le_iff_toNat_le.mp hmax
    simp only [minFrameSize] at hroom
    omega
  by_cases hlast : headerTotalSize + ctx.payloadLength.toNat + crcSize = num + 1
  · refine feed_cons_of_one bytes (finishBody (num + 1) (ctx.push num byte)) rfl (fun rest => ?_)
    simp only [parseOne, parseBody, transferData_one ctx byte rest hhigh (Or.inl hlast)]
    simp [hlast, Context.push]
  · refine feed_cons_of_same hkeeps bytes (.waitBody (num + 1), ctx.push num byte) rfl rfl ?_ ?_
      (fun _ => ?_)
    · refine ⟨room_writeAt _ _ hwf.room, by simp, ?_⟩
      intro num' hnum'
      cases hnum'
      exact ⟨by omega, by simp only [Context.push]; omega, hmax⟩
    · simp only [parseOne, parseBody, transferData_one ctx byte [] hhigh (Or.inr rfl)]
      rw [if_pos (Ne.symm hlast)]
      rfl
    · have hmore : num + 1 < headerTotalSize + ctx.payloadLength.toNat + crcSize := by omega
      simp only [parseOne, parseBody, transferData_cons ctx byte bytes hmore hin]
      rfl

/-- **One byte at a time.**  Parsing a chunk is parsing its first byte and then
the rest. -/
theorem feed_split (hkeeps : KeepsWf reparse) {state : State} {ctx : Context}
    (hwf : Wf state ctx) (hwait : state.isWaitRead = false) (byte : UInt8) (bytes : Bytes) :
    feed reparse state ctx (byte :: bytes) =
      feed reparse (feed reparse state ctx [byte]).1 (feed reparse state ctx [byte]).2.1 bytes := by
  cases state with
  | waitSync1 =>
      by_cases hsync : byte = sync1
      · exact feed_cons_of_one bytes (.waitSync2, ctx.push 0 byte) hwait (fun rest => by
          simp [parseOne, parseSync1, Source.length, Source.bytes, hsync, Source.advance,
            Context.push])
      · exact feed_cons_of_same hkeeps bytes (.waitSync1, ctx) hwait rfl hwf
          (by simp [parseOne, parseSync1, Source.length, Source.bytes, hsync, Source.advance])
          (fun _ => by
            simp [parseOne, parseSync1, Source.length, Source.bytes, hsync, Source.advance])
  | waitSync2 =>
      by_cases hsync : byte = sync2
      · exact feed_cons_of_one bytes (.waitHeader 2, ctx.push 1 byte) hwait (fun rest => by
          simp [parseOne, parseSync2, Source.bytes, hsync, Source.advance, Context.push])
      · exact feed_cons_of_one bytes (.waitSync1, ctx) hwait (fun rest => by
          simp [parseOne, parseSync2, Source.bytes, hsync, Source.advance])
  | waitHeader num => exact feed_split_header hkeeps hwf byte bytes
  | waitBody num => exact feed_split_body hkeeps hwf byte bytes
  | waitRead num => cases hwait

/-- Induction along the bytes that the loop takes: there are none, or a frame waits to be read,
or one byte is taken and the loop goes on with the others. -/
theorem feed_induction (hkeeps : KeepsWf reparse) {P : State → Context → Bytes → Outcome → Prop}
    (nil : ∀ state ctx, P state ctx [] (state, ctx, .external []))
    (waits : ∀ num ctx byte bytes, P (.waitRead num) ctx (byte :: bytes)
      (.waitRead num, ctx, .external (byte :: bytes)))
    (takes : ∀ state ctx byte bytes outcome, state.isWaitRead = false → Wf state ctx →
      P (feed reparse state ctx [byte]).1 (feed reparse state ctx [byte]).2.1 bytes outcome →
      P state ctx (byte :: bytes) outcome)
    {state : State} {ctx : Context} (hwf : Wf state ctx) (bytes : Bytes) :
    P state ctx bytes (feed reparse state ctx bytes) := by
  induction bytes generalizing state ctx with
  | nil => exact nil state ctx
  | cons byte bytes ih =>
      cases hwait : state.isWaitRead with
      | true =>
          cases state <;> simp [State.isWaitRead] at hwait
          rw [feed_waitRead]
          exact waits _ ctx byte bytes
      | false =>
          rw [feed_split hkeeps hwf hwait]
          exact takes state ctx byte bytes _ hwait hwf (ih (feed_wf hkeeps hwf [byte]))

/-- The loop leaves nothing of a caller's bytes unless it completed a frame. -/
theorem feed_rest (hkeeps : KeepsWf reparse) {state : State} {ctx : Context} (hwf : Wf state ctx)
    (bytes : Bytes) :
    (feed reparse state ctx bytes).1.isWaitRead = false →
      (feed reparse state ctx bytes).2.2 = .external [] := by
  refine feed_induction hkeeps (P := fun _ _ _ outcome =>
    outcome.1.isWaitRead = false → outcome.2.2 = .external []) ?_ ?_ ?_ hwf bytes
  · exact fun _ _ _ => rfl
  · exact fun _ _ _ _ hwait => absurd hwait (by simp [State.isWaitRead])
  · exact fun _ _ _ _ _ _ _ h => h

/-- The loop takes at least one byte, unless a frame waits to be read. -/
theorem feed_rest_le (hkeeps : KeepsWf reparse) {state : State} {ctx : Context}
    (hwf : Wf state ctx) (bytes : Bytes) :
    (feed reparse state ctx bytes).2.2.length ≤ bytes.length ∧
      (state.isWaitRead = false → bytes ≠ [] →
        (feed reparse state ctx bytes).2.2.length < bytes.length) := by
  refine feed_induction hkeeps (P := fun state _ bytes outcome =>
    outcome.2.2.length ≤ bytes.length ∧
      (state.isWaitRead = false → bytes ≠ [] → outcome.2.2.length < bytes.length))
    ?_ ?_ ?_ hwf bytes
  · intro state ctx
    simp [Source.length]
  · intro num ctx byte bytes
    simp [Source.length, State.isWaitRead]
  · intro state ctx byte bytes outcome _ _ h
    have hle := h.1
    rw [List.length_cons]
    exact ⟨by omega, fun _ _ => by omega⟩

/-- What is left of a caller's bytes are a caller's bytes. -/
theorem feed_external (hkeeps : KeepsWf reparse) {state : State} {ctx : Context}
    (hwf : Wf state ctx) (bytes : Bytes) :
    ∃ rest, (feed reparse state ctx bytes).2.2 = .external rest := by
  refine feed_induction hkeeps (P := fun _ _ _ outcome => ∃ rest, outcome.2.2 = .external rest)
    ?_ ?_ ?_ hwf bytes
  · exact fun _ _ => ⟨[], rfl⟩
  · exact fun _ _ byte bytes => ⟨byte :: bytes, rfl⟩
  · exact fun _ _ _ _ _ _ _ h => h

theorem feed_append (hkeeps : KeepsWf reparse) {state : State} {ctx : Context}
    (hwf : Wf state ctx) (front back : Bytes) :
    feed reparse state ctx (front ++ back) =
      if (feed reparse state ctx front).1.isWaitRead then
        ((feed reparse state ctx front).1, (feed reparse state ctx front).2.1,
          .external ((feed reparse state ctx front).2.2.bytes [] ++ back))
      else
        feed reparse (feed reparse state ctx front).1 (feed reparse state ctx front).2.1 back := by
  refine feed_induction hkeeps (P := fun state ctx front outcome =>
    feed reparse state ctx (front ++ back) =
      if outcome.1.isWaitRead then
        (outcome.1, outcome.2.1, .external (outcome.2.2.bytes [] ++ back))
      else feed reparse outcome.1 outcome.2.1 back) ?_ ?_ ?_ hwf front
  · intro state ctx
    cases state <;> simp [feed_waitRead, State.isWaitRead, Source.bytes]
  · intro num ctx byte front
    simp [feed_waitRead, State.isWaitRead, Source.bytes]
  · intro state ctx byte front outcome hwait hwf h
    rw [List.cons_append, feed_split hkeeps hwf hwait]
    exact h

end Pieces

end LinkParser

/-- `LinkParser`: the context and the state. -/
structure LinkParser where
  context : LinkParser.Context
  state : LinkParser.State
  deriving DecidableEq, Repr

namespace LinkParser

open Link

/-- The constructor. -/
def create (maxPayloadLength : UInt16) : LinkParser where
  context :=
    { maxPayloadLength := UInt16.ofNat (min maxPayloadLength.toNat maxConfigPayloadSize)
      buffer := List.replicate (minFrameSize + maxPayloadLength.toNat) 0
      result := ⟨0, 0, []⟩
      payloadLength := 0
      reports := [] }
  state := .waitSync1

def reset (parser : LinkParser) : LinkParser :=
  { parser with state := .waitSync1 }

def hasResult (parser : LinkParser) : Bool :=
  parser.state.isWaitRead

def read (parser : LinkParser) : Option Result :=
  if parser.state.isWaitRead then some parser.context.result else none

/-- `parse`: the parser and the input that is left.  Whether a frame is available
is `hasResult` of the new parser. -/
def parse (parser : LinkParser) (input : Bytes) : LinkParser × Bytes :=
  let (state, context, rest) := parseMany 2 parser.state parser.context (.external input)
  (⟨context, state⟩, rest.bytes context.buffer)

/-- The parser is in a well-formed position. -/
def WellFormed (parser : LinkParser) : Prop :=
  Wf parser.state parser.context

theorem create_wellFormed (maxPayloadLength : UInt16) : (create maxPayloadLength).WellFormed := by
  refine Wf.ofRoom ?_ (by simp [create]) (by simp [create])
  simp only [create, List.length_replicate, UInt16.toNat_ofNat']
  have hlt := maxPayloadLength.toNat_lt
  omega

theorem reset_wellFormed {parser : LinkParser} (hwf : parser.WellFormed) :
    parser.reset.WellFormed :=
  Wf.ofRoom hwf.room (by simp [reset]) (by simp [reset])

theorem parse_wellFormed {parser : LinkParser} (hwf : parser.WellFormed) (input : Bytes) :
    (parser.parse input).1.WellFormed :=
  parseMany_wf 2 _ _ _ hwf

theorem parse_eq_feed (parser : LinkParser) (input : Bytes) :
    parser.parse input =
      let outcome := feed (parseMany 1) parser.state parser.context input
      (⟨outcome.2.1, outcome.1⟩, outcome.2.2.bytes outcome.2.1.buffer) := rfl

/-- **Parsing in two pieces.**  The second piece is parsed only if the first one
did not complete a frame; otherwise it stays with what the first one left. -/
theorem parse_append {parser : LinkParser} (hwf : parser.WellFormed) (front back : Bytes) :
    parser.parse (front ++ back) =
      if (parser.parse front).1.hasResult then
        ((parser.parse front).1, (parser.parse front).2 ++ back)
      else (parser.parse front).1.parse back := by
  obtain ⟨rest, hrest⟩ := feed_external (parseMany_wf 1) hwf front
  have hwhole := feed_append (parseMany_wf 1) hwf front back
  by_cases hres : (parser.parse front).1.hasResult = true
  · have hwait : (feed (parseMany 1) parser.state parser.context front).1.isWaitRead = true := hres
    rw [if_pos hres]
    simp only [parse_eq_feed, hwhole, if_pos hwait, hrest, Source.bytes]
  · have hwait : ¬ (feed (parseMany 1) parser.state parser.context front).1.isWaitRead = true :=
      hres
    rw [if_neg hres]
    simp only [parse_eq_feed, hwhole, if_neg hwait]

/-- Input is left over only behind a complete frame. -/
theorem parse_rest {parser : LinkParser} (hwf : parser.WellFormed) (input : Bytes)
    (hnone : (parser.parse input).1.hasResult = false) : (parser.parse input).2 = [] := by
  have h := feed_rest (parseMany_wf 1) hwf input hnone
  simp [parse_eq_feed, h, Source.bytes]

/-- Parsing takes at least one byte, unless a frame waits to be read. -/
theorem parse_rest_lt {parser : LinkParser} (hwf : parser.WellFormed)
    (hnone : parser.hasResult = false) {input : Bytes} (hinput : input ≠ []) :
    (parser.parse input).2.length < input.length := by
  have hlt := (feed_rest_le (parseMany_wf 1) hwf input).2 hnone hinput
  obtain ⟨rest, hrest⟩ := feed_external (parseMany_wf 1) hwf input
  rw [hrest] at hlt
  simpa [parse_eq_feed, hrest, Source.bytes, Source.length] using hlt

theorem parse_nil (parser : LinkParser) : parser.parse [] = (parser, []) := by
  simp [parse_eq_feed, feed_nil, Source.bytes]

end LinkParser
end Ssp21
