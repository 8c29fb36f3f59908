import Ssp21.Link.LinkFrame

/-!
# Streams of frames

A receiver gives the parser one chunk after the other.  Whenever a frame is
complete it reads the frame and resets the parser, and goes on with what is left
of the chunk.

* `Drains` describes this for one piece of input without a bound on the number of
  frames in it.
* `drains_split`: cutting the input changes nothing.
* `drains_frames`: the frames of a stream come out one by one, without a report.

Writer and parser meet in `Frame.encode`.  The last section says so for the frames
that `LinkFrameWriter` produces and for every way of cutting them into chunks.
-/

namespace Ssp21

open Wire Link

namespace LinkParser

/-- What the parser makes of one chunk: the frames that are complete, and the input
that is left when there is no fuel for another one. -/
def readChunk : Nat → LinkParser → Bytes → LinkParser × List Result × Bytes
  | 0, parser, input => (parser, [], input)
  | fuel + 1, parser, input =>
      let (parser, rest) := parser.parse input
      match parser.read with
      | none => (parser, [], rest)
      | some result =>
          let (parser, results, rest) := readChunk fuel parser.reset rest
          (parser, result :: results, rest)

/-- One chunk after the other.  A chunk of `n` bytes completes at most `n` frames. -/
def readChunks : LinkParser → List Bytes → LinkParser × List Result × Bytes
  | parser, [] => (parser, [], [])
  | parser, chunk :: chunks =>
      let (parser, results, rest) := readChunk (chunk.length + 1) parser chunk
      let (parser, more, unread) := readChunks parser chunks
      (parser, results ++ more, rest ++ unread)

/-- Reading frame after frame from an input ends with a parser that has no frame. -/
inductive Drains : LinkParser → Bytes → List Result → LinkParser → Prop
  | done {parser : LinkParser} {input : Bytes}
      (hnone : (parser.parse input).1.hasResult = false) :
      Drains parser input [] (parser.parse input).1
  | frame {parser last : LinkParser} {input : Bytes} {result : Result} {results : List Result}
      (hread : (parser.parse input).1.read = some result)
      (hrest : Drains (parser.parse input).1.reset (parser.parse input).2 results last) :
      Drains parser input (result :: results) last

theorem hasResult_of_read {parser : LinkParser} {result : Result}
    (hread : parser.read = some result) : parser.hasResult = true := by
  by_contra hnone
  rw [read, if_neg (show ¬ parser.state.isWaitRead = true from hnone)] at hread
  cases hread

theorem read_of_hasResult {parser : LinkParser} (hnone : parser.hasResult = false) :
    parser.read = none := by
  rw [read, if_neg]
  exact ne_true_of_eq_false hnone

/-- Draining looks at a parser and its input only through `parse`. -/
theorem Drains.congr {parser parser' last : LinkParser} {input input' : Bytes}
    {results : List Result} (h : Drains parser' input' results last)
    (hparse : parser.parse input = parser'.parse input') : Drains parser input results last := by
  cases h with
  | done hnone =>
      rw [← hparse] at hnone ⊢
      exact .done hnone
  | frame hread hrest =>
      rw [← hparse] at hread hrest
      exact .frame hread hrest

/-- The parser that is left is well formed and waits for more input. -/
theorem Drains.last {parser last : LinkParser} {input : Bytes} {results : List Result}
    (h : Drains parser input results last) (hwf : parser.WellFormed) :
    last.WellFormed ∧ last.hasResult = false := by
  induction h with
  | done hnone => exact ⟨parse_wellFormed hwf _, hnone⟩
  | frame _ _ ih => exact ih (reset_wellFormed (parse_wellFormed hwf _))

/-- Every input can be drained, since a frame takes at least one byte. -/
theorem exists_drains {parser : LinkParser} (hwf : parser.WellFormed)
    (hnone : parser.hasResult = false) (input : Bytes) :
    ∃ results last, Drains parser input results last := by
  induction hlen : input.length using Nat.strong_induction_on generalizing parser input with
  | _ len ih =>
      cases hread : (parser.parse input).1.read with
      | none =>
          have hdone : (parser.parse input).1.hasResult = false := by
            by_contra hres
            rw [hasResult, Bool.not_eq_false] at hres
            rw [read, if_pos hres] at hread
            cases hread
          exact ⟨_, _, .done hdone⟩
      | some result =>
          have hinput : input ≠ [] := by
            rintro rfl
            rw [parse_nil, read_of_hasResult hnone] at hread
            cases hread
          have hlt := parse_rest_lt hwf hnone hinput
          obtain ⟨results, last, hrest⟩ := ih _ (hlen ▸ hlt)
            (reset_wellFormed (parse_wellFormed hwf input)) rfl (parser.parse input).2 rfl
          exact ⟨_, _, .frame hread hrest⟩

/-- **Cutting the input.**  What is read from two pieces is what is read from the
first one, followed by what the parser it leaves reads from the second one. -/
theorem drains_split {parser last : LinkParser} {front back : Bytes} {results : List Result}
    (hwf : parser.WellFormed) (h : Drains parser (front ++ back) results last) :
    ∃ middle first second, Drains parser front first middle ∧ Drains middle back second last ∧
      results = first ++ second := by
  generalize hinput : front ++ back = input at h
  induction h generalizing front with
  | @done parser input hnone =>
      subst hinput
      -- a frame completed by the first piece would still be there
      have hfront : (parser.parse front).1.hasResult = false := by
        by_contra hres
        rw [Bool.not_eq_false] at hres
        rw [parse_append hwf, if_pos hres] at hnone
        exact absurd hres (by simp [hnone])
      have hparse : parser.parse (front ++ back) = (parser.parse front).1.parse back := by
        rw [parse_append hwf, if_neg (by simp [hfront])]
      exact ⟨_, [], [], .done hfront, (Drains.done hnone).congr hparse.symm, rfl⟩
  | @frame parser last input result results hread hrest ih =>
      subst hinput
      by_cases hres : (parser.parse front).1.hasResult = true
      · have hparse : parser.parse (front ++ back) =
            ((parser.parse front).1, (parser.parse front).2 ++ back) := by
          rw [parse_append hwf, if_pos hres]
        rw [hparse] at hread ih
        obtain ⟨middle, first, second, hfirst, hsecond, rfl⟩ :=
          ih (reset_wellFormed (parse_wellFormed hwf _)) rfl
        exact ⟨middle, result :: first, second, .frame hread hfirst, hsecond, rfl⟩
      · have hparse : parser.parse (front ++ back) = (parser.parse front).1.parse back := by
          rw [parse_append hwf, if_neg hres]
        exact ⟨_, [], _, .done (Bool.eq_false_of_not_eq_true hres),
          (Drains.frame hread hrest).congr hparse.symm, rfl⟩

/-- The bounded loop finds everything that is to be found, and leaves nothing. -/
theorem readChunk_of_drains {parser last : LinkParser} {input : Bytes} {results : List Result}
    (h : Drains parser input results last) (hwf : parser.WellFormed)
    (hnone : parser.hasResult = false) {fuel : Nat} (hfuel : input.length < fuel) :
    readChunk fuel parser input = (last, results, []) := by
  induction h generalizing fuel with
  | @done parser input hres =>
      obtain ⟨fuel, rfl⟩ : ∃ n, fuel = n + 1 := ⟨fuel - 1, by omega⟩
      simp only [readChunk, read_of_hasResult hres, parse_rest hwf input hres]
  | @frame parser last input result results hread hrest ih =>
      obtain ⟨fuel, rfl⟩ : ∃ n, fuel = n + 1 := ⟨fuel - 1, by omega⟩
      have hinput : input ≠ [] := by
        rintro rfl
        rw [parse_nil] at hread
        exact absurd (hasResult_of_read hread) (by simp [hnone])
      have hlt := parse_rest_lt hwf hnone hinput
      have hmore := ih (reset_wellFormed (parse_wellFormed hwf _)) rfl
        (show (parser.parse input).2.length < fuel by omega)
      simp only [readChunk, hread, hmore]

theorem readChunks_of_drains {parser last : LinkParser} {chunks : List Bytes}
    {results : List Result} (h : Drains parser chunks.flatten results last)
    (hwf : parser.WellFormed) (hnone : parser.hasResult = false) :
    parser.readChunks chunks = (last, results, []) := by
  induction chunks generalizing parser results with
  | nil =>
      have hall := readChunk_of_drains h hwf hnone (show _ < 1 by simp)
      simp only [readChunk, List.flatten_nil, parse_nil, read_of_hasResult hnone] at hall
      simpa [readChunks] using hall
  | cons chunk chunks ih =>
      rw [List.flatten_cons] at h
      obtain ⟨middle, first, second, hfirst, hsecond, rfl⟩ := drains_split hwf h
      obtain ⟨hwf', hnone'⟩ := hfirst.last hwf
      simp only [readChunks, readChunk_of_drains hfirst hwf hnone (Nat.lt_succ_self _),
        ih hsecond hwf' hnone', List.append_nil]

end LinkParser

/-- What a receiver reads of a frame. -/
def Frame.content (frame : Frame) : LinkParser.Result :=
  ⟨frame.destination, frame.source, frame.payload⟩

/-- A parser at the start of a stream reads its frames one by one, reports nothing and
ends at the start of the next one. -/
theorem LinkParser.drains_frames {parser : LinkParser} (hwf : parser.WellFormed)
    (hstart : parser.state = .waitSync1) {frames : List Frame}
    (hlimit : ∀ frame ∈ frames, frame.payload.length ≤ parser.context.maxPayloadLength.toNat) :
    ∃ last, Drains parser (frames.map Frame.encode).flatten (frames.map Frame.content) last ∧
      last.state = .waitSync1 ∧ last.context.reports = parser.context.reports := by
  induction frames generalizing parser with
  | nil =>
      have hnone : (parser.parse []).1.hasResult = false := by
        rw [parse_nil]
        simp [hasResult, hstart, State.isWaitRead]
      have hdone := Drains.done hnone
      rw [parse_nil] at hdone
      exact ⟨parser, hdone, hstart, rfl⟩
  | cons frame frames ih =>
      rw [List.forall_mem_cons] at hlimit
      obtain ⟨next, hparse, hread, hmax, hreports⟩ := parse_frame hwf hstart frame
        (frames.map Frame.encode).flatten hlimit.1
      have hnext : next.WellFormed := by
        have h := parse_wellFormed hwf (frame.encode ++ (frames.map Frame.encode).flatten)
        rwa [hparse] at h
      obtain ⟨last, hdrains, hlast, hquiet⟩ := ih (reset_wellFormed hnext) rfl (by
        intro other hin
        have hle := hlimit.2 other hin
        rwa [← hmax] at hle)
      refine ⟨last, ?_, hlast, hquiet.trans hreports⟩
      rw [List.map_cons, List.map_cons, List.flatten_cons]
      apply Drains.frame
      · rw [hparse]
        exact hread
      · rw [hparse]
        exact hdrains

/-! ## Frames of the writer -/

namespace FrameWriter

/-- The link writer accepts a payload exactly when it is no longer than the
configured size, and frames it then. -/
theorem write_link (destination source maxPayloadSize : UInt16) (payload : Bytes) :
    (link destination source maxPayloadSize).write (putBytes payload) =
      if payload.length ≤ maxPayloadSize.toNat then
        .ok ⟨payload, Frame.encode ⟨destination, source, payload⟩⟩
      else .error .insufficientSpace :=
  write_eq (link destination source maxPayloadSize) (fun _ => rfl)

/-- What the writers put on the wire are the encodings of the frames. -/
theorem frame_of_written {maxPayloadSize : UInt16} {frames : List Frame}
    {written : List WriteResult}
    (hwritten : frames.map (fun frame =>
      (link frame.destination frame.source maxPayloadSize).write (putBytes frame.payload)) =
        written.map .ok) :
    written.map WriteResult.frame = frames.map Frame.encode := by
  induction frames generalizing written with
  | nil => simpa using hwritten.symm
  | cons frame frames ih =>
      cases written with
      | nil => cases hwritten
      | cons result written =>
          rw [List.map_cons, List.map_cons, List.cons.injEq, write_link] at hwritten
          obtain ⟨hfirst, hmore⟩ := hwritten
          split_ifs at hfirst
          cases hfirst
          rw [List.map_cons, List.map_cons, ih hmore]

end FrameWriter

/-- **Link frame round trip.**  A writer refuses exactly the payloads that are longer
than its configured size.  The frames that writers produce for a list of payloads that
the parser's limit admits, cut into chunks in any way, are read back with their
addresses, in order, without a report and without a byte left. -/
theorem link_frames_round_trip (maxPayloadSize : UInt16) (frames : List Frame)
    (written : List FrameWriter.WriteResult)
    (hwritten : frames.map (fun frame =>
      (FrameWriter.link frame.destination frame.source maxPayloadSize).write
        (putBytes frame.payload)) = written.map .ok)
    (parser : LinkParser) (hwf : parser.WellFormed) (hstart : parser.state = .waitSync1)
    (hlimit : ∀ frame ∈ frames, frame.payload.length ≤ parser.context.maxPayloadLength.toNat)
    (chunks : List Bytes)
    (hchunks : chunks.flatten = (written.map FrameWriter.WriteResult.frame).flatten) :
    (∀ destination source payload,
      (∃ e, (FrameWriter.link destination source maxPayloadSize).write (putBytes payload) =
        .error e) ↔ maxPayloadSize.toNat < payload.length) ∧
    ∃ last, parser.readChunks chunks = (last, frames.map Frame.content, []) ∧
      last.state = .waitSync1 ∧ last.context.reports = parser.context.reports := by
  constructor
  · intro destination source payload
    rw [FrameWriter.write_link]
    by_cases hfits : payload.length ≤ maxPayloadSize.toNat
    · simp [hfits]
    · rw [if_neg hfits]
      exact ⟨fun _ => Nat.lt_of_not_le hfits, fun _ => ⟨_, rfl⟩⟩
  · have hbytes := FrameWriter.frame_of_written hwritten
    obtain ⟨last, hdrains, hlast, hquiet⟩ := LinkParser.drains_frames hwf hstart hlimit
    rw [← hbytes, ← hchunks] at hdrains
    have hnone : parser.hasResult = false := by
      simp [LinkParser.hasResult, hstart, LinkParser.State.isWaitRead]
    exact ⟨last, LinkParser.readChunks_of_drains hdrains hwf hnone, hlast, hquiet⟩

/-- Three frames, one of them empty and one that looks like a header, in chunks that end
inside a header, inside a body and inside a checksum. -/
theorem link_frames_round_trip_three :
    let frames : List Frame := [⟨1, 10, [0x07, 0xAA, 0x00, 0x01]⟩, ⟨1, 10, []⟩, ⟨2, 10, [0x55]⟩]
    let stream := (frames.map Frame.encode).flatten
    let chunks := [stream.take 5, (stream.drop 5).take 9, (stream.drop 14).take 4, stream.drop 18]
    ∃ last, (LinkParser.create 8).readChunks chunks = (last, frames.map Frame.content, []) ∧
      last.state = .waitSync1 ∧ last.context.reports = [] := by
  intro frames stream chunks
  exact (link_frames_round_trip 8 frames (frames.map (fun f => ⟨f.payload, f.encode⟩))
    (by decide +kernel) (LinkParser.create 8) (LinkParser.create_wellFormed 8) rfl
    (by decide +kernel) chunks (by decide +kernel)).2

end Ssp21
