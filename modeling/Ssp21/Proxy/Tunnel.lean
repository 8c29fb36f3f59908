import Ssp21.Proxy.Handlers

/-!
# Two sessions on a line

A session on the initiator's side and one on the responder's side are joined by a TCP connection,
and have an application each.  From the applications' point of view the two proxies are a tunnel.

* `Tunnel.step`: an event of one of the sessions.  What its stack writes goes into the line, and
  what it reads from the line is what comes next there.
* `Tunnel.Holds`: both sessions are sound, and do the same as two parties over channels.
* `tunnel_stream_integrity`, `tunnel_all_delivered_at_rest`: what the applications get from a
  tunnel.
-/

namespace Ssp21

open Wire Link

/-! ## Calls of one station -/

namespace Line

variable {pairing : Pairing} {line line' : Line} {party : Party} {label : Label}

theorem run_side {calls : List Label}
    (hrun : line.run pairing (calls.map (Prod.mk party)) = some line') :
    (line.side party).run (pairing.config party) calls = some (line'.side party) ∧
      line'.side party.peer = line.side party.peer := by
  induction calls generalizing line with
  | nil =>
      cases hrun
      exact ⟨rfl, rfl⟩
  | cons label calls ih =>
      obtain ⟨next, hstep, hrest⟩ := Runs.run_cons hrun
      obtain ⟨hside, hpeer⟩ := side_step hstep
      obtain ⟨hcalls, hpeer'⟩ := ih hrest
      exact ⟨by simpa [FullStack.run, Runs.run, hside] using hcalls, hpeer'.trans hpeer⟩

theorem trace_run {calls : List Label}
    (hrun : line.run pairing (calls.map (Prod.mk party)) = some line') (other : Party) :
    line.trace other <+: line'.trace other := by
  obtain ⟨hside, hpeer⟩ := run_side hrun
  refine @Party.forall_of_peer (fun other => line.trace other <+: line'.trace other)
    party ?_ ?_ other
  · exact FullStack.trace_run hside
  · rw [trace, trace, hpeer]

/-- In a plain call there is nothing to be disturbed. -/
theorem undisturbed_of_plain (hplain : label.isPlain = true) (hstays : label.closes = false)
    (hupper : ∀ next ∈ line.step pairing (party, label), .closed ∉ next.trace party) :
    line.Undisturbed pairing (party, label) ∧ line.Orderly pairing (party, label) := by
  have hrunning : label.running = none := by
    cases label with
    | run => cases hplain
    | _ => rfl
  refine ⟨⟨hstays, ?_, hupper⟩, ⟨?_, ?_, ?_⟩⟩
  · intro env henv
    simp [hrunning] at henv
  · intro env henv
    simp [hrunning] at henv
  · intro timer htimer
    cases label with
    | timer => cases hplain
    | _ => cases htimer
  · intro env henv
    simp [hrunning] at henv

theorem along_plain {calls : List Label} (hplain : ∀ label ∈ calls, label.isPlain = true)
    (hstays : ∀ label ∈ calls, label.closes = false)
    (hrun : line.run pairing (calls.map (Prod.mk party)) = some line')
    (hupper : .closed ∉ line'.trace party) :
    Runs.Along (step pairing) (fun line label => line.Undisturbed pairing label ∧
      line.Orderly pairing label) line (calls.map (Prod.mk party)) := by
  induction calls generalizing line with
  | nil => exact trivial
  | cons label calls ih =>
      obtain ⟨next, hstep, hrest⟩ := Runs.run_cons hrun
      refine ⟨undisturbed_of_plain (hplain label List.mem_cons_self)
        (hstays label List.mem_cons_self) ?_, ?_⟩
      · intro other hother
        cases hstep.symm.trans hother
        exact fun hmem => hupper ((trace_run hrest party).subset hmem)
      · intro other hother
        cases hstep.symm.trans hother
        exact ih (fun other hmem => hplain other (List.mem_cons_of_mem _ hmem))
          (fun other hmem => hstays other (List.mem_cons_of_mem _ hmem)) hrest

end Line

namespace Proxy

open Relay (Event)

/-! ## The tunnel -/

structure Tunnel where
  line : Line
  initiator : Sockets
  responder : Sockets
  deriving DecidableEq, Repr

namespace Tunnel

def create (addr : Party → UInt16) : Tunnel := ⟨Line.create addr, Sockets.create, Sockets.create⟩

def sockets (tunnel : Tunnel) : Party → Sockets
  | .initiator => tunnel.initiator
  | .responder => tunnel.responder

def setSockets (tunnel : Tunnel) (party : Party) (sockets : Sockets) : Tunnel :=
  match party with
  | .initiator => { tunnel with initiator := sockets }
  | .responder => { tunnel with responder := sockets }

/-- The session of one side. -/
def relay (tunnel : Tunnel) (party : Party) : Relay :=
  ⟨tunnel.line.side party, tunnel.sockets party⟩

def step (pairing : Pairing) (tunnel : Tunnel) : Party × Event → Option Tunnel
  | (party, event) =>
      ((tunnel.relay party).calls event).bind fun calls =>
        (tunnel.line.run pairing (calls.map (Prod.mk party))).map fun line =>
          { tunnel with line := line }.setSockets party
            ((tunnel.relay party).after (line.side party) event)

def run (pairing : Pairing) (tunnel : Tunnel) (events : List (Party × Event)) : Option Tunnel :=
  Runs.run (step pairing) tunnel events

section Step

variable {pairing : Pairing} {tunnel tunnel' : Tunnel} {party : Party} {event : Event}

theorem step_cases (hstep : tunnel.step pairing (party, event) = some tunnel') :
    ∃ calls line, (tunnel.relay party).calls event = some calls ∧
      tunnel.line.run pairing (calls.map (Prod.mk party)) = some line ∧
      tunnel' = { tunnel with line := line }.setSockets party
        ((tunnel.relay party).after (line.side party) event) := by
  obtain ⟨calls, hcalls, hstep⟩ := Option.bind_eq_some_iff.mp hstep
  obtain ⟨line, hline, rfl⟩ := Option.map_eq_some_iff.mp hstep
  exact ⟨calls, line, hcalls, hline, rfl⟩

theorem line_setSockets (sockets : Sockets) :
    (tunnel.setSockets party sockets).line = tunnel.line := by
  cases party <;> rfl

theorem relay_setSockets (sockets : Sockets) :
    (tunnel.setSockets party sockets).relay party = ⟨tunnel.line.side party, sockets⟩ ∧
      (tunnel.setSockets party sockets).relay party.peer =
        ⟨tunnel.line.side party.peer, tunnel.sockets party.peer⟩ := by
  cases party <;> exact ⟨rfl, rfl⟩

/-- An event of one session leaves the other one as it is. -/
theorem relay_step (hstep : tunnel.step pairing (party, event) = some tunnel') :
    (tunnel.relay party).step (pairing.config party) event = some (tunnel'.relay party) ∧
      tunnel'.relay party.peer = tunnel.relay party.peer := by
  obtain ⟨calls, line, hcalls, hline, rfl⟩ := step_cases hstep
  obtain ⟨hside, hpeer⟩ := Line.run_side hline
  replace hside : (tunnel.relay party).full.run (pairing.config party) calls =
    some (line.side party) := hside
  obtain ⟨hself, hother⟩ := @relay_setSockets { tunnel with line := line } party
    ((tunnel.relay party).after (line.side party) event)
  constructor
  · rw [Relay.step, hcalls, Option.bind_some, hside, hself]
    rfl
  · rw [hother, hpeer]
    rfl

theorem trace_step (hstep : tunnel.step pairing (party, event) = some tunnel') (other : Party) :
    tunnel.line.trace other <+: tunnel'.line.trace other := by
  obtain ⟨calls, line, -, hline, rfl⟩ := step_cases hstep
  rw [line_setSockets]
  exact Line.trace_run hline other

end Step

theorem trace_run {pairing : Pairing} {events : List (Party × Event)} {tunnel tunnel' : Tunnel}
    (hrun : tunnel.run pairing events = some tunnel') (other : Party) :
    tunnel.line.trace other <+: tunnel'.line.trace other := by
  induction events generalizing tunnel with
  | nil =>
      cases hrun
      exact List.prefix_rfl
  | cons event events ih =>
      obtain ⟨next, hstep, hrest⟩ := Runs.run_cons hrun
      exact (trace_step hstep other).trans (ih hrest)

end Tunnel

/-! ## Conditions on an event -/

namespace Relay

section Calls

variable {relay : Relay} {event : Event} {calls : List Label}

theorem calls_env (hcalls : relay.calls event = some calls) {label : Label} (hmem : label ∈ calls)
    {env : Env} (henv : env ∈ label.env?) : env ∈ event.env? := by
  rcases calls_cases hcalls with ⟨label, hmakes, rfl⟩ | ⟨chunk, rfl, -, rfl⟩ | ⟨rfl, rfl⟩
  · cases List.mem_singleton.mp hmem
    exact hmakes.env ▸ henv
  · simp only [List.mem_cons, List.not_mem_nil, or_false] at hmem
    rcases hmem with rfl | rfl <;> cases henv
  · simp only [List.mem_cons, List.not_mem_nil, or_false] at hmem
    rcases hmem with rfl | rfl <;> cases henv

/-- What has arrived is announced in the same event. -/
theorem calls_announce (hcalls : relay.calls event = some calls) :
    calls.foldl Machine.announce true = true := by
  rcases calls_cases hcalls with ⟨label, hmakes, rfl⟩ | ⟨chunk, rfl, -, rfl⟩ | ⟨rfl, rfl⟩
  · have harrival := hmakes.arrival
    cases label with
    | receive => cases harrival
    | _ => rfl
  · rfl
  · rfl

end Calls

end Relay

namespace Tunnel

/-- Messages are read in time, and no renegotiation is disturbed. -/
structure Regular (pairing : Pairing) (tunnel : Tunnel) (event : Party × Event) : Prop where
  inTime : ∀ label ∈ event.2.call?,
    ((tunnel.line.side event.1).served label).stack.machine.ReadsInTime
    (pairing.config event.1) label
  orderly : ∀ label ∈ event.2.call?, tunnel.line.Orderly pairing (event.1, label)

instance (pairing : Pairing) (tunnel : Tunnel) (event : Party × Event) :
    Decidable (tunnel.Regular pairing event) :=
  decidable_of_iff ((∀ label ∈ event.2.call?,
      ((tunnel.line.side event.1).served label).stack.machine.ReadsInTime (pairing.config event.1)
        label) ∧
      ∀ label ∈ event.2.call?, tunnel.line.Orderly pairing (event.1, label))
    ⟨fun ⟨hinTime, horderly⟩ => ⟨hinTime, horderly⟩, fun ⟨hinTime, horderly⟩ => ⟨hinTime, horderly⟩⟩

section Conditions

variable {pairing : Pairing} {tunnel tunnel' : Tunnel} {party : Party} {event : Event}
  {calls : List Label} {line : Line}

/-- The conditions on an event are those on its calls. -/
theorem along_calls (hcalls : (tunnel.relay party).calls event = some calls)
    (hregular : tunnel.Regular pairing (party, event))
    (hline : tunnel.line.run pairing (calls.map (Prod.mk party)) = some line)
    (hupper : .closed ∉ line.trace party) :
    Runs.Along (Line.step pairing) (fun line label => line.Undisturbed pairing label ∧
      line.Orderly pairing label) tunnel.line (calls.map (Prod.mk party)) := by
  have hstays := Relay.calls_stay hcalls
  have hplain (hall : ∀ label ∈ calls, label.isPlain = true) :=
    Line.along_plain hall hstays hline hupper
  rcases Relay.calls_cases hcalls with ⟨label, hmakes, rfl⟩ | ⟨chunk, rfl, -, rfl⟩ | ⟨rfl, rfl⟩
  · rcases hmakes.plain with hcall | hall
    · obtain ⟨next, hstep, ⟨⟩⟩ := Runs.run_cons hline
      refine ⟨⟨⟨hmakes.stays, hregular.inTime label hcall, fun other hother => ?_⟩,
        hregular.orderly label hcall⟩, fun _ _ => trivial⟩
      cases hstep.symm.trans hother
      exact hupper
    · exact hplain (by simpa using hall)
  · exact hplain (by simp [Label.isPlain])
  · exact hplain (by simp [Label.isPlain])

/-- Chunks are read from the line by a session that is open. -/
theorem along_arrives {localAddr : UInt16} (hcalls : (tunnel.relay party).calls event = some calls)
    (hawaits : Relay.Awaits localAddr (tunnel.relay party)) :
    Runs.Along (Line.step pairing) Line.ArrivesOpen tunnel.line (calls.map (Prod.mk party)) := by
  have hnone {line : Line} {label : Label} (harrival : label.arrival = none) :
      line.ArrivesOpen (party, label) := by
    intro hsome
    simp [harrival] at hsome
  rcases Relay.calls_cases hcalls with ⟨label, hmakes, rfl⟩ | ⟨chunk, rfl, hreads, rfl⟩ | ⟨rfl, rfl⟩
  · exact ⟨hnone hmakes.arrival, fun _ _ => trivial⟩
  · exact ⟨fun _ => (hawaits.reads.mp hreads).1, fun _ _ => ⟨hnone rfl, fun _ _ => trivial⟩⟩
  · exact ⟨hnone rfl, fun _ _ => ⟨hnone rfl, fun _ _ => trivial⟩⟩

end Conditions

/-! ## What holds in a tunnel -/

/-- Both sessions are sound, and there are two parties over channels that do the same. -/
structure Holds (pairing : Pairing) (addr : Party → UInt16) (store : UInt64 → Option Bytes)
    (tunnel : Tunnel) : Prop where
  sound : ∀ party, Relay.Sound (tunnel.relay party)
  awaits : ∀ party, Relay.Awaits (addr party) (tunnel.relay party)
  announced : ∀ party,
    (tunnel.relay party).full.stack.machine.Announced (tunnel.relay party).lends
  heeds : ∀ party, (tunnel.line.side party).Heeds true
  carries : ∃ messages duplex, Duplex.create.run pairing messages = some duplex ∧
    (∀ label ∈ messages, ∀ env ∈ label.2.env?, env.KeysFrom store) ∧
    Runs.Along (Duplex.step pairing) (Line.Compliant pairing) Duplex.create messages ∧
    Line.Carries pairing addr tunnel.line duplex

section Holds

variable {pairing : Pairing} {addr : Party → UInt16} {store : UInt64 → Option Bytes}
  {tunnel tunnel' : Tunnel}

theorem create_holds (pairing : Pairing) (addr : Party → UInt16) (store : UInt64 → Option Bytes) :
    Holds pairing addr store (create addr) where
  sound party := by cases party <;> exact Relay.create_sound _ _
  awaits party := by cases party <;> exact Relay.create_awaits _ _
  announced party := by cases party <;> exact fun hne => absurd rfl hne
  heeds := Line.create_heeds addr
  carries := ⟨[], Duplex.create, rfl, by simp, trivial, Line.carries_create pairing addr⟩

/-- The parties over the channels. -/
theorem Holds.joined (hholds : Holds pairing addr store tunnel) (hcompatible : pairing.Compatible) :
    ∃ messages duplex, Duplex.create.run pairing messages = some duplex ∧
      Line.Carries pairing addr tunnel.line duplex ∧ Duplex.Joined pairing store duplex := by
  obtain ⟨messages, duplex, hmessages, hkeys, halong, hcarries⟩ := hholds.carries
  exact ⟨messages, duplex, hmessages, hcarries,
    Line.joined_of_compliant hcompatible hkeys hmessages halong⟩

theorem holds_step (hcompatible : pairing.Compatible) (hlinked : Line.Linked pairing addr)
    (hholds : Holds pairing addr store tunnel) {party : Party} {event : Event}
    (hkeys : ∀ env ∈ event.env?, env.KeysFrom store)
    (hregular : tunnel.Regular pairing (party, event))
    (hstep : tunnel.step pairing (party, event) = some tunnel')
    (hupper : ∀ other, .closed ∉ tunnel'.line.trace other) : Holds pairing addr store tunnel' := by
  obtain ⟨hrelay, hpeer⟩ := relay_step hstep
  have hclosed : .closed ∉ (tunnel'.relay party).base.trace := hupper party
  obtain ⟨calls, line, hcalls, hline, heq⟩ := step_cases hstep
  have hsame : tunnel'.line = line := by rw [heq, line_setSockets]
  rw [hsame] at hupper
  have halong := along_calls hcalls hregular hline (hupper party)
  have hundisturbed := halong.mono fun _ _ h => h.1
  have horderly := halong.mono fun _ _ h => h.2
  obtain ⟨messages, duplex, hmessages, hkeys', hregular', hcarries⟩ := hholds.carries
  have hcallKeys : ∀ label ∈ calls.map (Prod.mk party), ∀ env ∈ label.2.env?,
      env.KeysFrom store := by
    intro label hmem env henv
    obtain ⟨call, hcall, rfl⟩ := List.mem_map.mp hmem
    exact hkeys env (Relay.calls_env hcalls hcall henv)
  obtain ⟨more, duplex', hmore, hmoreKeys, hmoreRegular, hcarries'⟩ :=
    Line.carries_run hlinked hcarries hcallKeys hline hundisturbed horderly
  rw [← hsame] at hcarries'
  have hall := Runs.run_append hmessages hmore
  have hallKeys : ∀ label ∈ messages ++ more, ∀ env ∈ label.2.env?, env.KeysFrom store := by
    intro label hmem
    exact (List.mem_append.mp hmem).elim (hkeys' label) (hmoreKeys label)
  have hallRegular := hregular'.append fun state hstate => by
    cases hmessages.symm.trans hstate
    exact hmoreRegular
  refine ⟨?_, ?_, ?_, ?_, messages ++ more, duplex', hall, hallKeys, hallRegular, hcarries'⟩
  · refine @Party.forall_of_peer _ party ?_ ?_
    · exact Relay.sound_step (hholds.sound party) hrelay hclosed
    · rw [hpeer]
      exact hholds.sound party.peer
  · refine @Party.forall_of_peer _ party ?_ ?_
    · exact Relay.awaits_step (hholds.awaits party) (hholds.sound party) hrelay
    · rw [hpeer]
      exact hholds.awaits party.peer
  · refine @Party.forall_of_peer _ party ?_ ?_
    · refine Relay.announced_step (hholds.sound party) (hholds.announced party) hrelay hclosed ?_
      -- there is no payload without an application
      have hclean := Duplex.clean_run hcompatible hallKeys hall hallRegular party
      rw [(hcarries' party).machine] at hclean
      intro hne
      by_contra hshut
      exact hne (hclean.payload (Bool.eq_false_iff.mpr hshut))
    · rw [hpeer]
      exact hholds.announced party.peer
  · refine @Party.forall_of_peer _ party ?_ ?_
    · have hheeds := Line.heeds_calls hlinked hcarries (hholds.heeds party) hline hundisturbed
        horderly (along_arrives hcalls (hholds.awaits party))
      rwa [Relay.calls_announce hcalls, ← hsame] at hheeds
    · rw [hsame, (Line.run_side hline).2]
      exact hholds.heeds party.peer

theorem holds_run (hcompatible : pairing.Compatible) (hlinked : Line.Linked pairing addr)
    {events : List (Party × Event)}
    (hkeys : ∀ event ∈ events, ∀ env ∈ event.2.env?, env.KeysFrom store)
    (hholds : Holds pairing addr store tunnel) (hrun : tunnel.run pairing events = some tunnel')
    (halong : Runs.Along (step pairing) (Regular pairing) tunnel events)
    (hupper : ∀ party, .closed ∉ tunnel'.line.trace party) : Holds pairing addr store tunnel' := by
  induction events generalizing tunnel with
  | nil =>
      cases hrun
      exact hholds
  | cons event events ih =>
      obtain ⟨next, hstep, hrest⟩ := Runs.run_cons hrun
      have hnext := holds_step hcompatible hlinked hholds (hkeys event List.mem_cons_self)
        halong.1 hstep
        fun party hmem => hupper party ((trace_run hrest party).subset hmem)
      exact ih (fun other hmem => hkeys other (List.mem_cons_of_mem _ hmem)) hnext hrest
        (halong.2 next hstep)

end Holds

/-! ## What the applications get -/

/-- **A tunnel keeps the streams.**  Two proxies are configured for each other, and serve an
application each.  Whenever the sockets are read and written, and however the line cuts what it
carries: as long as messages are in time, no renegotiation is disturbed and no application is
disconnected, what is given to an application is a front part of what has been taken from the other
one. -/
theorem tunnel_stream_integrity (pairing : Pairing) (hcompatible : pairing.Compatible)
    (addr : Party → UInt16) (hlinked : Line.Linked pairing addr) (store : UInt64 → Option Bytes)
    (events : List (Party × Event))
    (hkeys : ∀ event ∈ events, ∀ env ∈ event.2.env?, env.KeysFrom store) (tunnel : Tunnel)
    (hrun : (create addr).run pairing events = some tunnel)
    (halong : Runs.Along (step pairing) (Regular pairing) (create addr) events)
    (hupper : ∀ party, .closed ∉ tunnel.line.trace party) (party : Party) :
    (tunnel.sockets party).given.flatten <+: (tunnel.sockets party.peer).taken.flatten := by
  have hholds := holds_run hcompatible hlinked hkeys (create_holds pairing addr store) hrun
    halong hupper
  obtain ⟨-, duplex, -, hcarries, hjoined⟩ := hholds.joined hcompatible
  have hfront := hcarries.reads_front hjoined party
  rw [show reads (tunnel.line.trace party) = (tunnel.sockets party).given from
      (hholds.sound party).paced.given,
    show submitted (tunnel.line.trace party.peer) = (tunnel.sockets party.peer).taken from
      (hholds.sound party.peer).paced.taken] at hfront
  exact hfront

/-- A session that has been started and has nothing to do: its stack is at rest, the last frame has
been sent, nothing is being written to the application, and nothing is on the way from the line. -/
structure Rests (tunnel : Tunnel) (party : Party) : Prop where
  rests : (tunnel.relay party).rests = true
  isOpen : (tunnel.relay party).full.link.isOpen = true
  ready : (tunnel.relay party).base.lowerTxReady = true
  written : (tunnel.sockets party).writing = false
  wire : tunnel.line.wire party = []

instance (tunnel : Tunnel) (party : Party) : Decidable (tunnel.Rests party) :=
  decidable_of_iff ((tunnel.relay party).rests = true ∧
      (tunnel.relay party).full.link.isOpen = true ∧
      (tunnel.relay party).base.lowerTxReady = true ∧ (tunnel.sockets party).writing = false ∧
      tunnel.line.wire party = [])
    ⟨fun ⟨h1, h2, h3, h4, h5⟩ => ⟨h1, h2, h3, h4, h5⟩,
      fun ⟨h1, h2, h3, h4, h5⟩ => ⟨h1, h2, h3, h4, h5⟩⟩

/-- No payload is left over in a session at rest. -/
theorem Rests.line {pairing : Pairing} {addr : Party → UInt16} {store : UInt64 → Option Bytes}
    {tunnel : Tunnel} {party : Party} (hrests : tunnel.Rests party)
    (hholds : Holds pairing addr store tunnel) : tunnel.line.Rests party := by
  have hstack : (tunnel.line.side party).stack.machine.stack = [] :=
    List.isEmpty_iff.mp hrests.rests
  refine ⟨hstack, (hholds.awaits party).agrees.symm.trans hrests.isOpen, hrests.ready, ?_,
    hrests.wire⟩
  by_contra hne
  rcases hholds.announced party hne with hlends | hmem
  · cases (hrests.written.symm.trans (hholds.sound party).lent).trans hlends
  · rw [show (tunnel.relay party).full.stack.machine.stack = [] from hstack] at hmem
    cases hmem

/-- **A tunnel delivers everything.**  When both sessions of such a tunnel are at rest, each
application has been given exactly what was taken from the other one, and both sessions read from
the line.  No payload is left in a crypto layer, and neither a frame nor a byte in a link layer. -/
theorem tunnel_all_delivered_at_rest (pairing : Pairing) (hcompatible : pairing.Compatible)
    (addr : Party → UInt16) (hlinked : Line.Linked pairing addr) (store : UInt64 → Option Bytes)
    (events : List (Party × Event))
    (hkeys : ∀ event ∈ events, ∀ env ∈ event.2.env?, env.KeysFrom store) (tunnel : Tunnel)
    (hrun : (create addr).run pairing events = some tunnel)
    (halong : Runs.Along (step pairing) (Regular pairing) (create addr) events)
    (hupper : ∀ party, .closed ∉ tunnel.line.trace party)
    (hrests : ∀ party, tunnel.Rests party) (party : Party) :
    (tunnel.sockets party).given.flatten = (tunnel.sockets party.peer).taken.flatten ∧
      (tunnel.sockets party).lowerRx = true ∧ (tunnel.relay party).base.payloadData = [] ∧
      (tunnel.relay party).full.link.Drained := by
  have hholds := holds_run hcompatible hlinked hkeys (create_holds pairing addr store) hrun
    halong hupper
  have hline (party : Party) : tunnel.line.Rests party := (hrests party).line hholds
  -- the read loop has found that there is nothing left
  have hdrained : (tunnel.relay party).full.link.Drained := by
    refine ((hholds.heeds party).heeds rfl (hrests party).isOpen
      ⟨(hline party).ready, (hline party).payload⟩).resolve_right ?_
    rw [(hline party).stack]
    exact List.not_mem_nil
  refine ⟨?_, (hholds.awaits party).reads.mpr ⟨(hrests party).isOpen, hdrained⟩,
    (hline party).payload, hdrained⟩
  obtain ⟨messages, duplex, hmessages, hcarries, hjoined⟩ := hholds.joined hcompatible
  have hall := hcarries.reads_at_rest hjoined hmessages hholds.heeds hline party
  rw [show reads (tunnel.line.trace party) = (tunnel.sockets party).given from
      (hholds.sound party).paced.given,
    show submitted (tunnel.line.trace party.peer) = (tunnel.sockets party.peer).taken from
      (hholds.sound party.peer).paced.taken] at hall
  exact hall

/-! ## A byte through a tunnel -/

namespace Passage

def addr : Party → UInt16
  | .initiator => 1
  | .responder => 2

/-- The parties of the sample with a renegotiation, with link frames. -/
def pairing : Pairing :=
  let sample := Duplex.Renegotiated.pairing
  { sample with
    initiatorContext := { sample.initiatorContext with frameWriter := .link 2 1 4092 }
    responderContext := { sample.responderContext with frameWriter := .link 1 2 4092 }
    backend_eq := sample.backend_eq }

theorem pairing_compatible : pairing.Compatible where
  agree := Duplex.Renegotiated.pairing_compatible.agree
  commutes := Duplex.Renegotiated.pairing_compatible.commutes
  decrypts := Duplex.Renegotiated.pairing_compatible.decrypts
  initiatorRoom := by decide
  responderRoom := by decide

theorem pairing_linked : Line.Linked pairing addr := by
  intro party
  cases party <;> rfl

/-- What a session does next, if it does not wait.  It reads at most 64 bytes from the line, and the
application of the initiator sends a byte. -/
def next (tunnel : Tunnel) (party : Party) : Option (Party × Event) :=
  let relay := tunnel.relay party
  let env := Ssp21.Sample.env (if party = .initiator then 1 else 2)
  if relay.callback?.isSome then some (party, .callback)
  else if !relay.rests then some (party, .run env)
  else if relay.sockets.writing then some (party, .upperTx)
  else if !relay.full.link.isOpen then some (party, .start env)
  else if !relay.base.lowerTxReady then some (party, .lowerTx env)
  else if tunnel.line.wire party ≠ [] then
    some (party, .lowerRx ((tunnel.line.wire party).take 64))
  else if party = .initiator ∧ relay.sockets.reading = true ∧ relay.sockets.taken = [] then
    some (party, .upperRx [65])
  else none

/-- Both sessions do what they can. -/
def work : Nat → Tunnel → List (Party × Event)
  | 0, _ => []
  | fuel + 1, tunnel =>
      match (next tunnel .responder).or (next tunnel .initiator) with
      | none => []
      | some event => event :: ((tunnel.step pairing event).map (work fuel)).getD []

/-- A handshake, a byte from the application of the initiator, and a renegotiation. -/
def exchange : List (Party × Event) := work 80 (create addr)

theorem next_keysFrom {tunnel : Tunnel} {party : Party} {event : Party × Event}
    (hnext : next tunnel party = some event) :
    ∀ env ∈ event.2.env?, env.KeysFrom (fun _ => none) := by
  have henv (seed : UInt8) : (Ssp21.Sample.env seed).KeysFrom (fun _ => none) :=
    ⟨by rintro _ ⟨⟩, by rintro _ _ ⟨⟩⟩
  unfold next at hnext
  dsimp only at hnext
  split_ifs at hnext <;> cases hnext <;> simp [Relay.Event.env?, henv]

theorem work_keysFrom (fuel : Nat) (tunnel : Tunnel) :
    ∀ event ∈ work fuel tunnel, ∀ env ∈ event.2.env?, env.KeysFrom (fun _ => none) := by
  induction fuel generalizing tunnel with
  | zero => simp [work]
  | succ fuel ih =>
      rw [work]
      split
      · simp
      · rename_i event hevent
        intro other hmem
        rcases List.mem_cons.mp hmem with rfl | hmem
        · rcases Option.or_eq_some_iff.mp hevent with hnext | ⟨-, hnext⟩
          · exact next_keysFrom hnext
          · exact next_keysFrom hnext
        · cases hstep : tunnel.step pairing event with
          | none => simp [hstep] at hmem
          | some after =>
              rw [hstep] at hmem
              exact ih after other hmem

theorem exchange_regular :
    Runs.Along (step pairing) (Regular pairing) (create addr) exchange := by decide +kernel

/-- Both sessions have come to rest. -/
theorem exchange_run : ∃ tunnel, (create addr).run pairing exchange = some tunnel ∧
    tunnel.responder.given = [[65]] ∧ (∀ party, .closed ∉ tunnel.line.trace party) ∧
    ∀ party, tunnel.Rests party := by
  have hrun : ((create addr).run pairing exchange).map (fun tunnel =>
      (tunnel.responder.given, [Party.initiator, .responder].map fun party =>
        (decide (.closed ∉ tunnel.line.trace party), decide (tunnel.Rests party)))) =
      some ([[65]], [(true, true), (true, true)]) := by decide +kernel
  obtain ⟨tunnel, hrun, htunnel⟩ := Option.map_eq_some_iff.mp hrun
  obtain ⟨hgiven, hboth⟩ := Prod.mk.inj htunnel
  simp only [List.map_cons, List.map_nil, List.cons.injEq, Prod.mk.injEq, decide_eq_true_eq,
    and_true] at hboth
  refine ⟨tunnel, hrun, hgiven, fun party => ?_, fun party => ?_⟩
  · cases party
    · exact hboth.1.1
    · exact hboth.2.1
  · cases party
    · exact hboth.1.2
    · exact hboth.2.2

theorem tunnel_stream_integrity_renegotiated : ∃ tunnel,
    (create addr).run pairing exchange = some tunnel ∧ tunnel.responder.given = [[65]] ∧
      tunnel.responder.given.flatten <+: tunnel.initiator.taken.flatten := by
  obtain ⟨tunnel, hrun, hgiven, hupper, -⟩ := exchange_run
  exact ⟨tunnel, hrun, hgiven,
    tunnel_stream_integrity pairing pairing_compatible addr pairing_linked
    (fun _ => none) exchange (work_keysFrom 80 _) tunnel hrun exchange_regular hupper .responder⟩

theorem tunnel_all_delivered_at_rest_renegotiated : ∃ tunnel,
    (create addr).run pairing exchange = some tunnel ∧ tunnel.responder.given = [[65]] ∧
      tunnel.responder.given.flatten = tunnel.initiator.taken.flatten ∧
      tunnel.responder.lowerRx = true ∧ (tunnel.relay .responder).base.payloadData = [] ∧
      (tunnel.relay .responder).full.link.Drained := by
  obtain ⟨tunnel, hrun, hgiven, hupper, hrests⟩ := exchange_run
  exact ⟨tunnel, hrun, hgiven, tunnel_all_delivered_at_rest pairing pairing_compatible addr
    pairing_linked (fun _ => none)
    exchange (work_keysFrom 80 _) tunnel hrun exchange_regular hupper hrests
    .responder⟩

end Passage

end Tunnel

end Proxy

end Ssp21
