import Ssp21.Foundation.Runs
import Ssp21.Proxy.Session

/-!
# Restarting the session of the UDP proxy

The UDP proxy has one session at a time.  Its error handler shuts the session down and starts
another one with the same endpoints, which takes that the sockets of the old one are closed.

The shutdown can call the handler once more.  If the failure came through the stack, the stack is
closed by then and does not; but if it came from the upper socket, the shutdown finds the upper
layer open, the handler runs inside the handler, and both start a session.

`calls` is the history of the calls that matter.  `replaced_once_iff` says which failures of a
running session lead to exactly one new session: those of an established session that come
through the stack.
-/

namespace Ssp21.Proxy

/-- A call of `shutdown` on a session, or of `start_session`; the latter with whether there is a
session that has been started and not been shut down. -/
inductive Call
  | shutdown (index : Nat)
  | startSession (overlapping : Bool)
  deriving DecidableEq, Repr

def Call.isStart : Call → Bool
  | .startSession _ => true
  | .shutdown _ => false

/-- A session with whether it has been shut down. -/
structure Started where
  session : Session AsioUdpSocketWrapper
  isShutdown : Bool
  deriving DecidableEq, Repr

/-- `started` are all sessions so far; `current` is the one that `session` points to.  `threw`
says that an exception has left the proxy. -/
structure UdpProxySession where
  hasLink : Bool
  started : List Started
  current : Nat
  calls : List Call
  threw : Bool
  deriving DecidableEq, Repr

namespace UdpProxySession

def logCall (proxy : UdpProxySession) (call : Call) : UdpProxySession :=
  { proxy with calls := proxy.calls ++ [call] }

/-- One of the two endpoints is still in use. -/
def inUse (proxy : UdpProxySession) : Bool :=
  proxy.started.any fun s => s.session.lowerSocket.isOpen || s.session.upperSocket.isOpen

/-- `start_session`.  A socket is bound when it is constructed, and its constructor throws if the
endpoint is in use. -/
def startSession (proxy : UdpProxySession) : UdpProxySession :=
  let proxy := proxy.logCall (.startSession (proxy.started.any fun s => !s.isShutdown))
  if proxy.inUse then { proxy with threw := true }
  else
    { proxy with
      started := proxy.started ++ [⟨(Session.create proxy.hasLink).start, false⟩]
      current := proxy.started.length }

/-- The proxy after `start`. -/
def start (hasLink : Bool) : UdpProxySession :=
  startSession ⟨hasLink, [], 0, [], false⟩

/-- One of the sessions changes. -/
def setStarted (proxy : UdpProxySession) (index : Nat) (value : Started) : UdpProxySession :=
  { proxy with started := proxy.started.set index value }

/-- `session->shutdown()`. -/
def shutdown (handler : UdpProxySession → UdpProxySession) (proxy : UdpProxySession) :
    UdpProxySession :=
  match proxy.started[proxy.current]? with
  | none => proxy
  | some s =>
      let (session, told) := s.session.shutdown
      let proxy := proxy.logCall (.shutdown proxy.current)
      let proxy := proxy.setStarted proxy.current ⟨session, true⟩
      if told then handler proxy else proxy

/-- `on_session_error`, for calls that are nested at most `depth` deep. -/
def onSessionErrorWith : Nat → UdpProxySession → UdpProxySession
  | 0, proxy => proxy
  | depth + 1, proxy =>
      let proxy := shutdown (onSessionErrorWith depth) proxy
      if proxy.threw then proxy else proxy.startSession

def onSessionError : UdpProxySession → UdpProxySession :=
  onSessionErrorWith 2

structure Event where
  index : Nat
  happening : Happening
  deriving DecidableEq, Repr

/-- Something happens to one of the sessions, also to one that has been replaced. -/
def onHappening (proxy : UdpProxySession) (index : Nat) (s : Started) (happening : Happening) :
    UdpProxySession :=
  let (session, told) := s.session.handle happening
  let proxy := proxy.setStarted index { s with session := session }
  if told then proxy.onSessionError else proxy

def step (proxy : UdpProxySession) (event : Event) : Option UdpProxySession :=
  match proxy.started[event.index]? with
  | none => none
  | some s =>
      if !proxy.threw && s.session.enabled event.happening then
        some (proxy.onHappening event.index s event.happening)
      else none

/-! ## Sessions that run and sessions that have been replaced -/

/-- The session that the proxy has: both sockets are open, and the upper socket reports an error
only while the upper layer is open. -/
structure Running (s : Started) : Prop where
  wf : s.session.Wf
  isShutdown : s.isShutdown = false
  lower : s.session.lowerSocket.isOpen = true
  upper : s.session.upperSocket.isOpen = true
  reports : ∀ direction, s.session.upperSocket.isActive.get direction = true →
    s.session.upperSocket.isOpenFor.get direction = true → s.session.upperOpen = true

/-- A socket that reports no error any more. -/
structure Silent (socket : AsioUdpSocketWrapper) : Prop where
  isOpen : socket.isOpen = false
  quiet : ∀ direction, socket.isActive.get direction = true →
    socket.isOpenFor.get direction = false

/-- A session that has been shut down: closed, with sockets that report nothing. -/
structure Retired (s : Started) : Prop where
  wf : s.session.Wf
  isShutdown : s.isShutdown = true
  closed : s.session.stackOpen = false
  silent : ∀ side, Silent (s.session.socket side)

theorem Silent.of_close {socket : AsioUdpSocketWrapper} (hopen : socket.isOpen = true) :
    Silent (IAsioSocketWrapper.tryCloseSocket socket) := by
  have hclose : IAsioSocketWrapper.tryCloseSocket socket =
      { socket with isOpen := false, isOpenFor := .none } := by
    simp [IAsioSocketWrapper.tryCloseSocket, hopen]
  rw [hclose]
  exact ⟨rfl, fun direction _ => Flags.get_none direction⟩

/-- A closed socket is not closed again. -/
theorem Silent.close {socket : AsioUdpSocketWrapper} (hsilent : Silent socket) :
    Silent (IAsioSocketWrapper.tryCloseSocket socket) := by
  have hclose : IAsioSocketWrapper.tryCloseSocket socket = socket := by
    simp [IAsioSocketWrapper.tryCloseSocket, hsilent.isOpen]
  rw [hclose]
  exact hsilent

/-- A silent socket stays silent, whether its operations succeed or fail. -/
theorem Silent.complete {socket : AsioUdpSocketWrapper} (hsilent : Silent socket)
    (direction : Direction) : Silent (IAsioSocketWrapper.complete direction socket) := by
  refine ⟨hsilent.isOpen, fun other hactive => ?_⟩
  change (socket.isActive.set direction false).get other = true at hactive
  change (socket.isOpenFor.set direction true).get other = false
  rw [Flags.get_set] at hactive ⊢
  split_ifs at hactive ⊢
  exact hsilent.quiet other hactive

theorem Silent.fail {socket : AsioUdpSocketWrapper} (hsilent : Silent socket)
    (direction : Direction) : Silent (IAsioSocketWrapper.fail direction socket).1 := by
  refine ⟨hsilent.isOpen, fun other hactive => ?_⟩
  change (socket.isActive.set direction false).get other = true at hactive
  rw [Flags.get_set] at hactive
  split_ifs at hactive
  exact hsilent.quiet other hactive

/-- A new session runs. -/
theorem running_start (hasLink : Bool) : Running ⟨(Session.create hasLink).start, false⟩ := by
  have hreports : ∀ direction, (Flags.none.get direction) = true → False := by
    intro direction hactive
    simp at hactive
  cases hasLink with
  | false => exact ⟨Session.start_wf false, rfl, rfl, rfl, fun d h => (hreports d h).elim⟩
  | true => exact ⟨Session.start_wf true, rfl, rfl, rfl, fun d h => (hreports d h).elim⟩

/-- A shutdown retires a session if it silences its sockets: those that are open are closed, the
upper one together with its layer. -/
theorem Retired.of_shutdown {session : Session AsioUdpSocketWrapper} (hwf : session.Wf)
    (hlower : session.lowerSocket.isOpen = true ∨ Silent session.lowerSocket)
    (hupper : session.upperOpen = true ∧ session.upperSocket.isOpen = true ∨
      session.upperOpen = false ∧ Silent session.upperSocket) :
    Retired ⟨session.shutdown.1, true⟩ := by
  rw [Session.shutdown_eq hwf]
  refine ⟨Session.closed_wf _, rfl, rfl, fun side => ?_⟩
  cases side with
  | lower =>
      change Silent (IAsioSocketWrapper.tryCloseSocket session.lowerSocket)
      exact hlower.elim Silent.of_close Silent.close
  | upper =>
      change Silent (if session.upperOpen = true then
        IAsioSocketWrapper.tryCloseSocket session.upperSocket else session.upperSocket)
      rcases hupper with ⟨hopen, hsocket⟩ | ⟨hclosed, hsilent⟩
      · rw [if_pos hopen]
        exact Silent.of_close hsocket
      · rw [if_neg (by simp [hclosed])]
        exact hsilent

theorem Retired.cryptoOpen {s : Started} (hretired : Retired s) :
    s.session.cryptoOpen = false := by
  rw [hretired.wf.crypto, hretired.closed]

theorem Retired.upperOpen {s : Started} (hretired : Retired s) : s.session.upperOpen = false := by
  have hcrypto := hretired.cryptoOpen
  by_contra hopen
  rw [hretired.wf.upper (by simpa using hopen)] at hcrypto
  cases hcrypto

/-- Nothing that happens to a retired session calls the handler. -/
theorem Retired.handle {s : Started} (hretired : Retired s) {happening : Happening}
    (henabled : s.session.enabled happening = true) :
    Retired { s with session := (s.session.handle happening).1 } ∧
      (s.session.handle happening).2 = false := by
  -- only operations that were under way can still end
  have hset : ∀ side socket, Silent socket →
      Retired { s with session := s.session.setSocket side socket } := by
    intro side socket hsocket
    refine ⟨Session.setSocket_wf hretired.wf side socket, hretired.isShutdown, ?_, ?_⟩
    · cases side <;> exact hretired.closed
    · intro other
      rw [Session.socket_setSocket]
      split_ifs
      · exact hsocket
      · exact hretired.silent other
  cases happening with
  | starts side direction =>
      cases side with
      | lower => exact absurd henabled (by simp [Session.enabled, hretired.cryptoOpen])
      | upper => exact absurd henabled (by simp [Session.enabled, hretired.upperOpen])
  | opensUpper => exact absurd henabled (by simp [Session.enabled, hretired.cryptoOpen])
  | closesUpper => exact absurd henabled (by simp [Session.enabled, hretired.cryptoOpen])
  | completes side direction =>
      exact ⟨hset side _ ((hretired.silent side).complete direction), rfl⟩
  | fails side direction =>
      have hquiet := (hretired.silent side).quiet direction henabled
      have hfail := hset side _ ((hretired.silent side).fail direction)
      cases side with
      | lower =>
          have hhandle : s.session.handle (.fails .lower direction) =
              (s.session.setSocket .lower
                (IAsioSocketWrapper.fail direction s.session.lowerSocket).1, false) := by
            have htold : (IAsioSocketWrapper.fail direction s.session.lowerSocket).2 = false :=
              hquiet
            simp only [Session.handle, htold, Bool.false_eq_true, if_false]
          rw [hhandle]
          exact ⟨hfail, rfl⟩
      | upper => exact ⟨hfail, hquiet⟩

/-! ## What the handler does -/

/-- A proxy with a session `now`, which has replaced those of `old`. -/
structure Serving (proxy : UdpProxySession) (old : List Started) (now : Started) : Prop where
  started : proxy.started = old ++ [now]
  current : proxy.current = old.length
  threw : proxy.threw = false
  retired : ∀ s ∈ old, Retired s
  calls : .startSession true ∉ proxy.calls

variable {proxy : UdpProxySession} {old : List Started} {now : Started}

theorem Serving.getElem?_current (hserving : Serving proxy old now) :
    proxy.started[proxy.current]? = some now := by
  rw [hserving.started, hserving.current, List.getElem?_concat_length]

/-- The current session changes. -/
theorem Serving.setStarted (hserving : Serving proxy old now) (now' : Started) :
    Serving (proxy.setStarted proxy.current now') old now' where
  started := by
    simp [UdpProxySession.setStarted, hserving.started, hserving.current]
  current := hserving.current
  threw := hserving.threw
  retired := hserving.retired
  calls := hserving.calls

/-- The proxy behind `session->shutdown()`, up to the call of the handler. -/
def afterShutdown (proxy : UdpProxySession) (now : Started) : UdpProxySession :=
  (proxy.logCall (.shutdown proxy.current)).setStarted proxy.current ⟨now.session.shutdown.1, true⟩

theorem Serving.afterShutdown (hserving : Serving proxy old now) :
    Serving (proxy.afterShutdown now) old ⟨now.session.shutdown.1, true⟩ := by
  have hlogged : Serving (proxy.logCall (.shutdown proxy.current)) old now :=
    ⟨hserving.started, hserving.current, hserving.threw, hserving.retired,
      by simp [logCall, hserving.calls]⟩
  exact hlogged.setStarted _

theorem Serving.shutdown_eq (hserving : Serving proxy old now)
    (handler : UdpProxySession → UdpProxySession) :
    shutdown handler proxy =
      if now.session.shutdown.2 then handler (proxy.afterShutdown now)
      else proxy.afterShutdown now := by
  rw [shutdown, hserving.getElem?_current]
  rfl

theorem startSession_calls (proxy : UdpProxySession) :
    proxy.startSession.calls =
      proxy.calls ++ [.startSession (proxy.started.any fun s => !s.isShutdown)] := by
  simp only [startSession]
  split_ifs <;> rfl

/-- With all sessions retired, a new one is started. -/
theorem startSession_serving {s : Started} (hserving : Serving proxy old s) (hretired : Retired s) :
    ∃ new, Running new ∧ Serving proxy.startSession (old ++ [s]) new ∧
      proxy.startSession.calls = proxy.calls ++ [.startSession false] := by
  have hall : ∀ s' ∈ proxy.started, Retired s' := by
    intro s' hin
    rw [hserving.started] at hin
    rcases List.mem_append.mp hin with hin | hin
    · exact hserving.retired s' hin
    · rw [List.mem_singleton.mp hin]
      exact hretired
  have hoverlap : (proxy.started.any fun s => !s.isShutdown) = false := by
    simp only [List.any_eq_false]
    intro s' hin
    simp [(hall s' hin).isShutdown]
  have hfree : proxy.inUse = false := by
    simp only [inUse, List.any_eq_false]
    intro s' hin
    have hlower := ((hall s' hin).silent .lower).isOpen
    have hupper := ((hall s' hin).silent .upper).isOpen
    simp only [Session.socket] at hlower hupper
    simp [hlower, hupper]
  have hstart : proxy.startSession =
      { proxy with
        calls := proxy.calls ++ [.startSession false]
        started := proxy.started ++ [⟨(Session.create proxy.hasLink).start, false⟩]
        current := proxy.started.length } := by
    have hfree' : (proxy.logCall (.startSession false)).inUse = false := hfree
    simp only [startSession, hoverlap, hfree', Bool.false_eq_true, if_false]
    rfl
  refine ⟨⟨(Session.create proxy.hasLink).start, false⟩, running_start _, ?_, ?_⟩
  · rw [hstart]
    refine ⟨?_, ?_, hserving.threw, ?_, ?_⟩
    · simp [hserving.started]
    · simp [hserving.started]
    · rw [← hserving.started]
      exact hall
    · simp [hserving.calls]
  · rw [hstart]

/-- The handler, if the upper layer is closed already: one shutdown and one new session. -/
theorem onSessionErrorWith_closed (hserving : Serving proxy old now)
    (hwf : now.session.Wf) (hclosed : now.session.upperOpen = false) (depth : Nat) :
    onSessionErrorWith (depth + 1) proxy = (proxy.afterShutdown now).startSession := by
  have htold : now.session.shutdown.2 = false := by
    rw [Session.shutdown_eq hwf]
    exact hclosed
  have hthrew := hserving.afterShutdown.threw
  simp only [onSessionErrorWith, hserving.shutdown_eq, htold, Bool.false_eq_true, if_false, hthrew]

/-- The handler, if the upper layer is open: the shutdown calls the handler, and both start a
session. -/
theorem onSessionErrorWith_open (hserving : Serving proxy old now) (hrunning : Running now)
    (hopen : now.session.upperOpen = true) (depth : Nat) :
    (onSessionErrorWith (depth + 2) proxy).calls = proxy.calls ++
      [.shutdown proxy.current, .shutdown proxy.current, .startSession false,
        .startSession true] := by
  -- the first shutdown closes the upper layer and retires the session
  have hretired : Retired ⟨now.session.shutdown.1, true⟩ :=
    Retired.of_shutdown hrunning.wf (.inl hrunning.lower) (.inl ⟨hopen, hrunning.upper⟩)
  have htold : now.session.shutdown.2 = true := by
    rw [Session.shutdown_eq hrunning.wf]
    exact hopen
  -- the second one finds it closed, and a session is started
  have hnested := onSessionErrorWith_closed hserving.afterShutdown hretired.wf hretired.upperOpen
    depth
  obtain ⟨new, hnew, hserving', hcalls⟩ :=
    startSession_serving hserving.afterShutdown.afterShutdown
      (Retired.of_shutdown hretired.wf (.inr (hretired.silent .lower))
        (.inr ⟨hretired.upperOpen, hretired.silent .upper⟩))
  -- back in the first call, that session is running
  rw [onSessionErrorWith, hserving.shutdown_eq, if_pos htold, hnested]
  simp only [hserving'.threw, Bool.false_eq_true, if_false]
  rw [startSession_calls, hcalls, hserving'.started]
  simp [hnew.isShutdown, afterShutdown, logCall, UdpProxySession.setStarted]

/-- Nested calls are never more than two deep. -/
theorem onSessionErrorWith_depth (hserving : Serving proxy old now) (hrunning : Running now)
    (depth : Nat) : onSessionErrorWith (depth + 2) proxy = proxy.onSessionError := by
  cases hopen : now.session.upperOpen with
  | false =>
      rw [onSessionError, onSessionErrorWith_closed hserving hrunning.wf hopen,
        onSessionErrorWith_closed hserving hrunning.wf hopen]
  | true =>
      have hretired : Retired ⟨now.session.shutdown.1, true⟩ :=
        Retired.of_shutdown hrunning.wf (.inl hrunning.lower) (.inl ⟨hopen, hrunning.upper⟩)
      have hnested := onSessionErrorWith_closed hserving.afterShutdown hretired.wf
        hretired.upperOpen
      have hsame : shutdown (onSessionErrorWith (depth + 1)) proxy =
          shutdown (onSessionErrorWith 1) proxy := by
        rw [hserving.shutdown_eq, hserving.shutdown_eq, hnested depth, hnested 0]
      rw [onSessionError, onSessionErrorWith, onSessionErrorWith, hsame]

/-! ## Failures of the running session -/

/-- Something that the proxy has to answer with a new session: an operation on a socket fails, or
the stack closes the upper layer. -/
def isFailure (session : Session AsioUdpSocketWrapper) : Happening → Bool
  | .fails _ _ => true
  | .closesUpper => session.upperOpen
  | _ => false

/-- A failure that reaches the handler through the stack, and once: the session is established,
and a failure of the lower socket is one that the socket reports. -/
def throughStack (session : Session AsioUdpSocketWrapper) : Happening → Bool
  | .fails .lower direction => session.upperOpen && session.lowerSocket.isOpenFor.get direction
  | .fails .upper _ => false
  | _ => true

theorem isFailure_cases {session : Session AsioUdpSocketWrapper} {happening : Happening}
    (hfailure : isFailure session happening = true) :
    happening = .closesUpper ∧ session.upperOpen = true ∨
      ∃ side direction, happening = .fails side direction := by
  cases happening with
  | closesUpper => exact Or.inl ⟨rfl, hfailure⟩
  | fails side direction => exact Or.inr ⟨side, direction, rfl⟩
  | starts side direction => cases hfailure
  | completes side direction => cases hfailure
  | opensUpper => cases hfailure

theorem start_isOpen (direction : Direction) (socket : AsioUdpSocketWrapper) :
    (IAsioSocketWrapper.start direction socket).isOpen = socket.isOpen := by
  simp only [IAsioSocketWrapper.start]
  split_ifs <;> rfl

/-- What is not a failure leaves the session running. -/
theorem Running.handle (hrunning : Running now) {happening : Happening}
    (henabled : now.session.enabled happening = true)
    (hfailure : isFailure now.session happening = false) :
    Running { now with session := (now.session.handle happening).1 } ∧
      (now.session.handle happening).2 = false := by
  have hwf := Session.handle_wf hrunning.wf henabled
  cases happening with
  | starts side direction =>
      refine ⟨?_, rfl⟩
      cases side with
      | lower =>
          exact ⟨hwf, hrunning.isShutdown, (start_isOpen _ _).trans hrunning.lower, hrunning.upper,
            hrunning.reports⟩
      | upper =>
          exact ⟨hwf, hrunning.isShutdown, hrunning.lower, (start_isOpen _ _).trans hrunning.upper,
            fun _ _ _ => henabled⟩
  | completes side direction =>
      refine ⟨?_, rfl⟩
      cases side with
      | lower => exact ⟨hwf, hrunning.isShutdown, hrunning.lower, hrunning.upper, hrunning.reports⟩
      | upper =>
          refine ⟨hwf, hrunning.isShutdown, hrunning.lower, hrunning.upper, fun other => ?_⟩
          change (now.session.upperSocket.isActive.set direction false).get other = true →
            (now.session.upperSocket.isOpenFor.set direction true).get other = true →
              now.session.upperOpen = true
          rw [Flags.get_set, Flags.get_set]
          split_ifs
          · exact nofun
          · exact hrunning.reports other
  | fails side direction => cases hfailure
  | opensUpper =>
      refine ⟨?_, rfl⟩
      simp only [Session.handle, Session.openUpper]
      split_ifs with hopen
      · exact hrunning
      · simp only [Session.handle, Session.openUpper, hopen] at hwf
        exact ⟨hwf, hrunning.isShutdown, hrunning.lower, (start_isOpen _ _).trans hrunning.upper,
          fun _ _ _ => rfl⟩
  | closesUpper =>
      have hclosed : now.session.upperOpen = false := hfailure
      have hhandle : now.session.handle .closesUpper = (now.session, false) := by
        simp [Session.handle, Session.closeUpper, hclosed]
      rw [hhandle]
      exact ⟨hrunning, rfl⟩

/-- A failure of the lower socket goes through the stack, if the socket reports it. -/
theorem handle_fails_lower {session : Session AsioUdpSocketWrapper} (hwf : session.Wf)
    (direction : Direction) :
    session.handle (.fails .lower direction) =
      let failed := session.setSocket .lower
        (IAsioSocketWrapper.fail direction session.lowerSocket).1
      if session.lowerSocket.isOpenFor.get direction then (failed.closed, session.upperOpen)
      else (failed, false) := by
  have hclose := Session.closeStack_eq (Session.setSocket_wf hwf .lower
    (IAsioSocketWrapper.fail direction session.lowerSocket).1)
  simp only [Session.handle, hclose]
  rfl

/-- A failure through the stack calls the handler with the upper layer closed. -/
theorem Running.handle_throughStack (hrunning : Running now) {happening : Happening}
    (hfailure : isFailure now.session happening = true)
    (hthrough : throughStack now.session happening = true) :
    (now.session.handle happening).2 = true ∧
      (now.session.handle happening).1.Wf ∧
      (now.session.handle happening).1.lowerSocket.isOpen = true ∧
      (now.session.handle happening).1.upperOpen = false ∧
      Silent (now.session.handle happening).1.upperSocket := by
  have hsilent := Silent.of_close hrunning.upper
  rcases isFailure_cases hfailure with ⟨rfl, hopen⟩ | ⟨side, direction, rfl⟩
  · have hhandle : now.session.handle .closesUpper = ({ now.session with
        upperOpen := false
        upperSocket := IAsioSocketWrapper.tryCloseSocket now.session.upperSocket }, true) := by
      simp [Session.handle, Session.closeUpper, hopen]
    rw [hhandle]
    exact ⟨rfl, ⟨hrunning.wf.crypto, hrunning.wf.link, by rintro ⟨⟩⟩, hrunning.lower, rfl, hsilent⟩
  · cases side with
    | upper => cases hthrough
    | lower =>
        obtain ⟨hopen, hreports⟩ := Bool.and_eq_true_iff.mp hthrough
        rw [handle_fails_lower hrunning.wf, if_pos hreports]
        refine ⟨hopen, Session.closed_wf _, hrunning.lower, rfl, ?_⟩
        simp only [Session.closed, Session.setSocket, hopen, if_true]
        exact hsilent

/-- Any other failure calls the handler with the upper layer open, or not at all. -/
theorem Running.handle_other (hrunning : Running now) {happening : Happening}
    (henabled : now.session.enabled happening = true)
    (hfailure : isFailure now.session happening = true)
    (hthrough : throughStack now.session happening = false) :
    (now.session.handle happening).2 = false ∨
      (now.session.handle happening).2 = true ∧
        Running { now with session := (now.session.handle happening).1 } ∧
        (now.session.handle happening).1.upperOpen = true := by
  rcases isFailure_cases hfailure with ⟨rfl, -⟩ | ⟨side, direction, rfl⟩
  · cases hthrough
  · cases side with
    | lower =>
        left
        rw [handle_fails_lower hrunning.wf]
        dsimp only
        split_ifs with hreports
        · have hnot : (now.session.upperOpen && true) = false := hreports ▸ hthrough
          simpa using hnot
        · rfl
    | upper =>
        cases hreports : now.session.upperSocket.isOpenFor.get direction with
        | false => exact .inl hreports
        | true =>
            have hopen := hrunning.reports direction henabled hreports
            exact .inr ⟨hreports, ⟨Session.setSocket_wf hrunning.wf .upper _,
              hrunning.isShutdown, hrunning.lower, hrunning.upper, fun _ _ _ => hopen⟩, hopen⟩

/-! ## Runs -/

/-- A session that runs, behind sessions that have been replaced. -/
def Inv (proxy : UdpProxySession) : Prop :=
  ∃ old now, Serving proxy old now ∧ Running now

/-- The condition on what happens to the running session. -/
def Replaceable (proxy : UdpProxySession) (event : Event) : Prop :=
  event.index = proxy.current →
    proxy.started[proxy.current]?.all (fun s => throughStack s.session event.happening) = true

instance (proxy : UdpProxySession) (event : Event) : Decidable (proxy.Replaceable event) :=
  inferInstanceAs (Decidable (_ → _))

theorem start_inv (hasLink : Bool) : (start hasLink).Inv :=
  ⟨[], _, ⟨rfl, rfl, rfl, by simp, by cases hasLink <;> decide⟩, running_start hasLink⟩

/-- What a step does. -/
theorem step_eq_some {event : Event} {next : UdpProxySession}
    (hstep : proxy.step event = some next) :
    ∃ s, proxy.started[event.index]? = some s ∧ s.session.enabled event.happening = true ∧
      next = proxy.onHappening event.index s event.happening := by
  simp only [step] at hstep
  split at hstep
  · cases hstep
  rename_i s hs
  split_ifs at hstep with henabled
  exact ⟨s, hs, (Bool.and_eq_true_iff.mp henabled).2, (Option.some.inj hstep).symm⟩

theorem Serving.step_current (hserving : Serving proxy old now) {happening : Happening}
    {next : UdpProxySession} (hstep : proxy.step ⟨proxy.current, happening⟩ = some next) :
    now.session.enabled happening = true ∧
      next = proxy.onHappening proxy.current now happening := by
  obtain ⟨s, hs, henabled, hnext⟩ := step_eq_some hstep
  obtain rfl : now = s := Option.some.inj (hserving.getElem?_current.symm.trans hs)
  exact ⟨henabled, hnext⟩

theorem onHappening_told {index : Nat} {s : Started} {happening : Happening}
    (htold : (s.session.handle happening).2 = true) :
    proxy.onHappening index s happening = onSessionError
      (proxy.setStarted index { s with session := (s.session.handle happening).1 }) := by
  simp only [onHappening, htold, if_true]

theorem onHappening_untold {index : Nat} {s : Started} {happening : Happening}
    (htold : (s.session.handle happening).2 = false) :
    proxy.onHappening index s happening =
      proxy.setStarted index { s with session := (s.session.handle happening).1 } := by
  simp only [onHappening, htold, Bool.false_eq_true, if_false]

/-- A failure through the stack leads to one shutdown and one new session. -/
theorem replaced_of_throughStack (hserving : Serving proxy old now) (hrunning : Running now)
    {happening : Happening} {next : UdpProxySession}
    (hfailure : isFailure now.session happening = true)
    (hthrough : throughStack now.session happening = true)
    (hstep : proxy.step ⟨proxy.current, happening⟩ = some next) :
    next.Inv ∧ next.calls = proxy.calls ++ [.shutdown proxy.current, .startSession false] := by
  obtain ⟨htold, hwf, hlower, hclosed, hsilent⟩ := hrunning.handle_throughStack hfailure hthrough
  obtain ⟨-, rfl⟩ := hserving.step_current hstep
  have hset := hserving.setStarted { now with session := (now.session.handle happening).1 }
  obtain ⟨new, hnew, hserving', hcalls⟩ := startSession_serving hset.afterShutdown
    (Retired.of_shutdown hwf (.inl hlower) (.inr ⟨hclosed, hsilent⟩))
  rw [onHappening_told htold, onSessionError, onSessionErrorWith_closed hset hwf hclosed]
  refine ⟨⟨_, new, hserving', hnew⟩, ?_⟩
  rw [hcalls]
  simp [afterShutdown, logCall, UdpProxySession.setStarted]

/-- A replaced session changes. -/
theorem Serving.setStarted_old (hserving : Serving proxy old now) {index : Nat}
    (hindex : index < old.length) {s : Started} (hretired : Retired s) :
    Serving (proxy.setStarted index s) (old.set index s) now where
  started := by
    simp [UdpProxySession.setStarted, hserving.started, List.set_append_left _ _ hindex]
  current := hserving.current.trans List.length_set.symm
  threw := hserving.threw
  retired := by
    intro s' hin
    rcases List.mem_or_eq_of_mem_set hin with hin | rfl
    · exact hserving.retired s' hin
    · exact hretired
  calls := hserving.calls

theorem step_inv (proxy : UdpProxySession) (event : Event) (next : UdpProxySession)
    (hinv : proxy.Inv) (hreplaceable : proxy.Replaceable event)
    (hstep : proxy.step event = some next) : next.Inv := by
  obtain ⟨old, now, hserving, hrunning⟩ := hinv
  obtain ⟨index, happening⟩ := event
  by_cases hindex : index = proxy.current
  · subst hindex
    have hthrough : throughStack now.session happening = true := by
      simpa [hserving.getElem?_current] using hreplaceable rfl
    cases hfailure : isFailure now.session happening with
    | true => exact (replaced_of_throughStack hserving hrunning hfailure hthrough hstep).1
    | false =>
        obtain ⟨henabled, rfl⟩ := hserving.step_current hstep
        obtain ⟨hrunning', htold⟩ := hrunning.handle henabled hfailure
        rw [onHappening_untold htold]
        exact ⟨old, _, hserving.setStarted _, hrunning'⟩
  · -- the session has been replaced, and the handler is not called
    obtain ⟨s, hs, henabled, rfl⟩ := step_eq_some hstep
    have hlt : index < old.length := by
      have hbound := (List.getElem?_eq_some_iff.mp hs).1
      rw [hserving.started, List.length_append, List.length_singleton] at hbound
      have hcurrent := hserving.current
      simp only at hbound
      omega
    have hmem : s ∈ old := by
      rw [hserving.started, List.getElem?_append_left hlt] at hs
      exact List.mem_of_getElem? hs
    obtain ⟨hretired, htold⟩ := (hserving.retired s hmem).handle henabled
    rw [onHappening_untold htold]
    exact ⟨_, now, hserving.setStarted_old hlt hretired, hrunning⟩

/-- A step that shuts the current session down and starts exactly one new one, at a time at which
no other session is running. -/
def ReplacedOnce (proxy next : UdpProxySession) : Prop :=
  ∃ calls, next.calls = proxy.calls ++ calls ∧ .shutdown proxy.current ∈ calls ∧
    calls.filter Call.isStart = [.startSession false]

/-- **One replacement per failure.**  In a run in which every failure of the running session came
through the stack of an established session: no session is started beside a running one, and
the next failure of the running session is answered with exactly one new session if and only if
it is of the same kind. -/
theorem replaced_once_iff {hasLink : Bool} {events : List Event} {proxy : UdpProxySession}
    (hrun : Runs.run step (start hasLink) events = some proxy)
    (halong : Runs.Along step Replaceable (start hasLink) events) :
    proxy.threw = false ∧ .startSession true ∉ proxy.calls ∧
    ∀ s, proxy.started[proxy.current]? = some s →
      ∀ happening next, isFailure s.session happening = true →
        proxy.step ⟨proxy.current, happening⟩ = some next →
        (ReplacedOnce proxy next ↔ throughStack s.session happening = true) := by
  obtain ⟨old, now, hserving, hrunning⟩ : proxy.Inv :=
    Runs.run_invariant Inv step_inv hrun halong (start_inv hasLink)
  refine ⟨hserving.threw, hserving.calls, ?_⟩
  intro s hs happening next hfailure hstep
  obtain rfl : now = s := Option.some.inj (hserving.getElem?_current.symm.trans hs)
  constructor
  · rintro ⟨calls, hcalls, hshutdown, hstarts⟩
    by_contra hother
    obtain ⟨henabled, rfl⟩ := hserving.step_current hstep
    rcases hrunning.handle_other henabled hfailure (by simpa using hother) with
      htold | ⟨htold, hrunning', hopen⟩
    · -- the handler was not called
      rw [onHappening_untold htold] at hcalls
      have hnil : calls = [] := List.self_eq_append_right.mp hcalls
      rw [hnil] at hshutdown
      cases hshutdown
    · -- it was called twice
      have hset := hserving.setStarted { now with session := (now.session.handle happening).1 }
      have htwice := onSessionErrorWith_open hset hrunning' hopen 0
      rw [onHappening_told htold, onSessionError, htwice] at hcalls
      rw [← List.append_cancel_left hcalls] at hstarts
      cases hstarts
  · intro hthrough
    obtain ⟨-, hcalls⟩ := replaced_of_throughStack hserving hrunning hfailure hthrough hstep
    exact ⟨_, hcalls, List.mem_cons_self, rfl⟩

/-! The first message of the peer arrives, the secure session is established, and then an
operation fails. -/

namespace FirstFailure

/-- The next read of the lower socket is under way. -/
def established : List Event :=
  [⟨0, .completes .lower .rx⟩, ⟨0, .starts .lower .rx⟩, ⟨0, .opensUpper⟩]

/-- The upper socket has received something, and its next read is under way. -/
def exchanging : List Event :=
  established ++ [⟨0, .completes .upper .rx⟩, ⟨0, .starts .upper .rx⟩]

def after (events : List Event) : UdpProxySession :=
  (Runs.run step (start true) events).getD (start true)

def failing (side : Side) (events : List Event) : UdpProxySession :=
  ((after events).step ⟨0, .fails side .rx⟩).getD (start true)

end FirstFailure

open FirstFailure

/-- The lower socket of an established session fails: the session is replaced. -/
theorem replaced_once_lower :
    (after established).step ⟨0, .fails .lower .rx⟩ = some (failing .lower established) ∧
      ReplacedOnce (after established) (failing .lower established) := by
  have hstep : (after established).step ⟨0, .fails .lower .rx⟩ =
      some (failing .lower established) := rfl
  obtain ⟨-, -, hiff⟩ := @replaced_once_iff true established (after established) rfl (by decide)
  exact ⟨hstep, (hiff _ rfl (.fails .lower .rx) _ rfl hstep).mpr rfl⟩

/-- The upper socket of an established session fails: two sessions are started, the second one
while the first one is running, and its sockets cannot be bound.  The lower socket fails before
the session is established: no session is started at all. -/
theorem replaced_twice_or_never :
    ((after exchanging).step ⟨0, .fails .upper .rx⟩ = some (failing .upper exchanging) ∧
      (failing .upper exchanging).calls = (after exchanging).calls ++
        [.shutdown 0, .shutdown 0, .startSession false, .startSession true] ∧
      (failing .upper exchanging).threw = true) ∧
    ((after (established.take 2)).step ⟨0, .fails .lower .rx⟩ =
        some (failing .lower (established.take 2)) ∧
      (failing .lower (established.take 2)).calls = (after (established.take 2)).calls) := by
  refine ⟨⟨rfl, by decide, by decide⟩, rfl, by decide⟩

end UdpProxySession

end Ssp21.Proxy
