import Mathlib.Data.List.Basic

/-!
# A session of the proxy

A session ties two sockets to the ends of a stack.  The stack passes opening and closing
upwards, from the stack itself through the link layer (if it has one) and the cryptographic
layer to the upper layer of the proxy, and each of them looks at its own flag first.  When the
upper layer is closed it calls the error handler of its session.

`Session.handle` says what one happening does to a session and whether the handler is called.
By then all flags have been changed and the sockets closed: the call of the handler is the
last thing that matters on each path, so that the owner of the session can run it afterwards.

`Session.Wf` holds of every session: the layers below the upper one are open together, and the
upper one only with them.
-/

namespace Ssp21.Proxy

/-! ## Sockets -/

inductive Direction
  | rx
  | tx
  deriving DecidableEq, Repr

/-- A flag for each direction. -/
structure Flags where
  rx : Bool
  tx : Bool
  deriving DecidableEq, Repr

namespace Flags

def none : Flags := ⟨false, false⟩

def get (flags : Flags) : Direction → Bool
  | .rx => flags.rx
  | .tx => flags.tx

def set (flags : Flags) (direction : Direction) (value : Bool) : Flags :=
  match direction with
  | .rx => { flags with rx := value }
  | .tx => { flags with tx := value }

@[simp] theorem get_none (direction : Direction) : none.get direction = false := by
  cases direction <;> rfl

theorem get_set (flags : Flags) (direction other : Direction) (value : Bool) :
    (flags.set direction value).get other =
      if other = direction then value else flags.get other := by
  cases direction <;> cases other <;> rfl

end Flags

/-- `IAsioSocketWrapper`, with the callbacks of its operations.  An operation ends with a
callback, which may come after the socket has been closed. -/
class IAsioSocketWrapper (σ : Type) where
  create : σ
  tryCloseSocket : σ → σ
  /-- `start_rx_from_socket` and `start_tx_to_socket`. -/
  start : Direction → σ → σ
  /-- An operation is under way. -/
  isActive : σ → Direction → Bool
  /-- The callback of an operation that has succeeded. -/
  complete : Direction → σ → σ
  /-- The callback of an operation that has failed, and whether it tells the layer. -/
  fail : Direction → σ → σ × Bool

structure AsioTcpSocketWrapper where
  isOpen : Bool
  isActive : Flags
  deriving DecidableEq, Repr

instance : IAsioSocketWrapper AsioTcpSocketWrapper where
  create := ⟨true, .none⟩
  tryCloseSocket socket := { socket with isOpen := false }
  start direction socket :=
    if !socket.isOpen || socket.isActive.get direction then socket
    else { socket with isActive := socket.isActive.set direction true }
  isActive socket direction := socket.isActive.get direction
  complete direction socket := { socket with isActive := socket.isActive.set direction false }
  fail direction socket :=
    let told := socket.isOpen
    ({ socket with isActive := socket.isActive.set direction false, isOpen := false }, told)

/-- `isOpenFor` is `is_rx_open` and `is_tx_open`: an operation in this direction has succeeded
since the socket was closed. -/
structure AsioUdpSocketWrapper where
  isOpen : Bool
  isOpenFor : Flags
  isActive : Flags
  deriving DecidableEq, Repr

instance : IAsioSocketWrapper AsioUdpSocketWrapper where
  create := ⟨true, .none, .none⟩
  tryCloseSocket socket :=
    if !socket.isOpen then socket else { socket with isOpen := false, isOpenFor := .none }
  -- a closed socket is not refused, the operation fails later
  start direction socket :=
    if socket.isActive.get direction then socket
    else { socket with isActive := socket.isActive.set direction true }
  isActive socket direction := socket.isActive.get direction
  complete direction socket :=
    { socket with isActive := socket.isActive.set direction false,
                  isOpenFor := socket.isOpenFor.set direction true }
  fail direction socket :=
    ({ socket with isActive := socket.isActive.set direction false },
      socket.isOpenFor.get direction)

/-! ## Sessions -/

inductive Side
  | lower
  | upper
  deriving DecidableEq, Repr

/-- `Session`: its sockets, and which layers are open. -/
structure Session (σ : Type) where
  hasLink : Bool
  stackOpen : Bool
  linkOpen : Bool
  cryptoOpen : Bool
  upperOpen : Bool
  lowerSocket : σ
  upperSocket : σ
  deriving DecidableEq, Repr

namespace Session

variable {σ : Type} [IAsioSocketWrapper σ]

open IAsioSocketWrapper

def create (hasLink : Bool) : Session σ where
  hasLink := hasLink
  stackOpen := false
  linkOpen := false
  cryptoOpen := false
  upperOpen := false
  lowerSocket := IAsioSocketWrapper.create
  upperSocket := IAsioSocketWrapper.create

/-! ### `on_lower_open`, from the upper layer down -/

def openUpper (session : Session σ) : Session σ :=
  if session.upperOpen then session
  else { session with upperOpen := true, upperSocket := start .rx session.upperSocket }

/-- What an initiator sends from here is a happening of its own. -/
def openCrypto (session : Session σ) : Session σ :=
  if session.cryptoOpen then session else { session with cryptoOpen := true }

def openLink (session : Session σ) : Session σ :=
  if session.linkOpen then session else openCrypto { session with linkOpen := true }

def openStack (session : Session σ) : Session σ :=
  if session.stackOpen then session
  else if session.hasLink then openLink { session with stackOpen := true }
  else openCrypto { session with stackOpen := true }

/-! ### `on_lower_close`, with whether the error handler is called -/

def closeUpper (session : Session σ) : Session σ × Bool :=
  if session.upperOpen then
    ({ session with upperOpen := false, upperSocket := tryCloseSocket session.upperSocket }, true)
  else (session, false)

def closeCrypto (session : Session σ) : Session σ × Bool :=
  if session.cryptoOpen then closeUpper { session with cryptoOpen := false } else (session, false)

def closeLink (session : Session σ) : Session σ × Bool :=
  if session.linkOpen then closeCrypto { session with linkOpen := false } else (session, false)

def closeStack (session : Session σ) : Session σ × Bool :=
  if session.stackOpen then
    if session.hasLink then closeLink { session with stackOpen := false }
    else closeCrypto { session with stackOpen := false }
  else (session, false)

/-! ### The session itself -/

/-- `Session::start`: `AsioLowerLayer::open` on a stack that has been bound. -/
def start (session : Session σ) : Session σ :=
  openStack { session with lowerSocket := IAsioSocketWrapper.start .rx session.lowerSocket }

/-- `Session::shutdown`: `AsioLowerLayer::close`. -/
def shutdown (session : Session σ) : Session σ × Bool :=
  closeStack { session with lowerSocket := tryCloseSocket session.lowerSocket }

end Session

/-- What can happen to a session: a layer starts an operation on its socket, an operation ends,
and the cryptographic layer opens or closes the layer above it. -/
inductive Happening
  | starts (side : Side) (direction : Direction)
  | completes (side : Side) (direction : Direction)
  | fails (side : Side) (direction : Direction)
  | opensUpper
  | closesUpper
  deriving DecidableEq, Repr

namespace Session

variable {σ : Type} [IAsioSocketWrapper σ]

def socket (session : Session σ) : Side → σ
  | .lower => session.lowerSocket
  | .upper => session.upperSocket

def setSocket (session : Session σ) (side : Side) (socket : σ) : Session σ :=
  match side with
  | .lower => { session with lowerSocket := socket }
  | .upper => { session with upperSocket := socket }

omit [IAsioSocketWrapper σ] in
theorem socket_setSocket (session : Session σ) (side other : Side) (socket : σ) :
    (session.setSocket side socket).socket other =
      if other = side then socket else session.socket other := by
  cases side <;> cases other <;> rfl

/-- The stack acts while its cryptographic layer is open, the upper layer while it is open
itself, and an operation ends that has been started.  One call of the source is no event here: a
late `on_tx_complete` of the upper layer asks a stack that has been closed for more, and may start
another read of the lower socket. -/
def enabled (session : Session σ) : Happening → Bool
  | .starts .lower _ => session.cryptoOpen
  | .starts .upper _ => session.upperOpen
  | .completes side direction => IAsioSocketWrapper.isActive (session.socket side) direction
  | .fails side direction => IAsioSocketWrapper.isActive (session.socket side) direction
  | .opensUpper => session.cryptoOpen
  | .closesUpper => session.cryptoOpen

/-- The session after a happening, and whether the error handler is called. -/
def handle (session : Session σ) : Happening → Session σ × Bool
  | .starts side direction =>
      (session.setSocket side (IAsioSocketWrapper.start direction (session.socket side)), false)
  | .completes side direction =>
      (session.setSocket side (IAsioSocketWrapper.complete direction (session.socket side)), false)
  | .fails .lower direction =>
      let (socket, told) := IAsioSocketWrapper.fail direction session.lowerSocket
      let session := session.setSocket .lower socket
      if told then session.closeStack else (session, false)
  | .fails .upper direction =>
      let (socket, told) := IAsioSocketWrapper.fail direction session.upperSocket
      (session.setSocket .upper socket, told)
  | .opensUpper => (session.openUpper, false)
  | .closesUpper => session.closeUpper

/-! ## What holds of every session -/

/-- The layers below the upper layer are open together, and the upper one only with them. -/
structure Wf (session : Session σ) : Prop where
  crypto : session.cryptoOpen = session.stackOpen
  link : session.linkOpen = (session.hasLink && session.stackOpen)
  upper : session.upperOpen = true → session.cryptoOpen = true

theorem start_wf (hasLink : Bool) : (create hasLink : Session σ).start.Wf := by
  cases hasLink <;> exact ⟨rfl, rfl, nofun⟩

/-- All layers closed, and the socket of an open upper layer too. -/
def closed (session : Session σ) : Session σ where
  hasLink := session.hasLink
  stackOpen := false
  linkOpen := false
  cryptoOpen := false
  upperOpen := false
  lowerSocket := session.lowerSocket
  upperSocket :=
    if session.upperOpen then IAsioSocketWrapper.tryCloseSocket session.upperSocket
    else session.upperSocket

theorem closed_wf (session : Session σ) : session.closed.Wf :=
  ⟨rfl, by simp [closed], nofun⟩

/-- Closing from below closes everything, and calls the handler exactly if the upper layer was
open. -/
theorem closeStack_eq {session : Session σ} (hwf : session.Wf) :
    session.closeStack = (session.closed, session.upperOpen) := by
  obtain ⟨hasLink, stackOpen, linkOpen, cryptoOpen, upperOpen, lowerSocket, upperSocket⟩ := session
  obtain ⟨hcrypto, hlink, hupper⟩ := hwf
  simp only at hcrypto hlink hupper
  subst hcrypto hlink
  cases cryptoOpen with
  | false =>
      -- nothing is open, the upper layer neither
      have hshut : upperOpen = false := by simpa using hupper
      simp [closeStack, closed, hshut]
  | true => cases hasLink <;> cases upperOpen <;> rfl

omit [IAsioSocketWrapper σ] in
theorem setSocket_wf {session : Session σ} (hwf : session.Wf) (side : Side) (socket : σ) :
    (session.setSocket side socket).Wf := by
  cases side <;> exact ⟨hwf.crypto, hwf.link, hwf.upper⟩

theorem shutdown_eq {session : Session σ} (hwf : session.Wf) :
    session.shutdown =
      ((session.setSocket .lower
        (IAsioSocketWrapper.tryCloseSocket session.lowerSocket)).closed, session.upperOpen) :=
  closeStack_eq (setSocket_wf hwf .lower (IAsioSocketWrapper.tryCloseSocket session.lowerSocket))

theorem shutdown_wf {session : Session σ} (hwf : session.Wf) : session.shutdown.1.Wf := by
  rw [shutdown_eq hwf]
  exact closed_wf _

theorem handle_wf {session : Session σ} (hwf : session.Wf) {happening : Happening}
    (henabled : session.enabled happening = true) : (session.handle happening).1.Wf := by
  cases happening with
  | starts side direction => exact setSocket_wf hwf side _
  | completes side direction => exact setSocket_wf hwf side _
  | fails side direction =>
      cases side with
      | lower =>
          have hset := setSocket_wf hwf .lower
            (IAsioSocketWrapper.fail direction session.lowerSocket).1
          simp only [handle]
          split_ifs with htold
          · rw [closeStack_eq hset]
            exact closed_wf _
          · exact hset
      | upper => exact setSocket_wf hwf .upper _
  | opensUpper =>
      simp only [handle, openUpper]
      split_ifs with hopen
      · exact hwf
      · exact ⟨hwf.crypto, hwf.link, fun _ => henabled⟩
  | closesUpper =>
      simp only [handle, closeUpper]
      split_ifs with hopen
      · exact ⟨hwf.crypto, hwf.link, nofun⟩
      · exact hwf

end Session

end Ssp21.Proxy
