import Ssp21.Foundation.OrderedMap
import Ssp21.Foundation.Runs
import Ssp21.Proxy.Session

/-!
# The session table of the TCP proxy

The proxy has a map from identifiers to sessions.  A connection adds an entry; if the map is
full, the entry with the least identifier makes room.  A session error removes the entry of
the session.

Both ways shut the session down, and a shutdown can call `on_session_error` once more, for the
same identifier.  `on_session_error` removes the entry before it shuts the session down, so
that the second call finds nothing (`onSessionErrorWith_depth`).  `start_connect` shuts the
session down first and erases the entry through an iterator afterwards: if the upper layer of
the oldest session is open, the entry is gone by then.  `undefined` records that.

`changes` is the history of the map.  `table_sound` says that the map keeps to its limit and
that every entry is removed once, as long as no connection evicts an established session.
-/

namespace Ssp21.Proxy

inductive Change
  | inserted (id : UInt64)
  | removed (id : UInt64)
  deriving DecidableEq, Repr

/-- `objects` are all sessions that have been created, with their identifiers; the map
refers to them by their number. -/
structure TcpProxySession where
  maxSessions : UInt16
  hasLink : Bool
  sessions : OrderedMap UInt64 Nat
  objects : List (UInt64 × Session AsioTcpSocketWrapper)
  sessionId : UInt64
  changes : List Change
  undefined : Bool

namespace TcpProxySession

/-- The constructor, with the configured number of sessions. -/
def create (maxSessions : UInt16) (hasLink : Bool) : TcpProxySession where
  maxSessions := if maxSessions = 0 then 1 else maxSessions
  hasLink := hasLink
  sessions := .empty
  objects := []
  sessionId := 0
  changes := []
  undefined := false

/-- An entry of the map is erased. -/
def erase (proxy : TcpProxySession) (id : UInt64) : TcpProxySession :=
  { proxy with sessions := proxy.sessions.erase id, changes := proxy.changes ++ [.removed id] }

/-- One of the sessions changes. -/
def setObject (proxy : TcpProxySession) (object : Nat) (id : UInt64)
    (session : Session AsioTcpSocketWrapper) : TcpProxySession :=
  { proxy with objects := proxy.objects.set object (id, session) }

/-- `session->shutdown()`, with the error handler that the session was created with. -/
def shutdown (handler : UInt64 → TcpProxySession → TcpProxySession) (object : Nat)
    (proxy : TcpProxySession) : TcpProxySession :=
  match proxy.objects[object]? with
  | none => proxy
  | some (id, session) =>
      let (session, told) := session.shutdown
      let proxy := proxy.setObject object id session
      if told then handler id proxy else proxy

/-- `on_session_error`, for calls that are nested at most `depth` deep. -/
def onSessionErrorWith : Nat → UInt64 → TcpProxySession → TcpProxySession
  | 0, _, proxy => proxy
  | depth + 1, id, proxy =>
      match proxy.sessions.find? id with
      | none => proxy
      | some object => shutdown (onSessionErrorWith depth) object (proxy.erase id)

def onSessionError : UInt64 → TcpProxySession → TcpProxySession :=
  onSessionErrorWith 2

/-- The part of `start_connect` that makes room for a session. -/
def makeRoom (proxy : TcpProxySession) : TcpProxySession :=
  if proxy.sessions.size = proxy.maxSessions.toNat then
    match proxy.sessions.first? with
    | none => { proxy with undefined := true }
    | some (id, object) =>
        let proxy := shutdown onSessionError object proxy
        -- the iterator designates the entry, if it is still there
        if id ∈ proxy.sessions.keys then proxy.erase id else { proxy with undefined := true }
  else proxy

/-- The part of `start_connect` that adds and starts a session. -/
def addSession (proxy : TcpProxySession) : TcpProxySession :=
  { proxy with
    sessionId := proxy.sessionId + 1
    objects := proxy.objects ++ [(proxy.sessionId, (Session.create proxy.hasLink).start)]
    sessions := proxy.sessions.insert proxy.sessionId proxy.objects.length
    changes := proxy.changes ++ [.inserted proxy.sessionId] }

/-- A connection has been made. -/
def onConnect (proxy : TcpProxySession) : TcpProxySession :=
  let proxy := proxy.makeRoom
  if proxy.undefined then proxy else proxy.addSession

/-- Something happens to one of the sessions, also to one that is no longer in the map. -/
def onHappening (proxy : TcpProxySession) (object : Nat) (id : UInt64)
    (session : Session AsioTcpSocketWrapper) (happening : Happening) : TcpProxySession :=
  let (session, told) := session.handle happening
  let proxy := proxy.setObject object id session
  if told then onSessionError id proxy else proxy

inductive Event
  | connect
  | session (object : Nat) (happening : Happening)
  deriving DecidableEq, Repr

def step (proxy : TcpProxySession) : Event → Option TcpProxySession
  | .connect => if proxy.undefined then none else some proxy.onConnect
  | .session object happening =>
      match proxy.objects[object]? with
      | none => none
      | some (id, session) =>
          if !proxy.undefined && session.enabled happening then
            some (proxy.onHappening object id session happening)
          else none

variable {proxy : TcpProxySession} {id : UInt64} {object : Nat}
  {session : Session AsioTcpSocketWrapper}

/-! ## What the handler does -/

theorem shutdown_eq (handler : UInt64 → TcpProxySession → TcpProxySession)
    (hobject : proxy.objects[object]? = some (id, session)) (hwf : session.Wf) :
    shutdown handler object proxy =
      if session.upperOpen then handler id (proxy.setObject object id session.shutdown.1)
      else proxy.setObject object id session.shutdown.1 := by
  rw [shutdown, hobject]
  simp only [Session.shutdown_eq hwf]

/-- For an entry that is gone there is nothing to do. -/
theorem onSessionErrorWith_absent (hkey : id ∉ proxy.sessions.keys) (depth : Nat) :
    onSessionErrorWith depth id proxy = proxy := by
  cases depth with
  | zero => rfl
  | succ depth => rw [onSessionErrorWith, OrderedMap.find?_eq_none_iff.mpr hkey]

theorem not_mem_keys_erase (proxy : TcpProxySession) (id : UInt64) :
    id ∉ (proxy.erase id).sessions.keys := by
  intro hkey
  exact (OrderedMap.mem_keys_erase.mp hkey).2 rfl

/-- An entry that is there is removed and its session shut down, whatever the shutdown calls. -/
theorem onSessionErrorWith_present (hentry : (id, object) ∈ proxy.sessions.entries)
    (hobject : proxy.objects[object]? = some (id, session)) (hwf : session.Wf) (depth : Nat) :
    onSessionErrorWith (depth + 1) id proxy =
      (proxy.erase id).setObject object id session.shutdown.1 := by
  have hshutdown := @shutdown_eq (proxy.erase id) id object session (onSessionErrorWith depth)
    hobject hwf
  have hagain := @onSessionErrorWith_absent
    ((proxy.erase id).setObject object id session.shutdown.1) id (not_mem_keys_erase proxy id) depth
  rw [onSessionErrorWith, OrderedMap.find?_eq_some_iff.mpr hentry]
  simp only [hshutdown, hagain, ite_self]

/-! ## What holds of the table -/

/-- The map is not larger than allowed, its entries refer to the sessions with their identifiers,
and the history accounts for them. -/
structure Inv (proxy : TcpProxySession) : Prop where
  defined : proxy.undefined = false
  max_pos : 0 < proxy.maxSessions.toNat
  size_le : proxy.sessions.size ≤ proxy.maxSessions.toNat
  refers : ∀ id object, (id, object) ∈ proxy.sessions.entries →
    ∃ session, proxy.objects[object]? = some (id, session)
  wf : ∀ id session, (id, session) ∈ proxy.objects → session.Wf
  ledger : ∀ id, proxy.changes.count (.inserted id) =
    proxy.changes.count (.removed id) + if id ∈ proxy.sessions.keys then 1 else 0

theorem create_maxSessions (maxSessions : UInt16) (hasLink : Bool) :
    (create maxSessions hasLink).maxSessions.toNat = max 1 maxSessions.toNat := by
  simp only [create]
  split_ifs with hzero
  · rw [hzero]
    rfl
  · have hne : maxSessions.toNat ≠ 0 := fun h => hzero (UInt16.toNat_inj.mp h)
    omega

theorem create_inv (maxSessions : UInt16) (hasLink : Bool) :
    (create maxSessions hasLink).Inv where
  defined := rfl
  max_pos := by
    rw [create_maxSessions]
    omega
  size_le := Nat.zero_le _
  refers _ _ hentry := absurd hentry List.not_mem_nil
  wf _ _ hin := absurd hin List.not_mem_nil
  ledger id := by simp [create, OrderedMap.keys, OrderedMap.empty]

theorem Inv.object_wf (hinv : proxy.Inv) (hobject : proxy.objects[object]? = some (id, session)) :
    session.Wf :=
  hinv.wf id session (List.mem_of_getElem? hobject)

theorem Inv.setObject (hinv : proxy.Inv) (hobject : proxy.objects[object]? = some (id, session))
    {session' : Session AsioTcpSocketWrapper} (hwf : session'.Wf) :
    (proxy.setObject object id session').Inv where
  defined := hinv.defined
  max_pos := hinv.max_pos
  size_le := hinv.size_le
  refers := by
    intro other place hentry
    obtain ⟨found, hfound⟩ := hinv.refers other place hentry
    have hlt := (List.getElem?_eq_some_iff.mp hfound).1
    by_cases hplace : object = place
    · subst hplace
      cases hobject.symm.trans hfound
      exact ⟨session', by simp [TcpProxySession.setObject, hlt]⟩
    · exact ⟨found, by simpa [TcpProxySession.setObject, hplace] using hfound⟩
  wf := by
    intro other found hin
    rcases List.mem_or_eq_of_mem_set hin with hin | heq
    · exact hinv.wf other found hin
    · cases heq
      exact hwf
  ledger := hinv.ledger

theorem Inv.erase (hinv : proxy.Inv) (hkey : id ∈ proxy.sessions.keys) : (proxy.erase id).Inv where
  defined := hinv.defined
  max_pos := hinv.max_pos
  size_le := by
    have hsize := OrderedMap.size_erase hkey
    have hle := hinv.size_le
    simp only [TcpProxySession.erase]
    omega
  refers other place hentry := hinv.refers other place (OrderedMap.mem_erase.mp hentry).1
  wf := hinv.wf
  ledger := by
    intro other
    have hledger := hinv.ledger other
    simp only [TcpProxySession.erase, List.count_append, OrderedMap.mem_keys_erase]
    by_cases heq : other = id
    · subst heq
      simp [hkey] at hledger ⊢
      omega
    · have hne : Change.removed id ≠ Change.removed other := by
        intro h
        cases h
        exact heq rfl
      simp [heq, hne, hledger]

theorem Inv.addSession (hinv : proxy.Inv) (hnew : proxy.sessionId ∉ proxy.sessions.keys)
    (hroom : proxy.sessions.size < proxy.maxSessions.toNat) : proxy.addSession.Inv where
  defined := hinv.defined
  max_pos := hinv.max_pos
  size_le := by
    simp only [TcpProxySession.addSession, OrderedMap.size_insert hnew]
    omega
  refers := by
    intro other place hentry
    rcases OrderedMap.mem_insert.mp hentry with heq | ⟨hin, -⟩
    · cases heq
      exact ⟨(Session.create proxy.hasLink).start, by simp [TcpProxySession.addSession]⟩
    · obtain ⟨found, hfound⟩ := hinv.refers other place hin
      have hlt := (List.getElem?_eq_some_iff.mp hfound).1
      exact ⟨found, by simpa [TcpProxySession.addSession, List.getElem?_append_left hlt]
        using hfound⟩
  wf := by
    intro other found hin
    rcases List.mem_append.mp hin with hin | hin
    · exact hinv.wf other found hin
    · cases List.mem_singleton.mp hin
      exact Session.start_wf proxy.hasLink
  ledger := by
    intro other
    have hledger := hinv.ledger other
    simp only [TcpProxySession.addSession, List.count_append, OrderedMap.mem_keys_insert]
    by_cases heq : other = proxy.sessionId
    · subst heq
      simp [hnew] at hledger ⊢
      omega
    · have hne : Change.inserted proxy.sessionId ≠ Change.inserted other := by
        intro h
        cases h
        exact heq rfl
      simp [heq, hne, hledger]

/-- The handler shuts down the session that the identifier stands for, or does nothing. -/
theorem Inv.onSessionErrorWith_cases (hinv : proxy.Inv) (id : UInt64) :
    (∃ object session, id ∈ proxy.sessions.keys ∧ proxy.objects[object]? = some (id, session) ∧
      session.Wf ∧ ∀ depth, onSessionErrorWith (depth + 1) id proxy =
        (proxy.erase id).setObject object id session.shutdown.1) ∨
    ∀ depth, onSessionErrorWith depth id proxy = proxy := by
  by_cases hkey : id ∈ proxy.sessions.keys
  · obtain ⟨object, hentry⟩ := OrderedMap.mem_keys.mp hkey
    obtain ⟨session, hobject⟩ := hinv.refers id object hentry
    have hwf := hinv.object_wf hobject
    exact .inl ⟨object, session, hkey, hobject, hwf, onSessionErrorWith_present hentry hobject hwf⟩
  · exact .inr (onSessionErrorWith_absent hkey)

theorem Inv.onSessionError (hinv : proxy.Inv) (id : UInt64) : (onSessionError id proxy).Inv := by
  rw [TcpProxySession.onSessionError]
  rcases hinv.onSessionErrorWith_cases id with
    ⟨object, session, hkey, hobject, hwf, heq⟩ | hsame
  · rw [heq]
    exact (hinv.erase hkey).setObject hobject (Session.shutdown_wf hwf)
  · rw [hsame]
    exact hinv

/-- Nested calls are never more than two deep. -/
theorem onSessionErrorWith_depth (hinv : proxy.Inv) (id : UInt64) (depth : Nat) :
    onSessionErrorWith (depth + 1) id proxy = onSessionError id proxy := by
  rw [onSessionError]
  rcases hinv.onSessionErrorWith_cases id with
    ⟨object, session, hkey, hobject, hwf, heq⟩ | hsame
  · rw [heq, heq]
  · rw [hsame, hsame]

/-! ## Evictions -/

/-- The session that a connection to a full table evicts has an open upper layer. -/
def oldestEstablished (proxy : TcpProxySession) : Bool :=
  match proxy.sessions.first? with
  | none => false
  | some (_, object) =>
      match proxy.objects[object]? with
      | none => false
      | some (_, session) => session.upperOpen

/-- The two results of an eviction. -/
theorem makeRoom_full (hinv : proxy.Inv)
    (hfull : proxy.sessions.size = proxy.maxSessions.toNat) :
    ∃ id object session, (id, object) ∈ proxy.sessions.entries ∧
      (∀ other ∈ proxy.sessions.keys, id ≤ other) ∧
      proxy.objects[object]? = some (id, session) ∧
      proxy.oldestEstablished = session.upperOpen ∧
      if session.upperOpen then proxy.makeRoom.undefined = true
      else proxy.makeRoom = (proxy.setObject object id session.shutdown.1).erase id := by
  have hpos := hinv.max_pos
  cases hfirst : proxy.sessions.first? with
  | none =>
      have hempty : proxy.sessions.size = 0 := by
        rw [OrderedMap.size, List.head?_eq_none_iff.mp hfirst]
        rfl
      omega
  | some entry =>
      obtain ⟨id, object⟩ := entry
      obtain ⟨hentry, hleast⟩ := OrderedMap.first?_least hfirst
      obtain ⟨session, hobject⟩ := hinv.refers id object hentry
      have hwf := hinv.object_wf hobject
      have hkey : id ∈ proxy.sessions.keys := OrderedMap.mem_keys.mpr ⟨object, hentry⟩
      have hest : proxy.oldestEstablished = session.upperOpen := by
        simp only [oldestEstablished, hfirst, hobject]
      refine ⟨id, object, session, hentry, hleast, hobject, hest, ?_⟩
      simp only [makeRoom, hfull, if_true, hfirst, shutdown_eq _ hobject hwf]
      split_ifs with hopen hstill hstill
      · -- the handler has removed the entry
        exfalso
        have hlt := (List.getElem?_eq_some_iff.mp hobject).1
        have hobject' : (proxy.setObject object id session.shutdown.1).objects[object]? =
            some (id, session.shutdown.1) := by simp [setObject, hlt]
        have hagain := @onSessionErrorWith_present (proxy.setObject object id session.shutdown.1)
          id object _ hentry hobject' (Session.shutdown_wf hwf) 1
        rw [onSessionError, hagain] at hstill
        exact not_mem_keys_erase _ id hstill
      · rfl
      · rfl
      · exact absurd hkey hstill

/-- The condition on connections: the next identifier is not in use, and no established session
is evicted. -/
def Evictable (proxy : TcpProxySession) : Event → Prop
  | .connect => proxy.sessionId ∉ proxy.sessions.keys ∧
      (proxy.sessions.size = proxy.maxSessions.toNat → proxy.oldestEstablished = false)
  | .session _ _ => True

instance (proxy : TcpProxySession) (event : Event) : Decidable (proxy.Evictable event) :=
  match event with
  | .connect => inferInstanceAs (Decidable (_ ∧ (_ → _)))
  | .session _ _ => isTrue trivial

/-- A connection that meets the condition removes nothing or the entry with the least
identifier, and adds an entry. -/
theorem onConnect_inv (hinv : proxy.Inv) (hevictable : proxy.Evictable .connect) :
    proxy.onConnect.Inv ∧
      (proxy.sessions.size = proxy.maxSessions.toNat → ∃ id ∈ proxy.sessions.keys,
        (∀ other ∈ proxy.sessions.keys, id ≤ other) ∧
        proxy.onConnect.changes = proxy.changes ++ [.removed id, .inserted proxy.sessionId]) := by
  obtain ⟨hnew, hestablished⟩ := hevictable
  by_cases hfull : proxy.sessions.size = proxy.maxSessions.toNat
  · obtain ⟨id, object, session, hentry, hleast, hobject, hest, hroom⟩ := makeRoom_full hinv hfull
    rw [if_neg (by simp [← hest, hestablished hfull])] at hroom
    have hkey : id ∈ proxy.sessions.keys := OrderedMap.mem_keys.mpr ⟨object, hentry⟩
    have hwf := Session.shutdown_wf (hinv.object_wf hobject)
    have hinv' := (hinv.setObject hobject hwf).erase hkey
    have hadd : proxy.onConnect =
        ((proxy.setObject object id session.shutdown.1).erase id).addSession := by
      simp only [onConnect, hroom, hinv'.defined, Bool.false_eq_true, if_false]
    have hsize := OrderedMap.size_erase hkey
    rw [hadd]
    refine ⟨hinv'.addSession ?_ ?_, fun _ => ⟨id, hkey, hleast, ?_⟩⟩
    · intro h
      exact hnew (OrderedMap.mem_keys_erase.mp h).1
    · show (proxy.sessions.erase id).size < proxy.maxSessions.toNat
      omega
    · simp [addSession, TcpProxySession.erase, setObject]
  · have hroom : proxy.makeRoom = proxy := if_neg hfull
    have hadd : proxy.onConnect = proxy.addSession := by
      simp only [onConnect, hroom, hinv.defined, Bool.false_eq_true, if_false]
    rw [hadd]
    exact ⟨hinv.addSession hnew (Nat.lt_of_le_of_ne hinv.size_le hfull), fun h => absurd h hfull⟩

theorem step_inv (proxy : TcpProxySession) (event : Event) (next : TcpProxySession)
    (hinv : proxy.Inv) (hevictable : proxy.Evictable event)
    (hstep : proxy.step event = some next) : next.Inv := by
  cases event with
  | connect =>
      simp only [step, hinv.defined, Bool.false_eq_true, if_false, Option.some.injEq] at hstep
      rw [← hstep]
      exact (onConnect_inv hinv hevictable).1
  | session object happening =>
      simp only [step] at hstep
      split at hstep
      · cases hstep
      rename_i id session hobject
      split_ifs at hstep with henabled
      cases hstep
      have hhandle := Session.handle_wf (hinv.object_wf hobject)
        ((Bool.and_eq_true_iff.mp henabled).2)
      have hset := hinv.setObject hobject hhandle
      simp only [onHappening]
      split_ifs
      · exact hset.onSessionError id
      · exact hset

/-! ## Runs -/

theorem shutdown_maxSessions {handler : UInt64 → TcpProxySession → TcpProxySession}
    (hhandler : ∀ id proxy, (handler id proxy).maxSessions = proxy.maxSessions) (object : Nat)
    (proxy : TcpProxySession) :
    (shutdown handler object proxy).maxSessions = proxy.maxSessions := by
  simp only [shutdown]
  split
  · rfl
  · split_ifs
    · rw [hhandler]
      rfl
    · rfl

theorem onSessionErrorWith_maxSessions (depth : Nat) (id : UInt64) (proxy : TcpProxySession) :
    (onSessionErrorWith depth id proxy).maxSessions = proxy.maxSessions := by
  induction depth generalizing id proxy with
  | zero => rfl
  | succ depth ih =>
      simp only [onSessionErrorWith]
      split
      · rfl
      · rw [shutdown_maxSessions ih]
        rfl

theorem makeRoom_maxSessions (proxy : TcpProxySession) :
    proxy.makeRoom.maxSessions = proxy.maxSessions := by
  simp only [makeRoom]
  split_ifs
  · split
    · rfl
    · split_ifs
      · exact shutdown_maxSessions (onSessionErrorWith_maxSessions 2) _ proxy
      · exact shutdown_maxSessions (onSessionErrorWith_maxSessions 2) _ proxy
  · rfl

theorem step_maxSessions {event : Event} {next : TcpProxySession}
    (hstep : proxy.step event = some next) : next.maxSessions = proxy.maxSessions := by
  cases event with
  | connect =>
      simp only [step] at hstep
      split_ifs at hstep
      cases hstep
      simp only [onConnect]
      split_ifs
      · exact makeRoom_maxSessions proxy
      · exact makeRoom_maxSessions proxy
  | session object happening =>
      simp only [step] at hstep
      split at hstep
      · cases hstep
      split_ifs at hstep
      cases hstep
      simp only [onHappening]
      split_ifs
      · exact onSessionErrorWith_maxSessions 2 _ _
      · rfl

/-- **The session table.**  In a run in which no connection evicts an established session or
finds its identifier in use: the map has at most as many entries as allowed; every entry was
removed once or is still there; and a connection to a full map removes the entry with the least
identifier.  The condition is exact: a connection to a full map that would evict an
established session erases an entry that is not there. -/
theorem table_sound {maxSessions : UInt16} {hasLink : Bool} {events : List Event}
    {proxy : TcpProxySession}
    (hrun : Runs.run step (create maxSessions hasLink) events = some proxy)
    (halong : Runs.Along step Evictable (create maxSessions hasLink) events) :
    proxy.undefined = false ∧
    proxy.maxSessions.toNat = max 1 maxSessions.toNat ∧
    proxy.sessions.size ≤ proxy.maxSessions.toNat ∧
    (∀ id, proxy.changes.count (.inserted id) =
      proxy.changes.count (.removed id) + if id ∈ proxy.sessions.keys then 1 else 0) ∧
    (proxy.sessions.size = proxy.maxSessions.toNat → proxy.Evictable .connect →
      ∃ id ∈ proxy.sessions.keys, (∀ other ∈ proxy.sessions.keys, id ≤ other) ∧
        proxy.onConnect.changes = proxy.changes ++ [.removed id, .inserted proxy.sessionId]) ∧
    (proxy.sessions.size = proxy.maxSessions.toNat →
      (proxy.onConnect.undefined = true ↔ proxy.oldestEstablished = true)) := by
  have hinv : proxy.Inv := Runs.run_invariant Inv step_inv hrun halong (create_inv _ _)
  have hlimit : proxy.maxSessions = (create maxSessions hasLink).maxSessions := by
    refine Runs.run_invariant
      (fun proxy => proxy.maxSessions = (create maxSessions hasLink).maxSessions) ?_ hrun halong rfl
    intro before event after hbefore _ hstep
    rw [step_maxSessions hstep, hbefore]
  refine ⟨hinv.defined, by rw [hlimit, create_maxSessions], hinv.size_le, hinv.ledger,
    fun hfull hevictable => (onConnect_inv hinv hevictable).2 hfull, fun hfull => ?_⟩
  obtain ⟨id, object, session, hentry, hleast, hobject, hest, hroom⟩ := makeRoom_full hinv hfull
  rw [hest]
  split_ifs at hroom with hopen
  · simp [onConnect, hroom, hopen]
  · simp [onConnect, hroom, hopen, TcpProxySession.erase, setObject, addSession, hinv.defined]

namespace OneSession

/-- A proxy with room for one session, after some events. -/
def after (events : List Event) : TcpProxySession :=
  (Runs.run step (create 1 true) events).getD (create 1 true)

theorem run_after {events : List Event}
    (hrun : (Runs.run step (create 1 true) events).isSome = true) :
    Runs.run step (create 1 true) events = some (after events) := by
  obtain ⟨proxy, hproxy⟩ := Option.isSome_iff_exists.mp hrun
  rw [after, hproxy]
  rfl

/-- An established session fails and is removed, and the next one is evicted before it is
established. -/
def evicting : List Event :=
  [.connect, .session 0 .opensUpper, .session 0 (.fails .lower .rx), .connect, .connect]

def evictingEstablished : List Event := [.connect, .session 0 .opensUpper, .connect]

end OneSession

open OneSession

/-- A session that is not established yet makes room for the next one. -/
theorem table_sound_eviction :
    Runs.run step (create 1 true) evicting = some (after evicting) ∧
      (after evicting).undefined = false ∧
      (after evicting).sessions.size ≤ (after evicting).maxSessions.toNat ∧
      (after evicting).changes =
        [.inserted 0, .removed 0, .inserted 1, .removed 1, .inserted 2] := by
  have hrun := @run_after evicting (by decide)
  obtain ⟨hdefined, -, hsize, -⟩ := @table_sound 1 true evicting (after evicting) hrun (by decide)
  exact ⟨hrun, hdefined, hsize, by decide⟩

/-- The shutdown of an established session removes its entry, and `erase` is called with an
iterator that designates nothing. -/
theorem table_eviction_undefined :
    Runs.run step (create 1 true) evictingEstablished = some (after evictingEstablished) ∧
      (after evictingEstablished).undefined = true ∧
      (after evictingEstablished).changes = [.inserted 0, .removed 0] :=
  ⟨run_after (by decide), by decide, by decide⟩

end TcpProxySession

end Ssp21.Proxy
