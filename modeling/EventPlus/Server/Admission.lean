/-
Module: EventPlus.Server.Admission
Purpose: `TcpServerSocket::handleIOEvent` as one call: which outcomes of its
  steps admit a client fully or leave no trace of it.
Trusted boundary: none
Main exports:
  AdmissionOutcome, AcceptOutcome, Server.handleIOEvent,
  handleIOEvent_moves, FullyAdmitted, Rejected, AllOrNothing,
  AcceptOutcome.Clean, allOrNothing_iff
-/
import Mathlib.Logic.Relation
import EventPlus.Server.Ownership

namespace EventPlus

open Function (update)

/-!
The accept thread takes `handleIOEvent` one access to shared state at a time.
Here the same lines are composed into the function of the source, and
`handleIOEvent_moves` says that the thread's steps with no other thread in
between compute it.  `setNonBlocking` is not among the steps: it returns
nothing, and sets a flag of the open file that nothing here reads.
-/

/-- Outcomes after `accept`: of `inet_ntop`, what the new store's `m_SSL`
happens to contain, the OpenSSL calls of `initConnection`, and whether
`epoll_ctl` is granted. -/
structure AdmissionOutcome where
  inetNtop : Bool
  ssl : SSLPointer
  handshake : Handshake
  epollCtl : Bool
deriving Repr, DecidableEq

/-- Outcomes of one call of `handleIOEvent`. -/
inductive AcceptOutcome where
  | failed (lost : Bool)
  | accepted (fd : Fd) (later : AdmissionOutcome)
deriving Repr, DecidableEq

namespace Server

/-- `EventScheduler::addSocket` and `SocketEventHandler::addSocket`. -/
def addSocket (config : Config) (server : Server) (store : ConnectionId)
    (granted : Bool) : Server :=
  match server.registerSocket config store granted with
  | some kernel =>
      ({ server with
          kernel := kernel
          currentIndex := server.nextIndex config
          registeredWith :=
            update server.registeredWith store
              (some (server.nextIndex config)) }).setBackPointer store
        (server.nextIndex config)
  | none => { server with currentIndex := server.nextIndex config }

/-- The lines of `handleIOEvent` after the store has been made. -/
def admitStore (config : Config) (server : Server) (store : ConnectionId)
    (later : AdmissionOutcome) : Server :=
  (((server.initConnection config store later.handshake).addSocket config
      store later.epollCtl).insertStore store).enqueueTask
    { eventStorePointer := store, origin := .accept }

/-- `TcpServerSocket::handleIOEvent`, where the kernel can answer `accept`
so. -/
def handleIOEvent (config : Config) (server : Server) :
    AcceptOutcome → Option Server
  | .failed lost =>
      some
        { server with
            kernel :=
              { server.kernel with
                  backlog :=
                    if lost then server.kernel.backlog - 1
                    else server.kernel.backlog } }
  | .accepted fd later =>
      match server.kernel.accept fd server.accepted with
      | none => none
      | some kernel =>
          if later.inetNtop then
            some
              ((server.makeStore kernel fd later.ssl).admitStore config
                server.accepted later)
          else
            some
              { server with
                  kernel := kernel
                  accepted := server.accepted + 1 }

end Server

/-- One poller and one worker, with the TLS handler. -/
def Config.singleTls : Config where
  handler := .tls
  numPollers := 1
  numPollers_pos := Nat.one_pos
  numWorkers := 1

/-- A client accepted under the number 4 whose handshake ends with the given
result. -/
def tlsClient (sslAccept : Int) : AcceptOutcome :=
  .accepted 4
    { inetNtop := true
      ssl := .indeterminate
      handshake := { certificate := true, sslAccept := sslAccept }
      epollCtl := true }

/-! ## The accept thread computes the call -/

def Server.setAccept (server : Server) (point : AcceptPoint) : Server :=
  { server with acceptThread := point }

/-- A step of the accept thread. -/
def AcceptMove (config : Config) (before after : Server) : Prop :=
  ∃ choice, (tcpServer config).step before (.accept choice) = some after

section Moves

variable (config : Config) (server : Server) (store : ConnectionId)

theorem initConnection_move (outcome : Handshake) :
    AcceptMove config
      (server.setAccept (.admitting .initConnection store))
      ((server.initConnection config store outcome).setAccept
        (.admitting .addSocket store)) := by
  refine ⟨.handshake outcome, ?_⟩
  simp only [tcpServer, step, acceptStep, Server.setAccept,
    Server.initConnection]
  split
  · rfl
  · rfl

/-- `addSocket` takes a step for `epoll_ctl` and, where it succeeds, one for
the back pointer. -/
theorem addSocket_moves (granted : Bool) :
    Relation.ReflTransGen (AcceptMove config)
      (server.setAccept (.admitting .addSocket store))
      ((server.addSocket config store granted).setAccept
        (.admitting .insert store)) := by
  cases attempt : server.registerSocket config store granted with
  | none =>
      refine .single ⟨.epollCtl granted, ?_⟩
      have same :
          (server.setAccept (.admitting .addSocket store)).registerSocket
            config store granted = none := attempt
      simp only [tcpServer, step, acceptStep, Server.setAccept,
        Server.addSocket, attempt] at same ⊢
      rw [same]
      rfl
  | some kernel =>
      have registered : AcceptMove config
          (server.setAccept (.admitting .addSocket store))
          ({ server with
              kernel := kernel
              currentIndex := server.nextIndex config
              registeredWith :=
                update server.registeredWith store
                  (some (server.nextIndex config)) }.setAccept
            (.admitting (.backPointer (server.nextIndex config)) store)) := by
        refine ⟨.epollCtl granted, ?_⟩
        have same :
            (server.setAccept (.admitting .addSocket store)).registerSocket
              config store granted = some kernel := attempt
        simp only [tcpServer, step, acceptStep, Server.setAccept] at same ⊢
        rw [same]
        rfl
      refine .tail (.single registered) ⟨.proceed, ?_⟩
      simp only [Server.addSocket, attempt]
      rfl

theorem insert_move :
    AcceptMove config (server.setAccept (.admitting .insert store))
      ((server.insertStore store).setAccept (.admitting .enqueue store)) :=
  ⟨.proceed, rfl⟩

theorem enqueue_move :
    AcceptMove config (server.setAccept (.admitting .enqueue store))
      ((server.enqueueTask
          { eventStorePointer := store, origin := .accept }).setAccept
        .unlock) :=
  ⟨.proceed, rfl⟩

theorem admitStore_moves (later : AdmissionOutcome) :
    Relation.ReflTransGen (AcceptMove config)
      (server.setAccept (.admitting .initConnection store))
      ((server.admitStore config store later).setAccept .unlock) := by
  have initialised := initConnection_move config server store later.handshake
  have added :=
    addSocket_moves config
      (server.initConnection config store later.handshake) store
      later.epollCtl
  have inserted :=
    insert_move config
      ((server.initConnection config store later.handshake).addSocket config
        store later.epollCtl) store
  have announced :=
    enqueue_move config
      (((server.initConnection config store later.handshake).addSocket config
        store later.epollCtl).insertStore store) store
  exact ((added.head initialised).tail inserted).tail announced

end Moves

/-- With no other thread in between, the accept thread's steps from its `accept`
to its release of the mutex are the call. -/
theorem handleIOEvent_moves {config : Config} {before after : Server}
    {outcome : AcceptOutcome} (at_point : before.acceptThread = .accept)
    (handled : before.handleIOEvent config outcome = some after) :
    Relation.ReflTransGen (AcceptMove config) before
      (after.setAccept .unlock) := by
  cases outcome with
  | failed lost =>
      cases handled
      refine .single ⟨.acceptFailed lost, ?_⟩
      simp only [tcpServer, step, acceptStep, at_point]
      rfl
  | accepted fd later =>
      simp only [Server.handleIOEvent] at handled
      split at handled
      · cases handled
      · rename_i kernel got
        split at handled
        · rename_i passed
          cases handled
          have made : AcceptMove config before
              ((before.makeStore kernel fd later.ssl).setAccept
                (.admitting .initConnection before.accepted)) := by
            refine ⟨.accepted fd true later.ssl, ?_⟩
            simp only [tcpServer, step, acceptStep, at_point, got]
            rfl
          exact (admitStore_moves config _ before.accepted later).head made
        · cases handled
          refine .single ⟨.accepted fd false later.ssl, ?_⟩
          simp only [tcpServer, step, acceptStep, at_point, got]
          rfl

/-! ## All or nothing -/

/-- The client of an accepted connection is fully admitted. -/
structure FullyAdmitted (config : Config) (before after : Server) (fd : Fd)
    (later : AdmissionOutcome) : Prop where
  initialised :
    (config.handler.initConnection later.ssl later.handshake).succeeded =
      true
  descriptor : after.kernel.file fd = some (.client before.accepted)
  registered : ∃ poller, poller < config.numPollers ∧
    ∀ other, before.accepted ∈ after.kernel.registered other ↔
      other = poller
  stored : after.find fd = some before.accepted
  announced :
    after.tasks =
      before.tasks ++
        [{ eventStorePointer := before.accepted, origin := .accept }]
  kind : (after.store before.accepted).eventType = .newConnection

/-- The call has left no trace: the map, the epoll sets and the queue are as
they were, and a number `accept` gave is closed again. -/
structure Rejected (before : Server) (outcome : AcceptOutcome)
    (after : Server) : Prop where
  stores : after.clientEventStores = before.clientEventStores
  registered : after.kernel.registered = before.kernel.registered
  tasks : after.tasks = before.tasks
  closed : ∀ fd later, outcome = .accepted fd later →
    after.kernel.file fd = none

def AllOrNothing (config : Config) (before : Server)
    (outcome : AcceptOutcome) (after : Server) : Prop :=
  (∃ fd later, outcome = .accepted fd later ∧
      FullyAdmitted config before after fd later) ∨
    Rejected before outcome after

/-- Outcomes on which no step fails after `accept` has succeeded: `inet_ntop`
works, the handler is the plain one or OpenSSL completes the handshake from a
field that was not null, and `epoll_ctl` is granted by a poller that is still
open. -/
def AcceptOutcome.Clean (config : Config) (server : Server) :
    AcceptOutcome → Prop
  | .failed _ => True
  | .accepted _ later =>
      later.inetNtop = true ∧
        (config.handler = .tls →
          later.ssl ≠ .null ∧ later.handshake.certificate = true ∧
            0 < later.handshake.sslAccept) ∧
          later.epollCtl = true ∧
            server.kernel.epollOpen (server.nextIndex config) = true

theorem initConnection_succeeded_iff (handler : Handler) (ssl : SSLPointer)
    (handshake : Handshake) :
    (handler.initConnection ssl handshake).succeeded = true ↔
      (handler = .tls →
        ssl ≠ .null ∧ handshake.certificate = true ∧
          0 < handshake.sslAccept) := by
  cases handler with
  | tcp => simp [Handler.initConnection, TCPServerSocketHandler.initConnection]
  | tls =>
      simp only [Handler.initConnection, forall_const]
      exact TLSServerSocketHandler.initConnection_succeeded_iff ssl handshake

namespace Server

/-! ### What the lines of the call do -/

variable {config : Config} {server : Server} {store : ConnectionId}

@[simp] theorem tasks_initConnection (handshake : Handshake) :
    (server.initConnection config store handshake).tasks =
      server.tasks := by
  obtain ⟨_, _, _, result⟩ :=
    server.initConnection_frame config store handshake
  rw [result]

@[simp] theorem tasks_addSocket (granted : Bool) :
    (server.addSocket config store granted).tasks = server.tasks := by
  unfold addSocket
  split
  · rfl
  · rfl

/-- Whatever happens on the way, the task is enqueued. -/
theorem tasks_admitStore (later : AdmissionOutcome) :
    (server.admitStore config store later).tasks =
      server.tasks ++
        [{ eventStorePointer := store, origin := .accept }] := by
  simp [admitStore, enqueueTask, insertStore, destroy]

@[simp] theorem fd_addSocket (granted : Bool) (other : ConnectionId) :
    (server.addSocket config store granted).fd other = server.fd other := by
  unfold addSocket
  split
  · exact fd_setBackPointer store other _
  · rfl

@[simp] theorem file_addSocket (granted : Bool) :
    (server.addSocket config store granted).kernel.file =
      server.kernel.file := by
  unfold addSocket
  split
  · rename_i kernel attempt
    unfold registerSocket at attempt
    split at attempt
    · obtain ⟨_, -, -, -, file, -, -⟩ := Kernel.epollCtlAdd_spec attempt
      exact file
    · cases attempt
  · rfl

@[simp] theorem eventType_addSocket (granted : Bool) (other : ConnectionId) :
    ((server.addSocket config store granted).store other).eventType =
      (server.store other).eventType := by
  unfold addSocket
  split
  · exact eventType_setBackPointer store other _
  · rfl

/-- A store in no epoll set is put into the next poller's one, or into none. -/
theorem registered_addSocket (granted : Bool)
    (denotes : server.kernel.file (server.fd store) = some (.client store))
    (fresh : ∀ poller, store ∉ server.kernel.registered poller)
    (poller : PollerId) :
    store ∈ (server.addSocket config store granted).kernel.registered
        poller ↔
      poller = server.nextIndex config ∧ granted = true ∧
        server.kernel.epollOpen (server.nextIndex config) = true := by
  cases granted with
  | false =>
      simp only [addSocket, registerSocket]
      simpa using fresh poller
  | true =>
      by_cases is_open :
          server.kernel.epollOpen (server.nextIndex config) = true
      · have others : poller ≠ server.nextIndex config →
            store ∉ update server.kernel.registered (server.nextIndex config)
              (server.kernel.registered (server.nextIndex config) ++ [store])
              poller := by
          intro different
          rw [Function.update_of_ne different]
          exact fresh poller
        simp only [addSocket, registerSocket, Kernel.epollCtlAdd, denotes,
          is_open, fresh, if_true, not_false_eq_true, setBackPointer,
          and_true]
        constructor
        · intro member
          by_contra different
          exact others different member
        · rintro rfl
          simp
      · have refused : server.kernel.epollCtlAdd (server.nextIndex config)
            (server.fd store) = none := by
          simp [Kernel.epollCtlAdd, denotes, is_open]
        simp only [addSocket, registerSocket, if_true, refused]
        simp [is_open, fresh]

/-! ### After a set-up that succeeded -/

section Initialised

variable {later : AdmissionOutcome}
  (succeeded :
    (config.handler.initConnection (server.store store).ssl
      later.handshake).succeeded = true)

include succeeded

/-- The set-up has left the number open. -/
theorem admitStore_of_succeeded :
    ∃ ssl,
      server.admitStore config store later =
        (((server.setSSL store ssl).addSocket config store
            later.epollCtl).insertStore store).enqueueTask
          { eventStorePointer := store, origin := .accept } := by
  refine ⟨(config.handler.initConnection (server.store store).ssl
    later.handshake).ssl, ?_⟩
  simp only [admitStore, initConnection,
    Handler.initConnection_closes_of_succeeded succeeded]
  rfl

theorem file_admitStore :
    (server.admitStore config store later).kernel.file =
      server.kernel.file := by
  obtain ⟨ssl, result⟩ := admitStore_of_succeeded succeeded
  rw [result]
  exact file_addSocket later.epollCtl

theorem find_admitStore :
    (server.admitStore config store later).find (server.fd store) =
      some store := by
  obtain ⟨ssl, result⟩ := admitStore_of_succeeded succeeded
  rw [result]
  refine (find_insertStore store (server.fd store)).trans ?_
  rw [fd_addSocket, fd_setSSL, if_pos rfl]

theorem eventType_admitStore :
    ((server.admitStore config store later).store store).eventType =
      (server.store store).eventType := by
  obtain ⟨ssl, result⟩ := admitStore_of_succeeded succeeded
  rw [result]
  exact (eventType_addSocket later.epollCtl store).trans
    (eventType_setSSL store store ssl)

theorem registered_admitStore
    (denotes : server.kernel.file (server.fd store) = some (.client store))
    (fresh : ∀ poller, store ∉ server.kernel.registered poller)
    (poller : PollerId) :
    store ∈ (server.admitStore config store later).kernel.registered
        poller ↔
      poller = server.nextIndex config ∧ later.epollCtl = true ∧
        server.kernel.epollOpen (server.nextIndex config) = true := by
  obtain ⟨ssl, result⟩ := admitStore_of_succeeded succeeded
  rw [result]
  have same_denotes : (server.setSSL store ssl).kernel.file
      ((server.setSSL store ssl).fd store) = some (.client store) := by
    rw [fd_setSSL]
    exact denotes
  exact registered_addSocket later.epollCtl same_denotes fresh poller

end Initialised

end Server

/-! ### Exactly the clean outcomes -/

/-- A made store is fully admitted exactly if the set-up succeeds and the next
poller's epoll set takes it. -/
theorem fullyAdmitted_iff {config : Config} {before : Server}
    {kernel : Kernel} {fd : Fd} {later : AdmissionOutcome}
    (owned : Ownership before)
    (got : before.kernel.accept fd before.accepted = some kernel) :
    FullyAdmitted config before
        ((before.makeStore kernel fd later.ssl).admitStore config
          before.accepted later) fd later ↔
      (config.handler.initConnection later.ssl later.handshake).succeeded =
          true ∧
        later.epollCtl = true ∧
          before.kernel.epollOpen (before.nextIndex config) = true := by
  obtain ⟨-, kernel_eq⟩ := Kernel.accept_spec got
  have fresh : ∀ poller, before.accepted ∉ kernel.registered poller := by
    rw [kernel_eq]
    intro poller member
    exact absurd
      (owned.with_lt poller _ (owned.registered_with poller _ member))
      (Nat.lt_irrefl _)
  have same_open : kernel.epollOpen = before.kernel.epollOpen := by
    rw [kernel_eq]
  have number : (before.makeStore kernel fd later.ssl).fd before.accepted =
      fd := Server.fd_makeStore_self kernel fd later.ssl
  have denotes : kernel.file fd = some (.client before.accepted) := by
    simp [kernel_eq]
  have field : ((before.makeStore kernel fd later.ssl).store
      before.accepted).ssl = later.ssl := by
    simp [Server.makeStore]
  have exactly (succeeded : (config.handler.initConnection
      ((before.makeStore kernel fd later.ssl).store before.accepted).ssl
        later.handshake).succeeded = true) :=
    Server.registered_admitStore succeeded (by rw [number]; exact denotes)
      fresh
  rw [field] at exactly
  constructor
  · intro admitted
    refine ⟨admitted.initialised, ?_⟩
    obtain ⟨poller, -, only⟩ := admitted.registered
    have taken := (exactly admitted.initialised poller).mp
      ((only poller).mpr rfl)
    rw [← same_open]
    exact taken.2
  · rintro ⟨succeeded, granted, is_open⟩
    rw [← field] at succeeded
    refine
      { initialised := field ▸ succeeded
        descriptor := ?_
        registered := ?_
        stored := ?_
        announced := Server.tasks_admitStore later
        kind := ?_ }
    · rw [Server.file_admitStore succeeded]
      exact denotes
    · refine ⟨before.nextIndex config,
        Nat.mod_lt _ config.numPollers_pos, ?_⟩
      intro other
      refine (exactly (field ▸ succeeded) other).trans ?_
      constructor
      · exact And.left
      · intro same
        refine ⟨same, granted, ?_⟩
        change kernel.epollOpen (before.nextIndex config) = true
        rw [same_open]
        exact is_open
    · have found := Server.find_admitStore succeeded
      rw [number] at found
      exact found
    · rw [Server.eventType_admitStore succeeded]
      simp [Server.makeStore]

/-- A call is all or nothing exactly on the clean outcomes. -/
theorem allOrNothing_iff {config : Config} {before after : Server}
    {outcome : AcceptOutcome}
    (reachable : (tcpServer config).Reachable before)
    (handled : before.handleIOEvent config outcome = some after) :
    AllOrNothing config before outcome after ↔
      outcome.Clean config before := by
  cases outcome with
  | failed lost =>
      cases handled
      refine iff_of_true (.inr ?_) trivial
      exact ⟨rfl, rfl, rfl, by simp⟩
  | accepted fd later =>
      simp only [Server.handleIOEvent] at handled
      split at handled
      · cases handled
      · rename_i kernel got
        obtain ⟨unused, kernel_eq⟩ := Kernel.accept_spec got
        split at handled
        · rename_i passed
          cases handled
          have announced : ¬ Rejected before (.accepted fd later)
              ((before.makeStore kernel fd later.ssl).admitStore config
                before.accepted later) := by
            intro rejected
            have tasks := rejected.tasks
            rw [Server.tasks_admitStore] at tasks
            simp [Server.makeStore] at tasks
          have full : FullyAdmitted config before _ fd later ↔ _ :=
            fullyAdmitted_iff (ownership_of_reachable reachable) got
          rw [initConnection_succeeded_iff] at full
          constructor
          · rintro (⟨_, _, ⟨⟩, admitted⟩ | rejected)
            · exact ⟨passed, full.mp admitted⟩
            · exact absurd rejected announced
          · rintro ⟨-, clean⟩
            exact .inl ⟨fd, later, rfl, full.mpr clean⟩
        · rename_i failed
          cases handled
          refine iff_of_false ?_ fun clean => failed clean.1
          rintro (⟨_, _, ⟨⟩, admitted⟩ | rejected)
          · have tasks := admitted.announced
            simp at tasks
          · have leaked := rejected.closed fd later rfl
            rw [kernel_eq] at leaked
            simp at leaked

/-- A client of the TLS server completes its handshake and is fully
admitted. -/
theorem allOrNothing_iff_handshake :
    ∃ before after : Server,
      (tcpServer .singleTls).Reachable before ∧
        before.handleIOEvent .singleTls (tlsClient 1) = some after ∧
          AllOrNothing .singleTls before (tlsClient 1) after := by
  obtain ⟨before, reachable, handled, is_open⟩ :=
    exists_server_of_replay .singleTls (fun _ _ => True)
      (fun before =>
        (before.handleIOEvent .singleTls (tlsClient 1)).isSome = true ∧
          before.kernel.epollOpen (before.nextIndex .singleTls) = true)
      (.connect :: reachAccept) (by decide)
  obtain ⟨after, handled⟩ := Option.isSome_iff_exists.mp handled
  refine ⟨before, after, reachable, handled,
    (allOrNothing_iff reachable handled).mpr ?_⟩
  exact ⟨rfl, fun _ => ⟨by decide, rfl, by decide⟩, rfl, is_open⟩

/-- A client whose TLS handshake fails has its number closed, and is stored and
announced all the same. -/
theorem announced_without_handshake :
    ¬ ∀ before after outcome, (tcpServer .singleTls).Reachable before →
      before.handleIOEvent .singleTls outcome = some after →
        AllOrNothing .singleTls before outcome after := by
  intro always
  obtain ⟨before, reachable, handled⟩ :=
    exists_server_of_replay .singleTls (fun _ _ => True)
      (fun before =>
        (before.handleIOEvent .singleTls (tlsClient (-1))).any
          (fun after =>
            after.find 4 = some 0 ∧ after.kernel.file 4 = none ∧
              after.tasks.length = before.tasks.length + 1) = true)
      (.connect :: reachAccept) (by decide)
  obtain ⟨after, handled, seen⟩ := (Option.any_eq_true _ _).mp handled
  obtain ⟨-, closed, announced⟩ := of_decide_eq_true seen
  rcases always before after _ reachable handled with
    ⟨_, _, ⟨⟩, admitted⟩ | rejected
  · cases admitted.initialised
  · rw [rejected.tasks] at announced
    omega

end EventPlus
