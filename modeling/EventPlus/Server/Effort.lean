/-
Module: EventPlus.Server.Effort
Purpose: What the server's threads have left to do, as a number that every step
  of their own makes smaller.
Trusted boundary: none
Main exports:
  Server.InSSLAccept, working, AcceptPoint.work, PollerPoint.work,
  WorkerPoint.work, StopPoint.work, Server.sizing, Server.effort,
  variant_smaller
-/
import EventPlus.Library.Workload
import EventPlus.Server.Ownership
import EventPlus.Server.Stopping
import EventPlus.Server.WorkerCalls

namespace EventPlus

open Function (update)

/-!
A step counts as work unless it depends on something from outside: arrivals,
waits in `epoll_wait` that end without an event, new requests of a callback,
new calls of `stopPolling`, and the return of an `SSL_accept`, which waits on a
blocking socket for as long as its client likes.  What does count is taken to
come in the end: a callback that makes no request returns, a call into OpenSSL
on a non-blocking socket returns, system calls are not interrupted for ever,
and `epoll_wait` reports sockets with an edge.
-/

/-- The accept thread is in the `SSL_accept` of `initConnection`.  A null
`m_SSL` makes the TLS handler return before it. -/
def Server.InSSLAccept (config : Config) (server : Server) : Prop :=
  config.handler = .tls ∧
    ∃ store, server.acceptThread = .admitting .initConnection store ∧
      (server.store store).ssl ≠ .null

/-- The steps the server takes on its own.  The return of an `SSL_accept` that
waits for its client is none of them. -/
def working (config : Config) (server : Server) : Action → Prop
  | .connect | .segment _ _ | .hangUp _ _ => False
  | .accept .timeout => False
  | .accept (.handshake _) => ¬server.InSSLAccept config
  | .accept _ => True
  | .poller _ .timeout => False
  | .poller _ (.report reported) =>
      ∀ connection ∈ reported,
        (server.kernel.socket connection).edge = true
  | .poller _ .proceed => True
  | .worker _ (.call _) | .worker _ (.sslSyscall _ _) | .worker _ .close =>
      False
  | .worker _ (.syscall result) => result ≠ .error .EINTR
  | .worker _ _ => True
  | .stop => server.stopThread ≠ .idle ∧ server.stopThread ≠ .returned

/-! ## Weights of the program points -/

def AcceptPoint.work : AcceptPoint → Nat
  | .epollWait | .exited => 0
  | .loop => 1
  | .unlock => 2
  | .admitting .enqueue _ => 6
  | .admitting .insert _ => 8
  | .admitting (.backPointer _) _ => 9
  | .admitting .addSocket _ => 24
  | .admitting .initConnection _ => 25
  | .accept => 26
  | .lock => 27
  | .handleEvent => 28

def PollerStage.work : PollerStage → Nat
  | .unlock => 1
  | .erase => 2
  | .dispatch => 4
  | .handleEvent => 5
  | .enqueue => 6
  | .closeConnection => 7
  | .epollDel => 8
  | .setClosed => 9
  | .removeSocket => 10

def PollerPoint.work : PollerPoint → Nat
  | .epollWait | .exited => 0
  | .loop => 1
  | .batch rest => 2 + 11 * rest.length
  | .busy stage _ rest => stage.work + 2 + 11 * rest.length

/-- The iterations a handler call has left at most, apart from a `receiveData`
that does not know its size yet. -/
def Call.work : Call → Nat
  | .sending data totalSent => 1 + (data.length - totalSent)
  | .reading dataSize buffer => 1 + (dataSize - buffer.length)
  | .querying => 1
  | _ => 0

def WorkerPoint.work : WorkerPoint → Nat
  | .idle => 0
  | .callback _ none => 1
  | .taken _ => 2
  | .callback _ (some call) => 2 + call.work

/-- A `receiveData` before its `FIONREAD`. -/
def WorkerPoint.sizing : WorkerPoint → Nat
  | .callback _ (some .sizing) => 1
  | _ => 0

/-- What `stopPolling` has left, with `owned` entries in `clientEventStores`. -/
def StopPoint.work (numPollers owned : Nat) : StopPoint → Nat
  | .idle | .returned => 0
  | .unlock => 1
  | .closing rest => 2 + rest.length
  | .lockAll => 3 + owned
  | .stopPoller poller => 4 + 2 * (numPollers - poller) + owned
  | .closePollerEpoll poller => 5 + 2 * (numPollers - (poller + 1)) + owned
  | .closeAcceptEpoll => 5 + 2 * numPollers + owned
  | .stopAccepting => 6 + 2 * numPollers + owned
  | .closeListening => 7 + 2 * numPollers + owned
  | .deleteListening => 8 + 2 * numPollers + owned
  | .checkServerSocket => 9 + 2 * numPollers + owned

/-- An entry of the map is one store to close. -/
theorem StopPoint.work_le {numPollers owned fewer more : Nat}
    (point : StopPoint) (le : owned ≤ fewer + more) :
    point.work numPollers owned ≤ point.work numPollers fewer + more := by
  cases point <;> simp only [work] <;> omega

/-! ## The sums -/

namespace Server

variable (config : Config) (server : Server)

/-- Edges of watched sockets that no `epoll_wait` has reported. -/
def edges : Nat :=
  workload (List.range config.numPollers)
    (fun watched : List ConnectionId =>
      watched.countP fun connection =>
        (server.kernel.socket connection).edge)
    server.kernel.watched

/-- The weight of a connection request the accept thread has not been told
about. -/
def listenWork : Nat := if server.kernel.listenEdge then 29 else 0

def pollerWork : Nat :=
  workload (List.range config.numPollers) PollerPoint.work server.pollerThread

def workerWork : Nat :=
  workload (List.range config.numWorkers) WorkerPoint.work server.workerThread

def stopWork : Nat :=
  server.stopThread.work config.numPollers
    server.clientEventStores.entries.length

/-- The workers that have yet to learn how much they are to read. -/
def sizing : Nat :=
  workload (List.range config.numWorkers) WorkerPoint.sizing
    server.workerThread

/-- What is left to do, apart from sizes that are not known. -/
def effort : Nat :=
  server.acceptThread.work + server.listenWork + server.pollerWork config +
    server.workerWork config + 3 * server.tasks.length +
    server.stopWork config + 14 * server.edges config

/-- What working steps make smaller, in lexicographic order. -/
def variant : Nat × Nat := (server.sizing config, server.effort config)

end Server

/-- The lexicographic order of the variants. -/
def smaller : Nat × Nat → Nat × Nat → Prop :=
  Prod.Lex (· < ·) (· < ·)

theorem wellFounded_smaller : WellFounded smaller :=
  (Prod.lex Nat.lt_wfRel Nat.lt_wfRel).wf

theorem smaller_of_effort {config : Config} {before after : Server}
    (sizing : after.sizing config = before.sizing config)
    (less : after.effort config < before.effort config) :
    smaller (after.variant config) (before.variant config) := by
  unfold Server.variant
  rw [sizing]
  exact .right _ less

/-! ## The kernel's share -/

/-- No socket gets an edge and no new one is watched. -/
structure Kernel.Idles (before after : Kernel) : Prop where
  edge : ∀ connection, (after.socket connection).edge = true →
    (before.socket connection).edge = true
  watched : ∀ poller,
    (after.watched poller).Sublist (before.watched poller)
  listenEdge : after.listenEdge = true → before.listenEdge = true

namespace Kernel

variable {before after : Kernel}

theorem Idles.refl (kernel : Kernel) : kernel.Idles kernel where
  edge := fun _ => id
  watched := fun _ => .refl _
  listenEdge := id

theorem idles_close (kernel : Kernel) (fd : Fd) :
    kernel.Idles (kernel.close fd) := by
  constructor
  · rw [close_socket]
    exact fun _ => id
  · intro poller
    unfold close
    split
    · exact .refl _
    · exact .refl _
    · exact List.filter_sublist.append List.filter_sublist
    · exact .refl _
  · unfold close
    split
    · exact id
    · intro edge
      cases edge
    · exact id
    · exact id

theorem idles_epollCtlDel (kernel : Kernel) (poller : PollerId) (fd : Fd) :
    kernel.Idles (kernel.epollCtlDel poller fd) := by
  constructor
  · rw [epollCtlDel_socket]
    exact fun _ => id
  · intro other
    unfold epollCtlDel watched
    split
    · apply List.Sublist.append_right
      by_cases same : other = poller
      · subst same
        simp
      · simp [Function.update_of_ne same]
    · exact .refl _
  · unfold epollCtlDel
    split <;> exact id

theorem idles_closeEpoll (kernel : Kernel) (poller : PollerId)
    (waiting : Bool) : kernel.Idles (kernel.closeEpoll poller waiting) where
  edge := fun _ => id
  watched := by
    intro other
    by_cases same : other = poller
    · subst same
      cases waiting <;> simp [closeEpoll, watched]
    · simp [closeEpoll, watched, Function.update_of_ne same]
  listenEdge := id

/-- A call that has returned is watched for nothing of a closed set. -/
theorem watched_sublist_of_returned {poller : PollerId}
    (registered : after.registered = before.registered)
    (returned : after.inFlight = update before.inFlight poller [])
    (other : PollerId) :
    (after.watched other).Sublist (before.watched other) := by
  unfold watched
  rw [registered, returned]
  apply List.Sublist.append_left
  by_cases same : other = poller
  · simp [same]
  · simp [Function.update_of_ne same]

theorem idles_accept {fd : Fd} {connection : ConnectionId}
    (got : before.accept fd connection = some after) :
    before.Idles after := by
  obtain ⟨-, rfl⟩ := accept_spec got
  exact ⟨fun _ => id, fun _ => .refl _, id⟩

theorem idles_transfer {fd : Fd} {syscall : Syscall} {result : SysResult}
    (transferred : before.transfer fd syscall result = some after) :
    before.Idles after := by
  rcases transfer_spec transferred with rfl | ⟨connection, count, -, rfl⟩
  · exact .refl _
  · refine ⟨?_, fun _ => .refl _, id⟩
    intro other
    by_cases same : other = connection
    · subst same
      simp [consume]
    · simp [consume, Function.update_of_ne same]

/-- A result the kernel gives is one the system call can have. -/
theorem admits_of_transfer {fd : Fd} {syscall : Syscall}
    {result : SysResult}
    (transferred : before.transfer fd syscall result = some after) :
    syscall.admits result = true := by
  unfold transfer at transferred
  split at transferred
  · cases syscall <;> rfl
  · cases transferred
  · split at transferred
    · rename_i guard
      exact guard.1
    · cases transferred
  · split at transferred
    · assumption
    · cases transferred

/-- What is reported, and what that leaves. -/
theorem edge_report {kernel next : Kernel} {poller : PollerId}
    {reported : List ConnectionId} {entries : List EpollEvent}
    (waited : kernel.epollWait poller reported = some (entries, next))
    (connection : ConnectionId) :
    (next.socket connection).edge =
      (!decide (connection ∈ reported) &&
        (kernel.socket connection).edge) := by
  unfold epollWait at waited
  split at waited
  · cases waited
    dsimp only
    split
    · rename_i told
      simp [told]
    · rename_i untold
      simp [untold]
  · cases waited

end Kernel

namespace Server

variable {config : Config} {before after : Server}

theorem idles_closeConnection (config : Config) (server : Server)
    (store : ConnectionId) :
    server.kernel.Idles (server.closeConnection config store).kernel := by
  rcases server.closeConnection_cases config store with
    result | result | result
  · rw [result]
    exact .refl _
  · rw [result]
    exact Kernel.idles_close _ _
  · rw [result]
    exact Kernel.idles_close _ _

theorem edges_le (idles : before.kernel.Idles after.kernel) :
    after.edges config ≤ before.edges config := by
  apply Workload.le
  intro poller _
  calc
    _ ≤ (before.kernel.watched poller).countP fun connection =>
          (after.kernel.socket connection).edge :=
        (idles.watched poller).countP_le
    _ ≤ _ := List.countP_mono_left fun connection _ edge =>
        idles.edge connection edge

theorem listenWork_le (idles : before.kernel.Idles after.kernel) :
    after.listenWork ≤ before.listenWork := by
  unfold listenWork
  split
  · rename_i edge
    rw [if_pos (idles.listenEdge edge)]
  · exact Nat.zero_le _

/-- The edges that `epoll_wait` reports are gone. -/
theorem countP_reported {sockets : ConnectionId → Bool}
    {watched reported : List ConnectionId} (distinct : reported.Nodup)
    (subset : ∀ connection ∈ reported, connection ∈ watched)
    (pending : ∀ connection ∈ reported, sockets connection = true) :
    (watched.countP fun connection =>
        !decide (connection ∈ reported) && sockets connection) +
        reported.length ≤
      watched.countP sockets := by
  rw [watched.countP_eq_countP_filter_add sockets
    fun connection => decide (connection ∈ reported)]
  have told : reported.length ≤
      (watched.filter fun connection =>
        decide (connection ∈ reported)).countP sockets := by
    rw [List.countP_eq_length.mpr]
    · apply List.Subperm.length_le
      apply List.subperm_of_subset distinct
      intro connection member
      rw [List.mem_filter]
      exact ⟨subset connection member, decide_eq_true member⟩
    · intro connection member
      rw [List.mem_filter] at member
      exact pending connection (of_decide_eq_true member.2)
  have untold : ((watched.filter fun connection =>
        !decide (connection ∈ reported)).countP sockets) =
      watched.countP fun connection =>
        !decide (connection ∈ reported) && sockets connection := by
    rw [List.countP_filter]
    apply List.countP_congr
    intro connection _
    rw [Bool.and_comm]
  omega

theorem edges_report {poller : PollerId} (bound : poller < config.numPollers)
    {reported : List ConnectionId} {entries : List EpollEvent}
    {kernel : Kernel}
    (pending : ∀ connection ∈ reported,
      (before.kernel.socket connection).edge = true)
    (waited : before.kernel.epollWait poller reported =
      some (entries, kernel))
    (after_eq : after.kernel = kernel) :
    after.edges config + reported.length ≤ before.edges config + 0 := by
  obtain ⟨-, distinct, subset, -, sets, flight, -⟩ :=
    Kernel.epollWait_spec waited
  have fewer := Kernel.watched_sublist_of_returned sets flight
  have cleared := Kernel.edge_report waited
  unfold edges
  rw [after_eq]
  apply Workload.exchange List.nodup_range (List.mem_range.mpr bound)
  · refine Nat.le_trans
      (Nat.add_le_add_right (fewer poller).countP_le _) ?_
    simp only [cleared, Nat.add_zero]
    exact countP_reported distinct subset pending
  · intro other _ _
    refine Nat.le_trans (fewer other).countP_le ?_
    apply List.countP_mono_left
    intro connection _ edge
    rw [cleared, Bool.and_eq_true] at edge
    exact edge.2

/-- A registration adds one socket, which may have an edge. -/
theorem edges_registered {poller : PollerId}
    (bound : poller < config.numPollers) {fd : Fd} {kernel : Kernel}
    (added : before.kernel.epollCtlAdd poller fd = some kernel)
    (unwatched : ∀ connection,
      before.kernel.file fd = some (.client connection) →
        ∀ other, connection ∉ before.kernel.watched other)
    (after_eq : after.kernel = kernel) :
    after.edges config + 0 ≤ before.edges config + 1 := by
  unfold Kernel.epollCtlAdd at added
  split at added
  · rename_i connection denotes
    have absent := unwatched connection denotes
    split at added
    · cases added
      unfold edges
      rw [after_eq]
      have same : ∀ other, other ∉ [connection] →
          (update before.kernel.socket connection
            { before.kernel.socket connection with
                edge :=
                  (before.kernel.socket connection).edge ||
                    (before.kernel.event connection).epollIn } other) =
            before.kernel.socket other := by
        intro other different
        exact Function.update_of_ne (by simpa using different) _ _
      have others : ∀ watched : List ConnectionId,
          connection ∉ watched →
            (watched.countP fun other =>
              (update before.kernel.socket connection
                { before.kernel.socket connection with
                    edge :=
                      (before.kernel.socket connection).edge ||
                        (before.kernel.event connection).epollIn }
                other).edge) =
              watched.countP fun other =>
                (before.kernel.socket other).edge := by
        intro watched outside
        apply List.countP_congr
        intro other member
        rw [same]
        rw [List.mem_singleton]
        rintro rfl
        exact outside member
      apply Workload.exchange List.nodup_range (List.mem_range.mpr bound)
      · have before_count := others _ (absent poller)
        simp only [Kernel.watched, Function.update_self, List.countP_append]
          at before_count ⊢
        rw [Nat.add_zero, Nat.add_right_comm, before_count]
        exact Nat.add_le_add_left List.countP_le_length _
      · intro other _ different
        simp only [Kernel.watched, Function.update_of_ne different]
        exact Nat.le_of_eq (others _ (absent other))
    · cases added
  · cases added

/-! ## The threads' shares -/

theorem pollerWork_move {poller : PollerId}
    (bound : poller < config.numPollers) {point : PollerPoint}
    {done more : Nat}
    (here : point.work + done ≤ (before.pollerThread poller).work + more)
    (moved : after.pollerThread =
      update before.pollerThread poller point) :
    after.pollerWork config + done ≤ before.pollerWork config + more := by
  unfold pollerWork
  rw [moved]
  exact Workload.move List.nodup_range (List.mem_range.mpr bound) here

theorem workerWork_move {worker : WorkerId}
    (bound : worker < config.numWorkers) {point : WorkerPoint}
    {done more : Nat}
    (here : point.work + done ≤ (before.workerThread worker).work + more)
    (moved : after.workerThread =
      update before.workerThread worker point) :
    after.workerWork config + done ≤ before.workerWork config + more := by
  unfold workerWork
  rw [moved]
  exact Workload.move List.nodup_range (List.mem_range.mpr bound) here

theorem sizing_move {worker : WorkerId}
    (bound : worker < config.numWorkers) {point : WorkerPoint}
    {done more : Nat}
    (here : point.sizing + done ≤ (before.workerThread worker).sizing + more)
    (moved : after.workerThread =
      update before.workerThread worker point) :
    after.sizing config + done ≤ before.sizing config + more := by
  unfold sizing
  rw [moved]
  exact Workload.move List.nodup_range (List.mem_range.mpr bound) here

/-- The entries of the map change by one at most. -/
theorem stopWork_le {more : Nat} (same : after.stopThread = before.stopThread)
    (entries : after.clientEventStores.entries.length ≤
      before.clientEventStores.entries.length + more) :
    after.stopWork config ≤ before.stopWork config + more := by
  unfold stopWork
  rw [same]
  exact before.stopThread.work_le entries

theorem length_insertStore (server : Server) (store : ConnectionId) :
    (server.insertStore store).clientEventStores.entries.length ≤
      server.clientEventStores.entries.length + 1 := by
  change (AList.insert _ _ _).entries.length ≤ _
  rw [AList.entries_insert, List.length_cons]
  exact Nat.succ_le_succ (List.kerase_sublist _ _).length_le

theorem length_eraseStore (server : Server) (store : ConnectionId) :
    (server.eraseStore store).clientEventStores.entries.length ≤
      server.clientEventStores.entries.length :=
  (List.kerase_sublist _ _).length_le

/-- The accept thread moves, with `queued` new tasks, `entered` new entries of
the map, `announced` new edges, and `told` taken off the listening socket's. -/
theorem smaller_of_accept (queued entered announced told : Nat)
    {old point : AcceptPoint} (at_point : before.acceptThread = old)
    (moved : after.acceptThread = point)
    (pollers : after.pollerThread = before.pollerThread)
    (workers : after.workerThread = before.workerThread)
    (stop : after.stopThread = before.stopThread)
    (tasks : after.tasks.length ≤ before.tasks.length + queued)
    (entries : after.clientEventStores.entries.length ≤
      before.clientEventStores.entries.length + entered)
    (edges : after.edges config ≤ before.edges config + announced)
    (listens : after.listenWork + told ≤ before.listenWork)
    (less : point.work + 3 * queued + entered + 14 * announced <
      old.work + told) :
    smaller (after.variant config) (before.variant config) := by
  have stops : after.stopWork config ≤ before.stopWork config + entered :=
    stopWork_le stop entries
  apply smaller_of_effort
  · rw [sizing, workers, sizing]
  · unfold effort
    rw [at_point, moved, pollerWork, workerWork, pollers, workers,
      ← workerWork, ← pollerWork]
    omega

/-- One poller moves, with `queued` new tasks and `told` edges reported. -/
theorem smaller_of_poller (queued told : Nat) {poller : PollerId}
    (bound : poller < config.numPollers) {old point : PollerPoint}
    (at_point : before.pollerThread poller = old)
    (moved : after.pollerThread = update before.pollerThread poller point)
    (workers : after.workerThread = before.workerThread)
    (accept : after.acceptThread = before.acceptThread)
    (stop : after.stopThread = before.stopThread)
    (tasks : after.tasks.length ≤ before.tasks.length + queued)
    (entries : after.clientEventStores.entries.length ≤
      before.clientEventStores.entries.length)
    (edges : after.edges config + told ≤ before.edges config)
    (listens : after.listenWork ≤ before.listenWork)
    (less : point.work + 3 * queued < old.work + 14 * told) :
    smaller (after.variant config) (before.variant config) := by
  have pollers : after.pollerWork config + old.work ≤
      before.pollerWork config + point.work := by
    rw [← at_point]
    exact pollerWork_move bound (Nat.le_of_eq (Nat.add_comm _ _)) moved
  have stops : after.stopWork config ≤ before.stopWork config + 0 :=
    stopWork_le stop entries
  apply smaller_of_effort
  · rw [sizing, workers, sizing]
  · unfold effort
    rw [accept, workerWork, workers, ← workerWork]
    omega

/-- The stopping thread moves. -/
theorem smaller_of_stop (pollers : after.pollerThread = before.pollerThread)
    (workers : after.workerThread = before.workerThread)
    (accept : after.acceptThread = before.acceptThread)
    (tasks : after.tasks = before.tasks)
    (idles : before.kernel.Idles after.kernel)
    (less : after.stopWork config < before.stopWork config) :
    smaller (after.variant config) (before.variant config) := by
  have edges : after.edges config ≤ before.edges config := edges_le idles
  have listens := listenWork_le idles
  apply smaller_of_effort
  · rw [sizing, workers, sizing]
  · unfold effort
    rw [accept, tasks, pollerWork, workerWork, pollers, workers,
      ← workerWork, ← pollerWork]
    omega

/-- One worker moves, and nothing gets longer but what it holds. -/
theorem smaller_of_worker {worker : WorkerId}
    (bound : worker < config.numWorkers) {old point : WorkerPoint}
    (at_point : before.workerThread worker = old)
    (moved : after.workerThread = update before.workerThread worker point)
    (pollers : after.pollerThread = before.pollerThread)
    (accept : after.acceptThread = before.acceptThread)
    (stop : after.stopThread = before.stopThread)
    (map : after.clientEventStores = before.clientEventStores)
    (idles : before.kernel.Idles after.kernel)
    (less : point.sizing < old.sizing ∨
      point.sizing = old.sizing ∧
        point.work + 3 * after.tasks.length <
          old.work + 3 * before.tasks.length) :
    smaller (after.variant config) (before.variant config) := by
  subst at_point
  rcases less with less | ⟨same, less⟩
  · have fewer : after.sizing config + 1 ≤ before.sizing config + 0 :=
      sizing_move bound less moved
    exact .left _ _ fewer
  · have fewer : after.sizing config + 0 ≤ before.sizing config + 0 :=
      sizing_move bound (Nat.le_of_eq same) moved
    have back : before.workerThread =
        update after.workerThread worker (before.workerThread worker) := by
      rw [moved, Function.update_idem, Function.update_eq_self]
    have more : before.sizing config + 0 ≤ after.sizing config + 0 := by
      refine sizing_move bound ?_ back
      rw [moved, Function.update_self]
      exact Nat.le_of_eq same.symm
    have workers : after.workerWork config +
        (before.workerThread worker).work ≤
          before.workerWork config + point.work :=
      workerWork_move bound (Nat.le_of_eq (Nat.add_comm _ _)) moved
    have stops : after.stopWork config = before.stopWork config := by
      rw [stopWork, stop, map, stopWork]
    have edges : after.edges config ≤ before.edges config :=
      edges_le idles
    have listens := listenWork_le idles
    apply smaller_of_effort (Nat.le_antisymm fewer more)
    unfold effort
    rw [accept, pollerWork, pollers, ← pollerWork, stops]
    omega

end Server

/-! ## Every working step -/

section Steps

open Server (smaller_of_accept smaller_of_poller smaller_of_worker
  smaller_of_stop)

variable {config : Config} {before after : Server}

/-- The listening socket's edge is what `epoll_wait` reports to the accept
thread. -/
theorem listenEdge_of_report
    (taken : acceptStep config before .report = some after) :
    before.kernel.listenEdge = true := by
  unfold acceptStep at taken
  split at taken
  all_goals first
    | contradiction
    | skip
  split at taken
  · rename_i guard
    exact guard.2
  · cases taken

theorem acceptStep_smaller {choice : AcceptChoice} (owned : Ownership before)
    (works : choice ≠ .timeout)
    (taken : acceptStep config before choice = some after) :
    smaller (after.variant config) (before.variant config) := by
  have idle : ∀ {kernel : Kernel}, before.kernel.Idles kernel →
      ∀ {server : Server}, server.kernel = kernel →
        server.edges config ≤ before.edges config + 0 ∧
          server.listenWork + 0 ≤ before.listenWork := by
    rintro kernel idles server rfl
    exact ⟨Server.edges_le idles, Server.listenWork_le idles⟩
  have same := @idle before.kernel (.refl _)
  cases acceptStep_of_some taken with
  | loop at_point =>
      refine smaller_of_accept 0 0 0 0 at_point rfl rfl rfl rfl (Nat.le_refl _)
        (Nat.le_refl _) (same rfl).1 (same rfl).2 ?_
      split <;> simp [AcceptPoint.work]
  | report at_point =>
      have edge := listenEdge_of_report taken
      refine smaller_of_accept 0 0 0 29 at_point rfl rfl rfl rfl (Nat.le_refl _)
        (Nat.le_refl _) (Nat.le_refl _) ?_ ?_
      · simp [Server.listenWork, edge]
      · simp [AcceptPoint.work]
  | timeout at_point => exact absurd rfl works
  | handleEvent at_point =>
      refine smaller_of_accept 0 0 0 0 at_point rfl rfl rfl rfl (Nat.le_refl _)
        (Nat.le_refl _) (same rfl).1 (same rfl).2 ?_
      split <;> simp [AcceptPoint.work]
  | lock at_point free =>
      refine smaller_of_accept 0 0 0 0 at_point rfl rfl rfl rfl (Nat.le_refl _)
        (Nat.le_refl _) (same rfl).1 (same rfl).2 ?_
      simp [AcceptPoint.work]
  | acceptFailed lost at_point =>
      refine smaller_of_accept 0 0 0 0 at_point rfl rfl rfl rfl (Nat.le_refl _)
        (Nat.le_refl _) (Nat.le_refl _) (Nat.le_refl _) ?_
      simp [AcceptPoint.work]
  | accepted fd ssl kernel at_point got =>
      have kept := @idle kernel (Kernel.idles_accept got)
      refine smaller_of_accept 0 0 0 0 at_point rfl rfl rfl rfl (Nat.le_refl _)
        (Nat.le_refl _) (kept rfl).1 (kept rfl).2 ?_
      simp [AcceptPoint.work]
  | ntopFailed fd ssl kernel at_point got =>
      have kept := @idle kernel (Kernel.idles_accept got)
      refine smaller_of_accept 0 0 0 0 at_point rfl rfl rfl rfl (Nat.le_refl _)
        (Nat.le_refl _) (kept rfl).1 (kept rfl).2 ?_
      simp [AcceptPoint.work]
  | initConnection store outcome at_point =>
      obtain ⟨ssl, result | result⟩ :=
        before.initConnection_cases config store outcome
      · rw [result]
        refine smaller_of_accept 0 0 0 0 at_point rfl rfl rfl rfl
          (Nat.le_refl _) (Nat.le_refl _) (same rfl).1 (same rfl).2 ?_
        simp [AcceptPoint.work]
      · have closed := before.kernel.idles_close (before.fd store)
        rw [result]
        refine smaller_of_accept 0 0 0 0 at_point rfl rfl rfl rfl
          (Nat.le_refl _) (Nat.le_refl _) (idle closed rfl).1
          (idle closed rfl).2 ?_
        simp [AcceptPoint.work]
  | registered store kernel at_point added =>
      have bound : before.nextIndex config < config.numPollers :=
        Nat.mod_lt _ config.numPollers_pos
      have unwatched : ∀ connection,
          before.kernel.file (before.fd store) = some (.client connection) →
            ∀ other, connection ∉ before.kernel.watched other := by
        intro connection denotes other member
        cases owned.admitting_file .addSocket store at_point connection denotes
        have fresh := owned.admitting_fresh store (.inr at_point)
        cases fresh.symm.trans (owned.watched_with other _ member)
      have listens : kernel.listenEdge = before.kernel.listenEdge := by
        unfold Kernel.epollCtlAdd at added
        split at added
        · split at added
          · cases added
            rfl
          · cases added
        · cases added
      refine smaller_of_accept 0 0 1 0 at_point rfl rfl rfl rfl (Nat.le_refl _)
        (Nat.le_refl _)
        (Server.edges_registered bound added unwatched rfl) ?_ ?_
      · simp [Server.listenWork, listens]
      · simp [AcceptPoint.work]
  | refused store granted at_point =>
      refine smaller_of_accept 0 0 0 0 at_point rfl rfl rfl rfl (Nat.le_refl _)
        (Nat.le_refl _) (same rfl).1 (same rfl).2 ?_
      simp [AcceptPoint.work]
  | backPointer poller store at_point =>
      refine smaller_of_accept 0 0 0 0 at_point rfl rfl rfl rfl (Nat.le_refl _)
        (Nat.le_refl _) (same rfl).1 (same rfl).2 ?_
      simp [AcceptPoint.work]
  | insert store at_point =>
      refine smaller_of_accept 0 1 0 0 at_point rfl rfl rfl rfl (Nat.le_refl _)
        (before.length_insertStore store) (same rfl).1 (same rfl).2 ?_
      simp [AcceptPoint.work]
  | enqueue store at_point =>
      refine smaller_of_accept 1 0 0 0 at_point rfl rfl rfl rfl ?_
        (Nat.le_refl _) (same rfl).1 (same rfl).2 ?_
      · simp [Server.enqueueTask]
      · simp [AcceptPoint.work]
  | unlock at_point =>
      refine smaller_of_accept 0 0 0 0 at_point rfl rfl rfl rfl (Nat.le_refl _)
        (Nat.le_refl _) (same rfl).1 (same rfl).2 ?_
      simp [AcceptPoint.work]

theorem pollerStep_smaller {poller : PollerId} {choice : PollerChoice}
    (bound : poller < config.numPollers)
    (works : working config before (.poller poller choice))
    (taken : PollerStep config before poller choice after) :
    smaller (after.variant config) (before.variant config) := by
  have idle : ∀ {kernel : Kernel}, before.kernel.Idles kernel →
      ∀ {server : Server}, server.kernel = kernel →
        server.edges config + 0 ≤ before.edges config ∧
          server.listenWork ≤ before.listenWork := by
    rintro kernel idles server rfl
    exact ⟨Server.edges_le idles, Server.listenWork_le idles⟩
  -- moves that touch none of the other counts
  have move : ∀ {old point : PollerPoint},
      before.pollerThread poller = old → point.work < old.work →
        ∀ {server : Server},
          server.pollerThread = update before.pollerThread poller point →
          server.workerThread = before.workerThread →
          server.acceptThread = before.acceptThread →
          server.stopThread = before.stopThread →
          server.tasks = before.tasks →
          server.clientEventStores.entries.length ≤
            before.clientEventStores.entries.length →
          before.kernel.Idles server.kernel →
            smaller (server.variant config) (before.variant config) := by
    intro old point at_point less server moved workers accept stop tasks
      entries idles
    refine smaller_of_poller 0 0 bound at_point moved workers accept stop ?_
      entries (idle idles rfl).1 (idle idles rfl).2 less
    rw [tasks]
    exact Nat.le_refl _
  have same := Kernel.Idles.refl before.kernel
  cases taken with
  | loop at_point =>
      refine move at_point ?_ rfl rfl rfl rfl rfl (Nat.le_refl _) same
      split <;> simp [PollerPoint.work]
  | report reported entries kernel at_point waited =>
      have edges := Server.edges_report bound works waited
        (show ({ before with kernel := kernel }.setPoller poller
          (.batch entries)).kernel = kernel from rfl)
      have nonempty : 0 < reported.length := by
        unfold Kernel.epollWait at waited
        split at waited
        · rename_i guard
          exact List.length_pos_of_ne_nil guard.1
        · cases waited
      have counted : entries.length = reported.length := by
        obtain ⟨rfl, -⟩ := Kernel.epollWait_spec waited
        exact List.length_map _
      have listens : kernel.listenEdge = before.kernel.listenEdge := by
        unfold Kernel.epollWait at waited
        split at waited
        · cases waited
          rfl
        · cases waited
      refine smaller_of_poller 0 reported.length bound at_point rfl rfl rfl rfl
        (Nat.le_refl _) (Nat.le_refl _) edges ?_ ?_
      · simp [Server.listenWork, Server.setPoller, listens]
      · simp only [PollerPoint.work]
        omega
  | timeout at_point => exact works.elim
  | batchDone at_point =>
      refine move at_point ?_ rfl rfl rfl rfl rfl (Nat.le_refl _) same
      simp [PollerPoint.work]
  | hangUp entry rest at_point flag =>
      refine move at_point ?_ rfl rfl rfl rfl rfl (Nat.le_refl _) same
      simp only [PollerPoint.work, PollerStage.work, List.length_cons]
      omega
  | data entry rest at_point flag =>
      refine move at_point ?_ rfl rfl rfl rfl rfl (Nat.le_refl _) same
      simp only [PollerPoint.work, PollerStage.work, List.length_cons]
      omega
  | skipped entry rest at_point =>
      refine move at_point ?_ rfl rfl rfl rfl rfl (Nat.le_refl _) same
      simp only [PollerPoint.work, List.length_cons]
      omega
  | dispatch store rest at_point =>
      refine smaller_of_poller 1 0 bound at_point rfl rfl rfl rfl ?_
        (Nat.le_refl _) (idle same rfl).1 (idle same rfl).2 ?_
      · simp [Server.enqueueTask, Server.setPoller]
      · simp only [PollerPoint.work, PollerStage.work]
        omega
  | epollDel store rest handler at_point handler_eq =>
      refine move at_point ?_ rfl rfl rfl rfl rfl (Nat.le_refl _)
        (Kernel.idles_epollCtlDel _ _ _)
      simp only [PollerPoint.work, PollerStage.work]
      omega
  | closeConnection store rest at_point =>
      have closed := before.idles_closeConnection config store
      obtain ⟨_, _, _, result⟩ := before.closeConnection_frame config store
      rw [result] at closed ⊢
      refine move at_point ?_ rfl rfl rfl rfl rfl (Nat.le_refl _) closed
      simp only [PollerPoint.work, PollerStage.work]
      omega
  | enqueue store rest at_point =>
      refine smaller_of_poller 1 0 bound at_point rfl rfl rfl rfl ?_
        (Nat.le_refl _) (idle same rfl).1 (idle same rfl).2 ?_
      · simp [Server.enqueueTask, Server.setPoller]
      · simp only [PollerPoint.work, PollerStage.work]
        omega
  | erase store rest at_point =>
      refine move at_point ?_ rfl rfl rfl rfl rfl
        (before.length_eraseStore store) same
      simp only [PollerPoint.work, PollerStage.work]
      omega
  | _ =>
      rename_i at_point
      refine move ‹before.pollerThread poller = _› ?_ rfl rfl rfl rfl rfl
        (Nat.le_refl _) same
      simp only [PollerPoint.work, PollerStage.work]
      omega

/-- A `receiveData` that has its size. -/
theorem Call.sizing_receivePartialData (task : IOTask) (size : Int) :
    (WorkerPoint.callback task
      (some (TCPServerSocketHandler.receivePartialData size))).sizing = 0 := by
  unfold TCPServerSocketHandler.receivePartialData
    TCPServerSocketHandler.readLoop
  split
  · rfl
  · split <;> rfl

/-- A system call that is not interrupted ends the handler call or brings it
on. -/
theorem Call.resume_smaller (task : IOTask) {call : Call} {syscall : Syscall}
    {result : SysResult} (next : call.syscall = some syscall)
    (admitted : syscall.admits result = true)
    (finishes : result ≠ .error .EINTR) :
    (WorkerPoint.callback task (some (call.resume result))).sizing <
        (WorkerPoint.callback task (some call)).sizing ∨
      (WorkerPoint.callback task (some (call.resume result))).sizing =
          (WorkerPoint.callback task (some call)).sizing ∧
        (call.resume result).work < call.work := by
  cases call with
  | sending data totalSent =>
      cases next
      right
      cases result with
      | sent count =>
          simp only [resume, TCPServerSocketHandler.sendLoop]
          split
          · exact ⟨rfl, by simp [work]⟩
          · split
            · refine ⟨rfl, ?_⟩
              simp only [work]
              omega
            · exact ⟨rfl, by simp [work]⟩
      | error errno =>
          cases errno with
          | EINTR => exact absurd rfl finishes
          | _ => exact ⟨rfl, by simp [resume, work]⟩
      | _ => cases admitted
  | sizing =>
      cases next
      left
      cases result with
      | available amount =>
          exact Nat.lt_of_le_of_lt
            (Nat.le_of_eq (sizing_receivePartialData task amount))
            Nat.zero_lt_one
      | error errno =>
          exact Nat.lt_of_le_of_lt
            (Nat.le_of_eq (sizing_receivePartialData task (-1)))
            Nat.zero_lt_one
      | _ => cases admitted
  | reading dataSize buffer =>
      cases next
      right
      cases result with
      | bytes data =>
          cases data with
          | nil => exact ⟨rfl, by simp [resume, work]⟩
          | cons byte data =>
              simp only [resume, TCPServerSocketHandler.readLoop]
              split
              · rename_i shorter
                refine ⟨rfl, ?_⟩
                simp only [List.length_append, List.length_cons] at shorter
                simp only [work, List.length_append, List.length_cons]
                omega
              · exact ⟨rfl, by simp [work]⟩
      | error errno =>
          cases errno with
          | EINTR => exact absurd rfl finishes
          | _ => exact ⟨rfl, by simp [resume, work]⟩
      | _ => cases admitted
  | querying =>
      cases next
      right
      cases result with
      | available amount => exact ⟨rfl, by simp [resume, work]⟩
      | error errno => exact ⟨rfl, by simp [resume, work]⟩
      | _ => cases admitted
  | _ => cases next

theorem workerLine_smaller {worker : WorkerId} {choice : WorkerChoice}
    (bound : worker < config.numWorkers)
    (works : working config before (.worker worker choice))
    (taken : WorkerLine config before worker choice after) :
    smaller (after.variant config) (before.variant config) := by
  have same := Kernel.Idles.refl before.kernel
  cases taken with
  | take task rest at_point queue =>
      refine smaller_of_worker bound at_point rfl rfl rfl rfl rfl same
        (.inr ⟨rfl, ?_⟩)
      simp [WorkerPoint.work, Server.setWorker, queue]
      omega
  | dispatch task at_point =>
      refine smaller_of_worker bound at_point rfl rfl rfl rfl rfl same
        (.inr ⟨rfl, ?_⟩)
      simp [WorkerPoint.work, Server.setWorker, Server.recordWorker]
  | call task request call at_point started free => exact works.elim
  | syscall task call syscall result kernel at_point next transferred =>
      have brings := call.resume_smaller task next
        (Kernel.admits_of_transfer transferred) works
      refine smaller_of_worker bound at_point rfl rfl rfl rfl rfl
        (Kernel.idles_transfer transferred) (brings.imp_right ?_)
      rintro ⟨sizes, less⟩
      refine ⟨sizes, ?_⟩
      simp only [WorkerPoint.work, Server.setWorker, Server.record]
      omega
  | sslSyscall task syscall result kernel at_point transferred =>
      exact works.elim
  | returnCall task call at_point ended =>
      have known : (WorkerPoint.callback task (some call)).sizing = 0 := by
        rcases ended with ended | rfl
        · cases call <;> first | rfl | cases ended
        · rfl
      refine smaller_of_worker bound at_point rfl rfl rfl rfl rfl same
        (.inr ⟨known.symm, ?_⟩)
      simp only [WorkerPoint.work, Server.setWorker, Server.unlockSocket]
      omega
  | close task at_point may_close free => exact works.elim
  | finish task at_point =>
      refine smaller_of_worker bound at_point rfl rfl rfl rfl rfl same
        (.inr ⟨rfl, ?_⟩)
      simp [WorkerPoint.work, Server.setWorker, Server.recordWorker]

theorem stopLine_smaller (works : working config before .stop)
    (taken : StopLine config before after) :
    smaller (after.variant config) (before.variant config) := by
  have same := Kernel.Idles.refl before.kernel
  cases taken with
  | begin at_point =>
      rcases at_point with at_point | at_point
      · exact absurd at_point works.1
      · exact absurd at_point works.2
  | closeListening closed at_point closes =>
      rcases Server.closeListening_cases closes with result | result
      · rw [result]
        refine smaller_of_stop rfl rfl rfl rfl same ?_
        simp [Server.stopWork, at_point, StopPoint.work]
      · rw [result]
        refine smaller_of_stop rfl rfl rfl rfl (Kernel.idles_close _ _) ?_
        simp [Server.stopWork, at_point, StopPoint.work, Server.record]
  | deleteListening at_point =>
      refine smaller_of_stop rfl rfl rfl rfl
        ⟨fun _ => id, fun _ => .refl _, id⟩ ?_
      simp [Server.stopWork, at_point, StopPoint.work]
  | closeAcceptEpoll at_point =>
      refine smaller_of_stop rfl rfl rfl rfl
        ⟨fun _ => id, fun _ => .refl _, id⟩ ?_
      simp [Server.stopWork, at_point, StopPoint.work]
  | closePollerEpoll poller at_point =>
      refine smaller_of_stop rfl rfl rfl rfl
        (Kernel.idles_closeEpoll _ _ _) ?_
      simp [Server.stopWork, at_point, StopPoint.work]
  | stopPoller poller at_point bound =>
      refine smaller_of_stop rfl rfl rfl rfl same ?_
      have left : config.numPollers - poller =
          config.numPollers - (poller + 1) + 1 :=
        (Nat.sub_add_cancel (Nat.sub_pos_of_lt bound)).symm
      simp only [Server.stopWork, at_point, StopPoint.work, left]
      omega
  | pollersDone poller at_point all =>
      refine smaller_of_stop rfl rfl rfl rfl same ?_
      simp only [Server.stopWork, at_point, StopPoint.work]
      omega
  | lockAll at_point free =>
      refine smaller_of_stop rfl rfl rfl rfl same ?_
      simp [Server.stopWork, at_point, StopPoint.work, Server.ownedStores]
  | closing store rest at_point =>
      have closed := before.idles_closeConnection config store
      obtain ⟨_, _, _, result⟩ := before.closeConnection_frame config store
      rw [result] at closed ⊢
      refine smaller_of_stop rfl rfl rfl rfl closed ?_
      simp [Server.stopWork, at_point, StopPoint.work]
  | found at_point set opened =>
      refine smaller_of_stop rfl rfl rfl rfl same ?_
      simp [Server.stopWork, at_point, StopPoint.work]
  | skipped at_point unset =>
      refine smaller_of_stop rfl rfl rfl rfl same ?_
      simp [Server.stopWork, at_point, StopPoint.work]
  | _ =>
      rename_i at_point
      refine smaller_of_stop rfl rfl rfl rfl same ?_
      simp [Server.stopWork, at_point, StopPoint.work]

end Steps

/-- Every working step leaves less to do. -/
theorem variant_smaller {config : Config} {before after : Server}
    {action : Action} (owned : Ownership before)
    (works : working config before action)
    (taken : (tcpServer config).step before action = some after) :
    smaller (after.variant config) (before.variant config) := by
  change step config before action = some after at taken
  cases action with
  | connect => exact works.elim
  | segment connection count => exact works.elim
  | hangUp connection cause => exact works.elim
  | accept choice =>
      apply acceptStep_smaller owned _ taken
      rintro rfl
      exact works
  | poller poller choice =>
      simp only [step] at taken
      split at taken
      · rename_i bound
        exact pollerStep_smaller bound works (pollerStep_of_some taken)
      · cases taken
  | worker worker choice =>
      simp only [step] at taken
      split at taken
      · rename_i bound
        exact workerLine_smaller bound works (workerLine_of_some taken)
      · cases taken
  | stop => exact stopLine_smaller works (stopLine_of_some taken)

end EventPlus
