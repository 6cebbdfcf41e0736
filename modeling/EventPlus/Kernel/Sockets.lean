/-
Module: EventPlus.Kernel.Sockets
Purpose: The kernel objects the server works on: the descriptor table, the
  accepted sockets, the epoll sets of the scheduler's pollers, and the
  listening socket.
Trusted boundary: the behaviour of Linux described here
Main exports:
  File, HangUp, Socket, EpollEvent, Kernel, Kernel.watched, Kernel.close,
  Kernel.epollCtlAdd, Kernel.epollCtlDel, Kernel.closeEpoll,
  Kernel.epollWait, Kernel.accept, Kernel.hangUp, Kernel.transfer
-/
import Mathlib.Logic.Function.Basic
import EventPlus.Handlers.TCPServerSocketHandler

namespace EventPlus

open Function (update)

/-!
Descriptor numbers are reused: `close` frees a number and `accept` may return
any number that is not open.  An open file is therefore kept apart from the
number that denotes it, and every operation of the server names the number.

An epoll set is keyed by the open file, and closing the last descriptor of a
file takes the file out of every set.  The sockets are registered
edge-triggered: `edge` records a readiness that no `epoll_wait` has reported
yet.  `epollWait` may still report any registered socket at any time, with the
readiness it has at that moment, so nothing proved here rests on reports being
rare.

Closing an epoll descriptor ends what `epoll_ctl` can do with its set, not an
`epoll_wait` that is under way: the call keeps the set until it returns, and
until then it may report any socket of it.  `inFlight` holds these sockets.
-/

/-- What a descriptor number denotes. -/
inductive File where
  | listening
  | client (connection : ConnectionId)
  | other
deriving Repr, Inhabited, DecidableEq

/-- How the receiving side of a connection ends: the peer sends its half-close
or a reset, or the kernel itself gives the connection up. -/
inductive HangUp where
  | halfClose
  | reset
  | timedOut
deriving Repr, Inhabited, DecidableEq

/-- The kernel's side of one client connection.  Bytes and the hang-up may
arrive before the connection is accepted. -/
structure Socket where
  arrived : Nat := 0
  consumed : Nat := 0
  hungUp : Bool := false
  edge : Bool := false
deriving Repr, Inhabited, DecidableEq

/-- Bytes the kernel holds for the program. -/
def Socket.unread (socket : Socket) : Nat :=
  socket.arrived - socket.consumed

/-- One `epoll_event`: the user pointer and the two flags of interest.  The
program tests `EPOLLRDHUP` only. -/
structure EpollEvent where
  store : ConnectionId
  epollIn : Bool
  epollRdhup : Bool
deriving Repr, Inhabited, DecidableEq

/-- `MAX_EVENTS`. -/
def maxEvents : Nat := 5000

/-- The kernel's state. -/
structure Kernel where
  file : Fd → Option File
  socket : ConnectionId → Socket
  epollOpen : PollerId → Bool
  registered : PollerId → List ConnectionId
  inFlight : PollerId → List ConnectionId
  backlog : Nat
  listenEdge : Bool
  listenRegistered : Bool

namespace Kernel

/-- The sockets that an `epoll_wait` of a poller may report: those of its set,
and those of a set whose descriptor was closed while the call was under way. -/
def watched (kernel : Kernel) (poller : PollerId) : List ConnectionId :=
  kernel.registered poller ++ kernel.inFlight poller

/-- The readiness a socket is reported with.  A hang-up makes the socket
readable as well. -/
def event (kernel : Kernel) (connection : ConnectionId) : EpollEvent where
  store := connection
  epollIn :=
    decide (0 < (kernel.socket connection).unread) ||
      (kernel.socket connection).hungUp
  epollRdhup := (kernel.socket connection).hungUp

/-- `close(fd)`; an unused number is `EBADF` and changes nothing. -/
def close (kernel : Kernel) (fd : Fd) : Kernel :=
  match kernel.file fd with
  | none => kernel
  | some .listening =>
      { kernel with
          file := update kernel.file fd none
          backlog := 0
          listenEdge := false
          listenRegistered := false }
  | some (.client connection) =>
      { kernel with
          file := update kernel.file fd none
          registered := fun poller =>
            (kernel.registered poller).filter (· ≠ connection)
          inFlight := fun poller =>
            (kernel.inFlight poller).filter (· ≠ connection) }
  | some .other => { kernel with file := update kernel.file fd none }

/-- `epoll_ctl(EPOLL_CTL_ADD)` of a client descriptor.  A socket with bytes or
a hang-up waiting is ready at once. -/
def epollCtlAdd (kernel : Kernel) (poller : PollerId) (fd : Fd) :
    Option Kernel :=
  match kernel.file fd with
  | some (.client connection) =>
      if kernel.epollOpen poller ∧ connection ∉ kernel.registered poller then
        some
          { kernel with
              registered :=
                update kernel.registered poller
                  (kernel.registered poller ++ [connection])
              socket :=
                update kernel.socket connection
                  { kernel.socket connection with
                      edge :=
                        (kernel.socket connection).edge ||
                          (kernel.event connection).epollIn } }
      else none
  | _ => none

/-- Whether `epoll_ctl(EPOLL_CTL_DEL)` succeeds. -/
def canDelete (kernel : Kernel) (poller : PollerId) (fd : Fd) : Bool :=
  match kernel.file fd with
  | some (.client connection) => connection ∈ kernel.registered poller
  | _ => false

/-- `epoll_ctl(EPOLL_CTL_DEL)` of a client descriptor; it has no effect where
it fails. -/
def epollCtlDel (kernel : Kernel) (poller : PollerId) (fd : Fd) : Kernel :=
  match kernel.file fd with
  | some (.client connection) =>
      { kernel with
          registered :=
            update kernel.registered poller
              ((kernel.registered poller).filter (· ≠ connection)) }
  | _ => kernel

/-- `close` of a poller's epoll descriptor.  When the poller is in `epoll_wait`,
`waiting`, the call keeps the sockets of the set. -/
def closeEpoll (kernel : Kernel) (poller : PollerId) (waiting : Bool) :
    Kernel :=
  { kernel with
      epollOpen := update kernel.epollOpen poller false
      registered := update kernel.registered poller []
      inFlight :=
        update kernel.inFlight poller
          (if waiting then kernel.watched poller else []) }

/-- An `epoll_wait` of a poller returns, and drops what it kept of a closed
set. -/
def epollReturns (kernel : Kernel) (poller : PollerId) : Kernel :=
  { kernel with inFlight := update kernel.inFlight poller [] }

/-- `epoll_wait` reports between one and `MAX_EVENTS` sockets it watches, each
at most once, and consumes their edges. -/
def epollWait (kernel : Kernel) (poller : PollerId)
    (reported : List ConnectionId) : Option (List EpollEvent × Kernel) :=
  if reported ≠ [] ∧ reported.length ≤ maxEvents ∧ reported.Nodup ∧
      ∀ connection ∈ reported, connection ∈ kernel.watched poller then
    some
      (reported.map kernel.event,
        { kernel.epollReturns poller with
            socket := fun connection =>
              if connection ∈ reported then
                { kernel.socket connection with edge := false }
              else kernel.socket connection })
  else none

/-- A successful `accept`: the oldest completed connection gets a number that
is not open. -/
def accept (kernel : Kernel) (fd : Fd) (connection : ConnectionId) :
    Option Kernel :=
  if 0 < kernel.backlog ∧ kernel.file fd = none then
    some
      { kernel with
          file := update kernel.file fd (some (.client connection))
          backlog := kernel.backlog - 1 }
  else none

/-- A client completes its handshake with the listening socket. -/
def connect (kernel : Kernel) : Kernel :=
  { kernel with backlog := kernel.backlog + 1, listenEdge := true }

/-- A data segment of `count` bytes arrives and wakes the socket.  A wake-up
without data, for an error that does not end the connection yet, is a segment
of no bytes. -/
def segment (kernel : Kernel) (connection : ConnectionId) (count : Nat) :
    Kernel :=
  { kernel with
      socket :=
        update kernel.socket connection
          { kernel.socket connection with
              arrived := (kernel.socket connection).arrived + count
              edge := true } }

/-- The receiving side of a connection ends, and the socket is woken.  Whatever
the cause, what has arrived stays readable, nothing more arrives, and
`EPOLLRDHUP` is reported from now on. -/
def hangUp (kernel : Kernel) (connection : ConnectionId) (_cause : HangUp) :
    Kernel :=
  { kernel with
      socket :=
        update kernel.socket connection
          { kernel.socket connection with hungUp := true, edge := true } }

/-- The program reads `count` bytes of a connection. -/
def consume (kernel : Kernel) (connection : ConnectionId) (count : Nat) :
    Kernel :=
  { kernel with
      socket :=
        update kernel.socket connection
          { kernel.socket connection with
              consumed := (kernel.socket connection).consumed + count } }

/-- A system call on a descriptor number with the result `result`, if the
kernel can answer so.  A number that is not open fails with `EBADF`; a read
takes bytes from the connection the number denotes now. -/
def transfer (kernel : Kernel) (fd : Fd) (syscall : Syscall)
    (result : SysResult) : Option Kernel :=
  match kernel.file fd, result with
  | none, .error .EBADF => some kernel
  | none, _ => none
  | some (.client connection), .bytes data =>
      if syscall.admits (.bytes data) ∧
          data.length ≤ (kernel.socket connection).unread then
        some (kernel.consume connection data.length)
      else none
  | some _, result => if syscall.admits result then some kernel else none

/-! ## The descriptor table -/

@[simp] theorem close_file (kernel : Kernel) (fd : Fd) :
    (kernel.close fd).file = update kernel.file fd none := by
  unfold close
  split
  · rename_i unused
    rw [← unused, Function.update_eq_self]
  · rfl
  · rfl
  · rfl

@[simp] theorem close_socket (kernel : Kernel) (fd : Fd) :
    (kernel.close fd).socket = kernel.socket := by
  unfold close
  split <;> rfl

/-- Closing a descriptor takes exactly the connection it denotes out of the
epoll sets. -/
theorem mem_close_registered {kernel : Kernel} {fd : Fd} {poller : PollerId}
    {connection : ConnectionId} :
    connection ∈ (kernel.close fd).registered poller ↔
      connection ∈ kernel.registered poller ∧
        kernel.file fd ≠ some (.client connection) := by
  unfold close
  split
  · rename_i unused
    simp [unused]
  · rename_i denotes
    simp [denotes]
  · rename_i closed denotes
    simp only [denotes, List.mem_filter, decide_not, Bool.not_eq_true',
      decide_eq_false_iff_not, ne_eq, Option.some.injEq, File.client.injEq]
    exact and_congr_right fun _ => not_congr eq_comm
  · rename_i denotes
    simp [denotes]

theorem mem_watched {kernel : Kernel} {poller : PollerId}
    {connection : ConnectionId} :
    connection ∈ kernel.watched poller ↔
      connection ∈ kernel.registered poller ∨
        connection ∈ kernel.inFlight poller :=
  List.mem_append

/-- Closing a descriptor takes the connection it denotes out of the calls in
flight as well. -/
theorem mem_close_inFlight {kernel : Kernel} {fd : Fd} {poller : PollerId}
    {connection : ConnectionId} :
    connection ∈ (kernel.close fd).inFlight poller ↔
      connection ∈ kernel.inFlight poller ∧
        kernel.file fd ≠ some (.client connection) := by
  unfold close
  split
  · rename_i unused
    simp [unused]
  · rename_i denotes
    simp [denotes]
  · rename_i closed denotes
    simp only [denotes, List.mem_filter, decide_not, Bool.not_eq_true',
      decide_eq_false_iff_not, ne_eq, Option.some.injEq, File.client.injEq]
    exact and_congr_right fun _ => not_congr eq_comm
  · rename_i denotes
    simp [denotes]

theorem close_inFlight (kernel : Kernel) (fd : Fd) (poller : PollerId) :
    ((kernel.close fd).inFlight poller).Sublist (kernel.inFlight poller) := by
  unfold close
  split
  · exact .refl _
  · exact .refl _
  · exact List.filter_sublist
  · exact .refl _

theorem mem_close_watched {kernel : Kernel} {fd : Fd} {poller : PollerId}
    {connection : ConnectionId} :
    connection ∈ (kernel.close fd).watched poller ↔
      connection ∈ kernel.watched poller ∧
        kernel.file fd ≠ some (.client connection) := by
  simp only [mem_watched, mem_close_registered, mem_close_inFlight]
  tauto

/-- Closing a poller's epoll descriptor lets no new socket be reported. -/
theorem mem_watched_of_closeEpoll {kernel : Kernel}
    {poller other : PollerId} {waiting : Bool} {connection : ConnectionId}
    (member : connection ∈ (kernel.closeEpoll poller waiting).watched other) :
    connection ∈ kernel.watched other := by
  by_cases same : other = poller
  · subst same
    cases waiting with
    | true => simpa [closeEpoll, watched] using member
    | false => simp [closeEpoll, watched] at member
  · simpa [closeEpoll, watched, same] using member

/-- A call that has returned reports nothing more. -/
theorem mem_watched_of_returned {kernel after : Kernel}
    {poller other : PollerId} {connection : ConnectionId}
    (registered : after.registered = kernel.registered)
    (returned : after.inFlight = update kernel.inFlight poller [])
    (member : connection ∈ after.watched other) :
    connection ∈ kernel.watched other := by
  rw [mem_watched, registered, returned] at member
  by_cases same : other = poller
  · subst same
    exact mem_watched.mpr (.inl (by simpa using member))
  · rw [Function.update_of_ne same] at member
    exact mem_watched.mpr member

/-! ## The epoll sets -/

@[simp] theorem epollCtlDel_file (kernel : Kernel) (poller : PollerId)
    (fd : Fd) : (kernel.epollCtlDel poller fd).file = kernel.file := by
  unfold epollCtlDel
  split <;> rfl

@[simp] theorem epollCtlDel_socket (kernel : Kernel) (poller : PollerId)
    (fd : Fd) : (kernel.epollCtlDel poller fd).socket = kernel.socket := by
  unfold epollCtlDel
  split <;> rfl

@[simp] theorem epollCtlDel_inFlight (kernel : Kernel) (poller : PollerId)
    (fd : Fd) : (kernel.epollCtlDel poller fd).inFlight = kernel.inFlight := by
  unfold epollCtlDel
  split <;> rfl

/-- Deletion takes the connection the descriptor denotes out of one set. -/
theorem mem_epollCtlDel_registered {kernel : Kernel} {fd : Fd}
    {poller other : PollerId} {connection : ConnectionId} :
    connection ∈ (kernel.epollCtlDel poller fd).registered other ↔
      connection ∈ kernel.registered other ∧
        (other = poller → kernel.file fd ≠ some (.client connection)) := by
  unfold epollCtlDel
  split
  · rename_i deleted denotes
    by_cases same : other = poller
    · subst same
      simp only [denotes, Function.update_self, List.mem_filter, decide_not,
        Bool.not_eq_true', decide_eq_false_iff_not, ne_eq,
        Option.some.injEq, File.client.injEq, forall_const]
      exact and_congr_right fun _ => not_congr eq_comm
    · simp [same]
  · rename_i noClient
    constructor
    · intro member
      exact ⟨member, fun _ => noClient connection⟩
    · exact And.left

theorem mem_watched_of_epollCtlDel {kernel : Kernel} {fd : Fd}
    {poller other : PollerId} {connection : ConnectionId}
    (member : connection ∈ (kernel.epollCtlDel poller fd).watched other) :
    connection ∈ kernel.watched other := by
  rw [mem_watched, epollCtlDel_inFlight] at member
  exact mem_watched.mpr
    (member.imp_left fun deleted => (mem_epollCtlDel_registered.mp deleted).1)

/-- What a successful registration did. -/
theorem epollCtlAdd_spec {kernel after : Kernel} {poller : PollerId}
    {fd : Fd} (added : kernel.epollCtlAdd poller fd = some after) :
    ∃ connection, kernel.file fd = some (.client connection) ∧
      connection ∉ kernel.registered poller ∧
      kernel.epollOpen poller = true ∧
      after.file = kernel.file ∧
      after.registered =
        update kernel.registered poller
          (kernel.registered poller ++ [connection]) ∧
      after.inFlight = kernel.inFlight ∧
      (∀ other, (after.socket other).arrived =
          (kernel.socket other).arrived ∧
        (after.socket other).consumed = (kernel.socket other).consumed ∧
        (after.socket other).hungUp =
          (kernel.socket other).hungUp) := by
  unfold epollCtlAdd at added
  split at added
  · rename_i connection denotes
    split at added
    · rename_i guard
      cases added
      refine ⟨connection, denotes, guard.2, guard.1, rfl, rfl, rfl, ?_⟩
      intro other
      by_cases same : other = connection
      · subst same
        simp
      · simp [Function.update_of_ne same]
    · cases added
  · cases added

/-- What `epoll_wait` returned. -/
theorem epollWait_spec {kernel after : Kernel} {poller : PollerId}
    {reported : List ConnectionId} {entries : List EpollEvent}
    (waited : kernel.epollWait poller reported = some (entries, after)) :
    entries = reported.map kernel.event ∧ reported.Nodup ∧
      (∀ connection ∈ reported, connection ∈ kernel.watched poller) ∧
      after.file = kernel.file ∧ after.registered = kernel.registered ∧
      after.inFlight = update kernel.inFlight poller [] ∧
      (∀ other, (after.socket other).arrived =
          (kernel.socket other).arrived ∧
        (after.socket other).consumed = (kernel.socket other).consumed ∧
        (after.socket other).hungUp =
          (kernel.socket other).hungUp) := by
  unfold epollWait at waited
  split at waited
  · rename_i guard
    cases waited
    refine ⟨rfl, guard.2.2.1, guard.2.2.2, rfl, rfl, rfl, ?_⟩
    intro other
    dsimp only
    split <;> simp
  · cases waited

/-- `epoll_wait` may report any socket it watches on its own. -/
theorem epollWait_single {kernel : Kernel} {poller : PollerId}
    {connection : ConnectionId}
    (watched : connection ∈ kernel.watched poller) :
    ∃ after, kernel.epollWait poller [connection] =
      some ([kernel.event connection], after) := by
  simp [epollWait, maxEvents, watched]

/-- A number that denotes a file is not one that denotes none. -/
theorem ne_of_unused {kernel : Kernel} {first second : Fd} {file : File}
    (denotes : kernel.file first = some file)
    (unused : kernel.file second = none) : first ≠ second := by
  rintro rfl
  cases denotes.symm.trans unused

/-- What a successful `accept` did: the number was not open, and it denotes
the connection now. -/
theorem accept_spec {kernel after : Kernel} {fd : Fd}
    {connection : ConnectionId}
    (got : kernel.accept fd connection = some after) :
    kernel.file fd = none ∧
      after =
        { kernel with
            file := update kernel.file fd (some (.client connection))
            backlog := kernel.backlog - 1 } := by
  unfold accept at got
  split at got
  · rename_i guard
    cases got
    exact ⟨guard.2, rfl⟩
  · cases got

/-! ## Transfers -/

/-- A transfer changes nothing but the amount consumed on the connection that
the descriptor denotes. -/
theorem transfer_spec {kernel after : Kernel} {fd : Fd} {syscall : Syscall}
    {result : SysResult}
    (transferred : kernel.transfer fd syscall result = some after) :
    after = kernel ∨
      ∃ connection count, kernel.file fd = some (.client connection) ∧
        after = kernel.consume connection count := by
  unfold transfer at transferred
  split at transferred
  · cases transferred
    exact .inl rfl
  · cases transferred
  · rename_i connection data denotes
    split at transferred
    · cases transferred
      exact .inr ⟨connection, data.length, denotes, rfl⟩
    · cases transferred
  · split at transferred
    · cases transferred
      exact .inl rfl
    · cases transferred

theorem transfer_file {kernel after : Kernel} {fd : Fd} {syscall : Syscall}
    {result : SysResult}
    (transferred : kernel.transfer fd syscall result = some after) :
    after.file = kernel.file := by
  rcases transfer_spec transferred with rfl | ⟨connection, count, -, rfl⟩
  · rfl
  · rfl

end Kernel

end EventPlus
