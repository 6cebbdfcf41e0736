/-
Module: EventPlus.Server.OwnCloses
Purpose: What the numbers that the server closes denote at that moment: the
  first `close` call made for a store or for the listening socket finds the
  file it was opened for, and no later call does.
Trusted boundary: none
Main exports:
  Server.Called, Server.OwnCloses, Process.OwnCloses, closesOnce,
  file_iff_not_called, ownCloses_throughout_iff, foreign_file_closed
-/
import EventPlus.Server.Process

namespace EventPlus

open Function (update)

/-! ## Closing only what is one's own -/

namespace Server

/-- The `close` call has been made before. -/
def Called (server : Server) (call : CloseCall) : Prop :=
  ∃ event ∈ server.descriptorTrace, event.closeCall = some call

/-- Every number closed for a client or for the listening socket still denoted
that client's connection, or the listening socket. -/
def OwnCloses (server : Server) : Prop :=
  ∀ event ∈ server.descriptorTrace, ∀ call, event.closeCall = some call →
    event.closed = some call.file

end Server

/-- Every number the server closed still denoted the file the server had opened
it for. -/
structure Process.OwnCloses (process : Process) : Prop where
  sockets : process.server.OwnCloses
  epolls : ∀ closed ∈ process.epollCloses, closed.2 = some closed.1

/-- Steps that make no `close` call for a store, or for the listening socket,
for which one has been made before, by whichever caller. -/
def closesOnce (config : ProcessConfig) (process : Process) :
    ProcessAction → Prop
  | .server action =>
      ∀ call, closeCall config.toConfig process.server action = some call →
        ¬process.server.Called call
  | .openFile _ | .closeFile _ => True

/-! ## The record of the `close` calls -/

namespace CloseCall

@[simp] theorem closeCall_event (call : CloseCall) (denoted : Option File) :
    (call.event denoted).closeCall = some call := by
  cases call <;> rfl

@[simp] theorem closed_event (call : CloseCall) (denoted : Option File) :
    (call.event denoted).closed = denoted := by
  cases call <;> rfl

theorem file_injective {first second : CloseCall}
    (same : first.file = second.file) : first = second := by
  cases first <;> cases second <;> cases same <;> rfl

end CloseCall

/-- Only `close` calls close anything. -/
theorem DescriptorEvent.exists_closeCall {event : DescriptorEvent}
    {file : File} (closes : event.closed = some file) :
    ∃ call, event.closeCall = some call := by
  cases event with
  | close store denoted => exact ⟨.client store, rfl⟩
  | closeListening denoted => exact ⟨.listening, rfl⟩
  | _ => cases closes

/-- In a good record, to have closed a file is to have made the call for
it. -/
theorem Server.OwnCloses.called_iff {server : Server}
    (own : server.OwnCloses) (call : CloseCall) :
    server.Called call ↔
      ∃ event ∈ server.descriptorTrace, event.closed = some call.file := by
  constructor
  · rintro ⟨event, member, called⟩
    exact ⟨event, member, own event member call called⟩
  · rintro ⟨event, member, closed⟩
    obtain ⟨made, called⟩ := DescriptorEvent.exists_closeCall closed
    have right := own event member made called
    have same : made = call := by
      apply CloseCall.file_injective
      rw [closed] at right
      exact (Option.some.inj right).symm
    exact ⟨event, member, by rw [called, same]⟩

/-- The listening socket is open until the record shows that it was
closed. -/
def ListeningRecord (listenFd : Fd) (server : Server) : Prop :=
  server.kernel.file listenFd = some .listening ↔
    ¬∃ event ∈ server.descriptorTrace, event.closed = some .listening

namespace ListeningRecord

theorem start (config : Config) :
    ListeningRecord config.listenFd (Server.start config) := by
  apply iff_of_true
  · simp [Server.start]
  · rintro ⟨event, member, -⟩
    cases member

theorem tableStep {config : Config} {before after : Server}
    {action : Action} {call : Option CloseCall}
    (recorded : ListeningRecord config.listenFd before)
    (listening : ListeningSocket config.listenFd before.kernel)
    (effect : TableStep config before after action call) :
    ListeningRecord config.listenFd after := by
  unfold ListeningRecord at recorded ⊢
  cases effect with
  | closed _ call file trace =>
      rw [file, trace]
      simp only [List.mem_append, List.mem_singleton, or_and_right, exists_or,
        exists_eq_left, CloseCall.closed_event, not_or]
      by_cases same : config.listenFd = call.fd config before
      · rw [← same, Function.update_self, ← recorded]
        simp
      · have other :
            before.kernel.file (call.fd config before) ≠ some .listening :=
          fun denotes => same (listening.number _ denotes).symm
        rw [Function.update_of_ne same, recorded]
        simp [other]
  | kept _ file events trace no_close =>
      have silent : ∀ event ∈ events, event.closed ≠ some .listening := by
        intro event member closes
        obtain ⟨call, called⟩ := DescriptorEvent.exists_closeCall closes
        rw [no_close event member] at called
        cases called
      have same :
          (∃ event ∈ after.descriptorTrace,
              event.closed = some .listening) ↔
            ∃ event ∈ before.descriptorTrace,
              event.closed = some .listening := by
        rw [trace]
        constructor
        · rintro ⟨event, member, closes⟩
          rcases List.mem_append.mp member with earlier | now
          · exact ⟨event, earlier, closes⟩
          · exact absurd closes (silent event now)
        · rintro ⟨event, member, closes⟩
          exact ⟨event, List.mem_append_left events member, closes⟩
      rw [file, same]
      exact recorded
  | opened number inetNtop ssl unused file trace =>
      rw [file, trace, ← recorded]
      by_cases same : config.listenFd = number
      · rw [same, Function.update_self, unused]
        simp
      · rw [Function.update_of_ne same]

end ListeningRecord

theorem listeningRecord_of_reachable {config : ProcessConfig}
    {process : Process}
    (reachable : (serverProcess config).Reachable process) :
    ListeningRecord config.listenFd process.server := by
  refine server_invariant ?_ ?_ ?_ reachable
  · exact ListeningRecord.start config.toConfig
  · intro before action after earlier _ taken recorded
    exact recorded.tableStep (sound_of_reachable earlier).listening
      (tableStep_of_step taken)
  · intro before after change recorded
    have same_trace : after.descriptorTrace = before.descriptorTrace := by
      cases change
      rfl
    unfold ListeningRecord
    rw [change.file_iff (by simp), same_trace]
    exact recorded

/-! ## First calls and later calls -/

/-- As long as every call has found its own file, a number denotes the file it
was opened for exactly until the call for it is made. -/
theorem file_iff_not_called {config : Config} {server : Server}
    (sound : Sound config server)
    (recorded : ListeningRecord config.listenFd server)
    (own : server.OwnCloses) {call : CloseCall}
    (made : ∀ store, call = .client store →
      server.lifetime store ≠ .unborn) :
    server.kernel.file (call.fd config server) = some call.file ↔
      ¬server.Called call := by
  rw [own.called_iff call]
  cases call with
  | client store =>
      exact sound.descriptors.open_iff store (made store rfl)
  | listening => exact recorded

/-- A step keeps the record good exactly if it repeats no call. -/
theorem ownCloses_step_iff {config : Config} {before after : Server}
    {action : Action} (sound : Sound config before)
    (recorded : ListeningRecord config.listenFd before)
    (own : before.OwnCloses)
    (taken : (tcpServer config).step before action = some after) :
    after.OwnCloses ↔
      ∀ call, closeCall config before action = some call →
        ¬before.Called call := by
  generalize called : closeCall config before action = made
  have effect := tableStep_of_step taken
  rw [called] at effect
  cases effect with
  | closed _ call file trace =>
      have made : ∀ store, call = .client store →
          before.lifetime store ≠ .unborn := by
        rintro store rfl
        exact sound.made_of_closeCall called
      have first := file_iff_not_called sound recorded own made
      constructor
      · intro right other same
        cases same
        have noted :
            call.event (before.kernel.file (call.fd config before)) ∈
              after.descriptorTrace := by
          rw [trace]
          exact List.mem_append_right _ (List.mem_singleton_self _)
        have now := right _ noted call (call.closeCall_event _)
        rw [call.closed_event] at now
        exact first.mp now
      · intro once event member other closes
        rw [trace] at member
        rcases List.mem_append.mp member with earlier | now
        · exact own event earlier other closes
        · rw [List.mem_singleton.mp now] at closes ⊢
          rw [call.closeCall_event] at closes
          cases closes
          rw [call.closed_event]
          exact first.mpr (once call rfl)
  | kept _ file events trace no_close =>
      apply iff_of_true
      · intro event member call closes
        rw [trace] at member
        rcases List.mem_append.mp member with earlier | now
        · exact own event earlier call closes
        · rw [no_close event now] at closes
          cases closes
      · intro call calls
        cases calls
  | opened number inetNtop ssl unused file trace =>
      apply iff_of_true
      · intro event member
        rw [trace] at member
        exact own event member
      · intro call calls
        cases calls

/-! ## Runs of the process -/

/-- `closeEpoll` closes the number of its epoll: the field becomes `-1` with
the first call. -/
theorem epollCloses_closeEpoll {config : ProcessConfig} {process : Process}
    (table : EpollTable config process) (epoll : Epoll)
    (own : ∀ closed ∈ process.epollCloses, closed.2 = some closed.1) :
    ∀ closed ∈ (process.closeEpoll epoll).epollCloses,
      closed.2 = some closed.1 := by
  rcases table.closeEpoll_cases epoll with ⟨-, result⟩ | ⟨fd, -, result⟩
  · rw [result]
    exact own
  · rw [result]
    intro closed member
    rcases List.mem_append.mp member with earlier | now
    · exact own closed earlier
    · rw [List.mem_singleton.mp now]

theorem ownCloses_processStep_iff {config : ProcessConfig}
    {before after : Process} {action : ProcessAction}
    (reachable : (serverProcess config).Reachable before)
    (own : before.OwnCloses)
    (taken : ProcessStep config before action after) :
    after.OwnCloses ↔ closesOnce config before action := by
  have sound := sound_of_reachable reachable
  have table := epollTable_of_reachable reachable
  have recorded := listeningRecord_of_reachable reachable
  cases taken with
  | server action server taken no_epoll =>
      have exact_here := ownCloses_step_iff sound recorded own.sockets taken
      constructor
      · intro right
        exact exact_here.mp right.sockets
      · intro once
        exact ⟨exact_here.mpr once, own.epolls⟩
  | closeEpoll epoll server taken closes =>
      have exact_here := ownCloses_step_iff sound recorded own.sockets taken
      have moved := table.moveServer sound taken
      have same_trace :
          ((before.moveServer server).closeEpoll
              epoll).server.descriptorTrace = server.descriptorTrace := by
        rcases moved.closeEpoll_cases epoll with
          ⟨-, result⟩ | ⟨fd, -, result⟩
        · rw [result]
          rfl
        · rw [result]
          rfl
      constructor
      · intro right
        have sockets := right.sockets
        unfold Server.OwnCloses at sockets
        rw [same_trace] at sockets
        exact exact_here.mp sockets
      · intro once
        constructor
        · unfold Server.OwnCloses
          rw [same_trace]
          exact exact_here.mpr once
        · exact epollCloses_closeEpoll moved epoll own.epolls
  | openFile fd unused => exact iff_of_true ⟨own.sockets, own.epolls⟩ trivial
  | closeFile fd denotes foreign =>
      exact iff_of_true ⟨own.sockets, own.epolls⟩ trivial

theorem ownCloses_start (config : ProcessConfig) :
    (Process.start config).OwnCloses := by
  constructor
  · intro event member
    cases member
  · intro closed member
    cases member

/-- In a run with any number of `stopPolling` calls, with callbacks that close
and with other code that opens and closes descriptors, every `close` call of
the server finds the server's own file exactly when none of them is made for a
store or a listening socket that an earlier call was made for. -/
theorem ownCloses_throughout_iff (config : ProcessConfig)
    (actions : List ProcessAction) :
    (serverProcess config).Throughout Process.OwnCloses
        (Process.start config) actions ↔
      (serverProcess config).Along (closesOnce config)
        (Process.start config) actions := by
  refine TransitionSystem.throughout_iff_along ?_ (.initial rfl)
    (ownCloses_start config) actions
  intro before action after reachable own taken
  exact ownCloses_processStep_iff reachable own (processStep_of_some taken)

/-- A callback closes its connection, other code opens a file and gets the
number, and `stopPolling` closes that file. -/
theorem foreign_file_closed :
    ¬∀ process, (serverProcess (.single true (-1))).Reachable process →
      process.OwnCloses := by
  intro always
  obtain ⟨process, reachable, closed⟩ :=
    exists_process_of_replay (.single true (-1)) (fun _ _ => True)
      (fun process =>
        .close 0 (some .other) ∈ process.server.descriptorTrace)
      (serverActions
          (connectAndAdmit 4 ++
            [.worker 0 .take, .worker 0 .dispatch, .worker 0 .close]) ++
        [.openFile 4] ++ serverActions (List.replicate 9 .stop))
      (by decide)
  have wrong := (always process reachable).sockets _ closed (.client 0) rfl
  cases wrong

end EventPlus
