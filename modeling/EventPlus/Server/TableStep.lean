/-
Module: EventPlus.Server.TableStep
Purpose: What a step does to the descriptor table, by the `close` call it
  makes, for a store or for the listening socket.
Trusted boundary: none
Main exports:
  CloseCall, closeCall, TableStep, tableStep_of_step, TableStep.file_before,
  file_of_step, file_of_other, listening_of_step
-/
import EventPlus.Server.Stopping

namespace EventPlus

open Function (update)

/-! ## The `close` calls -/

/-- What a `close` call of the server is made for, other than an epoll. -/
inductive CloseCall where
  | client (store : ConnectionId)
  | listening
deriving Repr, DecidableEq

namespace CloseCall

/-- The number the call is made with. -/
def fd (config : Config) (server : Server) : CloseCall → Fd
  | .client store => server.fd store
  | .listening => config.listenFd

/-- The file the number was opened for. -/
def file : CloseCall → File
  | .client store => .client store
  | .listening => .listening

/-- The note of the call, with what the number denoted. -/
def event (denoted : Option File) : CloseCall → DescriptorEvent
  | .client store => .close store denoted
  | .listening => .closeListening denoted

end CloseCall

/-- The call an event notes, if it is the event of a `close` call. -/
def DescriptorEvent.closeCall : DescriptorEvent → Option CloseCall
  | .close store _ => some (.client store)
  | .closeListening _ => some .listening
  | _ => none

/-- The call `closeConnection` makes for a store, if any: the TLS handler
returns early for a null `m_SSL`. -/
def Server.closeConnectionCall (config : Config) (server : Server)
    (store : ConnectionId) : Option CloseCall :=
  if config.handler = .tls ∧ (server.store store).ssl = .null then none
  else some (.client store)

/-- The `close` call a step makes, if any. -/
def closeCall (config : Config) (server : Server) :
    Action → Option CloseCall
  | .accept (.handshake outcome) =>
      match server.acceptThread with
      | .admitting .initConnection store =>
          if (config.handler.initConnection (server.store store).ssl
              outcome).closes then
            some (.client store)
          else none
      | _ => none
  | .poller poller .proceed =>
      match server.pollerThread poller with
      | .busy .closeConnection store _ =>
          server.closeConnectionCall config store
      | _ => none
  | .worker worker .close =>
      match server.workerThread worker with
      | .callback task none =>
          server.closeConnectionCall config task.eventStorePointer
      | _ => none
  | .stop =>
      match server.stopThread with
      | .closeListening =>
          if config.handler = .tcp then some .listening else none
      | .closing (store :: _) => server.closeConnectionCall config store
      | _ => none
  | _ => none

/-- What a step does to the descriptor table, and what it notes, by the
`close` call it makes. -/
inductive TableStep (config : Config) (before after : Server) :
    Action → Option CloseCall → Prop where
  | closed (action : Action) (call : CloseCall)
      (file :
        after.kernel.file =
          update before.kernel.file (call.fd config before) none)
      (trace :
        after.descriptorTrace =
          before.descriptorTrace ++
            [call.event (before.kernel.file (call.fd config before))]) :
      TableStep config before after action (some call)
  | kept (action : Action) (file : after.kernel.file = before.kernel.file)
      (events : List DescriptorEvent)
      (trace : after.descriptorTrace = before.descriptorTrace ++ events)
      (no_close : ∀ event ∈ events, event.closeCall = none) :
      TableStep config before after action none
  | opened (number : Fd) (inetNtop : Bool) (ssl : SSLPointer)
      (unused : before.kernel.file number = none)
      (file :
        after.kernel.file =
          update before.kernel.file number (some (.client before.accepted)))
      (trace : after.descriptorTrace = before.descriptorTrace) :
      TableStep config before after
        (.accept (.accepted number inetNtop ssl)) none

namespace TableStep

variable {config : Config} {before after : Server} {action : Action}

/-- Steps that leave the table and the record alone. -/
theorem unchanged (file : after.kernel.file = before.kernel.file)
    (trace : after.descriptorTrace = before.descriptorTrace) :
    TableStep config before after action none := by
  apply TableStep.kept action file []
  · rw [trace, List.append_nil]
  · intro event member
    cases member

/-- Steps that note one event and leave the table alone. -/
theorem noted (file : after.kernel.file = before.kernel.file)
    (event : DescriptorEvent)
    (trace : after.descriptorTrace = before.descriptorTrace ++ [event])
    (no_close : event.closeCall = none) :
    TableStep config before after action none := by
  apply TableStep.kept action file [event] trace
  intro other member
  rw [List.mem_singleton.mp member]
  exact no_close

/-- A step that does no more to the table than `closeConnection` does. -/
theorem closeConnection (store : ConnectionId)
    (file :
      after.kernel.file = (before.closeConnection config store).kernel.file)
    (trace :
      after.descriptorTrace =
        (before.closeConnection config store).descriptorTrace) :
    TableStep config before after action
      (before.closeConnectionCall config store) := by
  unfold Server.closeConnectionCall
  unfold Server.closeConnection at file trace
  cases handler : config.handler with
  | tcp =>
      simp only [handler, reduceCtorEq, false_and, if_false] at file trace ⊢
      apply TableStep.closed _ (.client store)
      · rw [file]
        exact Kernel.close_file _ _
      · exact trace
  | tls =>
      simp only [handler, true_and] at file trace ⊢
      by_cases null : (before.store store).ssl = .null
      · simp only [null, if_true] at file trace ⊢
        exact unchanged file trace
      · simp only [null, if_false] at file trace ⊢
        apply TableStep.closed _ (.client store)
        · rw [file]
          exact Kernel.close_file _ _
        · exact trace

theorem acceptStep {choice : AcceptChoice}
    (taken : AcceptStep config before choice after) :
    TableStep config before after (.accept choice)
      (closeCall config before (.accept choice)) := by
  cases taken with
  | accepted fd ssl kernel at_point got =>
      obtain ⟨unused, rfl⟩ := Kernel.accept_spec got
      exact .opened fd _ ssl unused rfl rfl
  | ntopFailed fd ssl kernel at_point got =>
      obtain ⟨unused, rfl⟩ := Kernel.accept_spec got
      exact .opened fd _ ssl unused rfl rfl
  | initConnection store outcome at_point =>
      simp only [closeCall, at_point]
      unfold Server.initConnection
      dsimp only
      split
      · apply TableStep.closed _ (.client store)
        · exact Kernel.close_file _ _
        · rfl
      · exact unchanged rfl rfl
  | registered store kernel at_point added =>
      obtain ⟨_, -, -, -, file, -, -⟩ := Kernel.epollCtlAdd_spec added
      exact unchanged file rfl
  | _ => exact unchanged rfl rfl

theorem pollerStep {poller : PollerId} {choice : PollerChoice}
    (taken : PollerStep config before poller choice after) :
    TableStep config before after (.poller poller choice)
      (closeCall config before (.poller poller choice)) := by
  cases taken with
  | report reported entries kernel at_point waited =>
      obtain ⟨-, -, -, file, -, -⟩ := Kernel.epollWait_spec waited
      exact unchanged file rfl
  | timeout at_point => exact unchanged rfl rfl
  | epollDel store rest handler at_point handler_eq =>
      simp only [closeCall, at_point]
      exact noted (Kernel.epollCtlDel_file _ _ _) _ rfl rfl
  | closeConnection store rest at_point =>
      simp only [closeCall, at_point]
      exact closeConnection store rfl rfl
  | erase store rest at_point =>
      simp only [closeCall, at_point]
      exact noted rfl _ rfl rfl
  | _ =>
      simp only [closeCall, ‹before.pollerThread poller = _›]
      exact unchanged rfl rfl

theorem workerStep {worker : WorkerId} {choice : WorkerChoice}
    (taken : WorkerStep config before worker choice after) :
    TableStep config before after (.worker worker choice)
      (closeCall config before (.worker worker choice)) := by
  cases taken with
  | syscall choice task call next syscall result kernel transfers at_point
      transferred =>
      have silent :
          closeCall config before (.worker worker choice) = none := by
        cases choice with
        | close => cases transfers
        | _ => rfl
      rw [silent]
      exact noted (Kernel.transfer_file transferred) _ rfl rfl
  | close task at_point may_close =>
      simp only [closeCall, at_point]
      exact closeConnection task.eventStorePointer rfl rfl
  | _ => exact unchanged rfl rfl

theorem stopLine (taken : StopLine config before after) :
    TableStep config before after .stop
      (closeCall config before .stop) := by
  cases taken with
  | begin at_point =>
      rcases at_point with at_point | at_point
      · simp only [closeCall, at_point]
        exact unchanged rfl rfl
      · simp only [closeCall, at_point]
        exact unchanged rfl rfl
  | closeListening closed at_point closes =>
      simp only [closeCall, at_point]
      cases handler : config.handler with
      | tcp =>
          rw [Server.closeListening_tcp handler] at closes
          cases closes
          rw [if_pos rfl]
          apply TableStep.closed _ .listening
          · exact Kernel.close_file _ _
          · rfl
      | tls =>
          rw [Server.closeListening_tls handler closes, if_neg (by simp)]
          exact unchanged rfl rfl
  | closing store rest at_point =>
      simp only [closeCall, at_point]
      exact closeConnection store rfl rfl
  | _ =>
      simp only [closeCall, ‹before.stopThread = _›]
      exact unchanged rfl rfl

end TableStep

theorem tableStep_of_step {config : Config} {before after : Server}
    {action : Action}
    (taken : (tcpServer config).step before action = some after) :
    TableStep config before after action
      (closeCall config before action) := by
  cases serverStep_of_step taken with
  | network moved =>
      cases moved <;> exact TableStep.unchanged rfl rfl
  | accept choice moved => exact TableStep.acceptStep moved
  | poller poller choice bound moved => exact TableStep.pollerStep moved
  | worker worker choice bound moved => exact TableStep.workerStep moved
  | stop moved => exact TableStep.stopLine (stopLine_of_some taken)

/-! ## What a number denotes after a step -/

/-- What a number denotes after a step it denoted before, unless it is the
number `accept` returned. -/
theorem TableStep.file_before {config : Config} {before after : Server}
    {action : Action} {call : Option CloseCall}
    (effect : TableStep config before after action call) {fd : Fd}
    {file : File} (denotes : after.kernel.file fd = some file) :
    before.kernel.file fd = some file ∨
      file = .client before.accepted ∧
        ∃ inetNtop ssl, action = .accept (.accepted fd inetNtop ssl) := by
  cases effect with
  | closed _ call freed trace =>
      left
      by_cases same : fd = call.fd config before
      · rw [freed, same, Function.update_self] at denotes
        cases denotes
      · rw [freed, Function.update_of_ne same] at denotes
        exact denotes
  | kept _ same events trace no_close =>
      left
      rw [same] at denotes
      exact denotes
  | opened number inetNtop ssl unused opened trace =>
      by_cases same : fd = number
      · right
        rw [opened, same, Function.update_self] at denotes
        cases denotes
        exact ⟨rfl, inetNtop, ssl, by rw [same]⟩
      · left
        rw [opened, Function.update_of_ne same] at denotes
        exact denotes

/-- A step opens at most one number, for the next client. -/
theorem file_of_step {config : Config} {before after : Server}
    {action : Action}
    (taken : (tcpServer config).step before action = some after) :
    ∃ number, ∀ fd file, after.kernel.file fd = some file →
      before.kernel.file fd = some file ∨
        fd = number ∧ file = .client before.accepted := by
  have effect := tableStep_of_step taken
  by_cases accepts :
      ∃ number inetNtop ssl, action = .accept (.accepted number inetNtop ssl)
  · obtain ⟨number, inetNtop, ssl, rfl⟩ := accepts
    refine ⟨number, fun fd file denotes => ?_⟩
    rcases effect.file_before denotes with earlier | ⟨newest, _, _, same⟩
    · exact .inl earlier
    · cases same
      exact .inr ⟨rfl, newest⟩
  · refine ⟨0, fun fd file denotes => ?_⟩
    rcases effect.file_before denotes with
      earlier | ⟨-, inetNtop, ssl, same⟩
    · exact .inl earlier
    · exact absurd ⟨fd, inetNtop, ssl, same⟩ accepts

/-- A step of another thread than the accept thread opens nothing. -/
theorem file_of_other {config : Config} {before after : Server}
    {action : Action}
    (taken : (tcpServer config).step before action = some after)
    (not_accept : ∀ choice, action ≠ .accept choice) {fd : Fd} {file : File}
    (denotes : after.kernel.file fd = some file) :
    before.kernel.file fd = some file := by
  rcases (tableStep_of_step taken).file_before denotes with
    earlier | ⟨-, inetNtop, ssl, accepts⟩
  · exact earlier
  · exact absurd accepts (not_accept _)

/-- No step opens the listening socket again. -/
theorem listening_of_step {config : Config} {before after : Server}
    {action : Action}
    (taken : (tcpServer config).step before action = some after) {fd : Fd}
    (listens : after.kernel.file fd = some .listening) :
    before.kernel.file fd = some .listening := by
  rcases (tableStep_of_step taken).file_before listens with
    earlier | ⟨client, -⟩
  · exact earlier
  · cases client

end EventPlus
