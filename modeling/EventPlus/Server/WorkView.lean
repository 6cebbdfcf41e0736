/-
Module: EventPlus.Server.WorkView
Purpose: The tasks of the server, from `handleIOEvent` to the end of their
  callbacks, are a work queue as well.
Trusted boundary: none
Main exports:
  Server.workView, Server.workEvent, Server.refines_workQueue,
  server_runs_as_workQueue
-/
import EventPlus.Library.Refinement
import EventPlus.Library.WorkQueue
import EventPlus.Server.Transitions

namespace EventPlus

open Function (update)

/-- A worker has its task from `take` to the end of the callback. -/
def WorkerPoint.hand : WorkerPoint → WorkQueue.Hand ConnectionId
  | .idle => .empty
  | .taken task => .holding task.eventStorePointer
  | .callback task _ => .doing task.eventStorePointer

namespace Server

/-- The server's tasks and what its workers do with them. -/
def workView (server : Server) : WorkQueue WorkerId ConnectionId where
  queue := server.tasks.map (·.eventStorePointer)
  hand := fun worker => (server.workerThread worker).hand

/-- The steps that enqueue a task, take one, and begin and end a callback. -/
def workEvent (server : Server) :
    Action → Option (WorkQueue.Event WorkerId ConnectionId)
  | .accept .proceed =>
      match server.acceptThread with
      | .admitting .enqueue store => some (.put store)
      | _ => none
  | .poller poller .proceed =>
      match server.pollerThread poller with
      | .busy .dispatch store _ | .busy .enqueue store _ =>
          some (.put store)
      | _ => none
  | .worker worker .take =>
      server.tasks.head?.map fun task => .take worker task.eventStorePointer
  | .worker worker .dispatch =>
      match server.workerThread worker with
      | .taken task => some (.start worker task.eventStorePointer)
      | _ => none
  | .worker worker .finish =>
      match server.workerThread worker with
      | .callback task none => some (.finish worker task.eventStorePointer)
      | _ => none
  | _ => none

section View

variable (server : Server)

theorem workView_setWorker (worker : WorkerId) (point : WorkerPoint) :
    (server.setWorker worker point).workView =
      server.workView.setHand worker point.hand := by
  have hands : (fun other =>
      (update server.workerThread worker point other).hand) =
        update (fun other => (server.workerThread other).hand) worker
          point.hand := by
    funext other
    by_cases here : other = worker
    · subst here
      rw [Function.update_self, Function.update_self]
    · rw [Function.update_of_ne here, Function.update_of_ne here]
  unfold workView WorkQueue.setHand
  rw [← hands]
  rfl

/-- A worker that neither takes a task nor ends its callback. -/
theorem workView_moves {worker : WorkerId} {old point : WorkerPoint}
    (at_point : server.workerThread worker = old)
    (same : old.hand = point.hand) :
    (server.setWorker worker point).workView = server.workView := by
  rw [workView_setWorker]
  apply WorkQueue.setHand_self
  rw [← same, ← at_point]
  rfl

theorem workView_enqueueTask (task : IOTask) :
    (server.enqueueTask task).workView =
      { server.workView with
          queue := server.workView.queue ++ [task.eventStorePointer] } := by
  simp only [workView, enqueueTask, List.map_append, List.map_cons,
    List.map_nil]

theorem workView_closeConnection (config : Config) (store : ConnectionId) :
    (server.closeConnection config store).workView = server.workView := by
  obtain ⟨_, _, _, result⟩ := server.closeConnection_frame config store
  rw [result]
  rfl

end View

end Server

/-! ## Single steps -/

section Steps

variable {config : Config} {before after : Server}

/-- What the accept thread enqueues is put into the work queue. -/
theorem AcceptStep.workView {choice : AcceptChoice}
    (taken : AcceptStep config before choice after) :
    (workQueue WorkerId ConnectionId).Shows before.workView
      (before.workEvent (.accept choice)) after.workView := by
  cases taken with
  | initConnection store outcome at_point =>
      obtain ⟨_, _, _, result⟩ :=
        before.initConnection_frame config store outcome
      rw [result]
      rfl
  | loop at_point =>
      simp only [Server.workEvent, at_point]
      rfl
  | handleEvent at_point =>
      simp only [Server.workEvent, at_point]
      rfl
  | lock at_point free =>
      simp only [Server.workEvent, at_point]
      rfl
  | backPointer poller store at_point =>
      simp only [Server.workEvent, at_point]
      rfl
  | insert store at_point =>
      simp only [Server.workEvent, at_point]
      rfl
  | enqueue store at_point =>
      simp only [Server.workEvent, at_point]
      exact WorkQueue.put_eq.trans
        (congrArg some
          (before.workView_enqueueTask
            { eventStorePointer := store, origin := .accept }).symm)
  | unlock at_point =>
      simp only [Server.workEvent, at_point]
      rfl
  | _ => rfl

/-- What a poller enqueues is put into the work queue. -/
theorem PollerStep.workView {poller : PollerId} {choice : PollerChoice}
    (taken : PollerStep config before poller choice after) :
    (workQueue WorkerId ConnectionId).Shows before.workView
      (before.workEvent (.poller poller choice)) after.workView := by
  cases taken with
  | report reported entries kernel at_point waited => rfl
  | timeout at_point => rfl
  | dispatch store rest at_point =>
      simp only [Server.workEvent, at_point]
      exact WorkQueue.put_eq.trans
        (congrArg some
          (before.workView_enqueueTask
            { eventStorePointer := store, origin := .data }).symm)
  | closeConnection store rest at_point =>
      simp only [Server.workEvent, at_point]
      exact before.workView_closeConnection config store
  | enqueue store rest at_point =>
      simp only [Server.workEvent, at_point]
      exact WorkQueue.put_eq.trans
        (congrArg some
          (before.workView_enqueueTask
            { eventStorePointer := store, origin := .removal }).symm)
  | loop at_point =>
      simp only [Server.workEvent, at_point]
      rfl
  | batchDone at_point =>
      simp only [Server.workEvent, at_point]
      rfl
  | hangUp entry rest at_point flag =>
      simp only [Server.workEvent, at_point]
      rfl
  | data entry rest at_point flag =>
      simp only [Server.workEvent, at_point]
      rfl
  | skipped entry rest at_point =>
      simp only [Server.workEvent, at_point]
      rfl
  | setIncoming store rest at_point =>
      simp only [Server.workEvent, at_point]
      rfl
  | lock store rest at_point free =>
      simp only [Server.workEvent, at_point]
      rfl
  | setClosed store rest at_point =>
      simp only [Server.workEvent, at_point]
      rfl
  | noHandler store rest at_point handler_eq =>
      simp only [Server.workEvent, at_point]
      rfl
  | epollDel store rest handler at_point handler_eq =>
      simp only [Server.workEvent, at_point]
      rfl
  | erase store rest at_point =>
      simp only [Server.workEvent, at_point]
      rfl
  | unlock store rest at_point =>
      simp only [Server.workEvent, at_point]
      rfl

/-- A worker takes its task from the queue, and keeps it in hand while its
callback runs. -/
theorem WorkerStep.workView {worker : WorkerId} {choice : WorkerChoice}
    (taken : WorkerStep config before worker choice after) :
    (workQueue WorkerId ConnectionId).Shows before.workView
      (before.workEvent (.worker worker choice)) after.workView := by
  cases taken with
  | take task rest at_point queue =>
      have here : before.workView.hand worker = .empty := by
        simp only [Server.workView, at_point]
        rfl
      have items : before.workView.queue =
          task.eventStorePointer :: rest.map (·.eventStorePointer) := by
        simp only [Server.workView, queue, List.map_cons]
      simp only [Server.workEvent, queue, List.head?_cons, Option.map_some]
      apply (WorkQueue.take_eq here items).trans
      rw [Server.workView_setWorker]
      rfl
  | dispatch task at_point =>
      have here : before.workView.hand worker =
          .holding task.eventStorePointer := by
        simp only [Server.workView, at_point]
        rfl
      simp only [Server.workEvent, at_point]
      apply (WorkQueue.start_eq here).trans
      rw [Server.workView_setWorker]
      rfl
  | call task request call at_point =>
      exact (before.lockSocket worker task.eventStorePointer
        call).workView_moves at_point rfl
  | syscall choice task call next syscall result kernel transfers at_point
      transferred =>
      have silent : before.workEvent (.worker worker choice) = none := by
        cases choice with
        | syscall result => rfl
        | sslSyscall syscall result => rfl
        | _ => cases transfers
      rw [silent]
      exact Server.workView_moves _ at_point rfl
  | returnCall task call at_point =>
      exact (before.unlockSocket worker
        task.eventStorePointer).workView_moves at_point rfl
  | close task at_point may_close =>
      exact before.workView_closeConnection config task.eventStorePointer
  | finish task at_point =>
      have here : before.workView.hand worker =
          .doing task.eventStorePointer := by
        simp only [Server.workView, at_point]
        rfl
      simp only [Server.workEvent, at_point]
      apply (WorkQueue.finish_eq here).trans
      rw [Server.workView_setWorker]
      rfl

/-- One step of the server is one step of the work queue or none. -/
theorem ServerStep.workView {action : Action}
    (taken : ServerStep config before action after) :
    (workQueue WorkerId ConnectionId).Shows before.workView
      (before.workEvent action) after.workView := by
  cases taken with
  | network taken => cases taken <;> rfl
  | accept choice taken => exact taken.workView
  | poller poller choice bound taken => exact taken.workView
  | worker worker choice bound taken => exact taken.workView
  | stop taken =>
      cases taken with
      | closeListening closed at_point closes =>
          obtain ⟨_, _, result⟩ := Server.closeListening_frame closes
          rw [result]
          rfl
      | closing store rest at_point =>
          exact before.workView_closeConnection config store
      | _ => rfl

end Steps

namespace Server

theorem refines_workQueue {config : Config} :
    Refinement (tcpServer config) (workQueue WorkerId ConnectionId) workView
      workEvent := by
  apply Refinement.of_step
  · rintro state rfl
    rfl
  · intro before action after _ taken
    exact (serverStep_of_step taken).workView

end Server

/-- In every run of the server, with either handler and before, during and
after `stopPolling`, what happens to the tasks of all connections together is a
run of one first-in first-out work queue: what `handleIOEvent`, `handleEvent`
and `removeSocket` enqueue, what the workers take, and the beginnings and ends
of the callbacks.  No other step of any thread changes the queue or what a
worker has in hand. -/
theorem server_runs_as_workQueue {config : Config} {actions : List Action}
    {last : Server}
    (ran : (tcpServer config).run (Server.start config) actions =
      some last) :
    (workQueue WorkerId ConnectionId).run
        { queue := [], hand := fun _ => .empty }
        ((tcpServer config).trace Server.workEvent (Server.start config)
          actions) =
      some last.workView :=
  Server.refines_workQueue.run (.initial rfl) ran

/-- The task of an admitted connection runs while its first data event is
enqueued. -/
theorem server_runs_as_workQueue_data :
    ∃ (actions : List Action) (last : Server),
      (tcpServer .single).trace Server.workEvent (Server.start .single)
            actions =
          [.put 0, .take 0 0, .start 0 0, .put 0] ∧
        last.tasks.length = 1 ∧
        (workQueue WorkerId ConnectionId).run
            { queue := [], hand := fun _ => .empty }
            ((tcpServer .single).trace Server.workEvent
              (Server.start .single) actions) =
          some last.workView := by
  obtain ⟨last, ran, queued⟩ :=
    TransitionSystem.exists_last_of_run
      (show ((tcpServer .single).run (Server.start .single)
          (connectAndAdmit 4 ++
            [.worker 0 .take, .worker 0 .dispatch, .segment 0 5] ++
            pollOne 0 0 ++ handleData 0)).any
          (fun server => server.tasks.length = 1) = true by
        decide)
  exact ⟨_, last, by decide, queued, server_runs_as_workQueue ran⟩

end EventPlus
