/-
Module: EventPlus.Server.TaskLifetime
Purpose: Raw store pointers in the task queue against the lifetimes of the
  stores: exactly which steps leave a task with a store that is gone.
Trusted boundary: none
Main exports:
  Server.Pending, Server.TasksLive, sparesPending,
  tasksLive_throughout_iff
-/
import EventPlus.Server.StoreMap

namespace EventPlus

open Function (update)

namespace Server

/-- A task for the store is in the queue, or a worker has taken one and not
finished it. -/
def Pending (server : Server) (store : ConnectionId) : Prop :=
  (∃ task ∈ server.tasks, task.eventStorePointer = store) ∨
    ∃ worker task, (server.workerThread worker).task = some task ∧
      task.eventStorePointer = store

/-- Every queued or unfinished task refers to a store that has not been
destroyed. -/
def TasksLive (server : Server) : Prop :=
  ∀ store, server.Pending store → server.lifetime store ≠ .destroyed

end Server

/-- The steps after which all tasks still have their stores: a poller enqueues
tasks only for stores that exist, and a step that destroys a store (the
replacement of a map entry, the erasure in `removeSocket`, the `clear` of
`closeAllClientSocket`) is taken when no task for it is queued or
unfinished. -/
def sparesPending (server : Server) : Action → Prop
  | .accept _ =>
      ∀ store, server.acceptThread = .admitting .insert store →
        ∀ replaced, server.find (server.fd store) = some replaced →
          ¬ server.Pending replaced
  | .poller poller _ =>
      (∀ store rest,
        server.pollerThread poller = .busy .dispatch store rest ∨
            server.pollerThread poller = .busy .enqueue store rest →
          server.lifetime store ≠ .destroyed) ∧
        ∀ store rest, server.pollerThread poller = .busy .erase store rest →
          ∀ erased, server.find (server.fd store) = some erased →
            ¬ server.Pending erased
  | .stop =>
      server.stopThread = .closing [] →
        ∀ store ∈ server.ownedStores, ¬ server.Pending store
  | _ => True

namespace Server

/-! ## Single changes -/

theorem pending_enqueueTask {server : Server} {task : IOTask}
    {store : ConnectionId} :
    (server.enqueueTask task).Pending store ↔
      server.Pending store ∨ task.eventStorePointer = store := by
  constructor
  · rintro (⟨queued, member, same⟩ | held)
    · rcases List.mem_append.mp member with earlier | new
      · exact .inl (.inl ⟨queued, earlier, same⟩)
      · cases List.mem_singleton.mp new
        exact .inr same
    · exact .inl (.inr held)
  · rintro ((⟨queued, member, same⟩ | held) | same)
    · exact .inl ⟨queued, List.mem_append_left _ member, same⟩
    · exact .inr held
    · exact .inl ⟨task, List.mem_append_right _ (List.mem_singleton_self _),
        same⟩

/-- A new task needs its store. -/
theorem tasksLive_enqueueTask {server : Server} (live : server.TasksLive)
    (task : IOTask) :
    (server.enqueueTask task).TasksLive ↔
      server.lifetime task.eventStorePointer ≠ .destroyed := by
  constructor
  · intro after
    exact after _ (pending_enqueueTask.mpr (.inr rfl))
  · intro exists_store store pending
    rcases pending_enqueueTask.mp pending with earlier | rfl
    · exact live store earlier
    · exact exists_store

/-- A destruction must spare the stores with tasks. -/
theorem tasksLive_destroy {server : Server} (live : server.TasksLive)
    (dying : ConnectionId → Bool) :
    (server.destroy dying).TasksLive ↔
      ∀ store, dying store = true → ¬ server.Pending store := by
  constructor
  · intro after store dies pending
    apply after store pending
    simp [destroy, dies]
  · intro spared store pending
    have lives : dying store = false := by
      cases dies : dying store with
      | false => rfl
      | true => exact absurd pending (spared store dies)
    simp only [destroy, lives]
    exact live store pending

/-- Closing a connection concerns no task. -/
theorem pending_closeConnection (config : Config) (server : Server)
    (store : ConnectionId) {other : ConnectionId} :
    (server.closeConnection config store).Pending other ↔
      server.Pending other := by
  obtain ⟨_, _, _, result⟩ := server.closeConnection_frame config store
  rw [result]
  rfl

theorem tasksLive_closeConnection {server : Server} (live : server.TasksLive)
    (config : Config) (store : ConnectionId) :
    (server.closeConnection config store).TasksLive := by
  intro other pending
  rw [lifetime_closeConnection]
  exact live other ((server.pending_closeConnection config store).mp pending)

/-- A worker that moves on without a new task keeps at most the pending
tasks. -/
theorem pending_setWorker {server : Server} {worker : WorkerId}
    {point : WorkerPoint}
    (fewer : ∀ task, point.task = some task →
      server.Pending task.eventStorePointer)
    {store : ConnectionId}
    (pending : (server.setWorker worker point).Pending store) :
    server.Pending store := by
  rcases pending with queued | ⟨other, task, holds, same⟩
  · exact .inl queued
  · by_cases moved : other = worker
    · subst moved
      simp only [setWorker, Function.update_self] at holds
      exact same ▸ fewer task holds
    · simp only [setWorker, Function.update_of_ne moved] at holds
      exact .inr ⟨other, task, holds, same⟩

end Server

/-! ## Steps -/

/-- No step of a worker makes a store pending. -/
theorem pending_of_workerStep {config : Config} {before after : Server}
    {worker : WorkerId} {choice : WorkerChoice} {store : ConnectionId}
    (taken : WorkerStep config before worker choice after)
    (pending : after.Pending store) : before.Pending store := by
  have held : ∀ {point task}, before.workerThread worker = point →
      point.task = some task → before.Pending task.eventStorePointer := by
    rintro point task rfl holds
    exact .inr ⟨worker, task, holds, rfl⟩
  cases taken with
  | take task rest at_point queue =>
      rcases pending with ⟨queued, member, same⟩ | ⟨other, kept, holds, same⟩
      · exact .inl ⟨queued, queue ▸ List.mem_cons_of_mem _ member, same⟩
      · by_cases moved : other = worker
        · subst moved
          simp only [Server.setWorker_self] at holds
          cases holds
          exact .inl ⟨_, queue ▸ List.mem_cons_self, same⟩
        · simp only [Server.setWorker_of_ne moved] at holds
          exact .inr ⟨other, kept, holds, same⟩
  | dispatch task at_point =>
      apply Server.pending_setWorker _ pending
      rintro other ⟨⟩
      exact held at_point rfl
  | call task request call at_point =>
      apply Server.pending_setWorker _ pending
      rintro other ⟨⟩
      exact held at_point rfl
  | syscall choice task call next syscall result kernel transfers at_point
      transferred =>
      apply Server.pending_setWorker _ pending
      rintro other ⟨⟩
      exact held at_point rfl
  | returnCall task call at_point =>
      apply Server.pending_setWorker _ pending
      rintro other ⟨⟩
      exact held at_point rfl
  | close task at_point may_close =>
      exact (before.pending_closeConnection config _).mp pending
  | finish task at_point =>
      apply Server.pending_setWorker _ pending
      intro other holds
      cases holds

/-- A worker does not destroy stores. -/
theorem lifetime_of_workerStep {config : Config} {before after : Server}
    {worker : WorkerId} {choice : WorkerChoice}
    (taken : WorkerStep config before worker choice after) :
    after.lifetime = before.lifetime := by
  cases taken with
  | close task at_point may_close =>
      exact before.lifetime_closeConnection config _
  | _ => rfl

/-- Every step of a worker keeps the stores of the pending tasks. -/
theorem tasksLive_of_workerStep {config : Config} {before after : Server}
    {worker : WorkerId} {choice : WorkerChoice} (live : before.TasksLive)
    (taken : WorkerStep config before worker choice after) :
    after.TasksLive := by
  intro store pending
  rw [lifetime_of_workerStep taken]
  exact live store (pending_of_workerStep taken pending)

theorem tasksLive_acceptStep_iff {config : Config} {before after : Server}
    {choice : AcceptChoice} (live : before.TasksLive)
    (map : StoreMap before)
    (taken : AcceptStep config before choice after) :
    after.TasksLive ↔ sparesPending before (.accept choice) := by
  have elsewhere : ∀ {point}, before.acceptThread = point →
      (∀ store, point ≠ .admitting .insert store) →
        sparesPending before (.accept choice) := by
    rintro point rfl outside store at_point
    exact absurd at_point (outside store)
  cases taken with
  | accepted fd ssl kernel at_point got =>
      refine iff_of_true ?_ (elsewhere at_point (by simp))
      intro store pending
      by_cases newest : store = before.accepted
      · subst newest
        simp [Server.makeStore]
      · simp only [Server.makeStore, Function.update_of_ne newest]
        exact live store pending
  | initConnection store outcome at_point =>
      refine iff_of_true ?_ (elsewhere at_point (by simp))
      obtain ⟨_, _, _, result⟩ :=
        before.initConnection_frame config store outcome
      rw [result]
      exact live
  | insert store at_point =>
      refine (Server.tasksLive_destroy live _).trans ?_
      constructor
      · intro spared other here replaced found
        cases at_point.symm.trans here
        exact spared replaced (by simpa using found)
      · intro spared replaced dies
        exact spared store at_point replaced (by simpa using dies)
  | enqueue store at_point =>
      refine iff_of_true ?_ (elsewhere at_point (by simp))
      refine (Server.tasksLive_enqueueTask live _).mpr ?_
      simp [map.admitting_alive _ store at_point]
  | loop at_point => exact iff_of_true live (elsewhere at_point (by simp))
  | report at_point => exact iff_of_true live (elsewhere at_point (by simp))
  | timeout at_point => exact iff_of_true live (elsewhere at_point (by simp))
  | handleEvent at_point =>
      exact iff_of_true live (elsewhere at_point (by simp))
  | lock at_point free =>
      exact iff_of_true live (elsewhere at_point (by simp))
  | acceptFailed lost at_point =>
      exact iff_of_true live (elsewhere at_point (by simp))
  | ntopFailed fd ssl kernel at_point got =>
      exact iff_of_true live (elsewhere at_point (by simp))
  | registered store kernel at_point added =>
      exact iff_of_true live (elsewhere at_point (by simp))
  | refused store granted at_point =>
      exact iff_of_true live (elsewhere at_point (by simp))
  | backPointer poller store at_point =>
      exact iff_of_true live (elsewhere at_point (by simp))
  | unlock at_point => exact iff_of_true live (elsewhere at_point (by simp))

theorem tasksLive_pollerStep_iff {config : Config} {before after : Server}
    {poller : PollerId} {choice : PollerChoice} (live : before.TasksLive)
    (taken : PollerStep config before poller choice after) :
    after.TasksLive ↔ sparesPending before (.poller poller choice) := by
  have elsewhere : ∀ {point}, before.pollerThread poller = point →
      (∀ stage store rest, point = .busy stage store rest →
        stage ≠ .dispatch ∧ stage ≠ .enqueue ∧ stage ≠ .erase) →
          sparesPending before (.poller poller choice) := by
    rintro point rfl outside
    constructor
    · rintro store rest (at_point | at_point)
      · exact absurd rfl (outside _ store rest at_point).1
      · exact absurd rfl (outside _ store rest at_point).2.1
    · intro store rest at_point
      exact absurd rfl (outside _ store rest at_point).2.2
  have enqueued : ∀ {stage store rest},
      before.pollerThread poller = .busy stage store rest →
        stage = .dispatch ∨ stage = .enqueue →
          (before.lifetime store ≠ .destroyed ↔
            sparesPending before (.poller poller choice)) := by
    rintro stage store rest at_point which
    constructor
    · intro lives
      constructor
      · rintro other others (here | here)
        · cases at_point.symm.trans here
          exact lives
        · cases at_point.symm.trans here
          exact lives
      · intro other others here
        cases at_point.symm.trans here
        rcases which with impossible | impossible <;> cases impossible
    · rintro ⟨lives, -⟩
      rcases which with rfl | rfl
      · exact lives store rest (.inl at_point)
      · exact lives store rest (.inr at_point)
  cases taken with
  | dispatch store rest at_point =>
      exact (Server.tasksLive_enqueueTask live _).trans
        (enqueued at_point (.inl rfl))
  | enqueue store rest at_point =>
      exact (Server.tasksLive_enqueueTask live _).trans
        (enqueued at_point (.inr rfl))
  | erase store rest at_point =>
      have recorded : (before.record
          (.erase store (before.find (before.fd store)))).TasksLive := live
      refine (Server.tasksLive_destroy recorded _).trans ?_
      constructor
      · intro spared
        constructor
        · rintro other others (here | here)
          · cases at_point.symm.trans here
          · cases at_point.symm.trans here
        · intro other others here erased found
          cases at_point.symm.trans here
          exact spared erased (by simpa using found)
      · rintro ⟨-, spared⟩ erased dies
        exact spared store rest at_point erased (by simpa using dies)
  | closeConnection store rest at_point =>
      exact iff_of_true (Server.tasksLive_closeConnection live config store)
        (elsewhere at_point (by simp))
  | loop at_point => exact iff_of_true live (elsewhere at_point (by simp))
  | report reported entries kernel at_point waited =>
      exact iff_of_true live (elsewhere at_point (by simp))
  | timeout at_point => exact iff_of_true live (elsewhere at_point (by simp))
  | batchDone at_point =>
      exact iff_of_true live (elsewhere at_point (by simp))
  | hangUp entry rest at_point flag =>
      exact iff_of_true live (elsewhere at_point (by simp))
  | data entry rest at_point flag =>
      exact iff_of_true live (elsewhere at_point (by simp))
  | skipped entry rest at_point =>
      exact iff_of_true live (elsewhere at_point (by simp))
  | setIncoming store rest at_point =>
      exact iff_of_true live (elsewhere at_point (by simp))
  | lock store rest at_point free =>
      exact iff_of_true live (elsewhere at_point (by simp))
  | setClosed store rest at_point =>
      exact iff_of_true live (elsewhere at_point (by simp))
  | noHandler store rest at_point handler_eq =>
      exact iff_of_true live (elsewhere at_point (by simp))
  | epollDel store rest handler at_point handler_eq =>
      exact iff_of_true live (elsewhere at_point (by simp))
  | unlock store rest at_point =>
      exact iff_of_true live (elsewhere at_point (by simp))

theorem tasksLive_stopStep_iff {config : Config} {before after : Server}
    (live : before.TasksLive) (taken : StopStep config before after) :
    after.TasksLive ↔ sparesPending before .stop := by
  have elsewhere : before.stopThread ≠ .closing [] →
      sparesPending before .stop := fun outside at_point =>
    absurd at_point outside
  cases taken with
  | clear at_point =>
      refine (Server.tasksLive_destroy live _).trans ?_
      constructor
      · intro spared _ store owned
        exact spared store (by simpa using owned)
      · intro spared store owned
        exact spared at_point store (by simpa using owned)
  | closeListening closed at_point closes =>
      refine iff_of_true ?_ (elsewhere (by simp [at_point]))
      obtain ⟨_, _, result⟩ := Server.closeListening_frame closes
      rw [result]
      exact live
  | closing store rest at_point =>
      exact iff_of_true (Server.tasksLive_closeConnection live config store)
        (elsewhere (by simp [at_point]))
  | call at_point next still_outside =>
      refine iff_of_true live (elsewhere ?_)
      intro here
      rw [here] at at_point
      cases at_point
  | unregister at_point next still_outside =>
      refine iff_of_true live (elsewhere ?_)
      intro here
      rw [here] at at_point
      cases at_point
  | stopAccepting at_point =>
      exact iff_of_true live (elsewhere (by simp [at_point]))
  | stopPoller poller at_point =>
      exact iff_of_true live (elsewhere (by simp [at_point]))
  | closePollerEpoll poller at_point =>
      exact iff_of_true live (elsewhere (by simp [at_point]))
  | lockAll at_point free =>
      exact iff_of_true live (elsewhere (by simp [at_point]))
  | unlock at_point =>
      exact iff_of_true live (elsewhere (by simp [at_point]))

/-- A step leaves every pending task with its store exactly when it is one of
the steps described by `sparesPending`. -/
theorem tasksLive_serverStep_iff {config : Config} {before after : Server}
    {action : Action} (live : before.TasksLive) (map : StoreMap before)
    (taken : ServerStep config before action after) :
    after.TasksLive ↔ sparesPending before action := by
  cases taken with
  | network taken => cases taken <;> exact iff_of_true live trivial
  | accept choice taken => exact tasksLive_acceptStep_iff live map taken
  | poller poller choice bound taken =>
      exact tasksLive_pollerStep_iff live taken
  | worker worker choice bound taken =>
      exact iff_of_true (tasksLive_of_workerStep live taken) trivial
  | stop taken => exact tasksLive_stopStep_iff live taken

theorem tasksLive_start (config : Config) :
    (Server.start config).TasksLive := by
  rintro store (⟨task, member, -⟩ | ⟨worker, task, holds, -⟩)
  · cases member
  · cases holds

/-- Every task has its store in every state of a run exactly when every step of
the run spares the stores of pending tasks. -/
theorem tasksLive_throughout_iff (config : Config) (actions : List Action) :
    (tcpServer config).Throughout Server.TasksLive (Server.start config)
        actions ↔
      (tcpServer config).Along sparesPending (Server.start config)
        actions := by
  refine TransitionSystem.throughout_iff_along ?_ (.initial rfl)
    (tasksLive_start config) actions
  intro before action after reachable live taken
  exact tasksLive_serverStep_iff live (storeMap_of_reachable reachable)
    (serverStep_of_step taken)

/-- After a removal its own task is left with the erased store. -/
theorem not_tasksLive_of_removal :
    ¬ ∀ server, (tcpServer .single).Reachable server → server.TasksLive := by
  intro always
  obtain ⟨server, reachable, queued, destroyed⟩ :=
    exists_server_of_replay .single (fun _ _ => True)
      (fun server =>
        { eventStorePointer := 0, origin := .removal } ∈ server.tasks ∧
          server.lifetime 0 = .destroyed)
      (connectAndAdmit 4 ++ [.hangUp 0 .halfClose] ++ pollOne 0 0 ++
        handleHangUp 0)
      (by decide)
  exact always server reachable 0 (.inl ⟨_, queued, rfl⟩) destroyed

end EventPlus
