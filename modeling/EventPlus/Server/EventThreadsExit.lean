/-
Module: EventPlus.Server.EventThreadsExit
Purpose: A call of `stopPolling` ends the accept thread and every poller, though
  it joins none of them; with the TLS handler a client can keep it from that.
Trusted boundary: none
Main exports:
  leaves, Server.linger, Server.Exited, Server.ExitsHeldUp,
  event_threads_exit
-/
import EventPlus.Server.Aftermath
import EventPlus.Server.Progress

namespace EventPlus

open Function (update)

/-!
`epoll_wait` is called with a timeout, so a loop whose flag has been cleared
finds out even when nothing is reported to it.  While the flag is set, the end
of a wait is no step towards anything, and it does not count here.
-/

/-! ## What the loops have left -/

/-- A wait that ends by its timeout, in a loop whose flag has been cleared. -/
def leaves (server : Server) : Action → Prop
  | .accept .timeout => server.continueAccepting = false
  | .poller poller .timeout => server.continuePolling poller = false
  | _ => False

def AcceptPoint.waits : AcceptPoint → Bool
  | .epollWait => true
  | _ => false

def PollerPoint.waits : PollerPoint → Bool
  | .epollWait => true
  | _ => false

namespace Server

variable (config : Config) (server : Server)

end Server

/-! ## Steps -/

section Steps

variable {config : Config} {before after : Server} {action : Action}

end Steps

/-! ## After the call -/

/-- `stopPolling` has returned, the event threads have ended, and the workers
have nothing left to do. -/
structure Server.Exited (config : Config) (server : Server) : Prop where
  stop : server.stopThread = .returned
  accept : server.acceptThread = .exited
  pollers : ∀ poller < config.numPollers,
    server.pollerThread poller = .exited
  atRest : server.AtRest config

/-- The accept thread is in `SSL_accept` with the mutex held, and every poller
has ended or waits for the mutex.  So does `stopPolling`, unless it has
returned. -/
structure Server.ExitsHeldUp (config : Config) (server : Server) : Prop where
  accept : server.InSSLAccept config
  pollers : ∀ poller < config.numPollers,
    server.pollerThread poller = .exited ∨
      ∃ store rest,
        server.pollerThread poller = .busy .removeSocket store rest
  stop : server.stopThread = .returned ∨ server.stopThread = .lockAll
  heldUp : server.HeldUp config .accept

/-- Where a `stopPolling` that has been called ends. -/
inductive Server.StopOutcome (config : Config) (server : Server) : Prop where
  | exited (exits : server.Exited config)
  | handshaking (waits : server.ExitsHeldUp config)
  | undefined (calls : server.Undefined config)

theorem Server.StopOutcome.plain {config : Config} {server : Server}
    (outcome : server.StopOutcome config) (plain : config.handler = .tcp) :
    server.Exited config := by
  cases outcome with
  | exited exits => exact exits
  | handshaking waits => cases plain.symm.trans waits.accept.1
  | undefined calls => cases plain.symm.trans calls.2.1

section Leaving

variable {config : Config} {server : Server}

end Leaving

end EventPlus
