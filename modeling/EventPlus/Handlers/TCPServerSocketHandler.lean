/-
Module: EventPlus.Handlers.TCPServerSocketHandler
Purpose: The plain socket handler as a machine that issues one system call at
  a time, so that other threads can run between two calls of one loop.
Trusted boundary: none
Main exports:
  Errno, Syscall, SysResult, Call, sendData, receiveData, receivePartialData,
  getAvailableDataInSocket, Call.syscall, Call.resume
-/
import EventPlus.Common.EventStore

namespace EventPlus

/-- The `errno` values the handlers tell apart.  `EWOULDBLOCK` is `EAGAIN` on
the platforms with epoll. -/
inductive Errno where
  | EINTR
  | EAGAIN
  | EBADF
  | other
deriving Repr, Inhabited, DecidableEq

/-- A system call on `eventStorePointer->m_socketId`. -/
inductive Syscall where
  | send (bytes : List UInt8)
  | ioctlFIONREAD
  | read (count : Nat)
deriving Repr, Inhabited, DecidableEq

/-- What the kernel reports back: a number of bytes taken by `send`, the bytes
delivered by `read` (none at end of file), the amount `ioctl` stored, or an
error. -/
inductive SysResult where
  | sent (count : Nat)
  | bytes (data : List UInt8)
  | available (amount : Int)
  | error (errno : Errno)
deriving Repr, Inhabited, DecidableEq

/-- The results a call can have.  `send` and `read` never report more than was
asked for. -/
def Syscall.admits : Syscall → SysResult → Bool
  | .send bytes, .sent count => count ≤ bytes.length
  | .ioctlFIONREAD, .available amount => 0 ≤ amount
  | .read count, .bytes data => data.length ≤ count
  | _, .error _ => true
  | _, _ => false

/-- A handler call in progress, at its next system call.  `ssl` stands for a
call of the TLS handler inside OpenSSL, which may issue any reads and writes
on the descriptor before it returns; `threw` is an exception that left the
call. -/
inductive Call where
  | sending (data : List UInt8) (totalSent : Nat)
  | sizing
  | reading (dataSize : Nat) (buffer : List UInt8)
  | querying
  | ssl
  | returned (value : Int) (appended : List UInt8)
  | threw
deriving Repr, Inhabited, DecidableEq

namespace TCPServerSocketHandler

/-- `initConnection` does nothing and succeeds. -/
def initConnection : Bool := true

/-- The head of the `while (totalSent < dataLength)` loop. -/
def sendLoop (data : List UInt8) (totalSent : Nat) : Call :=
  if totalSent < data.length then .sending data totalSent
  else .returned totalSent []

/-- The head of the `while (totalBytesRead < dataSize)` loop.  The buffer holds
the bytes read so far, which are appended when the loop is left. -/
def readLoop (dataSize : Nat) (buffer : List UInt8) : Call :=
  if buffer.length < dataSize then .reading dataSize buffer
  else .returned buffer.length buffer

def sendData (data : List UInt8) : Call := sendLoop data 0

/-- A negative size makes the `std::vector` constructor throw, before any
read. -/
def receivePartialData (dataSize : Int) : Call :=
  if dataSize < 0 then .threw else readLoop dataSize.toNat []

/-- `receiveData` asks for the available amount first. -/
def receiveData : Call := .sizing

def getAvailableDataInSocket : Call := .querying

end TCPServerSocketHandler

open TCPServerSocketHandler in
/-- The system call a handler call issues next. -/
def Call.syscall : Call → Option Syscall
  | .sending data totalSent => some (.send (data.drop totalSent))
  | .sizing => some .ioctlFIONREAD
  | .reading dataSize buffer => some (.read (dataSize - buffer.length))
  | .querying => some .ioctlFIONREAD
  | .ssl => none
  | .returned _ _ => none
  | .threw => none

open TCPServerSocketHandler in
/-- Continue a handler call with the result of its system call.  A failed
`ioctl` gives `-1`, which `receiveData` passes on as the size. -/
def Call.resume : Call → SysResult → Call
  | .sending data totalSent, .sent count =>
      if count = 0 then .returned 0 [] else sendLoop data (totalSent + count)
  | .sending data totalSent, .error .EINTR => .sending data totalSent
  | .sending _ _, .error _ => .returned (-1) []
  | .sizing, .available amount => receivePartialData amount
  | .sizing, .error _ => receivePartialData (-1)
  | .reading _ buffer, .bytes [] => .returned buffer.length buffer
  | .reading dataSize buffer, .bytes data => readLoop dataSize (buffer ++ data)
  | .reading dataSize buffer, .error .EINTR => .reading dataSize buffer
  | .reading _ buffer, .error .EAGAIN => .returned buffer.length buffer
  | .reading _ _, .error _ => .returned (-1) []
  | .querying, .available amount => .returned amount []
  | .querying, .error _ => .returned (-1) []
  | call, _ => call

/-- `sendData` and `receiveData` hold `m_socketMutex` from their first line to
their return; the other entry points do not take it. -/
def Call.locksSocketMutex : Call → Bool
  | .sending _ _ => true
  | .sizing => true
  | .ssl => true
  | _ => false

/-- A call is over once it has returned. -/
def Call.finished : Call → Bool
  | .returned _ _ => true
  | _ => false

end EventPlus
