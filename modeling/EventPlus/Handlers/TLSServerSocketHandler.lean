/-
Module: EventPlus.Handlers.TLSServerSocketHandler
Purpose: The TLS handler's connection set-up, and the choice between the two
  server handlers that the event store makes through its base pointer.
Trusted boundary: OpenSSL, through the outcomes of its calls
Main exports:
  Handshake, InitResult, TLSServerSocketHandler.initConnection, Handler,
  Request
-/
import EventPlus.Handlers.TCPServerSocketHandler

namespace EventPlus

/-- Outcomes of the OpenSSL calls of `initConnection`: whether
`getNewCertificate` returned an object, and the result of `SSL_accept`. -/
structure Handshake where
  certificate : Bool
  sslAccept : Int
deriving Repr, Inhabited, DecidableEq

/-- What `initConnection` returns, what it leaves in `m_SSL`, and whether it
closed the descriptor. -/
structure InitResult where
  succeeded : Bool
  ssl : SSLPointer
  closes : Bool
deriving Repr, Inhabited, DecidableEq

namespace TLSServerSocketHandler

/-- `initConnection`.  The first test reads the field before anything has
written it, and that exit leaves the descriptor open. -/
def initConnection (ssl : SSLPointer) (handshake : Handshake) : InitResult :=
  if ssl = .null then
    { succeeded := false, ssl := .null, closes := false }
  else if handshake.certificate = false then
    { succeeded := false, ssl := .null, closes := true }
  else if handshake.sslAccept ≤ 0 then
    { succeeded := false, ssl := .null, closes := true }
  else
    { succeeded := true, ssl := .object, closes := false }

/-- The set-up succeeds exactly when the field was not null beforehand, an SSL
object was made, and the handshake completed. -/
theorem initConnection_succeeded_iff (ssl : SSLPointer)
    (handshake : Handshake) :
    (initConnection ssl handshake).succeeded = true ↔
      ssl ≠ .null ∧ handshake.certificate = true ∧
        0 < handshake.sslAccept := by
  unfold initConnection
  split
  · rename_i null
    simp [null]
  · rename_i nonNull
    split
    · rename_i noCertificate
      simp [noCertificate]
    · rename_i certificate
      split
      · rename_i failed
        simp [Int.not_lt.mpr failed]
      · rename_i completed
        simp [nonNull, certificate, Int.not_le.mp completed]

theorem initConnection_closes_of_succeeded {ssl : SSLPointer}
    {handshake : Handshake}
    (succeeded : (initConnection ssl handshake).succeeded = true) :
    (initConnection ssl handshake).closes = false := by
  obtain ⟨nonNull, certificate, accepted⟩ :=
    (initConnection_succeeded_iff ssl handshake).mp succeeded
  have completed : ¬ handshake.sslAccept ≤ 0 := by omega
  simp [initConnection, nonNull, certificate, completed]

end TLSServerSocketHandler

/-- The handler installed with `setSocketOperationHandler`. -/
inductive Handler where
  | tcp
  | tls
deriving Repr, Inhabited, DecidableEq

/-- `BaseSocketHandler::initConnection`. -/
def Handler.initConnection (handler : Handler) (ssl : SSLPointer)
    (handshake : Handshake) : InitResult :=
  match handler with
  | .tcp =>
      { succeeded := TCPServerSocketHandler.initConnection
        ssl := ssl
        closes := false }
  | .tls => TLSServerSocketHandler.initConnection ssl handshake

theorem Handler.initConnection_closes_of_succeeded {handler : Handler}
    {ssl : SSLPointer} {handshake : Handshake}
    (succeeded : (handler.initConnection ssl handshake).succeeded = true) :
    (handler.initConnection ssl handshake).closes = false := by
  cases handler with
  | tcp => rfl
  | tls =>
      exact TLSServerSocketHandler.initConnection_closes_of_succeeded succeeded

/-- The data operations a receiver can ask of its store. -/
inductive Request where
  | sendData (data : List UInt8)
  | receiveData
  | receivePartialData (dataSize : Int)
  | getAvailableDataInSocket
deriving Repr, Inhabited, DecidableEq

/-- The call a request starts.  The TLS entry points return `-1` for a null
`m_SSL`, and `getAvailableDataInSocket` is not implemented there. -/
def Handler.start (handler : Handler) (ssl : SSLPointer) :
    Request → Call
  | .sendData data =>
      match handler with
      | .tcp => TCPServerSocketHandler.sendData data
      | .tls => if ssl = .null then .returned (-1) [] else .ssl
  | .receiveData =>
      match handler with
      | .tcp => TCPServerSocketHandler.receiveData
      | .tls => if ssl = .null then .returned (-1) [] else .ssl
  | .receivePartialData dataSize =>
      match handler with
      | .tcp => TCPServerSocketHandler.receivePartialData dataSize
      | .tls => if ssl = .null then .returned (-1) [] else .ssl
  | .getAvailableDataInSocket =>
      match handler with
      | .tcp => TCPServerSocketHandler.getAvailableDataInSocket
      | .tls => .returned (-1) []

end EventPlus
