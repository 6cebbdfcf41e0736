/-
Module: EventPlus.Kernel.SocketTable
Purpose: The sockets that one piece of code opens and closes, the descriptor
  numbers they have, which the kernel gives out again, and the system calls
  made on them.
Trusted boundary: the behaviour of Linux described here
Main exports:
  SocketTable, SocketTable.denotes, SocketTable.close, Numbering,
  Numbering.lowestFrom, Addrinfo, SocketCall, Host, Host.socket, Host.close
-/
import Mathlib.Data.List.Perm.Subperm
import Mathlib.Logic.Function.Basic
import EventPlus.Common.EventStore
import EventPlus.Library.Ledger

namespace EventPlus

open Function (update)

/-! ## Descriptor numbers -/

/-- The sockets some code has opened, and the number each was given.  Two of
them that are open have different numbers. -/
structure SocketTable where
  ledger : Ledger
  number : Nat → Fd
  distinct : (ledger.live.map number).Nodup

namespace SocketTable

/-- No socket has been opened. -/
def empty : SocketTable where
  ledger := .empty
  number := fun _ => 0
  distinct := List.nodup_nil

variable (sockets : SocketTable)

/-- The numbers that are in use. -/
def numbers : List Fd := sockets.ledger.live.map sockets.number

/-- The open socket that a value passed to the kernel denotes. -/
def denotes : Int → Option Nat
  | .ofNat fd =>
      sockets.ledger.live.find? fun socket => sockets.number socket = fd
  | .negSucc _ => none

theorem numbers_make (fd : Fd) :
    sockets.ledger.make.live.map
        (update sockets.number sockets.ledger.made fd) =
      fd :: sockets.numbers := by
  rw [Ledger.live_make, List.map_cons, Function.update_self, numbers]
  congr 1
  apply List.map_congr_left
  intro socket live
  apply Function.update_of_ne
  exact Nat.ne_of_lt (Ledger.lt_of_live live)

/-- A new socket under a number that is not in use. -/
def allocate (fd : Fd) (unused : fd ∉ sockets.numbers) : SocketTable where
  ledger := sockets.ledger.make
  number := update sockets.number sockets.ledger.made fd
  distinct := by
    rw [numbers_make]
    exact List.nodup_cons.mpr ⟨unused, sockets.distinct⟩

variable {sockets}

theorem denotes_eq_some_iff {fd : Fd} {socket : Nat} :
    sockets.denotes fd = some socket ↔
      socket ∈ sockets.ledger.live ∧ sockets.number socket = fd := by
  change sockets.ledger.live.find? _ = some socket ↔ _
  constructor
  · intro found
    have here : sockets.number socket = fd := by
      simpa using List.find?_some found
    exact ⟨List.mem_of_find?_eq_some found, here⟩
  · rintro ⟨live, rfl⟩
    cases found : sockets.ledger.live.find?
        fun other => sockets.number other = sockets.number socket with
    | none =>
        rw [List.find?_eq_none] at found
        exact absurd (decide_eq_true rfl) (found socket live)
    | some other =>
        have same : sockets.number other = sockets.number socket := by
          simpa using List.find?_some found
        rw [List.inj_on_of_nodup_map sockets.distinct
          (List.mem_of_find?_eq_some found) live same]

variable (sockets)

theorem distinct_release (socket : Nat) :
    ((sockets.ledger.release socket).live.map
      sockets.number).Nodup := by
  refine List.Sublist.nodup (List.Sublist.map _ ?_) sockets.distinct
  unfold Ledger.release
  split
  · exact List.erase_sublist
  · exact List.Sublist.refl _

/-- `close(fd)`.  It goes astray where the value denotes no open socket of this
code. -/
def close (fd : Int) : SocketTable :=
  match sockets.denotes fd with
  | none => { sockets with ledger := sockets.ledger.stray }
  | some socket =>
      { ledger := sockets.ledger.release socket
        number := sockets.number
        distinct := sockets.distinct_release socket }

end SocketTable

/-- How the kernel chooses the number of a new descriptor: any that is not in
use. -/
structure Numbering where
  next : SocketTable → Fd
  unused : ∀ sockets, next sockets ∉ sockets.numbers

namespace Numbering

/-- Of more numbers than are in use, one is not. -/
theorem exists_unused (first : Fd) (numbers : List Fd) :
    ∃ fd, ((List.range (numbers.length + 1)).map (first + ·)).find?
      (fun fd => fd ∉ numbers) = some fd := by
  apply Option.isSome_iff_exists.mp
  rw [List.find?_isSome]
  by_contra all_used
  have inside :
      (List.range (numbers.length + 1)).map (first + ·) ⊆ numbers := by
    intro fd offered
    by_contra unused
    exact all_used ⟨fd, offered, decide_eq_true unused⟩
  have distinct : ((List.range (numbers.length + 1)).map (first + ·)).Nodup :=
    List.nodup_range.map fun _ _ => Nat.add_left_cancel
  have fits := (List.subperm_of_subset distinct inside).length_le
  rw [List.length_map, List.length_range] at fits
  omega

/-- The lowest number from `first` on, as a process gets it whose other
descriptors are those below `first`. -/
def lowestFrom (first : Fd) : Numbering where
  next := fun sockets =>
    (((List.range (sockets.numbers.length + 1)).map (first + ·)).find?
      (fun fd => fd ∉ sockets.numbers)).getD 0
  unused := by
    intro sockets
    obtain ⟨fd, found⟩ := exists_unused first sockets.numbers
    rw [found, Option.getD_some]
    simpa using List.find?_some found

end Numbering

/-! ## System calls -/

/-- The fields of `struct addrinfo` that are passed on. -/
structure Addrinfo where
  family : Int
  socktype : Int
  protocol : Int
  addr : List UInt8
deriving Repr, Inhabited, DecidableEq

/-- A call that concerns a socket or a list of addresses. -/
inductive SocketCall where
  | socket (family socktype protocol : Int)
  | connect (fd : Int) (addr : List UInt8)
  | bind (fd : Int) (port : BitVec 16) (addr : BitVec 32)
  | listen (fd : Int)
  | close (fd : Int)
  | setNonBlocking (fd : Int)
  | freeaddrinfo
deriving Repr, Inhabited, DecidableEq

/-- The sockets, and a history of the calls. -/
structure Host where
  sockets : SocketTable
  calls : List SocketCall

namespace Host

def empty : Host where
  sockets := .empty
  calls := []

variable (numbering : Numbering) (host : Host)

/-- A call that opens and closes nothing. -/
def call (call : SocketCall) : Host :=
  { host with calls := host.calls ++ [call] }

/-- `socket`, with `-1` where the kernel refuses. -/
def socket (family socktype protocol : Int) (created : Bool) : Int × Host :=
  let called := host.call (.socket family socktype protocol)
  if created then
    (numbering.next host.sockets,
      { called with
          sockets :=
            host.sockets.allocate (numbering.next host.sockets)
              (numbering.unused host.sockets) })
  else (-1, called)

def close (fd : Int) : Host :=
  { host.call (.close fd) with sockets := host.sockets.close fd }

/-- The sockets after a socket has been opened. -/
def allocated : SocketTable :=
  host.sockets.allocate (numbering.next host.sockets)
    (numbering.unused host.sockets)

variable {numbering} {host} {family socktype protocol : Int}

theorem socket_refused :
    host.socket numbering family socktype protocol false =
      (-1, host.call (.socket family socktype protocol)) :=
  rfl

theorem socket_created :
    host.socket numbering family socktype protocol true =
      ((numbering.next host.sockets : Int),
        { host.call (.socket family socktype protocol) with
            sockets := host.allocated numbering }) :=
  rfl

theorem fd_ne_neg_one (fd : Fd) : (fd : Int) ≠ -1 := by
  omega

/-- The number of a new socket denotes it. -/
theorem denotes_allocated :
    (host.allocated numbering).denotes (numbering.next host.sockets) =
      some host.sockets.ledger.made := by
  rw [SocketTable.denotes_eq_some_iff]
  constructor
  · exact List.mem_cons_self
  · exact Function.update_self _ _ _

/-- Closing a socket at once releases it. -/
theorem ledger_close_allocated :
    ((host.allocated numbering).close
      (numbering.next host.sockets)).ledger =
      host.sockets.ledger.make.release host.sockets.ledger.made := by
  rw [SocketTable.close, denotes_allocated]
  rfl

theorem number_close_allocated :
    ((host.allocated numbering).close
      (numbering.next host.sockets)).number =
      update host.sockets.number host.sockets.ledger.made
        (numbering.next host.sockets) := by
  rw [SocketTable.close, denotes_allocated]
  rfl

end Host

end EventPlus
