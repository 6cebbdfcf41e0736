/-
Module: EventPlus.Handlers.SendData
Purpose: One call of the TCP handler on its own, driven by the results of its
  system calls, and what the value `sendData` returns says about the bytes the
  kernel accepted.
Trusted boundary: none
Main exports:
  handlerCall, Call.transmitted, Call.consumed, ReportsProgress,
  SysResult.takesBytes, SysResult.stopsSend, CutShort, sendData_reports_iff
-/
import EventPlus.Handlers.TCPServerSocketHandler
import EventPlus.Library.TransitionSystem

namespace EventPlus

open TCPServerSocketHandler

/-! ## A call and its system calls -/

/-- The bytes a system call hands to the kernel. -/
def Syscall.accepted : Syscall → SysResult → List UInt8
  | .send bytes, .sent count => bytes.take count
  | _, _ => []

/-- The bytes a system call takes from the connection. -/
def Syscall.received : Syscall → SysResult → List UInt8
  | .read _, .bytes data => data
  | _, _ => []

/-- A handler call that goes on with every result its system call can have. -/
def handlerCall : TransitionSystem Call SysResult where
  initial := fun _ => True
  step := fun call result =>
    match call.syscall with
    | some syscall =>
        if syscall.admits result then some (call.resume result) else none
    | none => none

/-- What the kernel has accepted after these results. -/
def Call.transmitted : Call → List SysResult → List UInt8
  | _, [] => []
  | call, result :: rest =>
      (call.syscall.elim [] fun syscall => syscall.accepted result) ++
        (call.resume result).transmitted rest

/-- What has been taken from the connection after these results. -/
def Call.consumed : Call → List SysResult → List UInt8
  | _, [] => []
  | call, result :: rest =>
      (call.syscall.elim [] fun syscall => syscall.received result) ++
        (call.resume result).consumed rest

theorem handlerCall_step {before after : Call} {result : SysResult}
    (taken : handlerCall.step before result = some after) :
    ∃ syscall, before.syscall = some syscall ∧
      syscall.admits result = true ∧ after = before.resume result := by
  simp only [handlerCall] at taken
  split at taken
  · split at taken
    · cases taken
      exact ⟨_, ‹_›, ‹_›, rfl⟩
    · cases taken
  · cases taken

/-- A call that has returned makes no more system calls. -/
theorem run_returned {value : Int} {appended : List UInt8}
    {results : List SysResult} {last : Call}
    (ran : handlerCall.run (.returned value appended) results = some last) :
    results = [] ∧ last = .returned value appended := by
  cases results with
  | nil =>
      cases ran
      exact ⟨rfl, rfl⟩
  | cons result rest =>
      obtain ⟨after, taken, -⟩ := TransitionSystem.run_cons ran
      cases taken

/-! ## `sendData` -/

/-- What a caller may conclude from the value: the kernel has the first `value`
bytes, and none when it is `-1`. -/
structure ReportsProgress (data transmitted : List UInt8) (value : Int) :
    Prop where
  progress : 0 ≤ value →
    transmitted = data.take value.toNat ∧ (transmitted.length : Int) = value
  failure : value = -1 → transmitted = []

/-- A `send` that takes bytes. -/
def SysResult.takesBytes : SysResult → Bool
  | .sent count => 0 < count
  | _ => false

/-- A result that makes `sendData` return before the end of its data. -/
def SysResult.stopsSend : SysResult → Bool
  | .sent count => count = 0
  | .error errno => errno ≠ .EINTR
  | _ => false

/-- The call is stopped after a `send` that took bytes. -/
def CutShort (results : List SysResult) : Prop :=
  (∃ result ∈ results, result.takesBytes = true) ∧
    ∃ result ∈ results, result.stopsSend = true

theorem sendLoop_of_lt {data : List UInt8} {totalSent : Nat}
    (more : totalSent < data.length) :
    sendLoop data totalSent = .sending data totalSent :=
  if_pos more

theorem sendLoop_of_le {data : List UInt8} {totalSent : Nat}
    (finished : data.length ≤ totalSent) :
    sendLoop data totalSent = .returned totalSent [] :=
  if_neg (Nat.not_lt.mpr finished)

/-- How a call that has sent `totalSent` bytes goes on to its end. -/
structure SendEnds (data : List UInt8) (totalSent : Nat)
    (results : List SysResult) (transmitted : List UInt8) (value : Int) :
    Prop where
  followed : transmitted = (data.drop totalSent).take transmitted.length
  complete : (∀ result ∈ results, result.stopsSend = false) →
    value = data.length ∧ totalSent + transmitted.length = data.length
  stopped : (∃ result ∈ results, result.stopsSend = true) →
    (value = 0 ∨ value = -1) ∧
      totalSent + transmitted.length < data.length
  nothing : transmitted = [] ↔
    ∀ result ∈ results, result.takesBytes = false

section Loop

variable {data : List UInt8} {totalSent : Nat} {rest : List SysResult}
  {value : Int}

/-- The call stops with this result. -/
theorem SendEnds.stop (more : totalSent < data.length) {result : SysResult}
    (stops : result.stopsSend = true) (empty : result.takesBytes = false)
    (small : value = 0 ∨ value = -1) :
    SendEnds data totalSent [result] [] value where
  followed := rfl
  complete := by
    intro never
    have goes_on := never result List.mem_cons_self
    rw [stops] at goes_on
    cases goes_on
  stopped := fun _ => ⟨small, more⟩
  nothing := by simp [empty]

/-- An interrupted `send` is repeated. -/
theorem SendEnds.interrupted {transmitted : List UInt8}
    (ends : SendEnds data totalSent rest transmitted value) :
    SendEnds data totalSent (.error .EINTR :: rest) transmitted value where
  followed := ends.followed
  complete := by
    intro never
    exact ends.complete fun result member =>
      never result (List.mem_cons_of_mem _ member)
  stopped := by
    rintro ⟨result, member, stops⟩
    apply ends.stopped
    cases member with
    | head => cases stops
    | tail _ later => exact ⟨result, later, stops⟩
  nothing := by
    rw [ends.nothing, List.forall_mem_cons]
    simp [SysResult.takesBytes]

/-- A `send` takes the next bytes. -/
theorem SendEnds.sent {count : Nat} (some_bytes : 0 < count)
    (fits : totalSent + count ≤ data.length) {transmitted : List UInt8}
    (ends : SendEnds data (totalSent + count) rest transmitted value) :
    SendEnds data totalSent (.sent count :: rest)
      ((data.drop totalSent).take count ++ transmitted) value := by
  have length : ((data.drop totalSent).take count).length = count := by
    rw [List.length_take, List.length_drop]
    omega
  refine ⟨?_, ?_, ?_, ?_⟩
  · rw [List.length_append, length, List.take_add, List.drop_drop,
      ← ends.followed]
  · intro never
    have later := ends.complete fun result member =>
      never result (List.mem_cons_of_mem _ member)
    rw [List.length_append, length]
    omega
  · rintro ⟨result, member, stops⟩
    rw [List.length_append, length]
    have later : ∃ result ∈ rest, result.stopsSend = true := by
      cases member with
      | head => simp [SysResult.stopsSend] at stops; omega
      | tail _ later => exact ⟨result, later, stops⟩
    have ended := ends.stopped later
    exact ⟨ended.1, by omega⟩
  · refine iff_of_false ?_ ?_
    · intro empty
      have none_taken := (List.append_eq_nil_iff.mp empty).1
      rw [none_taken] at length
      simp at length
      omega
    · intro never
      have taken := never (.sent count) List.mem_cons_self
      simp [SysResult.takesBytes] at taken
      omega

end Loop

theorem sendLoop_ends {data : List UInt8} {totalSent : Nat}
    {results : List SysResult} {value : Int} {appended : List UInt8}
    (within : totalSent ≤ data.length)
    (ran : handlerCall.run (sendLoop data totalSent) results =
      some (.returned value appended)) :
    SendEnds data totalSent results
      ((sendLoop data totalSent).transmitted results) value := by
  induction results generalizing totalSent with
  | nil =>
      rcases Nat.lt_or_eq_of_le within with more | all
      · rw [sendLoop_of_lt more] at ran
        cases ran
      · subst all
        rw [sendLoop_of_le (Nat.le_refl _)] at ran ⊢
        cases ran
        refine ⟨rfl, fun _ => ⟨rfl, rfl⟩, ?_, by simp [Call.transmitted]⟩
        rintro ⟨result, member, -⟩
        cases member
  | cons result rest inductionHypothesis =>
      obtain ⟨after, taken, remaining⟩ := TransitionSystem.run_cons ran
      rcases Nat.lt_or_eq_of_le within with more | all
      · rw [sendLoop_of_lt more] at taken ⊢
        obtain ⟨syscall, next, admitted, resumed⟩ := handlerCall_step taken
        cases next
        subst resumed
        cases result with
        | sent count =>
            have offered : count ≤ data.length - totalSent := by
              simpa [Syscall.admits] using admitted
            cases count with
            | zero =>
                obtain ⟨rfl, ended⟩ := run_returned remaining
                cases ended
                exact .stop more rfl rfl (.inl rfl)
            | succ count =>
                have fits : totalSent + (count + 1) ≤ data.length := by omega
                exact .sent (Nat.succ_pos count) fits
                  (inductionHypothesis fits remaining)
        | error errno =>
            cases errno with
            | EINTR =>
                have again := sendLoop_of_lt more
                have ends := inductionHypothesis within
                  (by rw [again]; exact remaining)
                rw [again] at ends
                exact ends.interrupted
            | _ =>
                obtain ⟨rfl, ended⟩ := run_returned remaining
                cases ended
                exact .stop more rfl rfl (.inr rfl)
        | bytes bytes => cases admitted
        | available amount => cases admitted
      · rw [sendLoop_of_le (Nat.le_of_eq all.symm)] at taken
        cases taken

/-- The value `sendData` returns says how much was transmitted, exactly when
the call was not stopped after a `send` that took bytes.  A `send` to a peer
that has gone returns: `SIGPIPE` is ignored. -/
theorem sendData_reports_iff {data : List UInt8} {results : List SysResult}
    {value : Int} {appended : List UInt8}
    (returned : handlerCall.run (sendData data) results =
      some (.returned value appended)) :
    ReportsProgress data ((sendData data).transmitted results) value ↔
      ¬CutShort results := by
  have ends := sendLoop_ends (Nat.zero_le _) returned
  change ReportsProgress data ((sendLoop data 0).transmitted results) value ↔ _
  generalize (sendLoop data 0).transmitted results = transmitted at ends ⊢
  have front : transmitted = data.take transmitted.length := ends.followed
  by_cases stops : ∃ result ∈ results, result.stopsSend = true
  · obtain ⟨small, -⟩ := ends.stopped stops
    constructor
    · rintro reports ⟨⟨result, member, takes⟩, -⟩
      -- either value says that nothing was accepted
      have empty : transmitted = [] := by
        rcases small with rfl | rfl
        · exact (reports.progress (Int.le_refl 0)).1
        · exact reports.failure rfl
      have never := ends.nothing.mp empty result member
      cases takes.symm.trans never
    · intro whole
      have empty : transmitted = [] := by
        apply ends.nothing.mpr
        intro result member
        cases takes : result.takesBytes with
        | false => rfl
        | true => exact absurd ⟨⟨result, member, takes⟩, stops⟩ whole
      rw [empty]
      rcases small with rfl | rfl
      · exact ⟨fun _ => ⟨rfl, rfl⟩, fun _ => rfl⟩
      · exact ⟨fun impossible => by omega, fun _ => rfl⟩
  · refine iff_of_true ?_ (fun cut => stops cut.2)
    have never : ∀ result ∈ results, result.stopsSend = false := by
      intro result member
      cases here : result.stopsSend with
      | false => rfl
      | true => exact absurd ⟨result, member, here⟩ stops
    obtain ⟨rfl, length⟩ := ends.complete never
    rw [Nat.zero_add] at length
    constructor
    · intro _
      refine ⟨?_, by rw [length]⟩
      rw [Int.toNat_natCast, ← length]
      exact front
    · intro impossible
      omega

/-- Five bytes go out in two pieces, with an interrupt in between. -/
theorem sendData_reports_iff_two_pieces :
    ReportsProgress [1, 2, 3, 4, 5]
      ((sendData [1, 2, 3, 4, 5]).transmitted
        [.sent 2, .error .EINTR, .sent 3]) 5 := by
  have returned : handlerCall.run (sendData [1, 2, 3, 4, 5])
      [.sent 2, .error .EINTR, .sent 3] = some (.returned 5 []) := rfl
  apply (sendData_reports_iff returned).mpr
  rintro ⟨-, result, member, stops⟩
  revert result
  decide

/-- The send buffer fills up after two of five bytes; `sendData` returns `-1`
and the kernel has the two. -/
theorem sendData_hides_progress :
    ¬∀ data results value appended,
      handlerCall.run (sendData data) results =
          some (.returned value appended) →
        ReportsProgress data ((sendData data).transmitted results) value := by
  intro always
  have reports := always [1, 2, 3, 4, 5] [.sent 2, .error .EAGAIN] (-1) []
    rfl
  have empty := reports.failure rfl
  cases empty

end EventPlus
