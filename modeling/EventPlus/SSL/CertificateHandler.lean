/-
Module: EventPlus.SSL.CertificateHandler
Purpose: `SSLCertificateHandler::initCertificationManager` over what the two
  files and OpenSSL may answer, and what `getNewCertificate` can return after
  it.
Trusted boundary: none
Main exports:
  FileOutcome, OpenSSL, SSLContext, SSLCertificateHandler, InitEnding,
  SSLCertificateHandler.initCertificationManager,
  SSLCertificateHandler.getNewCertificate,
  TLSServerSocketHandler.loadCertificate,
  SSLCertificateHandler.meetsContract_iff
-/
import EventPlus.Handlers.ReceiveSizes

namespace EventPlus

open Words (maxSize)

/-! ## Files and OpenSSL -/

/-- What `loadCertificate` and `loadPrivateKey` meet in a file: the result of
`tellg`, which is `-1` for a file that could not be opened, whether there is
memory for a buffer of that size, and the bytes that `read` puts into it,
`none` where it fails. -/
structure FileOutcome where
  size : BitVec 64
  allocated : Bool
  contents : Option (List UInt8)
deriving Repr, Inhabited, DecidableEq

/-- A file that is missing or may not be read. -/
def FileOutcome.unopened : FileOutcome where
  size := -1
  allocated := true
  contents := none

/-- The results of the OpenSSL calls, where a failure is `none` or `false`.  A
buffer is read with the length that `BIO_new_mem_buf` is given, and the
functions that load into a context open their files themselves. -/
structure OpenSSL (X509 RSA PKey : Type) where
  sslCtxNew : Bool
  pemReadBioX509 : List UInt8 → BitVec 32 → Option X509
  pemReadBioRSAPrivateKey : List UInt8 → BitVec 32 → Option RSA
  sslCtxUseCertificateFile : String → Option X509
  sslCtxUsePrivateKeyFile : String → Option PKey
  sslCtxCheckPrivateKey : X509 → PKey → Bool

/-- An `SSL_CTX`: what has been loaded into it, and the depth of the peer
verification once it is set. -/
structure SSLContext (X509 PKey : Type) where
  certificate : Option X509 := none
  privateKey : Option PKey := none
  verifyDepth : Option Nat := none
deriving Repr, Inhabited, DecidableEq

/-- An exception of the constructor `std::vector<char>(size)`. -/
inductive VectorException where
  | lengthError
  | badAlloc
deriving Repr, Inhabited, DecidableEq

/-- How `initCertificationManager` ends. -/
inductive InitEnding where
  | returned (value : Bool)
  | threw (exception : VectorException)
  | aborted
deriving Repr, Inhabited, DecidableEq

/-! ## The handler -/

/-- The fields of `SSLCertificateHandler`, with `none` for null pointers. -/
structure SSLCertificateHandler (X509 RSA PKey : Type) where
  certificateFileName : String
  keyFileName : String
  sslContext : Option (SSLContext X509 PKey) := none
  certFile : Option X509 := none
  keyFile : Option RSA := none
deriving Repr, Inhabited, DecidableEq

namespace SSLCertificateHandler

variable {α X509 RSA PKey : Type} (openSSL : OpenSSL X509 RSA PKey)
  (files : String → FileOutcome)
  (handler : SSLCertificateHandler X509 RSA PKey)

/-- The body that `loadCertificate` and `loadPrivateKey` share.  The size is
not checked before it becomes the length of the buffer. -/
def loadPem (read : List UInt8 → BitVec 32 → Option α) (file : FileOutcome) :
    Except VectorException (Option α) :=
  if maxSize < file.size.toNat then .error .lengthError
  else if file.allocated = false then .error .badAlloc
  else
    match file.contents with
    | some buffer => .ok (read buffer (file.size.setWidth 32))
    | none => .ok none

def loadCertificate (filename : String) :
    Except VectorException (Option X509) :=
  loadPem openSSL.pemReadBioX509 (files filename)

def loadPrivateKey (filename : String) :
    Except VectorException (Option RSA) :=
  loadPem openSSL.pemReadBioRSAPrivateKey (files filename)

/-- `createCertificateContext`; its result is whether there is a context. -/
def createCertificateContext : SSLCertificateHandler X509 RSA PKey :=
  { handler with sslContext := if openSSL.sslCtxNew then some {} else none }

/-- `loadCertificateFromFile`.  An exception of the second load leaves the
first one's result in its field. -/
def loadCertificateFromFile :
    Except VectorException Bool × SSLCertificateHandler X509 RSA PKey :=
  match loadCertificate openSSL files handler.certificateFileName with
  | .error exception => (.error exception, handler)
  | .ok certificate =>
      let withCertificate := { handler with certFile := certificate }
      match loadPrivateKey openSSL files handler.keyFileName with
      | .error exception => (.error exception, withCertificate)
      | .ok key =>
          (.ok (certificate.isSome && key.isSome),
            { withCertificate with keyFile := key })

/-- `configureSSLContext`, where `none` is `abort()`.  The result of
`SSL_CTX_load_verify_locations` only decides what is printed. -/
def configureSSLContext : Option (SSLCertificateHandler X509 RSA PKey) := do
  let context ← handler.sslContext
  let certificate ←
    openSSL.sslCtxUseCertificateFile handler.certificateFileName
  let privateKey ← openSSL.sslCtxUsePrivateKeyFile handler.keyFileName
  if openSSL.sslCtxCheckPrivateKey certificate privateKey then
    some
      { handler with
          sslContext :=
            some
              { context with
                  certificate := some certificate
                  privateKey := some privateKey
                  verifyDepth := some 4 } }
  else none

def initCertificationManager :
    InitEnding × SSLCertificateHandler X509 RSA PKey :=
  let created := handler.createCertificateContext openSSL
  if created.sslContext.isNone then (.returned false, created)
  else
    match created.loadCertificateFromFile openSSL files with
    | (.error exception, loaded) => (.threw exception, loaded)
    | (.ok false, loaded) => (.returned false, loaded)
    | (.ok true, loaded) =>
        match loaded.configureSSLContext openSSL with
        | none => (.aborted, loaded)
        | some configured => (.returned true, configured)

/-- `getNewCertificate`: the context the new `SSL` object is built on, `none`
for a null result.  `SSL_new` returns null for a null context, and may fail for
another. -/
def getNewCertificate (sslNew : Bool) : Option (SSLContext X509 PKey) :=
  if sslNew then handler.sslContext else none

/-- `setCertificateAndKeyFileName`. -/
def setCertificateAndKeyFileName (certFile keyFile : String) :
    SSLCertificateHandler X509 RSA PKey :=
  { handler with certificateFileName := certFile, keyFileName := keyFile }

/-- The constructor. -/
def construct : SSLCertificateHandler X509 RSA PKey where
  certificateFileName := ""
  keyFileName := ""

end SSLCertificateHandler

/-- `TLSServerSocketHandler::loadCertificate`, with the handler it leaves in
`m_sslCertificateHandler`. -/
def TLSServerSocketHandler.loadCertificate {X509 RSA PKey : Type}
    (openSSL : OpenSSL X509 RSA PKey) (files : String → FileOutcome)
    (certificateFileName keyFileName : String) :
    InitEnding × SSLCertificateHandler X509 RSA PKey :=
  (SSLCertificateHandler.construct.setCertificateAndKeyFileName
    certificateFileName keyFileName).initCertificationManager openSSL files

/-! ## The contract -/

namespace SSLCertificateHandler

variable {α X509 RSA PKey : Type} (openSSL : OpenSSL X509 RSA PKey)
  (files : String → FileOutcome)
  (handler : SSLCertificateHandler X509 RSA PKey)

/-- A context with a certificate and the key that belongs to it. -/
def Complete (context : SSLContext X509 PKey) : Prop :=
  ∃ certificate privateKey, context.certificate = some certificate ∧
    context.privateKey = some privateKey ∧
    openSSL.sslCtxCheckPrivateKey certificate privateKey = true

/-- All or nothing: the call returns true exactly when the handler has a
complete context, in every other case it returns false, and no `SSL` object can
be had on a context that is not complete. -/
structure MeetsContract
    (outcome : InitEnding × SSLCertificateHandler X509 RSA PKey) : Prop where
  returnsTrue : outcome.1 = .returned true ↔
    ∃ context, outcome.2.sslContext = some context ∧ Complete openSSL context
  returnsFalse : outcome.1 ≠ .returned true → outcome.1 = .returned false
  noBareContext : ∀ sslNew context,
    outcome.2.getNewCertificate sslNew = some context →
      Complete openSSL context

/-- The file can be read into a buffer, and something is found there. -/
structure Holds (read : List UInt8 → BitVec 32 → Option α)
    (file : FileOutcome) : Prop where
  size : file.size.toNat ≤ maxSize
  allocated : file.allocated = true
  contents : ∃ buffer value, file.contents = some buffer ∧
    read buffer (file.size.setWidth 32) = some value

/-- Both files can be read and loaded into a context, where they match. -/
structure Loadable : Prop where
  certificate : Holds openSSL.pemReadBioX509
    (files handler.certificateFileName)
  privateKey : Holds openSSL.pemReadBioRSAPrivateKey
    (files handler.keyFileName)
  configured : ∃ certificate privateKey,
    openSSL.sslCtxUseCertificateFile handler.certificateFileName =
        some certificate ∧
      openSSL.sslCtxUsePrivateKeyFile handler.keyFileName =
        some privateKey ∧
      openSSL.sslCtxCheckPrivateKey certificate privateKey = true

variable {openSSL files handler}

theorem loadPem_eq_some_iff {read : List UInt8 → BitVec 32 → Option α}
    {file : FileOutcome} :
    (∃ value, loadPem read file = .ok (some value)) ↔ Holds read file := by
  constructor
  · rintro ⟨value, loaded⟩
    unfold loadPem at loaded
    split at loaded
    · cases loaded
    · rename_i fits
      split at loaded
      · cases loaded
      · rename_i memory
        split at loaded
        · rename_i buffer contents
          have found := Except.ok.inj loaded
          exact ⟨Nat.not_lt.mp fits, by simpa using memory,
            buffer, value, contents, found⟩
        · cases Except.ok.inj loaded
  · rintro ⟨fits, memory, buffer, value, contents, found⟩
    refine ⟨value, ?_⟩
    rw [loadPem, if_neg (Nat.not_lt.mpr fits), memory, contents, ← found]
    rfl

/-- Loading both files touches no context, and succeeds as a whole exactly when
something is found in each. -/
theorem loadCertificateFromFile_spec (openSSL : OpenSSL X509 RSA PKey)
    (files : String → FileOutcome)
    (handler : SSLCertificateHandler X509 RSA PKey) :
    (handler.loadCertificateFromFile openSSL files).2.sslContext =
        handler.sslContext ∧
      (handler.loadCertificateFromFile openSSL files).2.certificateFileName =
        handler.certificateFileName ∧
      (handler.loadCertificateFromFile openSSL files).2.keyFileName =
        handler.keyFileName ∧
      ((handler.loadCertificateFromFile openSSL files).1 = .ok true ↔
        Holds openSSL.pemReadBioX509 (files handler.certificateFileName) ∧
          Holds openSSL.pemReadBioRSAPrivateKey
            (files handler.keyFileName)) := by
  rw [← loadPem_eq_some_iff, ← loadPem_eq_some_iff]
  unfold loadCertificateFromFile loadCertificate loadPrivateKey
  cases loadPem openSSL.pemReadBioX509
      (files handler.certificateFileName) with
  | error exception => simp
  | ok certificate =>
      cases loadPem openSSL.pemReadBioRSAPrivateKey
          (files handler.keyFileName) with
      | error exception => simp
      | ok key =>
          simp [Option.isSome_iff_exists]

/-- Configuring a context completes it, or ends the process. -/
theorem configureSSLContext_spec (openSSL : OpenSSL X509 RSA PKey)
    {context : SSLContext X509 PKey}
    (present : handler.sslContext = some context) :
    ((handler.configureSSLContext openSSL).isSome = true ↔
      ∃ certificate privateKey,
        openSSL.sslCtxUseCertificateFile handler.certificateFileName =
            some certificate ∧
          openSSL.sslCtxUsePrivateKeyFile handler.keyFileName =
            some privateKey ∧
          openSSL.sslCtxCheckPrivateKey certificate privateKey = true) ∧
      ∀ configured, handler.configureSSLContext openSSL = some configured →
        ∃ after, configured.sslContext = some after ∧
          Complete openSSL after := by
  rw [configureSSLContext, present, Option.bind_eq_bind, Option.bind_some]
  cases openSSL.sslCtxUseCertificateFile handler.certificateFileName with
  | none => simp
  | some certificate =>
      cases openSSL.sslCtxUsePrivateKeyFile handler.keyFileName with
      | none => simp
      | some privateKey =>
          cases matching :
              openSSL.sslCtxCheckPrivateKey certificate privateKey with
          | false => simp [matching]
          | true =>
              simp only [Option.bind_eq_bind, Option.bind_some, matching,
                if_true, Option.isSome_some, true_iff]
              refine ⟨⟨certificate, privateKey, rfl, rfl, matching⟩, ?_⟩
              intro configured made
              cases made
              exact ⟨_, rfl, certificate, privateKey, rfl, rfl, matching⟩

/-- A context into which nothing has been loaded. -/
theorem not_complete_bare : ¬Complete openSSL {} := by
  rintro ⟨certificate, privateKey, loaded, -⟩
  cases loaded

/-- An exception or `abort()` breaks the contract. -/
theorem not_meetsContract_of_ne
    {outcome : InitEnding × SSLCertificateHandler X509 RSA PKey}
    (other : ∀ value, outcome.1 ≠ .returned value) :
    ¬MeetsContract openSSL outcome := by
  intro contract
  exact other false (contract.returnsFalse (other true))

/-- So does a context that is left without a certificate. -/
theorem not_meetsContract_bare
    {outcome : InitEnding × SSLCertificateHandler X509 RSA PKey}
    (bare : outcome.2.sslContext = some {}) :
    ¬MeetsContract openSSL outcome := by
  intro contract
  exact not_complete_bare (contract.noBareContext true {} bare)

theorem meetsContract_of_complete
    {configured : SSLCertificateHandler X509 RSA PKey}
    {context : SSLContext X509 PKey}
    (present : configured.sslContext = some context)
    (complete : Complete openSSL context) :
    MeetsContract openSSL (.returned true, configured) := by
  constructor
  · exact iff_of_true rfl ⟨context, present, complete⟩
  · intro other
    exact absurd rfl other
  · intro sslNew built has
    cases sslNew with
    | false => cases has
    | true =>
        have same : configured.sslContext = some built := has
        rw [present] at same
        exact Option.some.inj same ▸ complete

/-- Without a context nothing else is tried. -/
theorem meetsContract_of_no_context (failed : openSSL.sslCtxNew = false) :
    MeetsContract openSSL
      (handler.initCertificationManager openSSL files) := by
  have none_left : handler.initCertificationManager openSSL files =
      (.returned false, { handler with sslContext := none }) := by
    simp [initCertificationManager, createCertificateContext, failed]
  rw [none_left]
  constructor
  · simp
  · intro _
    rfl
  · intro sslNew context built
    cases sslNew <;> cases built

/-- With a context the call goes on with the files, and then with the
configuration. -/
theorem initCertificationManager_eq (created : openSSL.sslCtxNew = true) :
    handler.initCertificationManager openSSL files =
      match
        { handler with sslContext := some {} }.loadCertificateFromFile
          openSSL files with
      | (.error exception, loaded) => (.threw exception, loaded)
      | (.ok false, loaded) => (.returned false, loaded)
      | (.ok true, loaded) =>
          match loaded.configureSSLContext openSSL with
          | none => (.aborted, loaded)
          | some configured => (.returned true, configured) := by
  simp only [initCertificationManager, createCertificateContext, created,
    if_pos, Option.isNone_some, Bool.false_eq_true, if_false]

/-- `initCertificationManager` is all or nothing exactly when OpenSSL gives it
no context, or both files can be read and loaded and match.  Otherwise it
throws, aborts the process, or leaves a context without a certificate behind,
on which `getNewCertificate` builds. -/
theorem meetsContract_iff {X509 RSA PKey : Type}
    (openSSL : OpenSSL X509 RSA PKey) (files : String → FileOutcome)
    (handler : SSLCertificateHandler X509 RSA PKey) :
    MeetsContract openSSL
        (handler.initCertificationManager openSSL files) ↔
      openSSL.sslCtxNew = false ∨ Loadable openSSL files handler := by
  cases created : openSSL.sslCtxNew with
  | false =>
      refine iff_of_true (meetsContract_of_no_context created) (.inl rfl)
  | true =>
      rw [initCertificationManager_eq created]
      obtain ⟨context, certName, keyName, holds⟩ :=
        loadCertificateFromFile_spec openSSL files
          { handler with sslContext := some {} }
      generalize { handler with sslContext := some {} }.loadCertificateFromFile
        openSSL files = result at context certName keyName holds ⊢
      obtain ⟨loads, loaded⟩ := result
      simp only at context certName keyName holds
      obtain ⟨configures, completes⟩ :=
        configureSSLContext_spec openSSL context
      rw [certName, keyName] at configures
      have loadable : Loadable openSSL files handler ↔
          loads = .ok true ∧
            (loaded.configureSSLContext openSSL).isSome = true := by
        rw [holds, configures]
        exact ⟨fun ⟨one, other, both⟩ => ⟨⟨one, other⟩, both⟩,
          fun ⟨⟨one, other⟩, both⟩ => ⟨one, other, both⟩⟩
      rw [loadable]
      cases loads with
      | error exception =>
          refine iff_of_false ?_ (by simp)
          exact not_meetsContract_of_ne (by simp)
      | ok both =>
          cases both with
          | false =>
              refine iff_of_false ?_ (by simp)
              exact not_meetsContract_bare context
          | true =>
              dsimp only
              cases configured : loaded.configureSSLContext openSSL with
              | none =>
                  refine iff_of_false ?_ (by simp)
                  exact not_meetsContract_of_ne (by simp)
              | some after =>
                  refine iff_of_true ?_ (by simp)
                  obtain ⟨context, present, complete⟩ :=
                    completes after configured
                  exact meetsContract_of_complete present complete

/-- An OpenSSL that finds something in every file that is not empty. -/
def answering (matching : Bool) : OpenSSL Unit Unit Unit where
  sslCtxNew := true
  pemReadBioX509 := fun buffer _ => if buffer = [] then none else some ()
  pemReadBioRSAPrivateKey :=
    fun buffer _ => if buffer = [] then none else some ()
  sslCtxUseCertificateFile := fun _ => some ()
  sslCtxUsePrivateKeyFile := fun _ => some ()
  sslCtxCheckPrivateKey := fun _ _ => matching

/-- A small file that can be read. -/
def smallFile (contents : List UInt8) : FileOutcome where
  size := BitVec.ofNat 64 contents.length
  allocated := true
  contents := some contents

/-- A file that is not there makes the buffer throw, two files that do not
match abort the process, and an empty file leaves a context to build on. -/
theorem initCertificationManager_breaks_contract :
    ¬(∀ (openSSL : OpenSSL Unit Unit Unit) (files : String → FileOutcome)
        (handler : SSLCertificateHandler Unit Unit Unit),
      MeetsContract openSSL
        (handler.initCertificationManager openSSL files)) ∧
    (construct.initCertificationManager (answering true)
      fun _ => .unopened).1 = .threw .lengthError ∧
    (construct.initCertificationManager (answering false)
      fun _ => smallFile [45]).1 = .aborted ∧
    (construct.initCertificationManager (answering true)
      fun _ => smallFile []).1 = .returned false ∧
    (construct.initCertificationManager (answering true)
      fun _ => smallFile []).2.getNewCertificate true = some {} := by
  have thrown : (construct.initCertificationManager (answering true)
      fun _ => .unopened).1 = .threw .lengthError := by decide
  refine ⟨?_, thrown, by decide, by decide, by decide⟩
  intro always
  refine not_meetsContract_of_ne ?_
    (always (answering true) (fun _ => .unopened) construct)
  intro value
  rw [thrown]
  simp

end SSLCertificateHandler

/-- What `TLSServerSocketHandler::loadCertificate` makes of two files. -/
theorem TLSServerSocketHandler.loadCertificate_iff {X509 RSA PKey : Type}
    (openSSL : OpenSSL X509 RSA PKey) (files : String → FileOutcome)
    (certificateFileName keyFileName : String) :
    SSLCertificateHandler.MeetsContract openSSL
        (loadCertificate openSSL files certificateFileName keyFileName) ↔
      openSSL.sslCtxNew = false ∨
        SSLCertificateHandler.Loadable openSSL files
          (SSLCertificateHandler.construct.setCertificateAndKeyFileName
            certificateFileName keyFileName) :=
  SSLCertificateHandler.meetsContract_iff openSSL files _

end EventPlus
