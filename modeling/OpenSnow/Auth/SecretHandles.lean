import Mathlib.Logic.Function.Basic
import OpenSnow.Auth.KeyRing
import OpenSnow.Foundation.Runs

/-!
# Calls on a secret handle

The secret store takes its lock once for each access to the database, so calls
on one handle interleave at their accesses.  A call is kept with the access it
makes next; what happens is recorded, the newest event first.
-/

namespace OpenSnow.Auth.SecretHandles

open Auth.Sealing OpenSnow.Foundation

variable {Key : Type}

inductive SecretState where
  | active
  | revoked
deriving DecidableEq, Repr

/-- The row of a handle in `secret_handles`. -/
structure HandleRow where
  state : SecretState
  version : Nat
  sealedPayload : String
deriving DecidableEq, Repr

/-- What the calls that change a handle answer with. -/
structure SecretMetadata where
  state : SecretState
  version : Nat
deriving DecidableEq, Repr

/-- A call of `create_secret`, `rotate_secret`, `reseal_secret`,
`revoke_secret` or `resolve_secret`. -/
inductive Request where
  | create (rawSecret : String)
  | rotate (rawSecret : String)
  | reseal
  | revoke
  | resolve
deriving DecidableEq, Repr

inductive Answer where
  | metadata (metadata : SecretMetadata)
  | secret (value : String)
deriving DecidableEq, Repr

/-- The ways a call on a handle can fail. -/
inductive HandleError where
  /-- "secret value must not be empty". -/
  | emptySecret
  /-- "failed to create sealed secret handle". -/
  | createFailed
  /-- "secret handle not found: {}/{}". -/
  | notFound
  /-- "cannot rotate revoked secret handle". -/
  | rotateRevoked
  /-- "cannot re-seal revoked secret handle: {}/{}". -/
  | resealRevoked
  /-- "secret handle is revoked: {}/{}". -/
  | resolveRevoked
  | sealing (error : SealError)
  | unsealing (error : UnsealError)
deriving DecidableEq, Repr

/-- An access to the database, with what the call has computed for it. -/
inductive Access where
  /-- The INSERT of `create_secret`. -/
  | insert (rawSecret sealedPayload : String)
  /-- The SELECT of `reseal_secret`. -/
  | readSealed
  /-- The first `get_metadata` of `rotate_secret`. -/
  | checkActive (rawSecret : String)
  /-- The UPDATE of `rotate_secret`. -/
  | update (rawSecret sealedPayload : String)
  /-- The UPDATE of `revoke_secret`. -/
  | revoke
  /-- The SELECT of `resolve_secret`. -/
  | resolve
  /-- The last `get_metadata` of a call that changes the handle. -/
  | readBack
deriving DecidableEq, Repr

/-- How a call goes on: with an access, or by returning. -/
inductive Next where
  | access (access : Access)
  | returned (outcome : Except HandleError Answer)
deriving DecidableEq

/-! ## The calls -/

section

variable (aead : Aead Key) (ring : KeyRing Key) (nonce : Nonce)

/-- Seal a secret, and go on with the payload. -/
def sealThen (rawSecret : String) (next : String → Access) : Next :=
  match ring.seal aead nonce rawSecret with
  | .error error => .returned (.error (.sealing error))
  | .ok sealedPayload => .access (next sealedPayload)

/-- `create_secret`, up to its first access. -/
def createSecret (rawSecret : String) : Next :=
  if rawSecret = "" then .returned (.error .emptySecret)
  else sealThen aead ring nonce rawSecret (.insert rawSecret)

/-- `rotate_secret`, up to its first access; `reseal_secret` ends with it. -/
def rotateSecret (rawSecret : String) : Next :=
  if rawSecret = "" then .returned (.error .emptySecret)
  else .access (.checkActive rawSecret)

/-- A call, up to its first access. -/
def Request.start : Request → Next
  | .create rawSecret => createSecret aead ring nonce rawSecret
  | .rotate rawSecret => rotateSecret rawSecret
  | .reseal => .access .readSealed
  | .revoke => .access .revoke
  | .resolve => .access .resolve

/-- What an access leaves behind: the row, the value it stored, and how the
call goes on. -/
structure Effect where
  row : Option HandleRow
  stored : Option String
  next : Next
deriving DecidableEq

/-- An access that only reads. -/
def Effect.reading (row : Option HandleRow) (next : Next) : Effect :=
  ⟨row, none, next⟩

def getMetadata (row : Option HandleRow) : Except HandleError SecretMetadata :=
  match row with
  | some row => .ok ⟨row.state, row.version⟩
  | none => .error .notFound

def Access.perform (row : Option HandleRow) : Access → Effect
  | .insert rawSecret sealedPayload =>
      match row with
      -- the primary key of the table is the organization and the handle
      | some _ => .reading row (.returned (.error .createFailed))
      | none =>
          ⟨some ⟨.active, 1, sealedPayload⟩, some rawSecret, .access .readBack⟩
  | .readSealed =>
      .reading row <|
        match row with
        | none => .returned (.error .notFound)
        | some existing =>
            if existing.state ≠ .active then
              .returned (.error .resealRevoked)
            else
              match ring.unseal aead existing.sealedPayload with
              | .error error => .returned (.error (.unsealing error))
              | .ok plaintext => rotateSecret plaintext
  | .checkActive rawSecret =>
      .reading row <|
        match getMetadata row with
        | .error error => .returned (.error error)
        | .ok existing =>
            if existing.state ≠ .active then
              .returned (.error .rotateRevoked)
            else sealThen aead ring nonce rawSecret (.update rawSecret)
  | .update rawSecret sealedPayload =>
      match row with
      | some existing =>
          if existing.state = .active then
            ⟨some
              { existing with
                version := existing.version + 1
                sealedPayload := sealedPayload },
              some rawSecret, .access .readBack⟩
          -- no row is updated, and the call goes on all the same
          else .reading row (.access .readBack)
      | none => .reading row (.access .readBack)
  | .revoke =>
      match row with
      | some existing =>
          ⟨some { existing with state := .revoked }, none, .access .readBack⟩
      | none => .reading row (.returned (.error .notFound))
  | .resolve =>
      .reading row <|
        match row with
        | none => .returned (.error .notFound)
        | some existing =>
            if existing.state ≠ .active then
              .returned (.error .resolveRevoked)
            else
              match ring.unseal aead existing.sealedPayload with
              | .error error => .returned (.error (.unsealing error))
              | .ok secret => .returned (.ok (.secret secret))
  | .readBack =>
      .reading row (.returned ((getMetadata row).map .metadata))

end

/-! ## Interleavings -/

/--
An event of a run.  A call is numbered by the events that came before it
began.
-/
inductive Event where
  | began (number : Nat) (request : Request)
  | stored (number : Nat) (request : Request) (value : String)
  | returned (number : Nat) (request : Request)
      (outcome : Except HandleError Answer)
deriving DecidableEq

/-- A call that has not returned. -/
structure Call where
  request : Request
  access : Access
deriving DecidableEq

structure HandleStore (Key : Type) where
  ring : KeyRing Key
  row : Option HandleRow
  calls : Nat → Option Call
  history : List Event

inductive Step where
  /-- An operation on the keys; the code makes them between calls only. -/
  | rekey (operation : KeyOperation)
  /-- A call begins, and goes to its first access. -/
  | call (request : Request) (nonce : Nonce)
  /-- A call makes its access, and goes to the next one or returns. -/
  | proceed (number : Nat) (nonce : Nonce)
deriving DecidableEq

/-- Before the handle is created. -/
def HandleStore.initial (ring : KeyRing Key) : HandleStore Key where
  ring := ring
  row := none
  calls _ := none
  history := []

/-- What is recorded of an access of a call, the newest event first. -/
def Effect.events (effect : Effect) (number : Nat) (request : Request) :
    List Event :=
  (match effect.next with
    | .returned outcome => [.returned number request outcome]
    | .access _ => []) ++
  (match effect.stored with
    | some value => [.stored number request value]
    | none => [])

/-- What remains of a call after an access. -/
def Effect.pending (effect : Effect) (request : Request) : Option Call :=
  match effect.next with
  | .access access => some ⟨request, access⟩
  | .returned _ => none

def HandleStore.settle (store : HandleStore Key) (number : Nat)
    (request : Request) (effect : Effect) : HandleStore Key where
  ring := store.ring
  row := effect.row
  calls := Function.update store.calls number (effect.pending request)
  history := effect.events number request ++ store.history

/-- The beginning of a call. -/
def HandleStore.begun (store : HandleStore Key) (request : Request) :
    HandleStore Key :=
  { store with
    history := .began store.history.length request :: store.history }

def HandleStore.perform (derive : List UInt8 → Key) (aead : Aead Key)
    (store : HandleStore Key) : Step → HandleStore Key
  | .rekey operation =>
      { store with ring := store.ring.perform derive operation }
  | .call request nonce =>
      (store.begun request).settle store.history.length request
        (.reading store.row (request.start aead store.ring nonce))
  | .proceed number nonce =>
      match store.calls number with
      | some call =>
          store.settle number call.request
            (call.access.perform aead store.ring nonce store.row)
      | none => store

def HandleStore.run (derive : List UInt8 → Key) (aead : Aead Key)
    (store : HandleStore Key) (steps : List Step) : HandleStore Key :=
  steps.foldl (HandleStore.perform derive aead) store

end OpenSnow.Auth.SecretHandles
