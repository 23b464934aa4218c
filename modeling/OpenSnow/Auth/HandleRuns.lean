import Mathlib.Data.List.DropRight
import OpenSnow.Auth.SecretHandles

/-!
# Runs of calls on a secret handle

What the calls on one handle promise each other, and when they keep it.  A
`reseal_secret` writes back the value that it read some accesses before, and
the UPDATE of `rotate_secret` may find the handle revoked by then.
-/

namespace OpenSnow.Auth.SecretHandles

open Auth.Sealing OpenSnow.Foundation

variable {Key : Type}

/-! ## What is promised -/

/-- The value that a call sets, if it sets one. -/
def Request.sets : Request → Option String
  | .create rawSecret => some rawSecret
  | .rotate rawSecret => some rawSecret
  | _ => none

/-- The calls that a revocation is to stop. -/
def Request.needsActive : Request → Prop
  | .rotate _ => True
  | .reseal => True
  | .resolve => True
  | _ => False

/-- The value of a call that sets one and returns `Ok`. -/
def Event.acknowledges : Event → Option String
  | .returned _ request (.ok _) => request.sets
  | _ => none

/-- The value that is stored by a call that sets one. -/
def Event.stores : Event → Option String
  | .stored _ request value => request.sets.map fun _ => value
  | _ => none

def lastAcknowledged (history : List Event) : Option String :=
  history.findSome? Event.acknowledges

def lastStored (history : List Event) : Option String :=
  history.findSome? Event.stores

/-- A value is resolved as the last call that returned has set it. -/
def ResolvesAcknowledged (event : Event) (before : List Event) : Prop :=
  ∀ number value, event = .returned number .resolve (.ok (.secret value)) →
    lastAcknowledged before = some value

/-- A value is resolved as the last call that stored one has set it. -/
def ResolvesStored (event : Event) (before : List Event) : Prop :=
  ∀ number value, event = .returned number .resolve (.ok (.secret value)) →
    lastStored before = some value

/-- A rotation that returns `Ok` has stored its value. -/
def RotationsStored (event : Event) (before : List Event) : Prop :=
  ∀ number rawSecret answer,
    event = .returned number (.rotate rawSecret) (.ok answer) →
      .stored number (.rotate rawSecret) rawSecret ∈ before

/-- No revocation had returned `Ok` when a call began. -/
def NotYetRevoked (number : Nat) (history : List Event) : Prop :=
  ∀ other answer,
    .returned other .revoke (.ok answer) ∉ history.rtake number

/-- No call that begins after a revocation succeeds. -/
def NoneAfterRevocation (event : Event) (before : List Event) : Prop :=
  ∀ number request answer, event = .returned number request (.ok answer) →
    request.needsActive → NotYetRevoked number before

/-- The updates of a handle take effect one after the other. -/
structure Linearizes (history : List Event) : Prop where
  resolves : Throughout ResolvesAcknowledged history
  rotates : Throughout RotationsStored history
  revokes : Throughout NoneAfterRevocation history

/-! ## When it is kept -/

/-- The UPDATE of a `reseal_secret` finds the value that was read. -/
def FindsValueRead (aead : Aead Key) (store : HandleStore Key) :
    Step → Prop
  | .proceed number _ =>
      ∀ rawSecret sealedPayload row,
        store.calls number =
            some ⟨.reseal, .update rawSecret sealedPayload⟩ →
          store.row = some row → row.state = .active →
            store.ring.unseal aead row.sealedPayload = .ok rawSecret
  | _ => True

/-- The UPDATE of a `rotate_secret` finds the handle active. -/
def FindsActive (store : HandleStore Key) : Step → Prop
  | .proceed number _ =>
      ∀ value rawSecret sealedPayload,
        store.calls number =
            some ⟨.rotate value, .update rawSecret sealedPayload⟩ →
          ∃ row, store.row = some row ∧ row.state = .active
  | _ => True

/-- A call has stored the value it sets, and not yet returned. -/
def HandleStore.Unacknowledged (store : HandleStore Key) (number : Nat)
    (value : String) : Prop :=
  ∃ request, store.calls number = some ⟨request, .readBack⟩ ∧
    request.sets = some value

/-- What a `resolve_secret` or a second `rotate_secret` must not see. -/
def SeesNoneUnacknowledged (store : HandleStore Key) : Step → Prop
  | .proceed number _ =>
      (store.calls number = some ⟨.resolve, .resolve⟩ ∨
        ∃ value rawSecret sealedPayload,
          store.calls number =
            some ⟨.rotate value, .update rawSecret sealedPayload⟩) →
        ∀ other value, ¬ store.Unacknowledged other value
  | _ => True

/-! ## What an access can do -/

/-- How a call begins. -/
inductive Starts (aead : Aead Key) (ring : KeyRing Key) :
    Request → Next → Prop where
  | failed {request : Request} (error : HandleError) :
      Starts aead ring request (.returned (.error error))
  | create {nonce : Nonce} {rawSecret sealedPayload : String}
      (sealing : ring.seal aead nonce rawSecret = .ok sealedPayload) :
      Starts aead ring (.create rawSecret)
        (.access (.insert rawSecret sealedPayload))
  | rotate {rawSecret : String} :
      Starts aead ring (.rotate rawSecret) (.access (.checkActive rawSecret))
  | reseal : Starts aead ring .reseal (.access .readSealed)
  | revoke : Starts aead ring .revoke (.access .revoke)
  | resolve : Starts aead ring .resolve (.access .resolve)

/-- What an access to a row does. -/
inductive Gives (aead : Aead Key) (ring : KeyRing Key)
    (row : Option HandleRow) : Access → Effect → Prop where
  | failed {access : Access} (error : HandleError)
      (lost : access = .readBack → row = none) :
      Gives aead ring row access (.reading row (.returned (.error error)))
  | inserted {rawSecret sealedPayload : String} (absent : row = none) :
      Gives aead ring row (.insert rawSecret sealedPayload)
        ⟨some ⟨.active, 1, sealedPayload⟩, some rawSecret, .access .readBack⟩
  | opened {existing : HandleRow} {rawSecret : String}
      (present : row = some existing) (active : existing.state = .active) :
      Gives aead ring row .readSealed
        (.reading row (.access (.checkActive rawSecret)))
  | checked {existing : HandleRow} {nonce : Nonce}
      {rawSecret sealedPayload : String}
      (present : row = some existing) (active : existing.state = .active)
      (sealing : ring.seal aead nonce rawSecret = .ok sealedPayload) :
      Gives aead ring row (.checkActive rawSecret)
        (.reading row (.access (.update rawSecret sealedPayload)))
  | updated {existing : HandleRow} {rawSecret sealedPayload : String}
      (present : row = some existing) (active : existing.state = .active) :
      Gives aead ring row (.update rawSecret sealedPayload)
        ⟨some
          { existing with
            version := existing.version + 1
            sealedPayload := sealedPayload },
          some rawSecret, .access .readBack⟩
  | missed {rawSecret sealedPayload : String}
      (inactive : ∀ existing, row = some existing →
        existing.state ≠ .active) :
      Gives aead ring row (.update rawSecret sealedPayload)
        (.reading row (.access .readBack))
  | revoked {existing : HandleRow} (present : row = some existing) :
      Gives aead ring row .revoke
        ⟨some { existing with state := .revoked }, none, .access .readBack⟩
  | resolved {existing : HandleRow} {value : String}
      (present : row = some existing) (active : existing.state = .active)
      (opened : ring.unseal aead existing.sealedPayload = .ok value) :
      Gives aead ring row .resolve
        (.reading row (.returned (.ok (.secret value))))
  | readBack {existing : HandleRow} (present : row = some existing) :
      Gives aead ring row .readBack
        (.reading row
          (.returned
            (.ok (.metadata ⟨existing.state, existing.version⟩))))

section

variable {aead : Aead Key} {ring : KeyRing Key} {nonce : Nonce}

theorem sealThen_cases (rawSecret : String) (next : String → Access) :
    (∃ error, sealThen aead ring nonce rawSecret next =
      .returned (.error error)) ∨
    ∃ sealedPayload, ring.seal aead nonce rawSecret = .ok sealedPayload ∧
      sealThen aead ring nonce rawSecret next =
        .access (next sealedPayload) := by
  unfold sealThen
  cases sealing : ring.seal aead nonce rawSecret with
  | error failure => exact .inl ⟨_, rfl⟩
  | ok sealedPayload => exact .inr ⟨sealedPayload, rfl, rfl⟩

theorem start_starts (request : Request) :
    Starts aead ring request (request.start aead ring nonce) := by
  cases request with
  | create rawSecret =>
      rw [Request.start, createSecret]
      split_ifs
      · exact .failed _
      · obtain ⟨error, same⟩ | ⟨sealedPayload, sealing, same⟩ :=
          sealThen_cases rawSecret (.insert rawSecret)
        · exact same ▸ .failed error
        · exact same ▸ .create sealing
  | rotate rawSecret =>
      rw [Request.start, rotateSecret]
      split_ifs
      · exact .failed _
      · exact .rotate
  | reseal => exact .reseal
  | revoke => exact .revoke
  | resolve => exact .resolve

theorem perform_gives (row : Option HandleRow) (access : Access) :
    Gives aead ring row access (access.perform aead ring nonce row) := by
  cases access with
  | insert rawSecret sealedPayload =>
      cases row with
      | none => exact .inserted rfl
      | some existing => exact .failed _ nofun
  | readSealed =>
      cases row with
      | none => exact .failed _ nofun
      | some existing =>
          rw [Access.perform]
          split_ifs with inactive
          · exact .failed _ nofun
          · cases ring.unseal aead existing.sealedPayload with
            | error failure => exact .failed _ nofun
            | ok plaintext =>
                dsimp only
                rw [rotateSecret]
                split_ifs
                · exact .failed _ nofun
                · exact .opened rfl (not_not.mp inactive)
  | checkActive rawSecret =>
      cases row with
      | none => exact .failed _ nofun
      | some existing =>
          rw [Access.perform, getMetadata]
          dsimp only
          split_ifs with inactive
          · exact .failed _ nofun
          · obtain ⟨error, same⟩ | ⟨sealedPayload, sealing, same⟩ :=
              sealThen_cases rawSecret (.update rawSecret)
            · exact same ▸ .failed error nofun
            · exact same ▸ .checked rfl (not_not.mp inactive) sealing
  | update rawSecret sealedPayload =>
      cases row with
      | none => exact .missed nofun
      | some existing =>
          rw [Access.perform]
          split_ifs with active
          · exact .updated rfl active
          · refine .missed ?_
            rintro _ ⟨⟩
            exact active
  | revoke =>
      cases row with
      | none => exact .failed _ nofun
      | some existing => exact .revoked rfl
  | resolve =>
      cases row with
      | none => exact .failed _ nofun
      | some existing =>
          rw [Access.perform]
          split_ifs with inactive
          · exact .failed _ nofun
          · cases opened : ring.unseal aead existing.sealedPayload with
            | error failure => exact .failed _ nofun
            | ok value => exact .resolved rfl (not_not.mp inactive) opened
  | readBack =>
      cases row with
      | none => exact .failed _ fun _ => rfl
      | some existing => exact .readBack rfl

end

/-! ## Calls under way -/

/-- A handle is not removed, and stays revoked. -/
def RowKept (row after : Option HandleRow) : Prop :=
  ∀ existing, row = some existing →
    ∃ kept, after = some kept ∧
      (existing.state = .revoked → kept.state = .revoked)

theorem RowKept.refl (row : Option HandleRow) : RowKept row row :=
  fun existing present => ⟨existing, present, id⟩

section

variable (derive : List UInt8 → Key) (aead : Aead Key) (ring : KeyRing Key)
  (row : Option HandleRow)

/-- What a call has seen and computed before an access. -/
def Fits (request : Request) : Access → Prop
  | .insert rawSecret sealedPayload =>
      request = .create rawSecret ∧
        ring.Holds derive aead sealedPayload rawSecret
  | .readSealed => request = .reseal
  | .checkActive rawSecret =>
      request = .rotate rawSecret ∨ request = .reseal
  | .update rawSecret sealedPayload =>
      (request = .rotate rawSecret ∨ request = .reseal) ∧
        ring.Holds derive aead sealedPayload rawSecret ∧
        ∃ existing, row = some existing
  | .revoke => request = .revoke
  | .resolve => request = .resolve
  | .readBack =>
      request ≠ .resolve ∧ ∃ existing, row = some existing ∧
        (request = .revoke → existing.state = .revoked)

end

section

variable {derive : List UInt8 → Key} {aead : Aead Key} {ring : KeyRing Key}
  {row after : Option HandleRow} {request : Request} {access : Access}

theorem Fits.kept (fits : Fits derive aead ring row request access)
    (kept : RowKept row after) :
    Fits derive aead ring after request access := by
  cases access with
  | update rawSecret sealedPayload =>
      obtain ⟨asked, holds, existing, present⟩ := fits
      obtain ⟨found, isAfter, -⟩ := kept existing present
      exact ⟨asked, holds, found, isAfter⟩
  | readBack =>
      obtain ⟨asked, existing, present, revoked⟩ := fits
      obtain ⟨found, isAfter, stays⟩ := kept existing present
      exact ⟨asked, found, isAfter, fun isRevoke => stays (revoked isRevoke)⟩
  | _ => exact fits

theorem Fits.rekeyed (fits : Fits derive aead ring row request access)
    (operation : KeyOperation) :
    Fits derive aead (ring.perform derive operation) row request access := by
  cases access with
  | insert rawSecret sealedPayload =>
      exact ⟨fits.1, fits.2.perform operation⟩
  | update rawSecret sealedPayload =>
      exact ⟨fits.1, fits.2.1.perform operation, fits.2.2⟩
  | _ => exact fits

theorem Gives.kept {effect : Effect}
    (gives : Gives aead ring row access effect) :
    RowKept row effect.row := by
  cases gives with
  | inserted absent =>
      intro existing present
      rw [absent] at present
      cases present
  | @updated existing rawSecret sealedPayload present active =>
      intro other isOther
      cases present.symm.trans isOther
      exact ⟨_, rfl, id⟩
  | revoked present =>
      intro other isOther
      exact ⟨_, rfl, fun _ => rfl⟩
  | _ => exact .refl row

theorem Starts.fits (authentic : aead.Authentic)
    (starts : Starts aead ring request (.access access)) :
    Fits derive aead ring row request access := by
  cases starts with
  | create sealing => exact ⟨rfl, KeyRing.holds_of_seal authentic sealing⟩
  | rotate => exact .inl rfl
  | reseal => rfl
  | revoke => rfl
  | resolve => rfl

/-- An access leaves its call with what the next one relies on. -/
theorem Gives.fits (authentic : aead.Authentic) {effect : Effect}
    (gives : Gives aead ring row access effect)
    (fits : Fits derive aead ring row request access) {next : Access}
    (isNext : effect.next = .access next) :
    Fits derive aead ring effect.row request next := by
  cases gives with
  | failed error lost => cases isNext
  | inserted absent =>
      cases isNext
      obtain ⟨rfl, -⟩ := fits
      exact ⟨nofun, _, rfl, nofun⟩
  | opened present active =>
      cases isNext
      exact .inr fits
  | @checked existing nonce rawSecret sealedPayload present active sealing =>
      cases isNext
      exact ⟨fits, KeyRing.holds_of_seal authentic sealing, existing,
        present⟩
  | updated present active =>
      cases isNext
      obtain ⟨rfl | rfl, -⟩ := fits
      · exact ⟨nofun, _, rfl, nofun⟩
      · exact ⟨nofun, _, rfl, nofun⟩
  | missed inactive =>
      cases isNext
      obtain ⟨asked, -, existing, present⟩ := fits
      rcases asked with rfl | rfl
      · exact ⟨nofun, existing, present, nofun⟩
      · exact ⟨nofun, existing, present, nofun⟩
  | revoked present =>
      cases isNext
      cases (fits : request = .revoke)
      exact ⟨nofun, _, rfl, fun _ => rfl⟩
  | resolved present active opened => cases isNext
  | readBack present => cases isNext

end

/-! ## Steps -/

/-- What a step does to a store. -/
inductive Moves (derive : List UInt8 → Key) (aead : Aead Key)
    (store : HandleStore Key) : Step → HandleStore Key → Prop where
  | idle {number : Nat} {nonce : Nonce} :
      Moves derive aead store (.proceed number nonce) store
  | rekeyed (operation : KeyOperation) :
      Moves derive aead store (.rekey operation)
        { store with ring := store.ring.perform derive operation }
  | began {request : Request} {nonce : Nonce} {next : Next}
      (starts : Starts aead store.ring request next) :
      Moves derive aead store (.call request nonce)
        ((store.begun request).settle store.history.length request
          (.reading store.row next))
  | proceeded {number : Nat} {nonce : Nonce} {request : Request}
      {access : Access} {effect : Effect}
      (pending : store.calls number = some ⟨request, access⟩)
      (gives : Gives aead store.ring store.row access effect) :
      Moves derive aead store (.proceed number nonce)
        (store.settle number request effect)

section

variable {derive : List UInt8 → Key} {aead : Aead Key}
  {store after : HandleStore Key} {step : Step}

theorem perform_moves (store : HandleStore Key) (step : Step) :
    Moves derive aead store step (store.perform derive aead step) := by
  cases step with
  | rekey operation => exact .rekeyed operation
  | call request nonce => exact .began (start_starts request)
  | proceed number nonce =>
      rw [HandleStore.perform]
      cases pending : store.calls number with
      | none => exact .idle
      | some call => exact .proceeded pending (perform_gives _ call.access)

/-- The calls under way are numbered by the past, and know what they need. -/
structure Consistent (derive : List UInt8 → Key) (aead : Aead Key)
    (store : HandleStore Key) : Prop where
  numbered : ∀ number call, store.calls number = some call →
    number < store.history.length
  fits : ∀ number request access,
    store.calls number = some ⟨request, access⟩ →
      Fits derive aead store.ring store.row request access

variable (ring : KeyRing Key)

theorem consistent_initial :
    Consistent derive aead (.initial ring) where
  numbered := nofun
  fits := nofun

variable {effect : Effect}

/-- The calls after an access: its own, if it goes on, and the others. -/
theorem of_calls_settle {number other : Nat} {request asked : Request}
    {access : Access} (pending :
      (store.settle number request effect).calls other =
        some ⟨asked, access⟩) :
    (other = number ∧ asked = request ∧ effect.next = .access access) ∨
      (other ≠ number ∧ store.calls other = some ⟨asked, access⟩) := by
  rw [HandleStore.settle] at pending
  dsimp only at pending
  by_cases same : other = number
  · rw [same, Function.update_self, Effect.pending] at pending
    refine .inl ⟨same, ?_⟩
    cases isNext : effect.next with
    | access next =>
        rw [isNext] at pending
        cases pending
        exact ⟨rfl, rfl⟩
    | returned outcome =>
        rw [isNext] at pending
        cases pending
  · rw [Function.update_of_ne same] at pending
    exact .inr ⟨same, pending⟩

variable {number : Nat} {request : Request}

theorem Consistent.settle (consistent : Consistent derive aead store)
    (numbered : number < store.history.length)
    (kept : RowKept store.row effect.row)
    (fits : ∀ access, effect.next = .access access →
      Fits derive aead store.ring effect.row request access) :
    Consistent derive aead (store.settle number request effect) := by
  constructor
  · rintro other ⟨asked, access⟩ pending
    refine Nat.lt_of_lt_of_le ?_ (List.suffix_append _ _).length_le
    obtain ⟨rfl, -, -⟩ | ⟨-, before⟩ := of_calls_settle pending
    · exact numbered
    · exact consistent.numbered other _ before
  · intro other asked access pending
    obtain ⟨-, rfl, isNext⟩ | ⟨-, before⟩ := of_calls_settle pending
    · exact fits access isNext
    · exact (consistent.fits other asked access before).kept kept

theorem Consistent.begun (consistent : Consistent derive aead store)
    (request : Request) : Consistent derive aead (store.begun request) where
  numbered number call pending :=
    Nat.lt_succ_of_lt (consistent.numbered number call pending)
  fits := consistent.fits

theorem Consistent.moved (authentic : aead.Authentic)
    (consistent : Consistent derive aead store)
    (moves : Moves derive aead store step after) :
    Consistent derive aead after := by
  cases moves with
  | idle => exact consistent
  | rekeyed operation =>
      exact
        ⟨consistent.numbered, fun number request access pending =>
          (consistent.fits number request access pending).rekeyed operation⟩
  | @began request nonce next starts =>
      refine (consistent.begun request).settle (Nat.lt_succ_self _)
        (.refl store.row) ?_
      rintro access rfl
      exact starts.fits authentic
  | @proceeded number nonce request access effect pending gives =>
      exact consistent.settle (consistent.numbered number _ pending)
        gives.kept fun next isNext =>
          gives.fits authentic (consistent.fits number _ _ pending) isNext

/-! ## Nothing succeeds after a revocation -/

/-- What a call has gone on to do once it has seen the handle active. -/
def Next.commits : Next → Prop
  | .access (.update _ _) => True
  | .access .readBack => True
  | .returned (.ok _) => True
  | _ => False

/-- A revocation that returned has its effect, on the calls begun later too. -/
structure Revocations (store : HandleStore Key) : Prop where
  revoked : ∀ number answer,
    .returned number .revoke (.ok answer) ∈ store.history →
      ∃ row, store.row = some row ∧ row.state = .revoked
  calls : ∀ number request access,
    store.calls number = some ⟨request, access⟩ →
      (Next.access access).commits → request.needsActive →
        NotYetRevoked number store.history
  throughout : Throughout NoneAfterRevocation store.history

theorem revocations_initial :
    Revocations (.initial ring) where
  revoked _ _ absent := absurd absent List.not_mem_nil
  calls := nofun
  throughout := trivial

theorem rtake_append {events history : List Event}
    (numbered : number ≤ history.length) :
    (events ++ history).rtake number = history.rtake number := by
  rw [List.rtake, List.rtake, List.length_append,
    Nat.add_sub_assoc numbered, List.drop_length_add_append]

theorem NotYetRevoked.append {events history : List Event} {number : Nat}
    (notYet : NotYetRevoked number history)
    (numbered : number ≤ history.length) :
    NotYetRevoked number (events ++ history) := by
  rw [NotYetRevoked, rtake_append numbered]
  exact notYet

/-- With an active handle no revocation has returned. -/
theorem Revocations.notYet (revocations : Revocations store)
    {existing : HandleRow} (present : store.row = some existing)
    (active : existing.state = .active) (number : Nat) :
    NotYetRevoked number store.history := by
  intro other answer member
  obtain ⟨row, isRow, revoked⟩ :=
    revocations.revoked other answer (List.mem_of_mem_drop member)
  cases present.symm.trans isRow
  cases active.symm.trans revoked

/-- The events of an access, read off its effect. -/
theorem mem_events
    {event : Event} (member : event ∈ effect.events number request) :
    (∃ outcome, effect.next = .returned outcome ∧
      event = .returned number request outcome) ∨
    ∃ value, effect.stored = some value ∧
      event = .stored number request value := by
  rw [Effect.events, List.mem_append] at member
  rcases member with returning | storing
  · cases isNext : effect.next with
    | access next =>
        rw [isNext] at returning
        cases returning
    | returned outcome =>
        rw [isNext] at returning
        exact .inl ⟨outcome, rfl, List.mem_singleton.mp returning⟩
  · cases isStored : effect.stored with
    | none =>
        rw [isStored] at storing
        cases storing
    | some value =>
        rw [isStored] at storing
        exact .inr ⟨value, rfl, List.mem_singleton.mp storing⟩

theorem Revocations.settle (revocations : Revocations store)
    (consistent : Consistent derive aead store)
    (numbered : number ≤ store.history.length)
    (kept : RowKept store.row effect.row)
    (revoking : ∀ answer, effect.next = .returned (.ok answer) →
      request = .revoke →
        ∃ row, effect.row = some row ∧ row.state = .revoked)
    (notYet : effect.next.commits → request.needsActive →
      NotYetRevoked number store.history) :
    Revocations (store.settle number request effect) := by
  constructor
  · intro other answer member
    rcases List.mem_append.mp member with new | old
    · obtain ⟨outcome, isNext, same⟩ | ⟨value, -, same⟩ := mem_events new
      · cases same
        exact revoking answer isNext rfl
      · cases same
    · obtain ⟨row, present, revoked⟩ := revocations.revoked other answer old
      obtain ⟨found, isFound, stays⟩ := kept row present
      exact ⟨found, isFound, stays revoked⟩
  · intro other asked access pending commits needs
    obtain ⟨rfl, rfl, isNext⟩ | ⟨-, before⟩ := of_calls_settle pending
    · exact (notYet (isNext ▸ commits) needs).append numbered
    · exact (revocations.calls other asked access before commits needs).append
        (consistent.numbered other _ before).le
  · refine revocations.throughout.append fun event member between => ?_
    rintro other asked answer rfl needs
    obtain ⟨outcome, isNext, same⟩ | ⟨value, -, same⟩ := mem_events member
    · cases same
      exact (notYet (isNext ▸ trivial) needs).append numbered
    · cases same

theorem Revocations.moved (revocations : Revocations store)
    (consistent : Consistent derive aead store)
    (moves : Moves derive aead store step after) : Revocations after := by
  cases moves with
  | idle => exact revocations
  | rekeyed operation =>
      exact ⟨revocations.revoked, revocations.calls, revocations.throughout⟩
  | @began request nonce next starts =>
      have begun : Revocations (store.begun request) := by
        refine ⟨fun number answer member => ?_,
          fun number asked access pending commits needs => ?_, nofun,
          revocations.throughout⟩
        · cases member with
          | tail _ old => exact revocations.revoked number answer old
        · exact @NotYetRevoked.append [_] _ _
            (revocations.calls number asked access pending commits needs)
            (consistent.numbered number _ pending).le
      refine begun.settle (consistent.begun request) (Nat.le_succ _)
        (.refl store.row) ?_ ?_
      · intro answer isNext
        cases starts <;> cases isNext
      · intro commits
        cases starts <;> exact commits.elim
  | @proceeded number nonce request access effect pending gives =>
      have fits := consistent.fits number request access pending
      refine revocations.settle consistent
        (consistent.numbered number _ pending).le gives.kept ?_ ?_
      · intro answer isNext isRevoke
        cases gives with
        | resolved present active opened => cases fits.symm.trans isRevoke
        | readBack present =>
            obtain ⟨-, existing, isRow, revoked⟩ := fits
            exact ⟨existing, isRow, revoked isRevoke⟩
        | _ => cases isNext
      · intro commits needs
        -- what goes on has seen the handle active now, or before
        cases gives with
        | failed error lost => exact commits.elim
        | opened present active => exact commits.elim
        | checked present active sealing =>
            exact revocations.notYet present active number
        | updated present active =>
            exact revocations.notYet present active number
        | resolved present active opened =>
            exact revocations.notYet present active number
        | missed inactive =>
            exact revocations.calls number request _ pending trivial needs
        | readBack present =>
            exact revocations.calls number request _ pending trivial needs
        | inserted absent =>
            obtain ⟨rfl, -⟩ := fits
            exact needs.elim
        | revoked present =>
            cases (fits : request = .revoke)
            exact needs.elim

/-! ## What is resolved was stored last -/

/-- The handle holds the value that was stored last. -/
structure HoldsStored (derive : List UInt8 → Key) (aead : Aead Key)
    (store : HandleStore Key) : Prop where
  holds : ∀ row, store.row = some row →
    ∃ value, lastStored store.history = some value ∧
      store.ring.Holds derive aead row.sealedPayload value
  throughout : Throughout ResolvesStored store.history

theorem holdsStored_initial :
    HoldsStored derive aead (.initial ring) where
  holds := nofun
  throughout := trivial

theorem lastStored_cons {event : Event} {history : List Event}
    (storesNone : event.stores = none) :
    lastStored (event :: history) = lastStored history := by
  rw [lastStored, List.findSome?_cons, storesNone]
  rfl

theorem HoldsStored.moved (holdsStored : HoldsStored derive aead store)
    (consistent : Consistent derive aead store)
    (finds : FindsValueRead aead store step)
    (moves : Moves derive aead store step after) :
    HoldsStored derive aead after := by
  obtain ⟨holds, throughout⟩ := holdsStored
  cases moves with
  | idle => exact ⟨holds, throughout⟩
  | rekeyed operation =>
      refine ⟨fun row present => ?_, throughout⟩
      obtain ⟨value, isLast, held⟩ := holds row present
      exact ⟨value, isLast, held.perform operation⟩
  | @began request nonce next starts =>
      cases starts with
      | failed error => exact ⟨holds, nofun, nofun, throughout⟩
      | _ => exact ⟨holds, nofun, throughout⟩
  | @proceeded number nonce request access effect pending gives =>
      have fits := consistent.fits number request access pending
      cases gives with
      | failed error lost => exact ⟨holds, nofun, throughout⟩
      | @inserted rawSecret sealedPayload absent =>
          obtain ⟨rfl, held⟩ := fits
          refine ⟨?_, nofun, throughout⟩
          rintro row ⟨⟩
          exact ⟨rawSecret, rfl, held⟩
      | opened present active => exact ⟨holds, throughout⟩
      | checked present active sealing => exact ⟨holds, throughout⟩
      | @updated existing rawSecret sealedPayload present active =>
          refine ⟨?_, nofun, throughout⟩
          rintro row ⟨⟩
          obtain ⟨rfl | rfl, held, -⟩ := fits
          · exact ⟨rawSecret, rfl, held⟩
          · -- the value that was read is the one that is still held
            obtain ⟨value, isLast, holdsValue⟩ := holds existing present
            have read := finds rawSecret sealedPayload existing pending
              present active
            cases holdsValue.unseal.symm.trans read
            exact ⟨rawSecret, isLast, held⟩
      | missed inactive => exact ⟨holds, throughout⟩
      | @revoked existing present =>
          refine ⟨?_, throughout⟩
          rintro row ⟨⟩
          exact holds existing present
      | @resolved existing value present active opened =>
          refine ⟨holds, ?_, throughout⟩
          rintro other resolved ⟨⟩
          obtain ⟨held, isLast, holdsValue⟩ := holds existing present
          cases holdsValue.unseal.symm.trans opened
          exact isLast
      | readBack present => exact ⟨holds, nofun, throughout⟩

/-! ## A rotation that succeeds has stored -/

/-- A rotation that is to read back has stored its value. -/
structure RotationsKept (store : HandleStore Key) : Prop where
  calls : ∀ number rawSecret,
    store.calls number = some ⟨.rotate rawSecret, .readBack⟩ →
      .stored number (.rotate rawSecret) rawSecret ∈ store.history
  throughout : Throughout RotationsStored store.history

theorem rotationsKept_initial :
    RotationsKept (.initial ring) where
  calls := nofun
  throughout := trivial

theorem RotationsKept.settle (kept : RotationsKept store)
    (stored : ∀ rawSecret, request = .rotate rawSecret →
      effect.next = .access .readBack →
        .stored number (.rotate rawSecret) rawSecret ∈
          effect.events number request)
    (returning : ∀ rawSecret answer, request = .rotate rawSecret →
      effect.next = .returned (.ok answer) →
        .stored number (.rotate rawSecret) rawSecret ∈ store.history) :
    RotationsKept (store.settle number request effect) := by
  constructor
  · intro other rawSecret pending
    obtain ⟨rfl, rfl, isNext⟩ | ⟨-, before⟩ := of_calls_settle pending
    · exact List.mem_append_left _ (stored rawSecret rfl isNext)
    · exact List.mem_append_right _ (kept.calls other rawSecret before)
  · refine kept.throughout.append fun event member between => ?_
    rintro other rawSecret answer rfl
    obtain ⟨outcome, isNext, same⟩ | ⟨value, -, same⟩ := mem_events member
    · cases same
      exact List.mem_append_right _ (returning rawSecret answer rfl isNext)
    · cases same

theorem RotationsKept.moved (kept : RotationsKept store)
    (consistent : Consistent derive aead store)
    (finds : FindsActive store step)
    (moves : Moves derive aead store step after) : RotationsKept after := by
  cases moves with
  | idle => exact kept
  | rekeyed operation => exact ⟨kept.calls, kept.throughout⟩
  | @began request nonce next starts =>
      have begun : RotationsKept (store.begun request) :=
        ⟨fun number rawSecret pending =>
            List.mem_cons_of_mem _ (kept.calls number rawSecret pending),
          nofun, kept.throughout⟩
      refine begun.settle ?_ ?_
      · intro rawSecret isRotate isNext
        cases starts <;> cases isNext
      · intro rawSecret answer isRotate isNext
        cases starts <;> cases isNext
  | @proceeded number nonce request access effect pending gives =>
      have fits := consistent.fits number request access pending
      refine kept.settle ?_ ?_
      · rintro value rfl isNext
        cases gives with
        | inserted absent => cases fits.1
        | @updated existing rawSecret sealedPayload present active =>
            rcases fits.1 with isRotate | isReseal
            · cases isRotate
              exact List.mem_singleton_self _
            · cases isReseal
        | @missed rawSecret sealedPayload inactive =>
            obtain ⟨row, present, active⟩ :=
              finds value rawSecret sealedPayload pending
            exact absurd active (inactive row present)
        | revoked present => cases fits
        | _ => cases isNext
      · rintro value answer rfl isNext
        cases gives with
        | resolved present active opened => cases fits
        | readBack present => exact kept.calls number value pending
        | _ => cases isNext

/-! ## What is resolved was acknowledged last -/

/-- At most one call has stored a value and not returned, the last one. -/
structure InStep (store : HandleStore Key) : Prop where
  settled : (∀ number value, ¬ store.Unacknowledged number value) →
    lastAcknowledged store.history = lastStored store.history
  last : ∀ number value, store.Unacknowledged number value →
    lastStored store.history = some value
  alone : ∀ number value other otherValue,
    store.Unacknowledged number value →
      store.Unacknowledged other otherValue → other = number
  throughout : Throughout ResolvesAcknowledged store.history

theorem inStep_initial : InStep (.initial ring) where
  settled _ := rfl
  last := nofun
  alone := nofun
  throughout := trivial

theorem unacknowledged_settle {number other : Nat} {value : String} :
    (store.settle number request effect).Unacknowledged other value ↔
      (other = number ∧ effect.next = .access .readBack ∧
        request.sets = some value) ∨
      (other ≠ number ∧ store.Unacknowledged other value) := by
  constructor
  · rintro ⟨asked, pending, sets⟩
    obtain ⟨same, rfl, isNext⟩ | ⟨differs, before⟩ := of_calls_settle pending
    · exact .inl ⟨same, isNext, sets⟩
    · exact .inr ⟨differs, asked, before, sets⟩
  · rintro (⟨rfl, isNext, sets⟩ | ⟨differs, asked, before, sets⟩)
    · refine ⟨request, ?_, sets⟩
      rw [HandleStore.settle]
      dsimp only
      rw [Function.update_self, Effect.pending, isNext]
    · refine ⟨asked, ?_, sets⟩
      rw [HandleStore.settle]
      dsimp only
      rw [Function.update_of_ne differs, before]

/-- A step that neither stores nor acknowledges a value that is set. -/
theorem InStep.quiet (inStep : InStep store)
    (notBefore : ∀ value, ¬ store.Unacknowledged number value)
    (notAfter : effect.next = .access .readBack → request.sets = none)
    (acknowledged :
      lastAcknowledged (effect.events number request ++ store.history) =
        lastAcknowledged store.history)
    (stored :
      lastStored (effect.events number request ++ store.history) =
        lastStored store.history)
    (throughout :
      Throughout ResolvesAcknowledged
        (effect.events number request ++ store.history)) :
    InStep (store.settle number request effect) := by
  have same : ∀ other value,
      (store.settle number request effect).Unacknowledged other value ↔
        store.Unacknowledged other value := by
    intro other value
    rw [unacknowledged_settle]
    constructor
    · rintro (⟨-, isNext, sets⟩ | ⟨-, before⟩)
      · cases (notAfter isNext).symm.trans sets
      · exact before
    · intro before
      refine .inr ⟨?_, before⟩
      rintro rfl
      exact notBefore value before
  constructor
  · intro none
    rw [HandleStore.settle]
    dsimp only
    rw [acknowledged, stored]
    exact inStep.settled fun other value before =>
      none other value ((same other value).mpr before)
  · intro other value pending
    exact stored.trans (inStep.last other value ((same other value).mp pending))
  · intro other value another anotherValue pending alsoPending
    exact inStep.alone other value another anotherValue
      ((same other value).mp pending)
      ((same another anotherValue).mp alsoPending)
  · exact throughout

/-- A value is stored while none waits to be acknowledged. -/
theorem InStep.storing {stored : String} (inStep : InStep store)
    (none : ∀ other value, ¬ store.Unacknowledged other value)
    (sets : request.sets = some stored)
    (isStored : effect.stored = some stored)
    (isNext : effect.next = .access .readBack) :
    InStep (store.settle number request effect) := by
  have events :
      effect.events number request = [.stored number request stored] := by
    rw [Effect.events, isNext, isStored]
    rfl
  have only : ∀ other value,
      (store.settle number request effect).Unacknowledged other value →
        other = number ∧ value = stored := by
    intro other value pending
    rcases unacknowledged_settle.mp pending with ⟨same, -, isSet⟩ | ⟨-, before⟩
    · exact ⟨same, Option.some.inj (isSet.symm.trans sets)⟩
    · exact absurd before (none other value)
  have last : lastStored (effect.events number request ++ store.history) =
      some stored := by
    rw [events, lastStored]
    simp [Event.stores, sets]
  constructor
  · intro nonePending
    exact absurd (unacknowledged_settle.mpr (.inl ⟨rfl, isNext, sets⟩))
      (nonePending number stored)
  · intro other value pending
    obtain ⟨-, rfl⟩ := only other value pending
    exact last
  · intro other value another anotherValue pending alsoPending
    rw [(only other value pending).1, (only another _ alsoPending).1]
  · rw [HandleStore.settle]
    dsimp only
    rw [events]
    exact ⟨nofun, inStep.throughout⟩

/-- The last call to store a value returns. -/
theorem InStep.acknowledging {value : String} {metadata : SecretMetadata}
    (inStep : InStep store) (pending : store.Unacknowledged number value)
    (sets : request.sets = some value) (storesNone : effect.stored = none)
    (isNext : effect.next = .returned (.ok (.metadata metadata))) :
    InStep (store.settle number request effect) := by
  have events :
      effect.events number request =
        [.returned number request (.ok (.metadata metadata))] := by
    rw [Effect.events, isNext, storesNone]
    rfl
  have none : ∀ other otherValue,
      ¬ (store.settle number request effect).Unacknowledged other
        otherValue := by
    intro other otherValue left
    rcases unacknowledged_settle.mp left with ⟨-, isOther, -⟩ | ⟨differs, before⟩
    · cases isNext.symm.trans isOther
    · exact differs
        (inStep.alone number value other otherValue pending before)
  constructor
  · intro nonePending
    rw [HandleStore.settle]
    dsimp only
    rw [events, List.singleton_append, lastStored_cons rfl,
      inStep.last number value pending, lastAcknowledged]
    simp [Event.acknowledges, sets]
  · intro other otherValue left
    exact absurd left (none other otherValue)
  · intro other otherValue another anotherValue left
    exact absurd left (none other otherValue)
  · rw [HandleStore.settle]
    dsimp only
    rw [events]
    exact ⟨nofun, inStep.throughout⟩

/-- A call whose next access is another one has nothing to acknowledge. -/
theorem not_unacknowledged {number : Nat} {request : Request}
    {access : Access}
    (pending : store.calls number = some ⟨request, access⟩)
    (notReadBack : access ≠ .readBack) (value : String) :
    ¬ store.Unacknowledged number value := by
  rintro ⟨asked, before, -⟩
  cases pending.symm.trans before
  exact notReadBack rfl

theorem InStep.began {request : Request} {next : Next}
    (inStep : InStep store) (consistent : Consistent derive aead store)
    (starts : Starts aead store.ring request next) :
    InStep
      ((store.begun request).settle store.history.length request
        (.reading store.row next)) := by
  have begun : InStep (store.begun request) :=
    ⟨inStep.settled, inStep.last, inStep.alone, nofun,
      inStep.throughout⟩
  have fresh : ∀ value,
      ¬ (store.begun request).Unacknowledged store.history.length
        value := by
    rintro value ⟨asked, pending, -⟩
    exact absurd (consistent.numbered _ _ pending) (lt_irrefl _)
  cases starts with
  | failed error =>
      exact begun.quiet fresh nofun rfl rfl ⟨nofun, begun.throughout⟩
  | _ => exact begun.quiet fresh nofun rfl rfl begun.throughout

theorem InStep.proceeded {number : Nat} {nonce : Nonce} {request : Request}
    {access : Access} {effect : Effect} (inStep : InStep store)
    (consistent : Consistent derive aead store)
    (holdsStored : HoldsStored derive aead store)
    (finds : FindsActive store (.proceed number nonce))
    (seesNone : SeesNoneUnacknowledged store (.proceed number nonce))
    (pending : store.calls number = some ⟨request, access⟩)
    (gives : Gives aead store.ring store.row access effect) :
    InStep (store.settle number request effect) := by
  have fits := consistent.fits number request access pending
  have notBefore := @not_unacknowledged _ store number request access
    pending
  cases gives with
  | failed error lost =>
      have notReadBack : access ≠ .readBack := by
        rintro rfl
        obtain ⟨-, existing, present, -⟩ := fits
        cases present.symm.trans (lost rfl)
      exact inStep.quiet (notBefore notReadBack) nofun rfl rfl
        ⟨nofun, inStep.throughout⟩
  | inserted absent =>
      obtain ⟨rfl, -⟩ := fits
      refine inStep.storing ?_ rfl rfl rfl
      rintro other value ⟨asked, isOther, -⟩
      obtain ⟨-, existing, present, -⟩ :=
        consistent.fits other asked .readBack isOther
      cases present.symm.trans absent
  | opened present active =>
      exact inStep.quiet (notBefore nofun) nofun rfl rfl
        inStep.throughout
  | checked present active sealing =>
      exact inStep.quiet (notBefore nofun) nofun rfl rfl
        inStep.throughout
  | @updated existing rawSecret sealedPayload present active =>
      rcases fits.1 with rfl | rfl
      · exact inStep.storing
          (seesNone (.inr ⟨rawSecret, rawSecret, sealedPayload, pending⟩))
          rfl rfl rfl
      · exact inStep.quiet (notBefore nofun) (fun _ => rfl) rfl rfl
          ⟨nofun, inStep.throughout⟩
  | @missed rawSecret sealedPayload inactive =>
      rcases fits.1 with rfl | rfl
      · obtain ⟨row, present, active⟩ :=
          finds rawSecret rawSecret sealedPayload pending
        exact absurd active (inactive row present)
      · exact inStep.quiet (notBefore nofun) (fun _ => rfl) rfl rfl
          inStep.throughout
  | revoked present =>
      cases (fits : request = .revoke)
      exact inStep.quiet (notBefore nofun) (fun _ => rfl) rfl rfl
        inStep.throughout
  | @resolved existing value present active opened =>
      cases (fits : request = .resolve)
      refine inStep.quiet (notBefore nofun) nofun rfl rfl
        ⟨?_, inStep.throughout⟩
      rintro other found ⟨⟩
      obtain ⟨held, isLast, holdsValue⟩ :=
        holdsStored.holds existing present
      cases holdsValue.unseal.symm.trans opened
      exact (inStep.settled (seesNone (.inl pending))).trans isLast
  | readBack present =>
      cases isSet : request.sets with
      | some value =>
          exact inStep.acknowledging ⟨request, pending, isSet⟩ isSet rfl
            rfl
      | none =>
          refine inStep.quiet ?_ nofun ?_ rfl ⟨nofun, inStep.throughout⟩
          · rintro value ⟨asked, isAsked, sets⟩
            cases pending.symm.trans isAsked
            cases isSet.symm.trans sets
          · rw [lastAcknowledged, lastAcknowledged]
            simp [Effect.events, Effect.reading, Event.acknowledges,
              isSet]

theorem InStep.moved (inStep : InStep store)
    (consistent : Consistent derive aead store)
    (holdsStored : HoldsStored derive aead store)
    (finds : FindsActive store step)
    (seesNone : SeesNoneUnacknowledged store step)
    (moves : Moves derive aead store step after) : InStep after := by
  cases moves with
  | idle => exact inStep
  | rekeyed operation =>
      exact
        ⟨inStep.settled, inStep.last, inStep.alone, inStep.throughout⟩
  | began starts => exact inStep.began consistent starts
  | proceeded pending gives =>
      exact
        inStep.proceeded consistent holdsStored finds seesNone pending gives

/-! ## Runs -/

theorem consistent_run (authentic : aead.Authentic) (ring : KeyRing Key)
    (steps : List Step) :
    Consistent derive aead
      ((HandleStore.initial ring).run derive aead steps) :=
  List.foldlRecOn steps _ (consistent_initial ring)
    fun store consistent step _ =>
      consistent.moved authentic (perform_moves store step)

/-- What consistent steps of a kind preserve holds after a run of them. -/
theorem run_keeps (authentic : aead.Authentic) {ring : KeyRing Key}
    {steps : List Step} {meets : HandleStore Key → Step → Prop}
    {invariant : HandleStore Key → Prop}
    (kept : ∀ store step after, Consistent derive aead store →
      invariant store → meets store step →
        Moves derive aead store step after → invariant after)
    (along :
      Along (HandleStore.perform derive aead) meets (.initial ring) steps)
    (initially : invariant (.initial ring)) :
    invariant ((HandleStore.initial ring).run derive aead steps) := by
  have step : ∀ store step,
      Consistent derive aead store ∧ invariant store → meets store step →
        Consistent derive aead (store.perform derive aead step) ∧
          invariant (store.perform derive aead step) := by
    rintro store step ⟨consistent, holds⟩ met
    have moves : Moves derive aead store step
        (store.perform derive aead step) := perform_moves store step
    exact ⟨consistent.moved authentic moves,
      kept store step _ consistent holds met moves⟩
  exact (along.invariant step ⟨consistent_initial ring, initially⟩).2

/--
If every UPDATE of a `reseal_secret` finds the value that was read, and every
UPDATE of a `rotate_secret` the handle active, then a handle resolves to the
value stored last, a rotation that succeeds has stored, and nothing succeeds
after a revocation; the last holds without a condition.  If moreover no value
waits to be acknowledged when it is resolved or replaced, a handle resolves to
the value acknowledged last.
-/
theorem updates_linearize (authentic : aead.Authentic)
    (derive : List UInt8 → Key) (ring : KeyRing Key) (steps : List Step) :
    (Along (HandleStore.perform derive aead)
        (fun store step =>
          FindsValueRead aead store step ∧ FindsActive store step ∧
            SeesNoneUnacknowledged store step)
        (.initial ring) steps →
      Linearizes
        ((HandleStore.initial ring).run derive aead steps).history) ∧
    (Along (HandleStore.perform derive aead) (FindsValueRead aead)
        (.initial ring) steps →
      Throughout ResolvesStored
        ((HandleStore.initial ring).run derive aead steps).history) ∧
    (Along (HandleStore.perform derive aead) FindsActive (.initial ring)
        steps →
      Throughout RotationsStored
        ((HandleStore.initial ring).run derive aead steps).history) ∧
    Throughout NoneAfterRevocation
      ((HandleStore.initial ring).run derive aead steps).history := by
  have revokes : Revocations
      ((HandleStore.initial ring).run derive aead steps) :=
    run_keeps authentic
      (fun store step after consistent revocations _ moves =>
        revocations.moved consistent moves)
      (.of_forall fun _ _ => trivial) (revocations_initial ring)
  refine ⟨fun along => ?_, fun along => ?_, fun along => ?_,
    revokes.throughout⟩
  · have kept : ∀ store step after, Consistent derive aead store →
        (HoldsStored derive aead store ∧ RotationsKept store) ∧
            InStep store →
          FindsValueRead aead store step ∧ FindsActive store step ∧
              SeesNoneUnacknowledged store step →
            Moves derive aead store step after →
              (HoldsStored derive aead after ∧ RotationsKept after) ∧
                InStep after := by
      rintro store step after consistent ⟨⟨holdsStored, rotations⟩, inStep⟩
        ⟨findsValue, findsActive, seesNone⟩ moves
      exact ⟨⟨holdsStored.moved consistent findsValue moves,
          rotations.moved consistent findsActive moves⟩,
        inStep.moved consistent holdsStored findsActive seesNone moves⟩
    have holds := run_keeps authentic kept along
      ⟨⟨holdsStored_initial ring, rotationsKept_initial ring⟩,
        inStep_initial ring⟩
    exact ⟨holds.2.throughout, holds.1.2.throughout, revokes.throughout⟩
  · have holds : HoldsStored derive aead
        ((HandleStore.initial ring).run derive aead steps) :=
      run_keeps authentic
        (fun store step after consistent holdsStored found moves =>
          holdsStored.moved consistent found moves) along
        (holdsStored_initial ring)
    exact holds.throughout
  · have kept : RotationsKept
        ((HandleStore.initial ring).run derive aead steps) :=
      run_keeps authentic
        (fun store step after consistent rotations found moves =>
          rotations.moved consistent found moves) along
        (rotationsKept_initial ring)
    exact kept.throughout

end

/-! ## Updates that are lost -/

/-- A run under one small key and the cipher that hides nothing. -/
def smallRun (steps : List Step) : HandleStore (List UInt8) :=
  (HandleStore.initial smallRing).run id openCipher steps

theorem none_unacknowledged {Key : Type} {derive : List UInt8 → Key}
    {aead : Aead Key} {store : HandleStore Key}
    (consistent : Consistent derive aead store)
    (noReadBack : ∀ number < store.history.length,
      (store.calls number).map Call.access ≠ some .readBack)
    (number : Nat) (value : String) :
    ¬ store.Unacknowledged number value := by
  rintro ⟨request, pending, -⟩
  apply noReadBack number (consistent.numbered number _ pending)
  rw [pending]
  rfl

/-- A value is created, rotated and resolved, by one call after the other. -/
def orderlyRun : List Step :=
  [.call (.create "a") zeroNonce, .proceed 0 zeroNonce, .proceed 0 zeroNonce,
    .call (.rotate "b") zeroNonce, .proceed 3 zeroNonce,
    .proceed 3 zeroNonce, .proceed 3 zeroNonce,
    .call .resolve zeroNonce, .proceed 6 zeroNonce]

theorem orderlyRun_along :
    Along (HandleStore.perform id openCipher)
      (fun store step =>
        FindsValueRead openCipher store step ∧ FindsActive store step ∧
          SeesNoneUnacknowledged store step)
      (.initial smallRing) orderlyRun := by
  have none : ∀ count,
      (∀ number < (smallRun (orderlyRun.take count)).history.length,
        ((smallRun (orderlyRun.take count)).calls number).map Call.access ≠
          some .readBack) →
        ∀ other value,
          ¬ (smallRun (orderlyRun.take count)).Unacknowledged other value :=
    fun count =>
      none_unacknowledged (consistent_run openCipher_authentic _ _)
  refine
    ⟨⟨trivial, trivial, trivial⟩,
      ⟨?_, ?_, fun _ => none 1 (by decide)⟩, ⟨?_, ?_, ?_⟩,
      ⟨trivial, trivial, trivial⟩,
      ⟨?_, ?_, fun _ => none 4 (by decide)⟩,
      ⟨?_, fun _ _ _ _ => ⟨_, rfl, rfl⟩,
        fun _ => none 5 (by decide)⟩, ⟨?_, ?_, ?_⟩,
      ⟨trivial, trivial, trivial⟩,
      ⟨?_, ?_, fun _ => none 8 (by decide)⟩, trivial⟩
  case refine_5 => rintro (⟨⟨⟩⟩ | ⟨_, _, _, ⟨⟩⟩)
  case refine_11 => rintro (⟨⟨⟩⟩ | ⟨_, _, _, ⟨⟩⟩)
  all_goals rintro _ _ _ ⟨⟩

theorem orderlyRun_linearizes : Linearizes (smallRun orderlyRun).history :=
  (updates_linearize openCipher_authentic id smallRing orderlyRun).1
    orderlyRun_along

/-- A value is created, rotated while it is being resealed, and resolved. -/
def lostRotation : List Step :=
  [.call (.create "a") zeroNonce, .proceed 0 zeroNonce, .proceed 0 zeroNonce,
    .call .reseal zeroNonce, .proceed 3 zeroNonce,
    .call (.rotate "b") zeroNonce, .proceed 4 zeroNonce,
    .proceed 4 zeroNonce, .proceed 4 zeroNonce,
    .proceed 3 zeroNonce, .proceed 3 zeroNonce, .proceed 3 zeroNonce,
    .call .resolve zeroNonce, .proceed 9 zeroNonce]

/-- A handle is revoked between the check and the UPDATE of a rotation. -/
def lateRotation : List Step :=
  [.call (.create "a") zeroNonce, .proceed 0 zeroNonce, .proceed 0 zeroNonce,
    .call (.rotate "b") zeroNonce, .proceed 3 zeroNonce,
    .call .revoke zeroNonce, .proceed 4 zeroNonce, .proceed 4 zeroNonce,
    .proceed 3 zeroNonce, .proceed 3 zeroNonce]

/-- A rotation that returned is undone, and another returns for nothing. -/
theorem rotations_lost :
    ¬ Throughout ResolvesAcknowledged (smallRun lostRotation).history ∧
      ¬ Throughout ResolvesStored (smallRun lostRotation).history ∧
      ¬ Throughout RotationsStored (smallRun lateRotation).history := by
  have resolved : (smallRun lostRotation).history.head? =
      some (.returned 9 .resolve (.ok (.secret "a"))) := by decide +kernel
  have rotated : (smallRun lateRotation).history.head? =
      some (.returned 3 (.rotate "b") (.ok (.metadata ⟨.revoked, 1⟩))) := by
    decide
  have acknowledged :
      lastAcknowledged (smallRun lostRotation).history.tail ≠ some "a" := by
    decide +kernel
  have stored :
      lastStored (smallRun lostRotation).history.tail ≠ some "a" := by
    decide +kernel
  have notStored :
      .stored 3 (.rotate "b") "b" ∉
        (smallRun lateRotation).history.tail := by
    decide
  refine ⟨not_throughout resolved ?_, not_throughout resolved ?_,
    not_throughout rotated ?_⟩
  · exact fun last => acknowledged (last 9 "a" rfl)
  · exact fun last => stored (last 9 "a" rfl)
  · exact fun kept => notStored (kept 3 "b" _ rfl)

end OpenSnow.Auth.SecretHandles
