import Automaton.Factory.DraftFrame
import Automaton.Library.Fallible
import Automaton.Library.Transition

/-!
# Nonces of the factory's transactions

Spawn releases and refunds are drafted by messages that wait for the pending count of the chain and
then, in one segment, reserve a nonce and draft a transaction. A refund whose draft is stored takes
up that draft. The next nonce is above all that were handed out, until the numbers run out.
-/

namespace Automaton.Factory

open Machine Persist Transition

/-- What a transaction of a refund is determined by. -/
structure RefundFields where
  claimId : String
  escrow : String
  nonce : ℕ
  chainId : ℕ
  maxPriorityFeePerGas : ℕ
  maxFeePerGas : ℕ
  gasLimit : ℕ
  deriving DecidableEq, Repr

/-- The fields in a record. -/
def ReleaseBroadcastRecord.refundFields (record : ReleaseBroadcastRecord) : RefundFields :=
  ⟨record.claimId, record.escrowContractAddress, record.nonce, record.chainId,
    record.maxPriorityFeePerGas, record.maxFeePerGas, record.gasLimit⟩

/-- The fields in the draft that a refund takes up. -/
def RefundDraft.refundFields (draft : RefundDraft) : RefundFields :=
  ⟨draft.claimId, draft.escrow, draft.nonce, draft.config.chainId,
    draft.config.maxPriorityFeePerGas, draft.config.maxFeePerGas, draft.config.gasLimit⟩

/-- The transaction that a refund with some fields signs. -/
def RefundFields.transaction (externals : Externals) (fields : RefundFields) :
    Except FactoryError (UnsignedEip1559Transaction .wasm32) := do
  let plan ← buildRefundPlan externals fields.claimId "" fields.escrow fields.nonce
    { ReleaseBroadcastConfig.default with
      chainId := fields.chainId
      maxPriorityFeePerGas := fields.maxPriorityFeePerGas
      maxFeePerGas := fields.maxFeePerGas
      gasLimit := fields.gasLimit }
  buildUnsignedReleaseTransaction plan

/-- What `execute_spawn` passes to `broadcast_release_transaction`, but for the nonce. -/
structure ReleaseRequest where
  claimId : String
  recipient : String
  escrow : String
  config : ReleaseBroadcastConfig
  reproduction : Option ReproductionRelease

/-- The plan that `broadcast_release_transaction` builds for a release. -/
def ReleaseRequest.plan (externals : Externals) (request : ReleaseRequest) (nonce : ℕ) :
    Except FactoryError ReleaseTransactionPlan :=
  match request.reproduction with
  | some release => buildReproductionReleasePlan externals request.claimId request.recipient
      request.escrow nonce request.config release
  | none => buildReleasePlan externals request.claimId request.recipient request.escrow nonce
      request.config

/-- The transaction of a release with a nonce. -/
def ReleaseRequest.transaction (externals : Externals) (request : ReleaseRequest) (nonce : ℕ) :
    Except FactoryError (UnsignedEip1559Transaction .wasm32) := do
  let plan ← request.plan externals nonce
  buildUnsignedReleaseTransaction plan

/-- A message that drafts a transaction. A release and a refund wait for the pending count; a refund
that has its draft writes records of it. -/
inductive DraftWorker
  | release (sessionId : String) (guard : SpawnReleaseDraftGuard) (request : ReleaseRequest)
  | refund (sessionId : String) (generation : ℕ) (session : SpawnSession) (escrow : String)
      (config : ReleaseBroadcastConfig)
  | refunding (sessionId : String) (generation : ℕ) (fields : RefundFields)

/-- A nonce that was handed out, and the pending count that was read for it. -/
structure HandedNonce where
  pending : ℕ
  nonce : ℕ
  deriving DecidableEq, Repr

/-- A transaction that was drafted, and the stored draft that it was taken from. -/
structure DraftedTransaction where
  nonce : ℕ
  transaction : UnsignedEip1559Transaction .wasm32
  resumed : Option RefundFields

/-- A factory with the messages that draft transactions. -/
structure NonceWorld where
  factory : FactoryState
  workers : List DraftWorker
  /-- The nonces that were handed out, in order. -/
  handed : List HandedNonce
  /-- The transactions that were drafted. -/
  drafted : List DraftedTransaction

/-- Nothing was drafted, and no claim is stored. -/
def NonceWorld.IsFresh (world : NonceWorld) : Prop :=
  world.factory.escrowClaims = ∅ ∧ world.workers = [] ∧ world.handed = [] ∧ world.drafted = []

/-- What happens to the factory and to the messages. -/
inductive NonceAct
  | write (op : Op)
  | startRelease (sessionId : String) (guard : SpawnReleaseDraftGuard) (request : ReleaseRequest)
  | startRefund (sessionId : String) (generation nowMs : ℕ)
  | answer (worker : ℕ) (pending : Except FactoryError ℕ)
  | persist (worker : ℕ) (record : ReleaseBroadcastRecord) (byClaim : Bool)
  | stop (worker : ℕ)

section Acts

variable (libraries : Libraries)

/-- The log of drafts with a transaction, if it can be built. -/
def NonceWorld.draft (world : NonceWorld) (nonce : ℕ)
    (transaction : Except FactoryError (UnsignedEip1559Transaction .wasm32))
    (resumed : Option RefundFields) : NonceWorld :=
  { world with drafted := world.drafted ++
    transaction.toOption.toList.map fun transaction => ⟨nonce, transaction, resumed⟩ }

/-- The segment of `claim_escrow_refund_inner` before the pending count is read. A record whose
transaction was sent or signed is taken up at once. -/
def NonceWorld.startRefund (world : NonceWorld) (sessionId : String) (generation nowMs : ℕ) :
    NonceWorld :=
  if !(holdsRefundLease world.factory sessionId generation) then world
  else
    match validateEscrowRefundInState world.factory sessionId nowMs,
        world.factory.sessions[sessionId]?, world.factory.escrowClaims[sessionId]? with
    | .ok none, some session, some claim =>
      match claim.refundBroadcast with
      | some record =>
        if record.rpcTxHash.isSome || record.rawTransactionHash.isSome then
          { world.draft record.nonce
              (record.refundFields.transaction libraries.toExternals) record.refundFields with
            workers := world.workers ++ [.refunding sessionId generation record.refundFields] }
        else
          { world with workers := world.workers ++ [.refund sessionId generation session
            world.factory.escrowContractAddress world.factory.releaseBroadcastConfig] }
      | none =>
        { world with workers := world.workers ++ [.refund sessionId generation session
          world.factory.escrowContractAddress world.factory.releaseBroadcastConfig] }
    | _, _, _ => world

/-- The segment of `execute_spawn` after the pending count: a nonce is reserved, and the release is
drafted unless its guard has become stale. -/
def NonceWorld.answerRelease (world : NonceWorld) (worker : ℕ) (sessionId : String)
    (guard : SpawnReleaseDraftGuard) (request : ReleaseRequest) (pending : ℕ) : NonceWorld :=
  let nonce := reservedNonce world.factory.nextReleaseNonce pending
  let factory := after (reserveReleaseNonceInState pending) world.factory
  let reserved : NonceWorld := { world with
    factory := factory
    workers := world.workers.eraseIdx worker
    handed := world.handed ++ [⟨pending, nonce⟩] }
  match ensureSpawnReleaseDraftGuard factory sessionId guard with
  | .ok () => reserved.draft nonce (request.transaction libraries.toExternals nonce) none
  | .error _ => reserved

/-- The record of the refund transaction of a session, as stored. -/
def FactoryState.refundRecord (state : FactoryState) (sessionId : String) :
    Option ReleaseBroadcastRecord :=
  state.escrowClaims[sessionId]?.bind (·.refundBroadcast)

/-- The segment of `claim_escrow_refund_inner` after the pending count: the stored draft is taken
up, or a nonce is reserved and a draft stored. -/
def NonceWorld.answerRefund (world : NonceWorld) (worker : ℕ) (sessionId : String)
    (generation : ℕ) (session : SpawnSession) (escrow : String) (config : ReleaseBroadcastConfig)
    (pending : ℕ) : NonceWorld :=
  let stored := world.factory.refundRecord sessionId
  match writeRefundGuarded sessionId generation (draftRefundInState libraries.toExternals sessionId
      session escrow config pending) world.factory with
  | .error _ factory =>
    { world with factory := factory, workers := world.workers.eraseIdx worker }
  | .ok draft factory =>
    NonceWorld.draft { world with
      factory := factory
      workers := world.workers.eraseIdx worker ++ [.refunding sessionId generation
        draft.refundFields]
      handed := world.handed ++ if stored.isSome then [] else [⟨pending, draft.nonce⟩] }
    draft.nonce (draft.refundFields.transaction libraries.toExternals)
    (stored.map (·.refundFields))

/-- The pending count arrives, or the call for it fails. -/
def NonceWorld.answer (world : NonceWorld) (worker : ℕ) (pending : Except FactoryError ℕ) :
    NonceWorld :=
  match world.workers[worker]?, pending with
  | some (.release ..), .error _ => { world with workers := world.workers.eraseIdx worker }
  | some (.refund ..), .error _ => { world with workers := world.workers.eraseIdx worker }
  | some (.release sessionId guard request), .ok pending =>
    world.answerRelease libraries worker sessionId guard request pending
  | some (.refund sessionId generation session escrow config), .ok pending =>
    world.answerRefund libraries worker sessionId generation session escrow config pending
  | _, _ => world

/-- A refund writes a record of its own transaction, under its session or under its claim. -/
def NonceWorld.persist (world : NonceWorld) (worker : ℕ) (record : ReleaseBroadcastRecord)
    (byClaim : Bool) : NonceWorld :=
  match world.workers[worker]? with
  | some (.refunding sessionId generation fields) =>
    if record.refundFields = fields then
      let op := if byClaim then
          Op.persistRefundTransactionRecord record.claimId record sessionId generation
        else .persistRefundBroadcastRecord sessionId generation record
      { world with factory := op.apply libraries world.factory }
    else world
  | _ => world

/-- The world after an act. -/
def NonceAct.apply (act : NonceAct) (world : NonceWorld) : NonceWorld :=
  match act with
  | .write op =>
    if op.draftsTransactions then world
    else { world with factory := op.apply libraries world.factory }
  | .startRelease sessionId guard request =>
    { world with workers := world.workers ++ [.release sessionId guard request] }
  | .startRefund sessionId generation nowMs =>
    world.startRefund libraries sessionId generation nowMs
  | .answer worker pending => world.answer libraries worker pending
  | .persist worker record byClaim => world.persist libraries worker record byClaim
  | .stop worker => { world with workers := world.workers.eraseIdx worker }

end Acts

/-- No nonce is shared by different transactions, until the numbers run out. -/
structure NonceWorld.NoncesUnique (world : NonceWorld) : Prop where
  /-- A nonce is at least the pending count that was read for it. -/
  pending : ∀ handed ∈ world.handed, handed.pending ≤ handed.nonce
  /-- A nonce is greater than all that were handed out before. -/
  increasing : world.handed.Pairwise fun earlier later =>
    later.nonce < u64Max → earlier.nonce < later.nonce
  /-- A refund that is resumed has the nonce of its stored draft. -/
  resumed : ∀ drafted ∈ world.drafted, ∀ fields, drafted.resumed = some fields →
    drafted.nonce = fields.nonce
  /-- Transactions with one nonce are equal. -/
  unique : ∀ first ∈ world.drafted, ∀ second ∈ world.drafted, first.nonce = second.nonce →
    first.nonce < u64Max → first.transaction = second.transaction

/-- The transaction of a refund was drafted with its nonce, if it can be built. -/
def Known (externals : Externals) (drafted : List DraftedTransaction) (fields : RefundFields) :
    Prop :=
  ∀ transaction, fields.transaction externals = .ok transaction →
    ∃ earlier ∈ drafted, earlier.nonce = fields.nonce ∧ earlier.transaction = transaction

/-- The next nonce is above a nonce, as far as there are greater ones. -/
def Passed (factory : FactoryState) (nonce : ℕ) : Prop :=
  ∃ next, factory.nextReleaseNonce = some next ∧ saturatingAdd u64Max nonce 1 ≤ next

/-- What holds of nonces and drafts in every state. -/
structure NonceInv (externals : Externals) (world : NonceWorld) : Prop
    extends world.NoncesUnique where
  handedPassed : ∀ handed ∈ world.handed, Passed world.factory handed.nonce
  draftedPassed : ∀ drafted ∈ world.drafted, Passed world.factory drafted.nonce
  stored : ∀ sessionId record, world.factory.refundRecord sessionId = some record →
    Known externals world.drafted record.refundFields
  refunding : ∀ sessionId generation fields, .refunding sessionId generation fields ∈
    world.workers → Known externals world.drafted fields

section Drafts

variable {externals : Externals} {s t : FactoryState} {sessionId : String} {generation : ℕ}
  {session : SpawnSession} {escrow : String} {config : ReleaseBroadcastConfig} {pending : ℕ}
  {record : ReleaseBroadcastRecord}

theorem KeepsDrafts.refundRecord (h : KeepsDrafts s t)
    (hrecord : t.refundRecord sessionId = some record) :
    s.refundRecord sessionId = some record := by
  obtain ⟨claim, hclaim, hbroadcast⟩ := Option.bind_eq_some_iff.mp hrecord
  obtain ⟨earlier, hearlier, hearlier'⟩ := h.drafts sessionId claim record hclaim hbroadcast
  exact Option.bind_eq_some_iff.mpr ⟨earlier, hearlier, hearlier'⟩

/-- Storing a record of a refund transaction changes no other record. -/
theorem refundRecord_withRefundBroadcast {key : String} {stored : ReleaseBroadcastRecord}
    (h : (s.updateClaim key (·.withRefundBroadcast record)).refundRecord sessionId = some stored) :
    s.refundRecord sessionId = some stored ∨ stored = record := by
  unfold FactoryState.refundRecord at h ⊢
  rw [FactoryState.updateClaim_escrowClaims, BTreeMap.get?_modify] at h
  split at h
  · cases hclaim : s.escrowClaims[sessionId]? with
    | none =>
      rw [hclaim] at h
      cases h
    | some claim =>
      rw [hclaim] at h
      exact .inr (Option.some.inj h).symm
  · exact .inl h

/-- What a valid stored draft is turned into. -/
theorem validateRefundTransactionDraft_spec {claimId recipient keyName : String}
    (h : validateRefundTransactionDraft externals record claimId recipient keyName = .ok config) :
    config.chainId = record.chainId ∧
      config.maxPriorityFeePerGas = record.maxPriorityFeePerGas ∧
      config.maxFeePerGas = record.maxFeePerGas ∧ config.gasLimit = record.gasLimit := by
  unfold validateRefundTransactionDraft at h
  split at h
  · cases h
  · obtain ⟨expected, -, hrest⟩ := Fallible.bind_eq_ok.mp h
    split at hrest
    · cases hrest
    · obtain rfl := Except.ok.inj hrest
      exact ⟨rfl, rfl, rfl, rfl⟩

/-- The fields of a new draft. -/
theorem buildRefundTransactionDraft_spec {claimId recipient : String} {nonce : ℕ}
    (h : buildRefundTransactionDraft externals claimId recipient escrow nonce config =
      .ok record) :
    record.refundFields = ⟨claimId, escrow, nonce, config.chainId, config.maxPriorityFeePerGas,
      config.maxFeePerGas, config.gasLimit⟩ := by
  obtain ⟨plan, hplan, hrest⟩ := Fallible.bind_eq_ok.mp h
  obtain ⟨unsigned, -, hrecord⟩ := Fallible.bind_eq_ok.mp hrest
  obtain ⟨calldata, -, hplan⟩ := Fallible.bind_eq_ok.mp hplan
  obtain rfl := Except.ok.inj hplan
  obtain rfl := Except.ok.inj hrecord
  rfl

theorem run_writeRefundGuarded {α : Type} (generation : ℕ) (mutation : Update α) :
    writeRefundGuarded sessionId generation mutation s =
      if holdsRefundLease s sessionId generation then mutation s
      else .error staleRefundCommand s := by
  unfold writeRefundGuarded ensureRefundGeneration
  rw [run_bind, run_get]
  dsimp only
  split
  · rw [run_bind, run_ofExcept_ok]
  · rw [run_bind, run_ofExcept_error]

theorem after_writeRefundGuarded {α : Type} (generation : ℕ) (mutation : Update α) :
    after (writeRefundGuarded sessionId generation mutation) s =
      if holdsRefundLease s sessionId generation then after mutation s else s := by
  unfold after
  rw [run_writeRefundGuarded]
  by_cases hlease : holdsRefundLease s sessionId generation
  · rw [if_pos hlease, if_pos hlease]
  · rw [if_neg hlease, if_neg hlease]

/-- A stored draft is taken up if it is valid. -/
theorem run_draftRefundInState_of_stored (hrecord : s.refundRecord sessionId = some record) :
    (∃ error, draftRefundInState externals sessionId session escrow config pending s =
        .error error s) ∨
      ∃ draft : RefundDraft, draft.refundFields = record.refundFields ∧
        draftRefundInState externals sessionId session escrow config pending s = .ok draft s := by
  unfold FactoryState.refundRecord at hrecord
  unfold draftRefundInState
  rw [run_bind, run_get]
  dsimp only
  rw [hrecord]
  dsimp only
  cases hvalid : validateRefundTransactionDraft externals record session.claimId
      session.stewardAddress config.ecdsaKeyName with
  | error error =>
    refine .inl ⟨error, ?_⟩
    rw [run_bind, run_ofExcept_error]
  | ok draftConfig =>
    obtain ⟨hchain, hpriority, hfee, hgas⟩ := validateRefundTransactionDraft_spec hvalid
    refine .inr ⟨⟨record.claimId, record.recipient, record.escrowContractAddress, draftConfig,
      record.nonce⟩, ?_, ?_⟩
    · unfold RefundDraft.refundFields ReleaseBroadcastRecord.refundFields
      rw [hchain, hpriority, hfee, hgas]
    · rw [run_bind, run_ofExcept_ok]
      rfl

/-- Without a stored draft a new one is stored under a reserved nonce. -/
theorem run_draftRefundInState_of_none (hrecord : s.refundRecord sessionId = none) :
    (∃ error, draftRefundInState externals sessionId session escrow config pending s =
        .error error s) ∨
      ∃ (record : ReleaseBroadcastRecord) (draft : RefundDraft),
        draft.nonce = reservedNonce s.nextReleaseNonce pending ∧
        record.refundFields = draft.refundFields ∧
        draftRefundInState externals sessionId session escrow config pending s =
          .ok draft ((s.reserveNonce draft.nonce).persistRefundBroadcastRecord sessionId
            record) := by
  unfold FactoryState.refundRecord at hrecord
  unfold draftRefundInState
  rw [run_bind, run_get]
  dsimp only
  rw [hrecord]
  dsimp only
  cases hbuild : buildRefundTransactionDraft externals session.claimId session.stewardAddress
      escrow (reservedNonce s.nextReleaseNonce pending) config with
  | error error =>
    refine .inl ⟨error, ?_⟩
    rw [run_bind, run_ofExcept_error]
  | ok record =>
    have hfields := buildRefundTransactionDraft_spec hbuild
    refine .inr ⟨record, ⟨session.claimId, session.stewardAddress, escrow, config,
      reservedNonce s.nextReleaseNonce pending⟩, rfl, hfields, ?_⟩
    rw [run_bind, run_ofExcept_ok]
    rfl

/-- Storing a record of a refund transaction, or not, as the guard decides. -/
structure StoresRecord (record : ReleaseBroadcastRecord) (s t : FactoryState) : Prop where
  nonce : t.nextReleaseNonce = s.nextReleaseNonce
  stored : ∀ sessionId stored, t.refundRecord sessionId = some stored →
    s.refundRecord sessionId = some stored ∨ stored = record

protected theorem StoresRecord.refl (record : ReleaseBroadcastRecord) (s : FactoryState) :
    StoresRecord record s s :=
  ⟨rfl, fun _ _ h => .inl h⟩

theorem StoresRecord.updateClaim (record : ReleaseBroadcastRecord) (s : FactoryState)
    (key : String) : StoresRecord record s (s.updateClaim key (·.withRefundBroadcast record)) :=
  ⟨rfl, fun _ _ h => refundRecord_withRefundBroadcast h⟩

/-- A record is written under its session. -/
theorem storesRecord_persistRefundBroadcastRecord (libraries : Libraries) :
    StoresRecord record s
      ((Op.persistRefundBroadcastRecord sessionId generation record).apply libraries s) := by
  have happly : (Op.persistRefundBroadcastRecord sessionId generation record).apply libraries s =
      after (writeRefundGuarded sessionId generation
        (modify (·.persistRefundBroadcastRecord sessionId record))) s := rfl
  rw [happly, after_writeRefundGuarded]
  split
  · exact StoresRecord.updateClaim record s sessionId
  · exact StoresRecord.refl record s

/-- A record is written under the first claim with its id. -/
theorem storesRecord_persistRefundTransactionRecord (libraries : Libraries) {claimId : String} :
    StoresRecord record s
      ((Op.persistRefundTransactionRecord claimId record sessionId generation).apply libraries
        s) := by
  have happly : (Op.persistRefundTransactionRecord claimId record sessionId generation).apply
      libraries s = after (persistRefundTransactionRecordGuarded claimId record sessionId
        generation) s := rfl
  rw [happly, persistRefundTransactionRecordGuarded, after_writeRefundGuarded]
  split
  · rw [after_bind_of_ok outcome_get, after_get]
    split
    · exact StoresRecord.updateClaim record s _
    · exact StoresRecord.refl record s
  · exact StoresRecord.refl record s

end Drafts

section Invariant

variable {externals : Externals} {world world' : NonceWorld} {nonce pending : ℕ}
  {fields : RefundFields} {transaction : Except FactoryError (UnsignedEip1559Transaction .wasm32)}
  {resumed : Option RefundFields}

theorem mem_draft {drafted : DraftedTransaction} :
    drafted ∈ (world.draft nonce transaction resumed).drafted ↔
      drafted ∈ world.drafted ∨
        ∃ unsigned, transaction = .ok unsigned ∧ drafted = ⟨nonce, unsigned, resumed⟩ := by
  unfold NonceWorld.draft
  cases transaction with
  | error error => simp [Except.toOption]
  | ok unsigned => simp [Except.toOption]

theorem Known.mono {drafted drafted' : List DraftedTransaction}
    (h : Known externals drafted fields) (hsub : drafted ⊆ drafted') :
    Known externals drafted' fields := by
  intro transaction htransaction
  obtain ⟨earlier, hearlier, hnonce, htx⟩ := h transaction htransaction
  exact ⟨earlier, hsub hearlier, hnonce, htx⟩

theorem subset_draft : world.drafted ⊆ (world.draft nonce transaction resumed).drafted :=
  fun _ hdrafted => mem_draft.mpr (.inl hdrafted)

/-- What is drafted for a refund is known. -/
theorem known_draft (hnonce : nonce = fields.nonce) :
    Known externals (world.draft nonce (fields.transaction externals) resumed).drafted fields := by
  intro unsigned hunsigned
  exact ⟨⟨nonce, unsigned, resumed⟩, mem_draft.mpr (.inr ⟨unsigned, hunsigned, rfl⟩), hnonce, rfl⟩

/-- A nonce that was passed is smaller than the one that is reserved, as far as there are greater
ones. -/
theorem Passed.lt_reservedNonce {factory : FactoryState} {earlier : ℕ}
    (h : Passed factory earlier)
    (hlt : reservedNonce factory.nextReleaseNonce pending < u64Max) :
    earlier < reservedNonce factory.nextReleaseNonce pending := by
  obtain ⟨next, hnext, hle⟩ := h
  unfold reservedNonce at hlt ⊢
  unfold saturatingAdd at hle
  rw [hnext, Option.getD_some] at hlt ⊢
  omega

/-- It stays passed when the next nonce follows a reserved one. -/
theorem Passed.reserve {factory factory' : FactoryState} {earlier : ℕ}
    (h : Passed factory earlier)
    (hnext' : factory'.nextReleaseNonce =
      some (saturatingAdd u64Max (reservedNonce factory.nextReleaseNonce pending) 1)) :
    Passed factory' earlier := by
  obtain ⟨next, hnext, hle⟩ := h
  refine ⟨_, hnext', ?_⟩
  unfold reservedNonce saturatingAdd
  unfold saturatingAdd at hle
  rw [hnext, Option.getD_some]
  omega

/-- A step that hands out and drafts nothing. -/
theorem NonceInv.frame (h : NonceInv externals world)
    (hhanded : world'.handed = world.handed) (hdrafted : world'.drafted = world.drafted)
    (hnonce : world'.factory.nextReleaseNonce = world.factory.nextReleaseNonce)
    (hstored : ∀ sessionId record, world'.factory.refundRecord sessionId = some record →
      Known externals world.drafted record.refundFields)
    (hrefunding : ∀ sessionId generation fields, .refunding sessionId generation fields ∈
      world'.workers → Known externals world.drafted fields) : NonceInv externals world' where
  pending := hhanded ▸ h.pending
  increasing := hhanded ▸ h.increasing
  resumed := hdrafted ▸ h.resumed
  unique := hdrafted ▸ h.unique
  handedPassed := by
    intro handed hmem
    obtain ⟨next, hnext, hle⟩ := h.handedPassed handed (hhanded ▸ hmem)
    exact ⟨next, hnonce.trans hnext, hle⟩
  draftedPassed := by
    intro drafted hmem
    obtain ⟨next, hnext, hle⟩ := h.draftedPassed drafted (hdrafted ▸ hmem)
    exact ⟨next, hnonce.trans hnext, hle⟩
  stored := hdrafted ▸ hstored
  refunding := hdrafted ▸ hrefunding

/-- A refund drafts its transaction again. -/
theorem NonceInv.resume (h : NonceInv externals world)
    (hknown : Known externals world.drafted fields) :
    NonceInv externals
      (world.draft fields.nonce (fields.transaction externals) (some fields)) where
  pending := h.pending
  increasing := h.increasing
  resumed := by
    intro drafted hmem other hother
    rcases mem_draft.mp hmem with hold | ⟨unsigned, -, rfl⟩
    · exact h.resumed drafted hold other hother
    · obtain rfl := Option.some.inj hother
      rfl
  unique := by
    -- what is drafted again was drafted before
    have hearlier : ∀ drafted ∈
        (world.draft fields.nonce (fields.transaction externals) (some fields)).drafted,
          ∃ earlier ∈ world.drafted, earlier.nonce = drafted.nonce ∧
            earlier.transaction = drafted.transaction := by
      intro drafted hmem
      rcases mem_draft.mp hmem with hold | ⟨unsigned, hunsigned, rfl⟩
      · exact ⟨drafted, hold, rfl, rfl⟩
      · exact hknown unsigned hunsigned
    intro first hfirst second hsecond hnonce hlt
    obtain ⟨first', hfirst', hn₁, ht₁⟩ := hearlier first hfirst
    obtain ⟨second', hsecond', hn₂, ht₂⟩ := hearlier second hsecond
    rw [← ht₁, ← ht₂]
    exact h.unique first' hfirst' second' hsecond' (by omega) (by omega)
  handedPassed := h.handedPassed
  draftedPassed := by
    intro drafted hmem
    rcases mem_draft.mp hmem with hold | ⟨unsigned, hunsigned, rfl⟩
    · exact h.draftedPassed drafted hold
    · obtain ⟨earlier, hearlier, hnonce, -⟩ := hknown unsigned hunsigned
      exact hnonce ▸ h.draftedPassed earlier hearlier
  stored sessionId record hrecord := (h.stored sessionId record hrecord).mono subset_draft
  refunding sessionId generation fields hmem :=
    (h.refunding sessionId generation fields hmem).mono subset_draft

/-- A nonce is reserved and handed out, and at most one transaction is drafted with it. -/
theorem NonceInv.reserve (h : NonceInv externals world)
    (built : Except FactoryError (UnsignedEip1559Transaction .wasm32))
    (hnonce : nonce = reservedNonce world.factory.nextReleaseNonce pending)
    (hnext : world'.factory.nextReleaseNonce = some (saturatingAdd u64Max nonce 1))
    (hhanded : world'.handed = world.handed ++ [⟨pending, nonce⟩])
    (hsub : world.drafted ⊆ world'.drafted)
    (hdrafted : ∀ drafted ∈ world'.drafted, drafted ∈ world.drafted ∨
      drafted.nonce = nonce ∧ drafted.resumed = none ∧ built = .ok drafted.transaction)
    (hstored : ∀ sessionId record, world'.factory.refundRecord sessionId = some record →
      world.factory.refundRecord sessionId = some record ∨
        Known externals world'.drafted record.refundFields)
    (hrefunding : ∀ sessionId generation fields, .refunding sessionId generation fields ∈
      world'.workers → .refunding sessionId generation fields ∈ world.workers ∨
        Known externals world'.drafted fields) : NonceInv externals world' := by
  subst hnonce
  have hlater : ∀ earlier, Passed world.factory earlier →
      reservedNonce world.factory.nextReleaseNonce pending < u64Max →
        earlier < reservedNonce world.factory.nextReleaseNonce pending :=
    fun earlier hpassed hlt => hpassed.lt_reservedNonce hlt
  have hself : Passed world'.factory (reservedNonce world.factory.nextReleaseNonce pending) :=
    ⟨_, hnext, le_rfl⟩
  constructor
  · constructor
    · intro handed hmem
      rw [hhanded, List.mem_append, List.mem_singleton] at hmem
      rcases hmem with hold | rfl
      · exact h.pending handed hold
      · exact le_max_right _ _
    · rw [hhanded, List.pairwise_append]
      refine ⟨h.increasing, List.pairwise_singleton _ _, ?_⟩
      intro earlier hearlier later hlater' hlt
      obtain rfl := List.mem_singleton.mp hlater'
      exact hlater earlier.nonce (h.handedPassed earlier hearlier) hlt
    · intro drafted hmem fields hfields
      rcases hdrafted drafted hmem with hold | ⟨-, hnone, -⟩
      · exact h.resumed drafted hold fields hfields
      · rw [hnone] at hfields
        cases hfields
    · intro first hfirst second hsecond hsame hlt
      rcases hdrafted first hfirst with hfirst | ⟨hn₁, -, ht₁⟩ <;>
        rcases hdrafted second hsecond with hsecond | ⟨hn₂, -, ht₂⟩
      · exact h.unique first hfirst second hsecond hsame hlt
      · have := hlater first.nonce (h.draftedPassed first hfirst) (by omega)
        omega
      · have := hlater second.nonce (h.draftedPassed second hsecond) (by omega)
        omega
      · exact Except.ok.inj (ht₁.symm.trans ht₂)
  · intro handed hmem
    rw [hhanded, List.mem_append, List.mem_singleton] at hmem
    rcases hmem with hold | rfl
    · exact (h.handedPassed handed hold).reserve hnext
    · exact hself
  · intro drafted hmem
    rcases hdrafted drafted hmem with hold | ⟨hn, -, -⟩
    · exact (h.draftedPassed drafted hold).reserve hnext
    · exact hn ▸ hself
  · intro sessionId record hrecord
    rcases hstored sessionId record hrecord with hold | hknown
    · exact (h.stored sessionId record hold).mono hsub
    · exact hknown
  · intro sessionId generation fields hmem
    rcases hrefunding sessionId generation fields hmem with hold | hknown
    · exact (h.refunding sessionId generation fields hold).mono hsub
    · exact hknown

end Invariant

section Steps

variable {libraries : Libraries} {world : NonceWorld} {worker pending : ℕ}

/-- Writes that neither reserve a nonce nor store a record of a refund transaction. -/
theorem NonceInv.write (h : NonceInv libraries.toExternals world) {op : Op}
    (hop : op.draftsTransactions = false) :
    NonceInv libraries.toExternals { world with factory := op.apply libraries world.factory } := by
  have hkeeps := keepsDrafts_apply libraries hop world.factory
  refine h.frame rfl rfl hkeeps.nonce ?_ h.refunding
  intro sessionId record hrecord
  exact h.stored sessionId record (hkeeps.refundRecord hrecord)

/-- Messages that have no draft come and go. -/
theorem NonceInv.withWorkers (h : NonceInv libraries.toExternals world)
    {workers : List DraftWorker}
    (hworkers : ∀ sessionId generation fields, .refunding sessionId generation fields ∈ workers →
      .refunding sessionId generation fields ∈ world.workers) :
    NonceInv libraries.toExternals { world with workers := workers } := by
  refine h.frame rfl rfl rfl h.stored ?_
  intro sessionId generation fields hmem
  exact h.refunding sessionId generation fields (hworkers sessionId generation fields hmem)

/-- A message ends. -/
theorem NonceInv.stop (h : NonceInv libraries.toExternals world) :
    NonceInv libraries.toExternals { world with workers := world.workers.eraseIdx worker } :=
  h.withWorkers fun _ _ _ hmem => List.mem_of_mem_eraseIdx hmem

/-- A message that waits for the pending count starts. -/
theorem NonceInv.waits (h : NonceInv libraries.toExternals world) {message : DraftWorker}
    (hmessage : ∀ sessionId generation fields,
      message ≠ .refunding sessionId generation fields) :
    NonceInv libraries.toExternals { world with workers := world.workers ++ [message] } := by
  refine h.withWorkers fun sessionId generation fields hmem => ?_
  rcases List.mem_append.mp hmem with hold | hnew
  · exact hold
  · exact absurd (List.mem_singleton.mp hnew).symm (hmessage sessionId generation fields)

/-- A refund goes on with a draft that is known. -/
theorem NonceInv.goesOn (h : NonceInv libraries.toExternals world) {workers : List DraftWorker}
    {sessionId : String} {generation : ℕ} {fields : RefundFields}
    (hworkers : ∀ sessionId generation fields, .refunding sessionId generation fields ∈ workers →
      .refunding sessionId generation fields ∈ world.workers)
    (hknown : Known libraries.toExternals world.drafted fields) :
    NonceInv libraries.toExternals
      { world with workers := workers ++ [.refunding sessionId generation fields] } := by
  refine h.frame rfl rfl rfl h.stored ?_
  intro sessionId' generation' fields' hmem
  rcases List.mem_append.mp hmem with hold | hnew
  · exact h.refunding sessionId' generation' fields'
      (hworkers sessionId' generation' fields' hold)
  · obtain ⟨rfl, rfl, rfl⟩ := DraftWorker.refunding.inj (List.mem_singleton.mp hnew)
    exact hknown

theorem NonceInv.startRefund (h : NonceInv libraries.toExternals world) (sessionId : String)
    (generation nowMs : ℕ) :
    NonceInv libraries.toExternals (world.startRefund libraries sessionId generation nowMs) := by
  unfold NonceWorld.startRefund
  split
  · exact h
  · split
    · rename_i session claim hvalid hsession hclaim
      split
      · rename_i record hbroadcast
        have hrecord : world.factory.refundRecord sessionId = some record :=
          Option.bind_eq_some_iff.mpr ⟨claim, hclaim, hbroadcast⟩
        have hknown := h.stored sessionId record hrecord
        split
        · exact (h.resume hknown).goesOn (fun _ _ _ hmem => hmem) (hknown.mono subset_draft)
        · exact h.waits fun _ _ _ hmessage => DraftWorker.noConfusion hmessage
      · exact h.waits fun _ _ _ hmessage => DraftWorker.noConfusion hmessage
    · exact h

theorem NonceInv.answerRelease (h : NonceInv libraries.toExternals world) (sessionId : String)
    (guard : SpawnReleaseDraftGuard) (request : ReleaseRequest) :
    NonceInv libraries.toExternals
      (world.answerRelease libraries worker sessionId guard request pending) := by
  have hrefunding : ∀ sessionId generation fields, DraftWorker.refunding sessionId generation
      fields ∈ world.workers.eraseIdx worker →
        .refunding sessionId generation fields ∈ world.workers :=
    fun _ _ _ hmem => List.mem_of_mem_eraseIdx hmem
  unfold NonceWorld.answerRelease
  dsimp only
  split
  · refine h.reserve (request.transaction libraries.toExternals
      (reservedNonce world.factory.nextReleaseNonce pending)) rfl rfl rfl subset_draft ?_
      (fun _ _ hrecord => .inl hrecord) (fun _ _ _ hmem => .inl (hrefunding _ _ _ hmem))
    intro drafted hmem
    rcases mem_draft.mp hmem with hold | ⟨unsigned, hunsigned, rfl⟩
    · exact .inl hold
    · exact .inr ⟨rfl, rfl, hunsigned⟩
  · exact h.reserve (.error staleRefundCommand) rfl rfl rfl (fun _ hmem => hmem)
      (fun _ hmem => .inl hmem) (fun _ _ hrecord => .inl hrecord)
      (fun _ _ _ hmem => .inl (hrefunding _ _ _ hmem))

theorem NonceInv.answerRefund (h : NonceInv libraries.toExternals world) (sessionId : String)
    (generation : ℕ) (session : SpawnSession) (escrow : String)
    (config : ReleaseBroadcastConfig) :
    NonceInv libraries.toExternals (world.answerRefund libraries worker sessionId generation
      session escrow config pending) := by
  have hrefunding : ∀ sessionId generation fields, DraftWorker.refunding sessionId generation
      fields ∈ world.workers.eraseIdx worker →
        .refunding sessionId generation fields ∈ world.workers :=
    fun _ _ _ hmem => List.mem_of_mem_eraseIdx hmem
  unfold NonceWorld.answerRefund
  rw [run_writeRefundGuarded]
  by_cases hlease : holdsRefundLease world.factory sessionId generation
  · rw [if_pos hlease]
    cases hrecord : world.factory.refundRecord sessionId with
    | some record =>
      rcases @run_draftRefundInState_of_stored libraries.toExternals _ _ session escrow config pending
        _ hrecord with ⟨error, hrun⟩ | ⟨draft, hfields, hrun⟩
      · rw [hrun]
        exact h.stop
      · rw [hrun]
        dsimp only
        have hnonce : draft.nonce = record.refundFields.nonce :=
          congrArg RefundFields.nonce hfields
        have hknown := h.stored sessionId record hrecord
        have hgoes : NonceInv libraries.toExternals { world with
            workers := world.workers.eraseIdx worker ++
              [.refunding sessionId generation record.refundFields] } :=
          h.goesOn hrefunding hknown
        rw [hfields, hnonce, Option.isSome_some, if_pos rfl, List.append_nil]
        exact hgoes.resume hknown
    | none =>
      rcases @run_draftRefundInState_of_none libraries.toExternals _ _ session escrow config pending
        hrecord with ⟨error, hrun⟩ | ⟨record, draft, hnonce, hfields, hrun⟩
      · rw [hrun]
        exact h.stop
      · rw [hrun]
        dsimp only
        refine h.reserve (draft.refundFields.transaction libraries.toExternals) hnonce rfl rfl
          subset_draft ?_ ?_ ?_
        · intro drafted hmem
          rcases mem_draft.mp hmem with hold | ⟨unsigned, hunsigned, rfl⟩
          · exact .inl hold
          · exact .inr ⟨rfl, rfl, hunsigned⟩
        · intro other stored hstored
          rcases refundRecord_withRefundBroadcast hstored with hold | rfl
          · exact .inl hold
          · refine .inr ?_
            rw [hfields]
            exact known_draft rfl
        · intro other generation' fields hmem
          rcases List.mem_append.mp hmem with hold | hnew
          · exact .inl (hrefunding other generation' fields hold)
          · obtain ⟨rfl, rfl, rfl⟩ := DraftWorker.refunding.inj (List.mem_singleton.mp hnew)
            exact .inr (known_draft rfl)
  · rw [if_neg hlease]
    exact h.stop

theorem NonceInv.answer (h : NonceInv libraries.toExternals world)
    (pending : Except FactoryError ℕ) :
    NonceInv libraries.toExternals (world.answer libraries worker pending) := by
  unfold NonceWorld.answer
  split
  · exact h.stop
  · exact h.stop
  · exact h.answerRelease _ _ _
  · exact h.answerRefund _ _ _ _ _
  · exact h

/-- The records that a refund writes are those of its own transaction. -/
theorem NonceInv.persist (h : NonceInv libraries.toExternals world)
    (record : ReleaseBroadcastRecord) (byClaim : Bool) :
    NonceInv libraries.toExternals (world.persist libraries worker record byClaim) := by
  unfold NonceWorld.persist
  split
  · rename_i sessionId generation fields hworker
    split
    · rename_i hfields
      have hknown := h.refunding sessionId generation fields (List.mem_of_getElem? hworker)
      have hstores : StoresRecord record world.factory
          ((if byClaim then Op.persistRefundTransactionRecord record.claimId record sessionId
              generation
            else .persistRefundBroadcastRecord sessionId generation record).apply libraries
              world.factory) := by
        split
        · exact storesRecord_persistRefundTransactionRecord libraries
        · exact storesRecord_persistRefundBroadcastRecord libraries
      refine h.frame rfl rfl hstores.nonce ?_ h.refunding
      intro other stored hstored
      rcases hstores.stored other stored hstored with hold | rfl
      · exact h.stored other stored hold
      · exact hfields ▸ hknown
    · exact h
  · exact h

/-- Each act keeps the invariant. -/
theorem NonceInv.step (h : NonceInv libraries.toExternals world) (act : NonceAct) :
    NonceInv libraries.toExternals (act.apply libraries world) := by
  cases act with
  | write op =>
    unfold NonceAct.apply
    dsimp only
    split
    · exact h
    · rename_i hop
      exact h.write (Bool.not_eq_true _ ▸ hop)
  | startRelease sessionId guard request =>
    exact h.waits fun _ _ _ hmessage => DraftWorker.noConfusion hmessage
  | startRefund sessionId generation nowMs => exact h.startRefund sessionId generation nowMs
  | answer worker pending => exact h.answer pending
  | persist worker record byClaim => exact h.persist record byClaim
  | stop worker => exact h.stop

theorem NonceWorld.IsFresh.nonceInv (h : world.IsFresh) :
    NonceInv libraries.toExternals world := by
  obtain ⟨hclaims, hworkers, hhanded, hdrafted⟩ := h
  have hrecord : ∀ sessionId, world.factory.refundRecord sessionId = none := by
    intro sessionId
    unfold FactoryState.refundRecord
    rw [hclaims]
    rfl
  refine ⟨⟨?_, ?_, ?_, ?_⟩, ?_, ?_, ?_, ?_⟩
  all_goals simp [hhanded, hdrafted, hworkers, hrecord]

end Steps

/-- Nonces are handed out in increasing order in every run, and transactions that share one are
equal. -/
theorem nonces_never_shared (libraries : Libraries) (world : NonceWorld)
    (hreach : Reachable NonceWorld.IsFresh (StepOf (NonceAct.apply libraries)) world) :
    world.NoncesUnique := by
  have hinv : NonceInv libraries.toExternals world :=
    hreach.invariant (fun _ hfresh => hfresh.nonceInv) fun s act t h hstep => by
      rw [← hstep]
      exact h.step act
  exact hinv.toNoncesUnique

/-- A factory that drafted nothing. -/
def noDrafts : NonceWorld := ⟨.default, [], [], []⟩

/-- A release of a plain spawn. -/
def plainRelease (sessionId : String) : NonceAct :=
  .startRelease sessionId ⟨0, none⟩ ⟨sessionId, "", "", .default, none⟩

/-- Two releases read the same pending count. -/
def racingReleases : NonceWorld :=
  run (NonceAct.apply sampleLibraries)
    [plainRelease "first", plainRelease "second", .answer 1 (.ok 7), .answer 0 (.ok 7)] noDrafts

theorem racingReleases_nonces :
    racingReleases.handed = [⟨7, 7⟩, ⟨7, 8⟩] ∧ racingReleases.NoncesUnique :=
  ⟨by decide, nonces_never_shared sampleLibraries racingReleases
    (Reachable.run (.start ⟨rfl, rfl, rfl, rfl⟩) _)⟩

end Automaton.Factory
