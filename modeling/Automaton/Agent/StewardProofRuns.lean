import Automaton.Agent.StewardProof
import Automaton.Library.Fallible
import Automaton.Library.Transition

/-!
# Proofs of the steward are used once

Commands with proofs, cut at the question to a contract, among commands of the principal and
rotations by the controllers. The nonce starts again at zero with each rotation, so a proof is used
once as long as no steward comes back while one of its used proofs could still be verified.
-/

namespace Automaton.Agent

open Machine Fallible Transition

/-- A command whose proof waits for the answer of a contract. -/
structure WaitingCommand where
  command : StewardCommand
  proof : EvmStewardProof
  verified : VerifiedEvmStewardProof
  verifiedAtNs : ℕ

/-- A command that was dispatched, with its proof and the steward of that moment. -/
structure AcceptedCommand where
  command : StewardCommand
  proof : EvmStewardProof
  verified : VerifiedEvmStewardProof
  verifiedAtNs : ℕ
  steward : Option StewardState

/-- The state of the canister, the time, the commands that wait, and those dispatched so far. -/
structure StewardRun where
  snapshot : StewardSnapshot
  nowNs : ℕ
  waiting : List WaitingCommand
  accepted : List AcceptedCommand

/-- What can happen: time passes, `steward_execute` is called, or goes on with the answer of the
contract, `steward_execute_ingress` is called, or `set_steward_admin`. -/
inductive StewardAction
  | advance (ns : ℕ)
  | execute (command : StewardCommand) (proof : EvmStewardProof) (rpcConfigured : Bool)
      (store : StoreAnswers)
  | resume (index : ℕ) (answer : Except String Bool) (store : StoreAnswers)
  | ingress (caller : String) (command : StewardCommand) (store : StoreAnswers)
  | setStewardAdmin (isController : Bool) (chainId : ℕ) (address : String) (enabled : Bool)
      (store : StoreAnswers)

namespace StewardRun

/-- A command that fails leaves the state as it is. -/
def dispatch (store : StoreAnswers) (nowNs : ℕ) (command : StewardCommand)
    (snapshot : StewardSnapshot) : StewardSnapshot :=
  ((dispatchStewardCommand store nowNs command snapshot).toOption).getD snapshot

/-- The rest of `steward_execute` after the proof has been verified. -/
def finish (run : StewardRun) (waiting : WaitingCommand) (store : StoreAnswers) : StewardRun :=
  match consumeStewardNonceAndRecordUsage store run.nowNs waiting.verified run.snapshot with
  | .error _ => run
  | .ok snapshot => { run with
    snapshot := dispatch store run.nowNs waiting.command snapshot
    accepted := run.accepted ++ [{ waiting with
      steward := (runtimeSnapshot store run.snapshot).activeSteward }] }

/-- `steward_execute` up to the question to a contract, if there is one. -/
def execute (canister : StewardCanister) (run : StewardRun) (command : StewardCommand)
    (proof : EvmStewardProof) (rpcConfigured : Bool) (store : StoreAnswers) : StewardRun :=
  match canister.stewardCommandHash command with
  | .error _ => run
  | .ok expectedCommandHash =>
    let snapshot := runtimeSnapshot store run.snapshot
    match prepareStewardVerification proof
        { canisterId := canister.canisterId
          activeSteward := snapshot.activeSteward
          expectedNonce := snapshot.nextNonce
          expectedCommandHash
          nowNs := run.nowNs } with
    | .error _ => run
    | .ok prepared =>
      let waiting : WaitingCommand := ⟨command, proof, prepared.verified, run.nowNs⟩
      match checkDirectSignature canister prepared proof.signature with
      | .ok () => run.finish waiting store
      | .error _ =>
        if rpcConfigured then { run with waiting := run.waiting ++ [waiting] } else run

/-- `steward_execute` goes on with the answer of the contract. -/
def resume (run : StewardRun) (index : ℕ) (answer : Except String Bool) (store : StoreAnswers) :
    StewardRun :=
  match run.waiting[index]? with
  | none => run
  | some waiting =>
    let run := { run with waiting := run.waiting.eraseIdx index }
    match answer with
    | .ok true => run.finish waiting store
    | .ok false => run
    | .error _ => run

/-- `steward_execute_ingress`. -/
def ingress (run : StewardRun) (caller : String) (command : StewardCommand)
    (store : StoreAnswers) : StewardRun :=
  match authorizeAndRecordStewardIngressUsage store run.nowNs caller run.snapshot with
  | .error _ => run
  | .ok snapshot => { run with snapshot := dispatch store run.nowNs command snapshot }

/-- `set_steward_admin`. -/
def setStewardAdmin (run : StewardRun) (isController : Bool) (chainId : ℕ) (address : String)
    (enabled : Bool) (store : StoreAnswers) : StewardRun :=
  if isController then
    { run with
      snapshot := dispatch store run.nowNs (.updateSteward chainId address enabled) run.snapshot }
  else run

/-- One message. -/
def step (canister : StewardCanister) (action : StewardAction) (run : StewardRun) : StewardRun :=
  match action with
  | .advance ns => { run with nowNs := run.nowNs + ns }
  | .execute command proof rpcConfigured store =>
    run.execute canister command proof rpcConfigured store
  | .resume index answer store => run.resume index answer store
  | .ingress caller command store => run.ingress caller command store
  | .setStewardAdmin isController chainId address enabled store =>
    run.setStewardAdmin isController chainId address enabled store

/-- A run begins with any steward. -/
def IsStart (run : StewardRun) : Prop := run.waiting = [] ∧ run.accepted = []

end StewardRun

/-- Which steward is active. -/
def StewardSnapshot.identity (snapshot : StewardSnapshot) : Option (ℕ × String) :=
  snapshot.activeSteward.map fun steward => (steward.chainId, steward.address)

/-- The steward that a verified proof names. -/
def VerifiedEvmStewardProof.identity (verified : VerifiedEvmStewardProof) : ℕ × String :=
  (verified.chainId, verified.address)

/-- A used proof that has expired, and that no waiting command was verified with. -/
def StewardRun.IsSpent (run : StewardRun) (used : AcceptedCommand) : Prop :=
  used.verified.expiresAtNs < run.nowNs ∧
    ∀ waiting ∈ run.waiting, waiting.verified ≠ used.verified

/-- The answers of the store in a step, if it asks the store. -/
def StewardAction.store? : StewardAction → Option StoreAnswers
  | .advance _ => none
  | .execute _ _ _ store => some store
  | .resume _ _ store => some store
  | .ingress _ _ store => some store
  | .setStewardAdmin _ _ _ _ store => some store

/-- The store reads and writes, and a steward that takes the place of another one has no used proof
that could still be verified. -/
def StewardRun.NoReturn (canister : StewardCanister) (run : StewardRun) (action : StewardAction) :
    Prop :=
  (∀ store ∈ action.store?, store.reads = true ∧ store.writes = true) ∧
    ((StewardRun.step canister action run).snapshot.identity ≠ run.snapshot.identity →
      ∀ used ∈ run.accepted,
        (StewardRun.step canister action run).snapshot.identity = some used.verified.identity →
          run.IsSpent used)

/-- A proof is for this canister and for a command, and has been verified before it expired. -/
structure ProofNames (canister : StewardCanister) (command : StewardCommand)
    (proof : EvmStewardProof) (verified : VerifiedEvmStewardProof) (verifiedAtNs : ℕ) : Prop where
  canisterId : Text.trim proof.canisterId = Text.trim canister.canisterId
  address : normalizeEvmAddress proof.address = .ok verified.address
  proofHash : normalizeCommandHash proof.commandHash "proof command hash" =
    .ok verified.commandHash
  commandHash : ∃ hash, canister.stewardCommandHash command = .ok hash ∧
    normalizeCommandHash hash "expected command hash" = .ok verified.commandHash
  verified_eq : verified =
    { canisterId := Text.trim canister.canisterId
      chainId := proof.chainId
      address := verified.address
      commandHash := verified.commandHash
      nonce := proof.nonce
      expiresAtNs := proof.expiresAtNs }
  notExpired : verifiedAtNs ≤ proof.expiresAtNs

/-- An accepted command has a proof for this canister, this command and the steward of that moment,
who is enabled. -/
structure AcceptedProperly (canister : StewardCanister) (used : AcceptedCommand) : Prop where
  names : ProofNames canister used.command used.proof used.verified used.verifiedAtNs
  steward : ∃ steward, used.steward = some steward ∧ steward.enabled = true ∧
    steward.chainId = used.proof.chainId ∧ .ok steward.address = normalizeEvmAddress used.proof.address

section Specs

variable {canister : StewardCanister} {store : StoreAnswers} {nowNs : ℕ}
  {command : StewardCommand} {proof : EvmStewardProof} {verified : VerifiedEvmStewardProof}
  {state snapshot : StewardSnapshot}

/-- A step of a computation that takes an optional value. -/
theorem elim_throw_eq_ok {α : Type} {value : Option α} {error : String} {a : α} :
    value.elim (throw error : Except String α) pure = .ok a ↔ value = some a := by
  cases value with
  | none => simp [throw_eq_ok]
  | some b =>
    rw [Option.elim_some, pure_eq_ok, Option.some.injEq]

/-- What a proof that is prepared names. -/
theorem prepareStewardVerification_eq_ok {context : EvmStewardVerificationContext}
    {prepared : PreparedStewardVerification}
    (hhash : canister.stewardCommandHash command = .ok context.expectedCommandHash)
    (hcanister : context.canisterId = canister.canisterId)
    (h : prepareStewardVerification proof context = .ok prepared) :
    ProofNames canister command proof prepared.verified context.nowNs := by
  simp only [prepareStewardVerification, bind_eq_ok, elim_throw_eq_ok, throw_bind, ite_error_eq_ok,
    pure_eq_ok, not_not, ne_eq, not_lt, gt_iff_lt] at h
  obtain ⟨steward, -, -, address, haddress, hash, hproof, expected, hexpected, rfl, hid, -, active,
    -, -, -, hexpires, rfl⟩ := h
  rw [hcanister] at hid
  exact ⟨hid, haddress, hproof, ⟨_, hhash, hexpected⟩, by rw [hcanister], hexpires⟩

/-- What the consumption of a nonce checks, and what it changes. -/
theorem consume_eq_ok (hreads : store.reads = true) (hwrites : store.writes = true)
    (h : consumeStewardNonceAndRecordUsage store nowNs verified state = .ok snapshot) :
    ∃ steward, state.activeSteward = some steward ∧ steward.enabled = true ∧
      steward.chainId = verified.chainId ∧ steward.address = verified.address ∧
      state.nextNonce = verified.nonce ∧
      snapshot = { state with
        nextNonce := state.nextNonce + 1
        activeSteward := some { steward with lastUsedAtNs := some nowNs } } := by
  simp only [consumeStewardNonceAndRecordUsage, runtimeSnapshot, saveRuntimeSnapshot, hreads,
    hwrites, if_true, bind_eq_ok, elim_throw_eq_ok, throw_bind, ite_error_eq_ok, pure_eq_ok,
    not_not, ne_eq, not_or] at h
  obtain ⟨hnonce, next, hnext, steward, hsteward, henabled, ⟨hchain, haddress⟩, rfl⟩ := h
  obtain ⟨-, rfl⟩ := checkedAdd_eq_some.mp hnext
  exact ⟨steward, hsteward, henabled, hchain, haddress, hnonce, rfl⟩

/-- What the check of the principal changes. -/
theorem authorize_eq_ok {caller : String} (hreads : store.reads = true)
    (hwrites : store.writes = true)
    (h : authorizeAndRecordStewardIngressUsage store nowNs caller state = .ok snapshot) :
    snapshot.identity = state.identity ∧ snapshot.nextNonce = state.nextNonce := by
  simp only [authorizeAndRecordStewardIngressUsage, runtimeSnapshot, saveRuntimeSnapshot, hreads,
    hwrites, if_true, bind_eq_ok, elim_throw_eq_ok, throw_bind, ite_error_eq_ok, pure_eq_ok] at h
  obtain ⟨-, steward, hsteward, -, principal, -, -, rfl⟩ := h
  rw [StewardSnapshot.identity, StewardSnapshot.identity, hsteward]
  exact ⟨rfl, rfl⟩

/-- A steward that is rotated in is another one. -/
theorem identity_ne_of_rotated {steward : StewardState} {principal : Option String}
    {nextNonce lastTransitionAtNs : ℕ}
    (h : stewardIdentityRotated state.activeSteward steward = true) :
    StewardSnapshot.identity
      ⟨some { steward with principal }, nextNonce, lastTransitionAtNs⟩ ≠ state.identity := by
  intro hsame
  rw [StewardSnapshot.identity, StewardSnapshot.identity, Option.map_some, eq_comm,
    Option.map_eq_some_iff] at hsame
  obtain ⟨current, hcurrent, hpair⟩ := hsame
  obtain ⟨hchain, haddress⟩ := Prod.mk.inj hpair
  simp [stewardIdentityRotated, hcurrent, hchain, haddress] at h

/-- A command that keeps the steward keeps the nonce. -/
theorem dispatch_nextNonce (hreads : store.reads = true) (hwrites : store.writes = true)
    (hidentity : (StewardRun.dispatch store nowNs command state).identity = state.identity) :
    (StewardRun.dispatch store nowNs command state).nextNonce = state.nextNonce := by
  unfold StewardRun.dispatch at hidentity ⊢
  cases hresult : dispatchStewardCommand store nowNs command state with
  | error error => rfl
  | ok updated =>
    rw [hresult] at hidentity
    simp only [Except.toOption, Option.getD_some] at hidentity ⊢
    cases command with
    | setPrincipal principal =>
      simp only [dispatchStewardCommand, setActiveStewardPrincipal, runtimeSnapshot,
        saveRuntimeSnapshot, hreads, hwrites, if_true, bind_eq_ok, elim_throw_eq_ok, throw_bind,
        ite_error_eq_ok, pure_eq_ok] at hresult
      obtain ⟨-, steward, -, rfl⟩ := hresult
      rfl
    | updateSteward chainId address enabled =>
      simp only [dispatchStewardCommand, updateActiveStewardAndMaybeResetNonce,
        setActiveStewardWithNonceResetOnRotation, runtimeSnapshot, saveRuntimeSnapshot, hreads,
        hwrites, if_true, bind_eq_ok] at hresult
      obtain ⟨normalized, -, hresult⟩ := hresult
      split_ifs at hresult with hrotated
      · obtain rfl := pure_eq_ok.mp hresult
        exact absurd hidentity (identity_ne_of_rotated hrotated)
      · obtain rfl := pure_eq_ok.mp hresult
        rfl
    | other encoded =>
      obtain rfl := Except.ok.inj hresult
      rfl

/-- The consumption of a nonce keeps the steward. -/
theorem identity_of_consume {steward : StewardState} (h : state.activeSteward = some steward) :
    StewardSnapshot.identity { state with
      nextNonce := state.nextNonce + 1
      activeSteward := some { steward with lastUsedAtNs := some nowNs } } = state.identity := by
  rw [StewardSnapshot.identity, StewardSnapshot.identity, h]
  rfl

end Specs

namespace StewardRun

variable {canister : StewardCanister} {run : StewardRun} {store : StoreAnswers}

/-- What holds in every run: a used proof has a number that is gone, or is spent. -/
structure Inv (canister : StewardCanister) (run : StewardRun) : Prop where
  once : (run.accepted.map AcceptedCommand.verified).Nodup
  used : ∀ used ∈ run.accepted, run.snapshot.identity = some used.verified.identity →
    used.verified.nonce < run.snapshot.nextNonce ∨ run.IsSpent used
  proper : ∀ used ∈ run.accepted, AcceptedProperly canister used
  waiting : ∀ waiting ∈ run.waiting,
    ProofNames canister waiting.command waiting.proof waiting.verified waiting.verifiedAtNs

/-- A command is taken out of those that wait. -/
theorem Inv.erase (h : run.Inv canister) (index : ℕ) :
    Inv canister { run with waiting := run.waiting.eraseIdx index } where
  once := h.once
  used := by
    intro used hmem hidentity
    rcases h.used used hmem hidentity with hgone | ⟨hexpired, hspent⟩
    · exact .inl hgone
    · exact .inr ⟨hexpired, fun waiting hwaiting => hspent waiting (List.mem_of_mem_eraseIdx hwaiting)⟩
  proper := h.proper
  waiting waiting hwaiting := h.waiting waiting (List.mem_of_mem_eraseIdx hwaiting)

/-- A command of the principal or of a controller keeps what holds, unless it brings back a steward
with proofs that are not spent. -/
theorem Inv.dispatch {snapshot : StewardSnapshot} (h : run.Inv canister)
    (hkeeps : snapshot.identity = run.snapshot.identity →
      snapshot.nextNonce = run.snapshot.nextNonce)
    (hreturn : snapshot.identity ≠ run.snapshot.identity → ∀ used ∈ run.accepted,
      snapshot.identity = some used.verified.identity → run.IsSpent used) :
    Inv canister { run with snapshot } where
  once := h.once
  used := by
    intro used hmem hidentity
    by_cases hsame : snapshot.identity = run.snapshot.identity
    · rcases h.used used hmem (hsame.symm.trans hidentity) with hgone | hspent
      · exact .inl (hgone.trans_eq (hkeeps hsame).symm)
      · exact .inr hspent
    · exact .inr (hreturn hsame used hmem hidentity)
  proper := h.proper
  waiting := h.waiting

/-- A verified proof is used, and its command dispatched. -/
theorem Inv.finish {waiting : WaitingCommand} (h : run.Inv canister)
    (hstore : store.reads = true ∧ store.writes = true)
    (hnames : ProofNames canister waiting.command waiting.proof waiting.verified
      waiting.verifiedAtNs)
    (hfresh : ∀ used ∈ run.accepted, run.snapshot.identity = some used.verified.identity →
      used.verified.nonce < run.snapshot.nextNonce ∨
        run.IsSpent used ∧ waiting.verified ≠ used.verified)
    (hreturn : (run.finish waiting store).snapshot.identity ≠ run.snapshot.identity →
      ∀ used ∈ run.accepted,
        (run.finish waiting store).snapshot.identity = some used.verified.identity →
          run.IsSpent used) :
    Inv canister (run.finish waiting store) := by
  unfold StewardRun.finish at hreturn ⊢
  split at hreturn
  · exact h
  rename_i consumed hconsumed
  obtain ⟨steward, hsteward, henabled, hchain, haddress, hnonce, rfl⟩ :=
    consume_eq_ok hstore.1 hstore.2 hconsumed
  dsimp only at hreturn ⊢
  generalize hsnapshot : StewardRun.dispatch store run.nowNs waiting.command _ = snapshot
    at hreturn ⊢
  have hidentity : run.snapshot.identity = some waiting.verified.identity := by
    rw [StewardSnapshot.identity, hsteward, Option.map_some, hchain, haddress]
    rfl
  have hnext : snapshot.identity = run.snapshot.identity →
      snapshot.nextNonce = run.snapshot.nextNonce + 1 := by
    intro hsame
    rw [← hsnapshot] at hsame ⊢
    exact dispatch_nextNonce hstore.1 hstore.2 (hsame.trans (identity_of_consume hsteward).symm)
  exact {
    once := by
      rw [List.map_append, List.map_singleton, List.nodup_append]
      refine ⟨h.once, List.nodup_singleton _, ?_⟩
      intro verified hverified other hother hsame
      obtain ⟨used, hmem, rfl⟩ := List.mem_map.mp hverified
      rw [List.mem_singleton.mp hother] at hsame
      have hused : run.snapshot.identity = some used.verified.identity := by
        rw [hidentity, hsame]
      rcases hfresh used hmem hused with hgone | ⟨-, hne⟩
      · rw [hsame, hnonce] at hgone
        exact absurd hgone (lt_irrefl _)
      · exact hne hsame.symm
    used := by
      intro used hmem hused
      by_cases hsame : snapshot.identity = run.snapshot.identity
      · dsimp only
        rw [hnext hsame]
        rcases List.mem_append.mp hmem with hold | hnew
        · rcases hfresh used hold (hsame.symm.trans hused) with hgone | ⟨hspent, -⟩
          · exact .inl (by omega)
          · exact .inr hspent
        · rw [List.mem_singleton.mp hnew]
          exact .inl (by dsimp only; omega)
      · rcases List.mem_append.mp hmem with hold | hnew
        · exact .inr (hreturn hsame used hold hused)
        · rw [List.mem_singleton.mp hnew] at hused
          exact absurd (hused.trans hidentity.symm) hsame
    proper := by
      intro used hmem
      rcases List.mem_append.mp hmem with hold | hnew
      · exact h.proper used hold
      · rw [List.mem_singleton.mp hnew]
        refine ⟨hnames, steward, ?_, henabled, ?_, ?_⟩
        · rw [runtimeSnapshot, if_pos hstore.1]
          exact hsteward
        · rw [hchain, hnames.verified_eq]
        · rw [haddress]
          exact hnames.address.symm
    waiting := h.waiting }

/-- What the first message of `steward_execute` does with a proof that names what it should. -/
theorem execute_cases {command : StewardCommand} {proof : EvmStewardProof} {rpcConfigured : Bool} :
    run.execute canister command proof rpcConfigured store = run ∨
      ∃ verified, ProofNames canister command proof verified run.nowNs ∧
        (run.execute canister command proof rpcConfigured store =
            run.finish ⟨command, proof, verified, run.nowNs⟩ store ∨
          run.execute canister command proof rpcConfigured store =
            { run with waiting := run.waiting ++ [⟨command, proof, verified, run.nowNs⟩] }) := by
  unfold StewardRun.execute
  split
  · exact .inl rfl
  rename_i hash hhash
  dsimp only
  split
  · exact .inl rfl
  rename_i prepared hprepared
  have hnames : ProofNames canister command proof prepared.verified run.nowNs :=
    prepareStewardVerification_eq_ok hhash rfl hprepared
  split
  · exact .inr ⟨_, hnames, .inl rfl⟩
  · split_ifs with hrpc
    · exact .inr ⟨_, hnames, .inr rfl⟩
    · exact .inl rfl

/-- A proof that is good goes on at once. -/
theorem execute_of_ok {command : StewardCommand} {proof : EvmStewardProof} {rpcConfigured : Bool}
    {expectedCommandHash : String} {prepared : PreparedStewardVerification}
    (hhash : canister.stewardCommandHash command = .ok expectedCommandHash)
    (hprepared : prepareStewardVerification proof
      { canisterId := canister.canisterId
        activeSteward := (runtimeSnapshot store run.snapshot).activeSteward
        expectedNonce := (runtimeSnapshot store run.snapshot).nextNonce
        expectedCommandHash
        nowNs := run.nowNs } = .ok prepared)
    (hdirect : checkDirectSignature canister prepared proof.signature = .ok ()) :
    run.execute canister command proof rpcConfigured store =
      run.finish ⟨command, proof, prepared.verified, run.nowNs⟩ store := by
  simp only [StewardRun.execute, hhash, hprepared, hdirect]

/-- A proof whose nonce is consumed is used. -/
theorem finish_of_ok {waiting : WaitingCommand} {snapshot : StewardSnapshot}
    (h : consumeStewardNonceAndRecordUsage store run.nowNs waiting.verified run.snapshot =
      .ok snapshot) :
    run.finish waiting store = { run with
      snapshot := StewardRun.dispatch store run.nowNs waiting.command snapshot
      accepted := run.accepted ++ [{ waiting with
        steward := (runtimeSnapshot store run.snapshot).activeSteward }] } := by
  simp only [StewardRun.finish, h]

/-- A spent proof names no command that is verified now. -/
theorem IsSpent.ne_of_names {used : AcceptedCommand} {command : StewardCommand}
    {proof : EvmStewardProof} {verified : VerifiedEvmStewardProof} (h : run.IsSpent used)
    (hnames : ProofNames canister command proof verified run.nowNs) :
    verified ≠ used.verified := by
  rintro rfl
  have hexpires : used.verified.expiresAtNs = proof.expiresAtNs := by rw [hnames.verified_eq]
  have hlt := h.1
  have hle := hnames.notExpired
  omega

/-- A message keeps what holds. -/
theorem Inv.step {action : StewardAction} (h : run.Inv canister)
    (hno : run.NoReturn canister action) : Inv canister (StewardRun.step canister action run) := by
  obtain ⟨hstore, hreturn⟩ := hno
  cases action with
  | advance ns =>
    exact {
      once := h.once
      used := by
        intro used hmem hidentity
        rcases h.used used hmem hidentity with hgone | ⟨hexpired, hspent⟩
        · exact .inl hgone
        · exact .inr ⟨Nat.lt_add_right ns hexpired, hspent⟩
      proper := h.proper
      waiting := h.waiting }
  | execute command proof rpcConfigured store =>
    have hok := hstore store rfl
    simp only [StewardRun.step] at hreturn ⊢
    rcases @execute_cases canister run store command proof rpcConfigured with
      hsame | ⟨verified, hnames, hfinish | hwaits⟩
    · rw [hsame]
      exact h
    · rw [hfinish] at hreturn ⊢
      apply h.finish hok hnames _ hreturn
      intro used hmem hidentity
      rcases h.used used hmem hidentity with hgone | hspent
      · exact .inl hgone
      · exact .inr ⟨hspent, hspent.ne_of_names hnames⟩
    · rw [hwaits]
      exact { h with
        used := by
          intro used hmem hidentity
          rcases h.used used hmem hidentity with hgone | hspent
          · exact .inl hgone
          · refine .inr ⟨hspent.1, ?_⟩
            intro waiting hwaiting
            rcases List.mem_append.mp hwaiting with hold | hnew
            · exact hspent.2 waiting hold
            · rw [List.mem_singleton.mp hnew]
              exact hspent.ne_of_names hnames
        waiting := by
          intro waiting hwaiting
          rcases List.mem_append.mp hwaiting with hold | hnew
          · exact h.waiting waiting hold
          · rw [List.mem_singleton.mp hnew]
            exact hnames }
  | resume index answer store =>
    have hok := hstore store rfl
    simp only [StewardRun.step, StewardRun.resume] at hreturn ⊢
    split
    · exact h
    rename_i waiting hwaiting
    have hmem := List.mem_of_getElem? hwaiting
    rw [hwaiting] at hreturn
    dsimp only at hreturn ⊢
    split
    · apply (h.erase index).finish hok (h.waiting waiting hmem)
      · intro used hused hidentity
        rcases h.used used hused hidentity with hgone | hspent
        · exact .inl hgone
        · refine .inr ⟨⟨hspent.1, ?_⟩, hspent.2 waiting hmem⟩
          intro other hother
          exact hspent.2 other (List.mem_of_mem_eraseIdx hother)
      · intro hchanged used hused hidentity
        have hspent := hreturn hchanged used hused hidentity
        exact ⟨hspent.1, fun other hother => hspent.2 other (List.mem_of_mem_eraseIdx hother)⟩
    · exact h.erase index
    · exact h.erase index
  | ingress caller command store =>
    have hok := hstore store rfl
    simp only [StewardRun.step, StewardRun.ingress] at hreturn ⊢
    split
    · exact h
    rename_i authorized hauthorized
    rw [hauthorized] at hreturn
    obtain ⟨hidentity, hnonce⟩ := authorize_eq_ok hok.1 hok.2 hauthorized
    apply h.dispatch _ hreturn
    intro hsame
    exact (dispatch_nextNonce hok.1 hok.2 (hsame.trans hidentity.symm)).trans hnonce
  | setStewardAdmin isController chainId address enabled store =>
    have hok := hstore store rfl
    simp only [StewardRun.step, StewardRun.setStewardAdmin] at hreturn ⊢
    split_ifs at hreturn ⊢
    · exact h.dispatch (dispatch_nextNonce hok.1 hok.2) hreturn
    · exact h

/-- The messages of `steward_execute`. -/
def IsExecute : StewardAction → Bool
  | .execute .. => true
  | .resume .. => true
  | _ => false

/-- When `steward_execute` dispatches no command, it changes nothing. -/
theorem rejected_unchanged {action : StewardAction} (haction : IsExecute action = true)
    (hrejected : (StewardRun.step canister action run).accepted = run.accepted) :
    (StewardRun.step canister action run).snapshot = run.snapshot := by
  have hfinish (run : StewardRun) (waiting : WaitingCommand) (store : StoreAnswers)
      (h : (run.finish waiting store).accepted = run.accepted) :
      (run.finish waiting store).snapshot = run.snapshot := by
    unfold StewardRun.finish at h ⊢
    split at h
    · rfl
    · simp at h
  cases action with
  | execute command proof rpcConfigured store =>
    simp only [StewardRun.step] at hrejected ⊢
    rcases @execute_cases canister run store command proof rpcConfigured with
      hsame | ⟨verified, -, hfinished | hwaits⟩
    · rw [hsame]
    · rw [hfinished] at hrejected ⊢
      exact hfinish _ _ _ hrejected
    · rw [hwaits]
  | resume index answer store =>
    simp only [StewardRun.step, StewardRun.resume] at hrejected ⊢
    split at hrejected
    · rfl
    · split at hrejected
      · exact hfinish _ _ _ hrejected
      · rfl
      · rfl
  | advance ns => cases haction
  | ingress caller command store => cases haction
  | setStewardAdmin isController chainId address enabled store => cases haction

/-- What the proofs of the steward are for. -/
structure ProofsWorkOnce (canister : StewardCanister) (run : StewardRun) : Prop where
  once : (run.accepted.map AcceptedCommand.proof).Nodup
  proper : ∀ used ∈ run.accepted, AcceptedProperly canister used
  rejected : ∀ action, IsExecute action = true →
    (StewardRun.step canister action run).accepted = run.accepted →
      (StewardRun.step canister action run).snapshot = run.snapshot

/-- The invariant gives the property: proofs that are the same are verified as the same. -/
theorem Inv.proofsWorkOnce (h : run.Inv canister) : run.ProofsWorkOnce canister where
  once := by
    have honce := List.pairwise_map.mp h.once
    refine List.pairwise_map.mpr (honce.imp_of_mem ?_)
    intro first second hfirst hsecond hne hsame
    have hfirst := (h.proper first hfirst).names
    have hsecond := (h.proper second hsecond).names
    have haddress := hfirst.address
    have hhash := hfirst.proofHash
    rw [hsame, hsecond.address] at haddress
    rw [hsame, hsecond.proofHash] at hhash
    apply hne
    rw [hfirst.verified_eq, hsecond.verified_eq, hsame, Except.ok.inj haddress,
      Except.ok.inj hhash]
  proper := h.proper
  rejected _ := rejected_unchanged

/-- As long as no steward comes back while a proof of it could be verified again, every proof works
once. -/
theorem proofs_work_once
    (hreach : Reachable IsStart
      (Restrict (StepOf (StewardRun.step canister)) (NoReturn canister)) run) :
    run.ProofsWorkOnce canister := by
  have hinv : run.Inv canister := by
    apply hreach.invariant
    · rintro run ⟨hwaiting, haccepted⟩
      exact {
        once := by simp [haccepted]
        used := by simp [haccepted]
        proper := by simp [haccepted]
        waiting := by simp [hwaiting] }
    · rintro run action run' h ⟨rfl, hno⟩
      exact h.step hno
  exact hinv.proofsWorkOnce

section Example

private def firstAddress : String := "0x1111111111111111111111111111111111111111"

private def secondAddress : String := "0x2222222222222222222222222222222222222222"

private def noopHash : String :=
  "0x3333333333333333333333333333333333333333333333333333333333333333"

/-- A canister whose commands all have one hash, and whose signatures are all from one address. -/
private def oneHashCanister : StewardCanister where
  canisterId := "c"
  stewardCommandHash _ := .ok noopHash
  recoverStewardSignerAddress _ _ := .ok firstAddress

private def noopProof : EvmStewardProof where
  canisterId := "c"
  chainId := 1
  address := firstAddress
  commandHash := noopHash
  nonce := 0
  expiresAtNs := 9
  signature := ""

private def noopVerified : VerifiedEvmStewardProof := ⟨Text.trim "c", 1, firstAddress, noopHash, 0, 9⟩

private def firstRun : StewardRun := ⟨⟨some ⟨1, firstAddress, true, none, none⟩, 0, 0⟩, 0, [], []⟩

private def executeNoop : StewardAction := .execute (.other []) noopProof false ⟨true, true⟩

private def rotateTo (address : String) : StewardAction :=
  .setStewardAdmin true 1 address true ⟨true, true⟩

private theorem firstAddress_normal : normalizeEvmAddress firstAddress = .ok firstAddress := by
  apply normalizeEvmAddress_eq_self
  · rw [firstAddress, String.toList_ofList]
    rfl
  · decide
  · exact lowercase_of_all (by decide +kernel)

private theorem secondAddress_normal : normalizeEvmAddress secondAddress = .ok secondAddress := by
  apply normalizeEvmAddress_eq_self
  · rw [secondAddress, String.toList_ofList]
    rfl
  · decide
  · exact lowercase_of_all (by decide +kernel)

private theorem noopHash_normal {field : String} :
    normalizeCommandHash noopHash field = .ok noopHash := by
  have hblob : normalizeHexBlob noopHash field = .ok noopHash := by
    apply normalizeHexBlob_eq_self
    · rw [noopHash, String.toList_ofList]
      rfl
    · decide
    · exact lowercase_of_all (by decide +kernel)
  have hsize : noopHash.utf8ByteSize = 66 := by decide +kernel
  simp only [normalizeCommandHash, bind_eq_ok, throw_bind, ite_error_eq_ok, pure_eq_ok, ne_eq]
  exact ⟨noopHash, hblob, not_not.mpr hsize, rfl⟩

/-- The proof is good for the first steward, as long as the nonce is 0. -/
private theorem executeNoop_step {steward : StewardState}
    (hsteward : run.snapshot.activeSteward = some steward) (henabled : steward.enabled = true)
    (hchain : steward.chainId = 1) (haddress : steward.address = firstAddress)
    (hnonce : run.snapshot.nextNonce = 0) (hnow : run.nowNs ≤ 9) :
    ∃ used : AcceptedCommand, used.proof = noopProof ∧
      step oneHashCanister executeNoop run = { run with
        snapshot := { run.snapshot with
          nextNonce := 1
          activeSteward := some { steward with lastUsedAtNs := some run.nowNs } }
        accepted := run.accepted ++ [used] } := by
  have hread : runtimeSnapshot ⟨true, true⟩ run.snapshot = run.snapshot := rfl
  have hprepared : prepareStewardVerification noopProof
      { canisterId := oneHashCanister.canisterId
        activeSteward := (runtimeSnapshot ⟨true, true⟩ run.snapshot).activeSteward
        expectedNonce := (runtimeSnapshot ⟨true, true⟩ run.snapshot).nextNonce
        expectedCommandHash := noopHash
        nowNs := run.nowNs } =
      .ok ⟨noopVerified, canonicalStewardSigningPayload (Text.trim "c") 1 firstAddress noopHash
        0 9⟩ := by
    simp only [prepareStewardVerification, hread, hsteward, hnonce, bind_eq_ok, elim_throw_eq_ok,
      throw_bind, ite_error_eq_ok, pure_eq_ok, not_not, ne_eq, not_lt, gt_iff_lt]
    exact ⟨steward, rfl, henabled, _, firstAddress_normal, _, noopHash_normal, _, noopHash_normal,
      rfl, rfl, hchain.symm, _, by rw [haddress]; exact firstAddress_normal, rfl, rfl, hnow, rfl⟩
  have hdirect (payload : String) :
      checkDirectSignature oneHashCanister ⟨noopVerified, payload⟩ noopProof.signature = .ok () := by
    simp only [checkDirectSignature, bind_eq_ok]
    exact ⟨firstAddress, rfl, if_neg (not_not.mpr rfl)⟩
  have hconsumed : consumeStewardNonceAndRecordUsage ⟨true, true⟩ run.nowNs noopVerified
      run.snapshot = .ok { run.snapshot with
        nextNonce := 1
        activeSteward := some { steward with lastUsedAtNs := some run.nowNs } } := by
    simp only [consumeStewardNonceAndRecordUsage, hread, saveRuntimeSnapshot, if_true, hsteward,
      hnonce, bind_eq_ok, elim_throw_eq_ok, throw_bind, ite_error_eq_ok, pure_eq_ok, not_not, ne_eq,
      not_or]
    exact ⟨rfl, 1, rfl, steward, rfl, henabled, ⟨hchain, haddress⟩, rfl⟩
  refine ⟨⟨.other [], noopProof, noopVerified, run.nowNs, run.snapshot.activeSteward⟩, rfl, ?_⟩
  exact (execute_of_ok rfl hprepared (hdirect _)).trans (finish_of_ok hconsumed)

/-- A rotation. -/
private theorem rotateTo_step {address other : String} (hne : address ≠ other)
    (hother : normalizeEvmAddress other = .ok other) {lastUsedAtNs : Option ℕ}
    {nonce lastTransitionAtNs : ℕ} {accepted : List AcceptedCommand} :
    step oneHashCanister (rotateTo other)
        ⟨⟨some ⟨1, address, true, lastUsedAtNs, none⟩, nonce, lastTransitionAtNs⟩, 0, [],
          accepted⟩ =
      ⟨⟨some ⟨1, other, true, none, none⟩, 0, 0⟩, 0, [], accepted⟩ := by
  have hrotated : stewardIdentityRotated (some ⟨1, address, true, lastUsedAtNs, none⟩)
      ⟨1, other, true, none, none⟩ = true := by
    simp [stewardIdentityRotated, hne]
  have hnormal : normalizeStewardState ⟨1, other, true, none, none⟩ =
      .ok ⟨1, other, true, none, none⟩ := by
    simp only [normalizeStewardState, hother]
    rfl
  simp only [step, rotateTo, setStewardAdmin, if_true, StewardRun.dispatch, dispatchStewardCommand,
    updateActiveStewardAndMaybeResetNonce, setActiveStewardWithNonceResetOnRotation, hnormal]
  simp only [bind, Except.bind, runtimeSnapshot, if_true, hrotated]
  rfl

/-- A proof is used once, as long as its steward stays. -/
theorem executeNoop_worksOnce : ∃ run : StewardRun,
    run.accepted.map AcceptedCommand.proof = [noopProof] ∧
      run.ProofsWorkOnce oneHashCanister := by
  have hstart : Reachable IsStart (Restrict (StepOf (step oneHashCanister))
      (NoReturn oneHashCanister)) firstRun := .start ⟨rfl, rfl⟩
  obtain ⟨used, hused, hfirst⟩ : ∃ used : AcceptedCommand, used.proof = noopProof ∧
      step oneHashCanister executeNoop firstRun = _ :=
    executeNoop_step rfl rfl rfl rfl rfl (Nat.zero_le 9)
  have hno : firstRun.NoReturn oneHashCanister executeNoop := by
    refine ⟨?_, ?_⟩
    · intro store hstore
      rw [← Option.some.inj hstore]
      exact ⟨rfl, rfl⟩
    · intro _ other hother
      exact absurd hother List.not_mem_nil
  refine ⟨step oneHashCanister executeNoop firstRun, ?_,
    proofs_work_once (hstart.step ⟨rfl, hno⟩)⟩
  rw [hfirst, List.map_append, List.map_singleton, hused]
  rfl

/-- A steward that goes and comes back can be told the same command twice with one proof. -/
theorem returningSteward_accepts_twice : ∃ run : StewardRun,
    Reachable IsStart (StepOf (step oneHashCanister)) run ∧
      ¬ run.ProofsWorkOnce oneHashCanister := by
  have hstart : Reachable IsStart (StepOf (step oneHashCanister)) firstRun := .start ⟨rfl, rfl⟩
  obtain ⟨first, hfirst, hexecuted⟩ : ∃ used : AcceptedCommand, used.proof = noopProof ∧
      step oneHashCanister executeNoop firstRun = _ :=
    executeNoop_step rfl rfl rfl rfl rfl (Nat.zero_le 9)
  have hne : firstAddress ≠ secondAddress := by decide
  have hgone : step oneHashCanister (rotateTo secondAddress)
      (step oneHashCanister executeNoop firstRun) =
        ⟨⟨some ⟨1, secondAddress, true, none, none⟩, 0, 0⟩, 0, [], [first]⟩ := by
    rw [hexecuted]
    exact rotateTo_step hne secondAddress_normal
  have hback : step oneHashCanister (rotateTo firstAddress) (step oneHashCanister
      (rotateTo secondAddress) (step oneHashCanister executeNoop firstRun)) =
        ⟨⟨some ⟨1, firstAddress, true, none, none⟩, 0, 0⟩, 0, [], [first]⟩ := by
    rw [hgone]
    exact rotateTo_step hne.symm firstAddress_normal
  obtain ⟨second, hsecond, hreplayed⟩ : ∃ used : AcceptedCommand, used.proof = noopProof ∧
      step oneHashCanister executeNoop
        ⟨⟨some ⟨1, firstAddress, true, none, none⟩, 0, 0⟩, 0, [], [first]⟩ = _ :=
    executeNoop_step rfl rfl rfl rfl rfl (Nat.zero_le 9)
  rw [← hback] at hreplayed
  refine ⟨_, (((hstart.step (a := executeNoop) rfl).step (a := rotateTo secondAddress) rfl).step
    (a := rotateTo firstAddress) rfl).step (a := executeNoop) rfl, ?_⟩
  intro hwork
  have honce := hwork.once
  rw [hreplayed, hback, List.map_append, List.map_singleton, List.map_singleton, hfirst,
    hsecond] at honce
  exact (List.nodup_cons.mp honce).1 (List.mem_singleton.mpr rfl)

end Example

end StewardRun

end Automaton.Agent
