import Automaton.Library.Fallible
import Automaton.Library.Paging
import Automaton.Library.Utf8
import Automaton.Strategy.Exposure

/-!
# Reconciliation of exposures

The exposures that the confirmed executions add up to are compared with the stored ones, which are
repaired where they differ. What was repaired is reported in a text, which is cut at a byte offset.
-/

namespace Automaton.Strategy

open Machine

section Source

/-- `ObservedExposure`. -/
structure ObservedExposure where
  strategyId : String
  protocol : String
  chainId : ℕ
  assetSymbol : String
  notionalWei : Option ℕ
  assetAddress : Option String
  decimals : Option ℕ
  amountRaw : Option String
  updatedAtNs : ℕ
  isOpen : Bool
  deriving DecidableEq, Repr

/-- `ExposureReconciliationStatus`. -/
structure ExposureReconciliationStatus where
  lastAttemptedAtNs : Option ℕ
  lastSucceededAtNs : Option ℕ
  repairedExposures : ℕ
  recreatedExposures : ℕ
  closedExposures : ℕ
  driftReason : Option String
  lastError : Option String
  deriving DecidableEq, Repr

/-- The exposures of the executions, by strategy. -/
abbrev ObservedExposures := BTreeMap String ObservedExposure

/-- The order of `list_confirmed_strategy_executions_page`. -/
def executionCursor (execution : PendingStrategyExecution) : ℕ ×ₗ String :=
  toLex (execution.createdAtNs, execution.executionId)

/-- The confirmed executions after a cursor. -/
def confirmedAfter (rows : StrategyRows) (after : Option (ℕ ×ₗ String)) :
    List PendingStrategyExecution :=
  (rows.executions.toList.map (·.2)).filter fun execution =>
    execution.state = .confirmed && after.all fun cursor => cursor < executionCursor execution

/-- `list_confirmed_strategy_executions_page`. -/
def listConfirmedStrategyExecutionsPage (rows : StrategyRows) (after : Option (ℕ ×ₗ String))
    (limit : ℕ) : List PendingStrategyExecution :=
  (Paging.ordered executionCursor (confirmedAfter rows after)).take limit

/-- `PAGE_SIZE`. -/
def executionPageSize : ℕ := 250

variable (u256FromStr : String → Except String ℕ)

/-- The sum of the amounts of an execution's effects. -/
def sumAmounts (effects : List StrategyAssetEffect) : Except String ℕ :=
  effects.foldlM (fun sum effect => do
    let value ← (u256FromStr effect.amountRaw).mapError ("invalid confirmed effect amount: " ++ ·)
    (checkedAdd u256Max sum value).elim (.error "confirmed effect amount overflow") .ok) 0

/-- What an execution adds to the exposure of its strategy, or takes from it. -/
def observedExposure (execution : PendingStrategyExecution) :
    Except String (Option ObservedExposure) :=
  let isOpen := isEnterAction execution.actionId
  if !execution.bookkeepingApplied || !isEnterOrExitAction execution.actionId then .ok none
  else
    let direction : StrategyAssetDirection := if isOpen then .debit else .credit
    let relevant := execution.assetEffects.filter fun effect => effect.direction = direction
    match relevant with
    | [] => .ok none
    | first :: _ =>
      if relevant.any fun effect => assetGroupKey effect ≠ assetGroupKey first then
        .error "confirmed strategy effects contain multiple asset groups"
      else do
        let amount ← sumAmounts u256FromStr relevant
        .ok (some {
          strategyId := strategyIdFromKey execution.key
          protocol := execution.key.protocol
          chainId := execution.key.chainId
          assetSymbol := first.assetSymbol
          notionalWei := effectNotionalWei first amount
          assetAddress := first.assetAddress
          decimals := some first.decimals
          amountRaw := some (toString amount)
          updatedAtNs := execution.updatedAtNs
          isOpen := isOpen })

/-- The amount of an exposure or of a change to it. -/
def historicalAmount (what : String) (missing : String) (amountRaw : Option String) :
    Except String ℕ :=
  amountRaw.elim (.error missing) fun raw =>
    (u256FromStr raw).mapError (("invalid historical exposure " ++ what ++ ": ") ++ ·)

/-- An amount after an exposure was entered or exited. -/
def nextAmount (isOpen : Bool) (current delta : ℕ) : Except String ℕ :=
  if isOpen then
    (checkedAdd u256Max current delta).elim (.error "historical exposure amount overflow") .ok
  else if current < delta then .error "historical exposure exit exceeds open amount"
  else .ok (current - delta)

/-- A change is in the asset of an exposure. -/
def ObservedExposure.sameAsset (current delta : ObservedExposure) : Bool :=
  current.chainId = delta.chainId &&
    current.assetAddress.map Text.toAsciiLowercase =
      delta.assetAddress.map Text.toAsciiLowercase &&
    current.decimals = delta.decimals

/-- An exposure after a change. -/
def ObservedExposure.change (current delta : ObservedExposure) : Except String ObservedExposure :=
  if !current.sameAsset delta then
    .error ("historical strategy effects changed asset identity:" ++ delta.strategyId)
  else do
    let currentAmount ← historicalAmount u256FromStr "amount"
      "historical exposure amount is ambiguous" current.amountRaw
    let deltaAmount ← historicalAmount u256FromStr "delta"
      "historical exposure delta is ambiguous" delta.amountRaw
    let next ← nextAmount delta.isOpen currentAmount deltaAmount
    .ok { current with
      amountRaw := some (toString next)
      notionalWei := if current.assetAddress.isNone && current.decimals = some 18 then
        u128OfU256 next else none
      updatedAtNs := delta.updatedAtNs
      isOpen := next ≠ 0 }

/-- `fold_observed_exposure`. -/
def foldObservedExposure (observed : ObservedExposures) (delta : ObservedExposure) :
    Except String ObservedExposures :=
  match observed[delta.strategyId]? with
  | none => .ok (if delta.isOpen then observed.insert delta.strategyId delta else observed)
  | some current => (current.change u256FromStr delta).map (observed.insert delta.strategyId)

/-- The loop over the executions of a page. -/
def foldExecution (observed : ObservedExposures) (execution : PendingStrategyExecution) :
    Except String ObservedExposures := do
  let delta ← observedExposure u256FromStr execution
  delta.elim (.ok observed) (foldObservedExposure u256FromStr observed)

end Source

section Pages

variable {rows : StrategyRows} {after : Option (ℕ ×ₗ String)} {limit : ℕ}
  {last : PendingStrategyExecution}

/-- Fewer executions are behind a page than were before it. -/
theorem length_confirmedAfter_lt
    (h : (listConfirmedStrategyExecutionsPage rows after limit).getLast? = some last) :
    (confirmedAfter rows (some (executionCursor last))).length <
      (confirmedAfter rows after).length := by
  have hmem : last ∈ confirmedAfter rows after := by
    have hpage := List.mem_of_getLast? h
    exact Paging.ordered_perm.mem_iff.mp (List.mem_of_mem_take hpage)
  have hbehind : confirmedAfter rows (some (executionCursor last)) =
      (confirmedAfter rows after).filter fun execution =>
        executionCursor last < executionCursor execution := by
    have hcursor : after.all (fun cursor => cursor < executionCursor last) = true := by
      have htest := (List.mem_filter.mp hmem).2
      rw [Bool.and_eq_true] at htest
      exact htest.2
    unfold confirmedAfter
    rw [List.filter_filter]
    apply List.filter_congr
    intro execution _
    rw [Bool.and_left_comm, Option.all_some]
    by_cases hlater : executionCursor last < executionCursor execution
    · have hall : after.all (fun cursor => cursor < executionCursor execution) = true := by
        cases after with
        | none => rfl
        | some cursor => exact decide_eq_true ((of_decide_eq_true hcursor).trans hlater)
      rw [hall, Bool.and_true]
    · simp [hlater]
  rw [hbehind]
  refine List.length_filter_lt_length_iff_exists.mpr ⟨last, hmem, ?_⟩
  simp

end Pages

section Source

variable (u256FromStr : String → Except String ℕ)

/-- The loop over the pages. -/
def collectPages (rows : StrategyRows) (observed : ObservedExposures)
    (after : Option (ℕ ×ₗ String)) : Except String ObservedExposures :=
  let page := listConfirmedStrategyExecutionsPage rows after executionPageSize
  match _hlast : page.getLast? with
  | none => .ok observed
  | some last =>
    match page.foldlM (foldExecution u256FromStr) observed with
    | .error error => .error error
    | .ok observed =>
      if page.length < executionPageSize then .ok observed
      else collectPages rows observed (some (executionCursor last))
termination_by (confirmedAfter rows after).length
decreasing_by exact length_confirmedAfter_lt _hlast

/-- `collect_observed_exposures`. -/
def collectObservedExposures (rows : StrategyRows) : Except String (List ObservedExposure) :=
  (collectPages u256FromStr rows ∅ none).map fun observed => observed.toList.map (·.2)

/-- `validate_active_exposure`. -/
def validateActiveExposure (exposure : ActiveExposure) : Except String Unit :=
  if Text.trim exposure.strategyId = "" then
    .error "active exposure strategy_id must be non-empty"
  else if Text.trim exposure.protocol = "" then
    .error "active exposure protocol must be non-empty"
  else if exposure.chainId = 0 then
    .error "active exposure chain_id must be greater than zero"
  else if Text.trim exposure.assetSymbol = "" then
    .error "active exposure asset_symbol must be non-empty"
  else .ok ()

/-- What is stored of an observed exposure. -/
def ObservedExposure.active (observation : ObservedExposure) : ActiveExposure where
  strategyId := observation.strategyId
  protocol := observation.protocol
  chainId := observation.chainId
  assetSymbol := observation.assetSymbol
  notionalWei := observation.notionalWei
  assetAddress := observation.assetAddress
  decimals := observation.decimals
  amountRaw := observation.amountRaw
  updatedAtNs := observation.updatedAtNs

/-- `exposure_drifted`. -/
def exposureDrifted (existing : ActiveExposure) (observed : ObservedExposure) : Bool :=
  existing.protocol ≠ observed.protocol || existing.chainId ≠ observed.chainId ||
    existing.assetSymbol ≠ observed.assetSymbol || existing.notionalWei ≠ observed.notionalWei ||
    existing.assetAddress ≠ observed.assetAddress || existing.decimals ≠ observed.decimals ||
    existing.amountRaw ≠ observed.amountRaw || existing.updatedAtNs < observed.updatedAtNs

/-- What a reconciliation has repaired. -/
structure Repairs where
  exposures : BTreeMap String ActiveExposure
  repaired : ℕ
  recreated : ℕ
  closed : ℕ
  driftReasons : List String

/-- An exposure is stored, if it is valid. -/
def Repairs.setActiveExposure (repairs : Repairs) (exposure : ActiveExposure) :
    Except String (BTreeMap String ActiveExposure) := do
  validateActiveExposure exposure
  .ok (repairs.exposures.insert exposure.strategyId exposure)

/-- An observed exposure is compared with the stored one. -/
def reconcileExposure (repairs : Repairs) (observation : ObservedExposure) :
    Except String Repairs :=
  match observation.isOpen, repairs.exposures[observation.strategyId]? with
  | true, none => do
    let exposures ← repairs.setActiveExposure observation.active
    .ok { repairs with
      exposures := exposures
      recreated := saturatingAdd u32Max repairs.recreated 1
      driftReasons := repairs.driftReasons ++
        ["recreated_missing_exposure:" ++ observation.strategyId] }
  | true, some existing =>
    if exposureDrifted existing observation then do
      let exposures ← repairs.setActiveExposure observation.active
      .ok { repairs with
        exposures := exposures
        repaired := saturatingAdd u32Max repairs.repaired 1
        driftReasons := repairs.driftReasons ++
          ["repaired_mismatched_exposure:" ++ observation.strategyId] }
    else .ok repairs
  | false, some _ => .ok { repairs with
      exposures := repairs.exposures.erase observation.strategyId
      closed := saturatingAdd u32Max repairs.closed 1
      driftReasons := repairs.driftReasons ++ ["closed_after_exit:" ++ observation.strategyId] }
  | false, none => .ok repairs

/-- The loop of the reconciliation; what was repaired before an error stays. -/
def reconcileExposures (repairs : Repairs) :
    List ObservedExposure → Repairs × Except String Unit
  | [] => (repairs, .ok ())
  | observation :: observed =>
    match reconcileExposure repairs observation with
    | .error error => (repairs, .error error)
    | .ok repairs => reconcileExposures repairs observed

/-- `MAX_DRIFT_REASON_LEN`. -/
def maxDriftReasonLen : ℕ := 512

/-- `drift_reason`; a text that is cut within a character has no value, and the code traps. -/
def driftReason (reasons : List String) : Option (Option String) :=
  if reasons = [] then some none
  else
    let joined := ";".intercalate reasons
    if maxDriftReasonLen < Utf8.byteLen joined.toList then
      (Utf8.splitAt? joined.toList maxDriftReasonLen).map fun (kept, _) =>
        some (String.ofList kept ++ "…")
    else some (some joined)

/-- The tables that a reconciliation reads and writes. -/
structure ReconciliationStore where
  rows : StrategyRows
  status : Option ExposureReconciliationStatus

/-- How a reconciliation ends: with a result, or with a trap that undoes all of its message. -/
inductive ReconciliationOutcome
  | returned (result : Except String ExposureReconciliationStatus) (store : ReconciliationStore)
  | trapped

/-- The status of a reconciliation. -/
def reconciliationStatus (nowNs : ℕ) (repairs : Repairs) (driftReason : Option String) :
    ExposureReconciliationStatus where
  lastAttemptedAtNs := some nowNs
  lastSucceededAtNs := some nowNs
  repairedExposures := repairs.repaired
  recreatedExposures := repairs.recreated
  closedExposures := repairs.closed
  driftReason := driftReason
  lastError := none

/-- Nothing is repaired at first. -/
def Repairs.initial (rows : StrategyRows) : Repairs := ⟨rows.exposures, 0, 0, 0, []⟩

/-- `reconcile_active_exposures_from_recent_executions`. -/
def reconcileActiveExposures (store : ReconciliationStore) (nowNs : ℕ) : ReconciliationOutcome :=
  match collectObservedExposures u256FromStr store.rows with
  | .error error => .returned (.error error) store
  | .ok observed =>
    let (repairs, result) := reconcileExposures (.initial store.rows) observed
    let rows := { store.rows with exposures := repairs.exposures }
    match result with
    | .error error => .returned (.error error) { store with rows := rows }
    | .ok () =>
      match driftReason repairs.driftReasons with
      | none => .trapped
      | some reason =>
        let status := reconciliationStatus nowNs repairs reason
        .returned (.ok status) ⟨rows, some status⟩

end Source

section Specification

variable (u256FromStr : String → Except String ℕ)

/-- What is said of an observed exposure, by what is stored for its strategy. -/
def reasonFor (stored : Option ActiveExposure) (observation : ObservedExposure) : Option String :=
  if observation.isOpen then
    stored.elim (some ("recreated_missing_exposure:" ++ observation.strategyId)) fun existing =>
      if exposureDrifted existing observation then
        some ("repaired_mismatched_exposure:" ++ observation.strategyId)
      else none
  else stored.map fun _ => "closed_after_exit:" ++ observation.strategyId

/-- The reasons that the stored exposures give for observed ones. -/
def reasonsFor (exposures : BTreeMap String ActiveExposure) (observed : List ObservedExposure) :
    List String :=
  observed.filterMap fun observation => reasonFor exposures[observation.strategyId]? observation

/-- The joined reasons. -/
def joinedReasons (exposures : BTreeMap String ActiveExposure) (observed : List ObservedExposure) :
    String :=
  ";".intercalate (reasonsFor exposures observed)

/-- An exposure that is stored for an observed one is valid. -/
def CanRepair (exposures : BTreeMap String ActiveExposure) (observation : ObservedExposure) :
    Prop :=
  observation.isOpen = true → reasonFor exposures[observation.strategyId]? observation ≠ none →
    validateActiveExposure observation.active = .ok ()

/-- A text of at most so many bytes, with an ellipsis where it was cut between two characters. -/
def CutOf (limit : ℕ) (joined reason : String) : Prop :=
  ∃ kept rest, joined.toList = kept ++ rest ∧ Utf8.byteLen kept ≤ limit ∧
    reason = String.ofList kept ++ if rest = [] then "" else "…"

/-- A reconciliation does not trap, and stores the joined reasons, cut where they are too long. -/
def ReportsSafely (store : ReconciliationStore) (nowNs : ℕ) : Prop :=
  reconcileActiveExposures u256FromStr store nowNs ≠ .trapped ∧
    ∀ observed status after, collectObservedExposures u256FromStr store.rows = .ok observed →
      reconcileActiveExposures u256FromStr store nowNs = .returned (.ok status) after →
      after.status = some status ∧
        if reasonsFor store.rows.exposures observed = [] then status.driftReason = none
        else ∃ reason, status.driftReason = some reason ∧
          CutOf maxDriftReasonLen (joinedReasons store.rows.exposures observed) reason

/-- If there is a report, none of its characters has the byte at which it is cut in its middle. -/
def CutsBetweenCharacters (rows : StrategyRows) : Prop :=
  ∀ observed, collectObservedExposures u256FromStr rows = .ok observed →
    (∀ observation ∈ observed, CanRepair rows.exposures observation) →
    Utf8.byteLen (joinedReasons rows.exposures observed).toList ≤ maxDriftReasonLen ∨
      Utf8.IsBoundary (joinedReasons rows.exposures observed).toList maxDriftReasonLen

end Specification

section Collection

variable {u256FromStr : String → Except String ℕ} {rows : StrategyRows}
  {observed observed' : ObservedExposures} {execution : PendingStrategyExecution}
  {executions : List PendingStrategyExecution} {delta current next : ObservedExposure}
  {after : Option (ℕ ×ₗ String)}

/-- Each exposure is observed under the id of its strategy. -/
def Keyed (observed : ObservedExposures) : Prop :=
  ∀ (id : String) (observation : ObservedExposure), observed[id]? = some observation →
    observation.strategyId = id

theorem Keyed.insert (h : Keyed observed) {observation : ObservedExposure} {id : String}
    (hid : observation.strategyId = id) : Keyed (observed.insert id observation) := by
  intro other stored hstored
  rw [BTreeMap.get?_insert] at hstored
  split at hstored
  · rename_i hkey
    rw [← Option.some.inj hstored, hid, hkey]
  · exact h other stored hstored

/-- A change is to the exposure of the same strategy. -/
theorem strategyId_of_change (h : current.change u256FromStr delta = .ok next) :
    next.strategyId = current.strategyId := by
  unfold ObservedExposure.change at h
  rw [Fallible.ite_error_eq_ok] at h
  obtain ⟨-, h⟩ := h
  obtain ⟨_, -, h⟩ := Fallible.bind_eq_ok.mp h
  obtain ⟨_, -, h⟩ := Fallible.bind_eq_ok.mp h
  obtain ⟨_, -, h⟩ := Fallible.bind_eq_ok.mp h
  rw [← Except.ok.inj h]

theorem Keyed.foldObservedExposure (h : Keyed observed)
    (hfold : foldObservedExposure u256FromStr observed delta = .ok observed') :
    Keyed observed' := by
  unfold Strategy.foldObservedExposure at hfold
  split at hfold
  · obtain rfl := Except.ok.inj hfold
    split
    · exact h.insert rfl
    · exact h
  · rename_i current hcurrent
    obtain ⟨next, hnext, rfl⟩ := Fallible.map_eq_ok.mp hfold
    exact h.insert ((strategyId_of_change hnext).trans (h _ _ hcurrent))

theorem Keyed.foldExecution (h : Keyed observed)
    (hfold : foldExecution u256FromStr observed execution = .ok observed') : Keyed observed' := by
  obtain ⟨delta, -, hfold⟩ := Fallible.bind_eq_ok.mp hfold
  cases delta with
  | none => exact Except.ok.inj hfold ▸ h
  | some delta => exact h.foldObservedExposure hfold

theorem Keyed.foldExecutions (h : Keyed observed)
    (hfold : executions.foldlM (Strategy.foldExecution u256FromStr) observed = .ok observed') :
    Keyed observed' := by
  induction executions generalizing observed with
  | nil => exact Except.ok.inj hfold ▸ h
  | cons execution executions ih =>
    rw [List.foldlM_cons] at hfold
    obtain ⟨next, hnext, hfold⟩ := Fallible.bind_eq_ok.mp hfold
    exact ih (h.foldExecution hnext) hfold

theorem Keyed.collectPages (h : Keyed observed)
    (hcollect : collectPages u256FromStr rows observed after = .ok observed') :
    Keyed observed' := by
  fun_induction Strategy.collectPages u256FromStr rows observed after with
  | case1 observed after page hlast => exact Except.ok.inj hcollect ▸ h
  | case2 observed after page last hlast error hpage => cases hcollect
  | case3 observed after page last hlast observed' hpage hshort =>
    exact Except.ok.inj hcollect ▸ h.foldExecutions hpage
  | case4 observed after page last hlast observed' hpage hfull ih =>
    exact ih (h.foldExecutions hpage) hcollect

/-- The strategies of the collected exposures differ. -/
theorem nodup_collectObservedExposures {exposures : List ObservedExposure}
    (h : collectObservedExposures u256FromStr rows = .ok exposures) :
    (exposures.map (·.strategyId)).Nodup := by
  obtain ⟨observed, hobserved, rfl⟩ := Fallible.map_eq_ok.mp h
  have hkeyed : Keyed observed := by
    refine Keyed.collectPages ?_ hobserved
    intro id observation hnone
    simp at hnone
  have hids : observed.toList.map (fun entry => entry.2.strategyId) =
      observed.toList.map (·.1) := by
    apply List.map_congr_left
    intro entry hentry
    exact hkeyed _ _ (Std.ExtTreeMap.mem_toList_iff_getElem?_eq_some.mp hentry)
  rw [List.map_map]
  change (observed.toList.map fun entry => entry.2.strategyId).Nodup
  rw [hids, Std.ExtTreeMap.map_fst_toList_eq_keys]
  exact Std.ExtTreeMap.nodup_keys

end Collection

section Loop

variable {repairs repairs' : Repairs} {observation : ObservedExposure}
  {observed : List ObservedExposure}

/-- What storing an exposure does. -/
theorem setActiveExposure_eq_ok {exposures : BTreeMap String ActiveExposure}
    {exposure : ActiveExposure} : repairs.setActiveExposure exposure = .ok exposures ↔
      validateActiveExposure exposure = .ok () ∧
        repairs.exposures.insert exposure.strategyId exposure = exposures := by
  unfold Repairs.setActiveExposure
  rw [Fallible.bind_eq_ok]
  constructor
  · rintro ⟨⟨⟩, hvalid, h⟩
    exact ⟨hvalid, Except.ok.inj h⟩
  · rintro ⟨hvalid, rfl⟩
    exact ⟨(), hvalid, rfl⟩

/-- What a comparison does: it gives its reason, and leaves other strategies alone. -/
theorem reconcileExposure_spec (h : reconcileExposure repairs observation = .ok repairs') :
    repairs'.driftReasons = repairs.driftReasons ++
      (reasonFor repairs.exposures[observation.strategyId]? observation).toList ∧
    ∀ id, observation.strategyId ≠ id → repairs'.exposures[id]? = repairs.exposures[id]? := by
  have hinsert {id : String} (hid : observation.strategyId ≠ id) :
      (repairs.exposures.insert observation.strategyId observation.active)[id]? =
        repairs.exposures[id]? := by
    rw [BTreeMap.get?_insert, if_neg hid]
  unfold reconcileExposure at h
  unfold reasonFor
  split at h
  · rename_i hopen hstored
    obtain ⟨exposures, hset, h⟩ := Fallible.bind_eq_ok.mp h
    obtain ⟨-, rfl⟩ := setActiveExposure_eq_ok.mp hset
    obtain rfl := Except.ok.inj h
    rw [hopen, hstored]
    exact ⟨rfl, fun id hid => hinsert hid⟩
  · rename_i existing hopen hstored
    rw [hopen, hstored, if_pos rfl, Option.elim_some]
    split at h
    · rename_i hdrifted
      obtain ⟨exposures, hset, h⟩ := Fallible.bind_eq_ok.mp h
      obtain ⟨-, rfl⟩ := setActiveExposure_eq_ok.mp hset
      obtain rfl := Except.ok.inj h
      rw [if_pos hdrifted]
      exact ⟨rfl, fun id hid => hinsert hid⟩
    · rename_i hdrifted
      obtain rfl := Except.ok.inj h
      rw [if_neg hdrifted]
      exact ⟨(List.append_nil _).symm, fun id hid => rfl⟩
  · rename_i existing hopen hstored
    obtain rfl := Except.ok.inj h
    rw [hopen, hstored]
    refine ⟨rfl, fun id hid => ?_⟩
    rw [BTreeMap.get?_erase, if_neg hid]
  · rename_i hopen hstored
    obtain rfl := Except.ok.inj h
    rw [hopen, hstored]
    exact ⟨(List.append_nil _).symm, fun id hid => rfl⟩

/-- When a comparison succeeds. -/
theorem exists_reconcileExposure :
    (∃ repairs', reconcileExposure repairs observation = .ok repairs') ↔
      CanRepair repairs.exposures observation := by
  unfold reconcileExposure CanRepair reasonFor
  split
  · rename_i hopen hstored
    rw [hopen, hstored]
    constructor
    · rintro ⟨repairs', h⟩ - -
      obtain ⟨exposures, hset, -⟩ := Fallible.bind_eq_ok.mp h
      exact (setActiveExposure_eq_ok.mp hset).1
    · intro h
      exact ⟨_, Fallible.bind_eq_ok.mpr
        ⟨_, setActiveExposure_eq_ok.mpr ⟨h rfl nofun, rfl⟩, rfl⟩⟩
  · rename_i existing hopen hstored
    rw [hopen, hstored, if_pos rfl, Option.elim_some]
    split
    · constructor
      · rintro ⟨repairs', h⟩ - -
        obtain ⟨exposures, hset, -⟩ := Fallible.bind_eq_ok.mp h
        exact (setActiveExposure_eq_ok.mp hset).1
      · intro h
        exact ⟨_, Fallible.bind_eq_ok.mpr
          ⟨_, setActiveExposure_eq_ok.mpr ⟨h rfl nofun, rfl⟩, rfl⟩⟩
    · exact ⟨fun _ _ hnone => absurd rfl hnone, fun _ => ⟨_, rfl⟩⟩
  · rename_i existing hopen hstored
    rw [hopen]
    exact ⟨fun _ => nofun, fun _ => ⟨_, rfl⟩⟩
  · rename_i hopen hstored
    rw [hopen]
    exact ⟨fun _ => nofun, fun _ => ⟨_, rfl⟩⟩

/-- The comparisons depend on what was stored at first: each strategy is compared once. -/
theorem reconcileExposures_spec (repairs : Repairs)
    (hids : (observed.map (·.strategyId)).Nodup) :
    ((reconcileExposures repairs observed).2 = .ok () ↔
      ∀ observation ∈ observed, CanRepair repairs.exposures observation) ∧
    ((reconcileExposures repairs observed).2 = .ok () →
      (reconcileExposures repairs observed).1.driftReasons =
        repairs.driftReasons ++ reasonsFor repairs.exposures observed) := by
  induction observed generalizing repairs with
  | nil => exact ⟨by simp [reconcileExposures], fun _ => (List.append_nil _).symm⟩
  | cons observation observed ih =>
    rw [List.map_cons, List.nodup_cons] at hids
    obtain ⟨hnew, hids⟩ := hids
    rw [List.forall_mem_cons]
    cases hstep : reconcileExposure repairs observation with
    | error error =>
      have hcannot : ¬ CanRepair repairs.exposures observation := by
        rw [← exists_reconcileExposure, hstep]
        rintro ⟨repairs', h⟩
        cases h
      simp [reconcileExposures, hstep, hcannot]
    | ok next =>
      obtain ⟨hreasons, hothers⟩ := reconcileExposure_spec hstep
      have hcan : CanRepair repairs.exposures observation :=
        exists_reconcileExposure.mp ⟨next, hstep⟩
      -- what is stored for the other strategies is what was stored before
      have hsame : ∀ other ∈ observed,
          next.exposures[other.strategyId]? = repairs.exposures[other.strategyId]? := by
        intro other hother
        refine hothers _ fun heq => hnew ?_
        rw [heq]
        exact List.mem_map_of_mem hother
      have hrepair : (∀ other ∈ observed, CanRepair next.exposures other) ↔
          ∀ other ∈ observed, CanRepair repairs.exposures other := by
        refine forall₂_congr fun other hother => ?_
        rw [CanRepair, CanRepair, hsame other hother]
      have hrest : reasonsFor next.exposures observed = reasonsFor repairs.exposures observed := by
        refine List.filterMap_congr fun other hother => ?_
        rw [hsame other hother]
      obtain ⟨hok, hrun⟩ := ih next hids
      have hunfold : reconcileExposures repairs (observation :: observed) =
          reconcileExposures next observed := by
        rw [reconcileExposures, hstep]
      rw [hunfold]
      refine ⟨?_, fun h => ?_⟩
      · rw [hok, hrepair]
        exact ⟨fun h => ⟨hcan, h⟩, fun h => h.2⟩
      · rw [hrun h, hreasons, hrest, List.append_assoc]
        congr 1
        unfold reasonsFor
        rw [List.filterMap_cons]
        cases reasonFor repairs.exposures[observation.strategyId]? observation <;> rfl

end Loop

section Report

variable {reasons : List String}

/-- When the report is no trap. -/
theorem driftReason_ne_none : driftReason reasons ≠ none ↔
    Utf8.byteLen (";".intercalate reasons).toList ≤ maxDriftReasonLen ∨
      Utf8.IsBoundary (";".intercalate reasons).toList maxDriftReasonLen := by
  unfold driftReason
  split
  · rename_i hnone
    subst hnone
    exact ⟨fun _ => Or.inl (Nat.zero_le _), fun _ => nofun⟩
  · dsimp only
    split
    · rename_i hlong
      rw [← Utf8.isSome_splitAt?, ← Option.isSome_iff_ne_none, Option.isSome_map]
      exact ⟨Or.inr, fun h => h.resolve_left (by omega)⟩
    · rename_i hshort
      exact ⟨fun _ => Or.inl (by omega), fun _ => nofun⟩

/-- What the report is. -/
theorem driftReason_spec {report : Option String} (h : driftReason reasons = some report) :
    if reasons = [] then report = none
    else ∃ reason, report = some reason ∧
      CutOf maxDriftReasonLen (";".intercalate reasons) reason := by
  unfold driftReason at h
  split at h
  · rename_i hnone
    rw [if_pos hnone]
    exact (Option.some.inj h).symm
  · rename_i hsome
    rw [if_neg hsome]
    dsimp only at h
    split at h
    · rename_i hlong
      obtain ⟨⟨kept, rest⟩, hsplit, rfl⟩ := Option.map_eq_some_iff.mp h
      obtain ⟨htext, hlength⟩ := Utf8.splitAt?_eq_some_iff.mp hsplit
      have hrest : rest ≠ [] := by
        rintro rfl
        rw [htext, List.append_nil, hlength] at hlong
        omega
      exact ⟨_, rfl, kept, rest, htext, hlength.le, by rw [if_neg hrest]⟩
    · rename_i hshort
      obtain rfl := Option.some.inj h
      refine ⟨_, rfl, _, [], (List.append_nil _).symm, by omega, ?_⟩
      rw [String.ofList_toList, if_pos rfl, String.append_empty]

end Report

section Results

variable {u256FromStr : String → Except String ℕ} {store : ReconciliationStore} {nowNs : ℕ}
  {observed : List ObservedExposure}

/-- A reconciliation that cannot read the executions ends with an error. -/
theorem reconcileActiveExposures_of_error {error : String}
    (h : collectObservedExposures u256FromStr store.rows = .error error) :
    reconcileActiveExposures u256FromStr store nowNs = .returned (.error error) store := by
  unfold reconcileActiveExposures
  rw [h]

/-- How a reconciliation ends that reads the executions: with an error if an exposure cannot be
repaired, and otherwise with the report. -/
theorem reconcileActiveExposures_cases (nowNs : ℕ)
    (h : collectObservedExposures u256FromStr store.rows = .ok observed) :
    ((∃ error after, reconcileActiveExposures u256FromStr store nowNs =
        .returned (.error error) after) ∧
      ¬ ∀ observation ∈ observed, CanRepair store.rows.exposures observation) ∨
    ((∀ observation ∈ observed, CanRepair store.rows.exposures observation) ∧
      ∃ repairs rows, reconcileActiveExposures u256FromStr store nowNs =
        (driftReason (reasonsFor store.rows.exposures observed)).elim .trapped fun reason =>
          .returned (.ok (reconciliationStatus nowNs repairs reason))
            ⟨rows, some (reconciliationStatus nowNs repairs reason)⟩) := by
  obtain ⟨hok, hreasons⟩ := reconcileExposures_spec (.initial store.rows)
    (nodup_collectObservedExposures h)
  unfold reconcileActiveExposures
  rw [h]
  dsimp only
  generalize reconcileExposures (.initial store.rows) observed = run at hok hreasons ⊢
  obtain ⟨repairs, result⟩ := run
  cases result with
  | error error => exact Or.inl ⟨⟨error, _, rfl⟩, fun hall => nomatch hok.mpr hall⟩
  | ok result =>
    refine Or.inr ⟨hok.mp rfl, repairs, { store.rows with exposures := repairs.exposures }, ?_⟩
    have hnone : (Repairs.initial store.rows).driftReasons ++
        reasonsFor (Repairs.initial store.rows).exposures observed =
          reasonsFor store.rows.exposures observed := rfl
    rw [hreasons rfl, hnone]
    cases driftReason (reasonsFor store.rows.exposures observed) <;> rfl

/-- A reconciliation does not trap, and stores its report, exactly when no character of the report
has the byte in its middle at which it is cut. -/
theorem reports_safely_iff (u256FromStr : String → Except String ℕ) (store : ReconciliationStore)
    (nowNs : ℕ) :
    ReportsSafely u256FromStr store nowNs ↔ CutsBetweenCharacters u256FromStr store.rows := by
  unfold ReportsSafely CutsBetweenCharacters
  cases hcollect : collectObservedExposures u256FromStr store.rows with
  | error error =>
    rw [reconcileActiveExposures_of_error hcollect]
    exact ⟨fun _ => nofun, fun _ => ⟨nofun, nofun⟩⟩
  | ok observed =>
    rcases reconcileActiveExposures_cases nowNs hcollect with
      ⟨⟨error, after, hrun⟩, hcannot⟩ | ⟨hcan, repairs, rows, hrun⟩
    · rw [hrun]
      refine ⟨fun _ others hothers hall => absurd ?_ hcannot, fun _ => ⟨nofun, nofun⟩⟩
      exact Except.ok.inj hothers ▸ hall
    · have hcut : reconcileActiveExposures u256FromStr store nowNs ≠ .trapped ↔
          driftReason (reasonsFor store.rows.exposures observed) ≠ none := by
        rw [hrun]
        cases driftReason (reasonsFor store.rows.exposures observed) with
        | none => exact ⟨fun h => absurd rfl h, fun h => absurd rfl h⟩
        | some reason => exact ⟨fun _ => nofun, fun _ => nofun⟩
      constructor
      · rintro ⟨hsafe, -⟩ others hothers -
        rw [← Except.ok.inj hothers]
        exact driftReason_ne_none.mp (hcut.mp hsafe)
      · intro hboundary
        have hsafe := driftReason_ne_none.mpr (hboundary observed rfl hcan)
        refine ⟨hcut.mpr hsafe, ?_⟩
        rintro others status after hothers hreturned
        rw [← Except.ok.inj hothers]
        obtain ⟨reason, hreason⟩ := Option.ne_none_iff_exists'.mp hsafe
        rw [hrun, hreason, Option.elim_some] at hreturned
        injection hreturned with hstatus hafter
        obtain rfl := Except.ok.inj hstatus
        rw [← hafter]
        exact ⟨rfl, driftReason_spec hreason⟩

end Results

section Counterexample

/-- A number in decimal digits. -/
def decimalU256 (raw : String) : Except String ℕ :=
  (Decimal.parseUnsigned u256Max raw).elim (.error u256TooLarge) .ok

/-- A strategy whose protocol has a name of 122 characters with four bytes each. -/
def wideKey : StrategyTemplateKey where
  protocol := String.ofList (List.replicate 122 '😀')
  primitive := "supply"
  chainId := 8453
  templateId := "enter"

/-- An execution that entered a position. -/
def wideExecution : PendingStrategyExecution where
  executionId := "strategy:turn:digest"
  turnId := "turn"
  key := wideKey
  actionId := "enter_supply"
  planDigest := "digest"
  assetEffects := [⟨8453, none, "ETH", 18, "5", .debit⟩]
  calls := []
  state := .confirmed
  createdAtNs := 1
  updatedAtNs := 1
  nextCheckAtNs := 1
  consecutiveRpcFailures := 0
  bookkeepingApplied := true
  terminalBookkeepingApplied := false

/-- The execution is stored, and no exposure. -/
def wideStore : ReconciliationStore where
  rows := { StrategyRows.empty with
    executions := (∅ : BTreeMap String PendingStrategyExecution).insert "strategy:turn:digest"
      wideExecution }
  status := none

/-- What is observed of the execution. -/
def wideObservation : ObservedExposure where
  strategyId := strategyIdFromKey wideKey
  protocol := wideKey.protocol
  chainId := 8453
  assetSymbol := "ETH"
  notionalWei := some 5
  assetAddress := none
  decimals := some 18
  amountRaw := some "5"
  updatedAtNs := 1
  isOpen := true

theorem observedExposure_wideExecution :
    observedExposure decimalU256 wideExecution = .ok (some wideObservation) := by
  with_unfolding_all rfl

/-- The only execution is on the first page. -/
theorem page_wideStore :
    listConfirmedStrategyExecutionsPage wideStore.rows none executionPageSize =
      [wideExecution] := by
  have hrows : confirmedAfter wideStore.rows none = [wideExecution] := by
    have hlist : wideStore.rows.executions.toList = [("strategy:turn:digest", wideExecution)] := by
      rfl
    rw [confirmedAfter, hlist]
    rfl
  rw [listConfirmedStrategyExecutionsPage, hrows, Paging.ordered, List.mergeSort_singleton]
  rfl

theorem collect_wideStore :
    collectObservedExposures decimalU256 wideStore.rows = .ok [wideObservation] := by
  have hfold : [wideExecution].foldlM (foldExecution decimalU256) ∅ =
      .ok ((∅ : ObservedExposures).insert wideObservation.strategyId wideObservation) := by
    have hempty : (∅ : ObservedExposures)[wideObservation.strategyId]? = none := by simp
    have hstep : foldExecution decimalU256 ∅ wideExecution =
        .ok ((∅ : ObservedExposures).insert wideObservation.strategyId wideObservation) := by
      rw [foldExecution, observedExposure_wideExecution]
      change foldObservedExposure decimalU256 ∅ wideObservation = _
      rw [foldObservedExposure, hempty]
      rfl
    rw [List.foldlM_cons, hstep]
    rfl
  unfold collectObservedExposures collectPages
  rw [page_wideStore]
  dsimp only [List.getLast?_singleton]
  split
  · rename_i error hpage
    rw [hfold] at hpage
    cases hpage
  · rename_i observed hpage
    rw [hfold] at hpage
    obtain rfl := Except.ok.inj hpage
    rw [if_pos (by decide)]
    rfl

/-- The id of the strategy: characters of four bytes each, and then others. -/
theorem toList_wideId : wideObservation.strategyId.toList =
    List.replicate 122 '😀' ++ ":supply:8453:enter".toList := by
  have hid : wideObservation.strategyId =
      String.ofList (List.replicate 122 '😀') ++ ":" ++ "supply" ++ ":" ++ toString 8453 ++ ":" ++
        "enter" := rfl
  have hsuffix : ":".toList ++ ("supply".toList ++ (":".toList ++
      ((toString 8453).toList ++ (":".toList ++ "enter".toList)))) =
        ":supply:8453:enter".toList := by
    decide
  rw [hid]
  generalize List.replicate 122 '😀' = wide
  rw [← hsuffix]
  simp only [String.toList_append, String.toList_ofList, List.append_assoc]

/-- The report of the execution: 27 bytes, and then the id. -/
theorem toList_wideReport :
    (joinedReasons wideStore.rows.exposures [wideObservation]).toList =
      "recreated_missing_exposure:".toList ++
        (List.replicate 122 '😀' ++ ":supply:8453:enter".toList) := by
  have hnone (id : String) : wideStore.rows.exposures[id]? = none :=
    Std.ExtTreeMap.getElem?_empty
  have hopen : wideObservation.isOpen = true := rfl
  rw [joinedReasons, reasonsFor, List.filterMap_cons, hnone, reasonFor, if_pos hopen,
    Option.elim_none, List.filterMap_nil, String.intercalate_singleton, String.toList_append,
    toList_wideId]

set_option maxRecDepth 4000 in
/-- The byte at which the report would be cut is in the middle of a character. -/
theorem not_boundary_wideReport : Utf8.splitAt? ("recreated_missing_exposure:".toList ++
    (List.replicate 122 '😀' ++ ":supply:8453:enter".toList)) maxDriftReasonLen = none := by
  decide

/-- The exposure of the execution can be stored. -/
theorem valid_wideObservation : validateActiveExposure wideObservation.active = .ok () := by
  have hwide : '😀' ∈ List.replicate 122 '😀' := List.mem_replicate.mpr ⟨by decide, rfl⟩
  have hid : Text.trim wideObservation.strategyId ≠ "" :=
    Text.trim_ne_empty (toList_wideId ▸ List.mem_append_left _ hwide) (by decide)
  have hprotocol : Text.trim wideObservation.protocol ≠ "" := by
    have hchars : wideObservation.protocol.toList = List.replicate 122 '😀' := String.toList_ofList
    exact Text.trim_ne_empty (hchars ▸ hwide) (by decide)
  exact (if_neg hid).trans ((if_neg hprotocol).trans
    ((if_neg (by decide)).trans (if_neg (by decide))))

/-- A reconciliation of an execution with a wide name traps. -/
theorem wideStore_traps : ¬ ∀ u256FromStr store nowNs, ReportsSafely u256FromStr store nowNs := by
  intro hall
  obtain ⟨hsafe, -⟩ := hall decimalU256 wideStore 7
  apply hsafe
  rcases reconcileActiveExposures_cases 7 collect_wideStore with
    ⟨-, hcannot⟩ | ⟨-, repairs, rows, hrun⟩
  · refine absurd ?_ hcannot
    intro observation hobservation _ _
    rw [List.mem_singleton.mp hobservation]
    exact valid_wideObservation
  · have htrap : driftReason (reasonsFor wideStore.rows.exposures [wideObservation]) = none := by
      by_contra hsome
      rcases driftReason_ne_none.mp hsome with hshort | hboundary
      · rw [← joinedReasons, toList_wideReport, Utf8.byteLen_append, Utf8.byteLen_append] at hshort
        have hwide : Utf8.byteLen (List.replicate 122 '😀') = 488 := Utf8.byteLen_replicate
        have hprefix : Utf8.byteLen "recreated_missing_exposure:".toList = 27 := by decide
        rw [hwide, hprefix, maxDriftReasonLen] at hshort
        omega
      · rw [← joinedReasons, toList_wideReport, ← Utf8.isSome_splitAt?,
          not_boundary_wideReport] at hboundary
        cases hboundary
    rw [hrun, htrap]
    rfl

end Counterexample

end Automaton.Strategy
