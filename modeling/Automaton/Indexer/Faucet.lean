import Automaton.Library.Ecma
import Automaton.Library.Fallible

/-!
# The faucet

The claims of the playground faucet: a claim counts the recorded claims of its wallet and of its IP
address, has the wallet funded, and is recorded. Each of these is awaited, so the claim is cut into
the steps between its awaits.
-/

namespace Automaton.Indexer

/-- `PlaygroundClaimAssetAmount`. -/
structure PlaygroundClaimAssetAmount where
  asset : String
  amount : String
  decimals : ℕ
  deriving DecidableEq

/-- `PlaygroundClaimLimits`. -/
structure PlaygroundClaimLimits where
  windowSeconds : ℕ
  maxClaimsPerWallet : ℕ
  maxClaimsPerIp : ℕ

/-- `PlaygroundMetadata["faucet"]`. -/
structure FaucetMetadata where
  available : Bool
  claimLimits : PlaygroundClaimLimits
  claimAssetAmounts : List PlaygroundClaimAssetAmount

/-- `SeedLocalWalletSummary`. -/
structure SeedLocalWalletSummary where
  walletAddress : String
  mintTxHash : String
  fundTxHash : String
  ethWei : String
  usdcRaw : String
  deriving DecidableEq

/-- `FaucetClaimInput`: the wallet address may be no text at all. -/
structure FaucetClaimInput where
  ipAddress : String
  walletAddress : Option String

/-- `FaucetClaimResult`, without the field `ok`. -/
structure FaucetClaimResult where
  walletAddress : String
  ethTxHash : String
  usdcTxHash : String
  fundedEth : PlaygroundClaimAssetAmount
  fundedWei : String
  fundedUsdc : PlaygroundClaimAssetAmount
  fundedRaw : String
  balanceWei : String
  balanceRaw : String
  deriving DecidableEq

/-- What the body of a refusal says about a limit. -/
structure FaucetLimit where
  retryAfterSeconds : Option ℤ
  walletAddress : Option String
  windowSeconds : ℕ
  deriving DecidableEq

/-- `FaucetError`. -/
structure FaucetError where
  statusCode : ℕ
  error : String
  limit : Option FaucetLimit
  deriving DecidableEq

/-- `FaucetClaimRecord`, a row of `faucet_claims`. -/
structure FaucetClaimRecord where
  walletAddress : String
  ipHash : String
  claimedAt : ℤ
  ethAmount : String
  usdcAmount : String
  txSummary : SeedLocalWalletSummary
  deriving DecidableEq

/-- `FaucetClaimWindowStats`. -/
structure FaucetClaimWindowStats where
  count : ℕ
  oldestClaimAt : Option ℤ
  deriving DecidableEq

/-- `getFaucetClaimWindowStats` with a wallet address, an IP hash or both. -/
def getFaucetClaimWindowStats (rows : List FaucetClaimRecord)
    (walletAddress ipHash : Option String) (since : ℤ) : Except String FaucetClaimWindowStats :=
  let walletAddress := walletAddress.filter (· ≠ "")
  let ipHash := ipHash.filter (· ≠ "")
  if walletAddress.isNone ∧ ipHash.isNone then
    .error "Faucet claim stats query requires a wallet address or IP hash."
  else
    let found := rows.filter fun row => decide (since ≤ row.claimedAt) &&
      (walletAddress.all (row.walletAddress = ·) && ipHash.all (row.ipHash = ·))
    .ok ⟨found.length, (found.map (·.claimedAt)).min?⟩

/-- `decimalToBaseUnits`. -/
def decimalToBaseUnits (value : String) (decimals : ℕ) : Except String String :=
  match Ecma.decimalParts (Ecma.trim value) with
  | none => .error ("Invalid decimal amount: " ++ value)
  | some (whole, fraction) =>
    if decimals < fraction.length then
      .error ("Amount " ++ value ++ " exceeds " ++ toString decimals ++ " decimal places.")
    else
      let digits := whole ++ fraction.rightpad decimals '0'
      let stripped := digits.dropWhile (· = '0')
      .ok (if stripped = [] then "0" else String.ofList stripped)

/-- `requireClaimAssetAmount`. -/
def requireClaimAssetAmount (claimAssetAmounts : List PlaygroundClaimAssetAmount)
    (asset : String) : Except String PlaygroundClaimAssetAmount :=
  match claimAssetAmounts.find? (·.asset = asset) with
  | some claimAssetAmount => .ok claimAssetAmount
  | none => .error ("Playground faucet metadata is missing the " ++ asset ++ " claim amount.")

/-- `normalizeWalletAddress`: the pattern allows hexadecimal digits in either case. -/
def normalizeWalletAddress (value : Option String) : Option String := do
  let trimmed := Ecma.trim (← value)
  match trimmed.toList with
  | '0' :: 'x' :: digits =>
    if digits.length = 40 ∧ digits.all Text.isHexDigit then some (Text.toAsciiLowercase trimmed)
    else none
  | _ => none

/-- `retryAfterSeconds`. -/
def retryAfterSeconds (stats : FaucetClaimWindowStats) (windowMs now : ℤ) : Option ℤ :=
  stats.oldestClaimAt.map fun oldest => max 1 ((oldest + windowMs - now + 999) / 1000)

/-- What `createFaucetService` prepares. -/
structure FaucetService where
  metadata : FaucetMetadata
  ethAmount : PlaygroundClaimAssetAmount
  usdcAmount : PlaygroundClaimAssetAmount
  ethAmountWei : String
  usdcAmountRaw : String

/-- `createFaucetService`. -/
def createFaucetService (metadata : FaucetMetadata) : Except String FaucetService := do
  let ethAmount ← requireClaimAssetAmount metadata.claimAssetAmounts "eth"
  let usdcAmount ← requireClaimAssetAmount metadata.claimAssetAmounts "usdc"
  let ethAmountWei ← decimalToBaseUnits ethAmount.amount ethAmount.decimals
  let usdcAmountRaw ← decimalToBaseUnits usdcAmount.amount usdcAmount.decimals
  return { metadata, ethAmount, usdcAmount, ethAmountWei, usdcAmountRaw }

/-- The local variables of `claim` that live over its awaits. -/
structure FaucetClaim where
  walletAddress : String
  ipHash : String
  now : ℤ
  deriving DecidableEq

namespace FaucetService

variable (service : FaucetService)

/-- The window in milliseconds. -/
def windowMs : ℤ := service.metadata.claimLimits.windowSeconds * 1000

/-- The start of the window of a claim. -/
def since (claim : FaucetClaim) : ℤ := claim.now - service.windowMs

/-- `claim` up to its first await. -/
def begin (hashIpAddress : String → String) (input : FaucetClaimInput) (now : ℤ) :
    Except FaucetError FaucetClaim := do
  if ¬ service.metadata.available then
    throw ⟨503, "Playground faucet is not available.", none⟩
  match normalizeWalletAddress input.walletAddress with
  | none => throw ⟨400, "walletAddress must be a valid EVM address.", none⟩
  | some walletAddress => return { walletAddress, ipHash := hashIpAddress input.ipAddress, now }

/-- `claim` between the counts and the funding. -/
def checkLimits (claim : FaucetClaim) (walletStats ipStats : FaucetClaimWindowStats) :
    Except FaucetError Unit :=
  let limits := service.metadata.claimLimits
  if limits.maxClaimsPerWallet ≤ walletStats.count then
    .error ⟨429, "Faucet wallet claim limit exceeded.", some {
      retryAfterSeconds := retryAfterSeconds walletStats service.windowMs claim.now
      walletAddress := some claim.walletAddress
      windowSeconds := limits.windowSeconds }⟩
  else if limits.maxClaimsPerIp ≤ ipStats.count then
    .error ⟨429, "Faucet IP claim limit exceeded.", some {
      retryAfterSeconds := retryAfterSeconds ipStats service.windowMs claim.now
      walletAddress := none
      windowSeconds := limits.windowSeconds }⟩
  else .ok ()

/-- The row that `claim` records after the funding. -/
def record (claim : FaucetClaim) (seededWallet : SeedLocalWalletSummary) : FaucetClaimRecord where
  walletAddress := claim.walletAddress
  ipHash := claim.ipHash
  claimedAt := claim.now
  ethAmount := service.ethAmount.amount
  usdcAmount := service.usdcAmount.amount
  txSummary := { seededWallet with walletAddress := claim.walletAddress }

/-- What `claim` returns in the end. -/
def result (claim : FaucetClaim) (seededWallet : SeedLocalWalletSummary) : FaucetClaimResult where
  walletAddress := claim.walletAddress
  ethTxHash := seededWallet.fundTxHash
  usdcTxHash := seededWallet.mintTxHash
  fundedEth := service.ethAmount
  fundedWei := service.ethAmountWei
  fundedUsdc := service.usdcAmount
  fundedRaw := service.usdcAmountRaw
  balanceWei := seededWallet.ethWei
  balanceRaw := seededWallet.usdcRaw

end FaucetService

end Automaton.Indexer
