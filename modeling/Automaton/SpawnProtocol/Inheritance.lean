import Automaton.Library.Machine
import Automaton.Library.Text

/-!
# What a child inherits

The limits on the memories and the strategy statistics that a parent passes on.
-/

namespace Automaton.SpawnProtocol

open Machine

/-- `MemoryDowryFact`. -/
structure MemoryDowryFact where
  key : String
  value : String
  deriving DecidableEq, Repr

/-- `InheritedStrategyStat`. -/
structure InheritedStrategyStat where
  protocolName : String
  primitive : String
  chainId : ℕ
  templateId : String
  totalRuns : ℕ
  successRuns : ℕ
  deterministicFailures : ℕ
  nondeterministicFailures : ℕ
  deriving DecidableEq, Repr

/-- `MAX_MEMORY_DOWRY_FACTS`. -/
def maxMemoryDowryFacts : ℕ := 16

/-- `MAX_MEMORY_DOWRY_KEY_CHARS`. -/
def maxMemoryDowryKeyChars : ℕ := 96

/-- `MAX_MEMORY_DOWRY_VALUE_CHARS`. -/
def maxMemoryDowryValueChars : ℕ := 1024

/-- `MAX_INHERITED_STRATEGY_STATS`. -/
def maxInheritedStrategyStats : ℕ := 16

/-- `MAX_INHERITED_STRATEGY_FIELD_CHARS`. -/
def maxInheritedStrategyFieldChars : ℕ := 96

/-- One memory of `validate_inheritance`. -/
def validateDowryFact (fact : MemoryDowryFact) : Except String Unit :=
  let key := Text.trim fact.key
  if key = "" ∨ key.length > maxMemoryDowryKeyChars then
    .error "memory dowry key is empty or too long"
  else if fact.value.length > maxMemoryDowryValueChars then
    .error ("memory dowry value for " ++ key ++ " is too long")
  else .ok ()

/-- One text of a statistic. -/
def validateStatField (label value : String) : Except String Unit :=
  let chars := (Text.trim value).length
  if chars = 0 ∨ chars > maxInheritedStrategyFieldChars then
    .error ("inherited strategy " ++ label ++ " is empty or too long")
  else .ok ()

/-- One statistic of `validate_inheritance`. -/
def validateStrategyStat (stat : InheritedStrategyStat) : Except String Unit := do
  validateStatField "protocol" stat.protocolName
  validateStatField "primitive" stat.primitive
  validateStatField "template_id" stat.templateId
  let classified := saturatingAdd u64Max
    (saturatingAdd u64Max stat.successRuns stat.deterministicFailures) stat.nondeterministicFailures
  if classified > stat.totalRuns then
    throw "inherited strategy classified outcomes exceed total runs"

/-- `validate_inheritance`. -/
def validateInheritance (dowry : List MemoryDowryFact) (stats : List InheritedStrategyStat) :
    Except String Unit := do
  if dowry.length > maxMemoryDowryFacts then
    throw ("memory dowry exceeds " ++ toString maxMemoryDowryFacts ++ " facts")
  if stats.length > maxInheritedStrategyStats then
    throw ("strategy inheritance exceeds " ++ toString maxInheritedStrategyStats ++ " records")
  dowry.forM validateDowryFact
  stats.forM validateStrategyStat

end Automaton.SpawnProtocol
