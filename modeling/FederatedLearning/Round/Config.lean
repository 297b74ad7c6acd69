import FederatedLearning.Json.Form

/-!
# Configuration of a round

A round of evaluation is configured by four positive counts and a seed.  A
configuration is read from JSON; what it leaves out takes its default, and
unknown fields and zero counts are refused.
-/

namespace FederatedLearning

/-- A positive number of 64 bits. -/
structure Count where
  value : Nat
  positive : 0 < value
  bounded : value < UInt64.size
deriving DecidableEq, Repr

structure RoundConfig where
  clients : Count
  features : Count
  examplesPerClient : Count
  batchSize : Count
  seed : Option UInt64
deriving DecidableEq, Repr

inductive ConfigError where
  | invalid (fault : Json.Fault)
  | unreadable (path : String)
deriving DecidableEq, Repr

def ConfigError.message : ConfigError → String
  | .invalid _ => "invalid node config"
  | .unreadable path => "cannot read '" ++ path ++ "'"

namespace RoundConfig

open Json

/-- The configuration that holds where nothing else is said. -/
def standard : RoundConfig where
  clients := ⟨4, by decide, by decide⟩
  features := ⟨3, by decide, by decide⟩
  examplesPerClient := ⟨64, by decide, by decide⟩
  batchSize := ⟨16, by decide, by decide⟩
  seed := none

def readCount : Reader Count := do
  match ← integer with
  | .ofNat value =>
      if fits : 0 < value ∧ value < UInt64.size then
        return ⟨value, fits.1, fits.2⟩
      else throw .unsuited
  | .negSucc _ => throw .unsuited

/-- Reads a seed, or `null` for none. -/
def readSeed : Reader (Option UInt64) := do
  return (← optional natural64).map Nat.toUInt64

/-- The fields of a configuration, each read over what is known so far. -/
def layout : Layout RoundConfig where
  fields := [
    ⟨"clients", fun known => do return { known with clients := ← readCount }⟩,
    ⟨"feature_dim", fun known => do return { known with features := ← readCount }⟩,
    ⟨"examples_per_client", fun known => do
      return { known with examplesPerClient := ← readCount }⟩,
    ⟨"batch_size", fun known => do return { known with batchSize := ← readCount }⟩,
    ⟨"seed", fun known => do return { known with seed := ← readSeed }⟩]
  skipsUnknown := false

def ofJson (text : String) : Except ConfigError RoundConfig :=
  (readAll (group maxDepth standard fun _ _ => layout) text).mapError .invalid

/-- Loads a configuration from the file that is named by an argument or else by
the environment; without either the standard one holds. -/
def load (argument environment : Option String) (contents? : String → Option String) :
    Except ConfigError RoundConfig :=
  match argument.or environment with
  | none => .ok standard
  | some path =>
      match contents? path with
      | none => .error (.unreadable path)
      | some text => ofJson text

end RoundConfig

end FederatedLearning
