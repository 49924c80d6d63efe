import AttestedImaging.Bytes.Hex

/-!
# Status codes

What an invocation answers to its caller. The codes are those of the GlobalPlatform TEE interface.
-/

namespace AttestedImaging

inductive Status
  | ok
  | badParameters
  | outOfResources
  | cryptoFailure
deriving DecidableEq

namespace Status

def all : List Status := [ok, badParameters, outOfResources, cryptoFailure]

def code : Status → UInt32
  | ok => 0
  | cryptoFailure => 0xFFFF0000
  | badParameters => 0xFFFF0006
  | outOfResources => 0xFFFF000C

def ofCode? (code : UInt32) : Option Status := all.find? (·.code = code)

def name : Status → String
  | ok => "Ok"
  | badParameters => "BadParameters"
  | outOfResources => "OutOfResources"
  | cryptoFailure => "CryptoFailure"

def tag : Status → String
  | ok => "ok"
  | badParameters => "bad_parameters"
  | outOfResources => "out_of_resources"
  | cryptoFailure => "crypto_failure"

def ofTag? (tag : String) : Option Status := all.find? (·.tag = tag)

def describe (status : Status) : String :=
  status.name ++ " (" ++ Hex.word 8 status.code ++ ")"

theorem mem_all (status : Status) : status ∈ all := by cases status <;> simp [all]

theorem ofCode?_code (status : Status) : ofCode? status.code = some status := by
  cases status <;> rfl

end Status

end AttestedImaging
