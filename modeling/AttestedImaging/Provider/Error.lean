import AttestedImaging.Bundle

/-!
# Handles and provider errors

A provider of cryptography keeps its keys and operations to itself and hands out handles for them.
-/

namespace AttestedImaging

structure Handle where
  raw : UInt32
deriving DecidableEq

namespace Handle

def text (h : Handle) : String := toString h.raw.toNat

end Handle

inductive ProviderError
  | slotsExhausted (limit : Nat)
  | unknownHandle (handle : Handle)
  | wrongHandleKind (handle : Handle)
  | backend (text : String)
deriving DecidableEq

def ProviderError.message : ProviderError → String
  | .slotsExhausted limit => s!"暗号ハンドルのスロットが枯渇しました（上限: {limit}）"
  | .unknownHandle handle => "不明なハンドルです: " ++ handle.text
  | .wrongHandleKind handle => "ハンドル" ++ handle.text ++ "の種別が操作と一致しません"
  | .backend text => "暗号バックエンドの処理に失敗: " ++ text

end AttestedImaging
