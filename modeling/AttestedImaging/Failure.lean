import AttestedImaging.Parameter.Kind
import AttestedImaging.Provider.Error
import AttestedImaging.Status

/-!
# Failures

Why a session was not opened or an invocation did not succeed. A failure is a cause; the caller
sees only its status, and the log its message.
-/

namespace AttestedImaging

/-- What is wrong with the parameters. -/
inductive ParameterFault
  | kindsMismatch (actual expected : Kinds)
  | slotOutOfRange (index : Nat)
  | wrongKind (index : Nat) (actual expected : Kind)
  | bufferTooSmall (capacity needed : Nat)
  | emptyImage
  | imageTooLarge (size limit : Nat)
  | brokenImage (size : Nat)
  | bundleCapacity (capacity : Nat)
  | grayCapacity (capacity size : Nat)
  | brokenPixels (size : Nat)
  | usedAtOpening (kinds : Kinds)
  | other (text : String)
deriving DecidableEq

def ParameterFault.message : ParameterFault → String
  | .kindsMismatch actual expected =>
    "パラメータ種別が一致しません: " ++ actual.describe ++ " (期待: " ++ expected.describe ++ ")"
  | .slotOutOfRange index => s!"スロット番号が範囲外です: {index}"
  | .wrongKind index actual expected =>
    s!"スロット{index}の種別が不正です: " ++ actual.name ++ " (期待: " ++ expected.name ++ ")"
  | .bufferTooSmall capacity needed =>
    s!"出力バッファの容量が不足しています: {capacity} bytes (必要: {needed} bytes)"
  | .emptyImage => "入力画像が空です"
  | .imageTooLarge size limit =>
    s!"入力画像が上限を超えています: {size} bytes (上限: {limit} bytes)"
  | .brokenImage size => s!"入力画像の長さが3の倍数ではありません: {size} bytes"
  | .bundleCapacity capacity =>
    s!"Attestation出力の容量が不足しています: {capacity} bytes (必要: 168 bytes)"
  | .grayCapacity capacity size =>
    s!"画像出力の容量が入力長と一致しません: {capacity} bytes (入力: {size} bytes)"
  | .brokenPixels size => s!"画素データ長が3の倍数ではありません: {size} bytes"
  | .usedAtOpening kinds =>
    "セッションオープンのパラメータは全て未使用である必要があります: " ++ kinds.describe
  | .other text => text

/-- What there was not enough of. -/
inductive Shortage
  | handles (limit : Nat)
  | sessions (current limit : Nat)
  | other (text : String)
deriving DecidableEq

def Shortage.message : Shortage → String
  | .handles limit => (ProviderError.slotsExhausted limit).message
  | .sessions current limit => s!"同時セッション数が上限に達しています: {current}/{limit}"
  | .other text => text

/-- What went wrong with the cryptography: the provider refused, or answered bytes of a wrong
length. -/
inductive CryptoFault
  | provider (error : ProviderError)
  | digestLength (length : Nat)
  | componentEmpty (which : Coordinate)
  | componentLength (which : Coordinate) (length : Nat)
  | signatureLength (length : Nat)
  | other (text : String)
deriving DecidableEq

def CryptoFault.message : CryptoFault → String
  | .provider error => error.message
  | .digestLength length => s!"ダイジェスト長が不正です: {length} bytes (期待: 32 bytes)"
  | .componentEmpty which => "公開鍵成分" ++ which.name ++ "が空です"
  | .componentLength which length =>
    "公開鍵成分" ++ which.name ++ s!"の長さが不正です: {length} bytes"
  | .signatureLength length => s!"署名長が不正です: {length} bytes (期待: 64 bytes)"
  | .other text => text

inductive Failure
  | badParameters (cause : ParameterFault)
  | outOfResources (cause : Shortage)
  | cryptoFailure (cause : CryptoFault)
deriving DecidableEq

namespace Failure

def status : Failure → Status
  | badParameters _ => .badParameters
  | outOfResources _ => .outOfResources
  | cryptoFailure _ => .cryptoFailure

def message : Failure → String
  | badParameters cause => "不正なパラメータ: " ++ cause.message
  | outOfResources cause => "リソースが不足しています: " ++ cause.message
  | cryptoFailure cause => "暗号処理に失敗: " ++ cause.message

/-- Running out of slots is a shortage, and everything else a failure of the cryptography. -/
def ofProvider : ProviderError → Failure
  | .slotsExhausted limit => outOfResources (.handles limit)
  | error => cryptoFailure (.provider error)

theorem status_ne_ok (f : Failure) : f.status ≠ .ok := by
  cases f <;> simp [status]

end Failure

end AttestedImaging
