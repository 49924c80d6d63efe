import AttestedImaging.Command
import AttestedImaging.Config
import AttestedImaging.Failure
import AttestedImaging.Storage

/-!
# Log events

Everything the library reports about its work. An event holds what happened; `Event.record` gives
its written form with a level, the part it comes from, a message and named fields.
-/

namespace AttestedImaging

/-- How far an invocation has come. -/
inductive Stage
  | idle
  | parametersValidated
  | computed
  | digested
  | signed
  | assembled
  | failed
  | rejected
deriving DecidableEq

namespace Stage

def all : List Stage :=
  [idle, parametersValidated, computed, digested, signed, assembled, failed, rejected]

def tag : Stage → String
  | idle => "idle"
  | parametersValidated => "params_validated"
  | computed => "computed"
  | digested => "digested"
  | signed => "signed"
  | assembled => "assembled"
  | failed => "failed"
  | rejected => "rejected"

def name : Stage → String
  | idle => "Idle"
  | parametersValidated => "ParamsValidated"
  | computed => "Computed"
  | digested => "Digested"
  | signed => "Signed"
  | assembled => "Assembled"
  | failed => "Failed"
  | rejected => "Rejected"

end Stage

/-- A handle together with what it stands for, held by someone who has to release it. -/
inductive Holding
  | operation (handle : Handle)
  | key (handle : Handle)
deriving DecidableEq

namespace Holding

def handle : Holding → Handle
  | operation h => h
  | key h => h

def describe : Holding → String
  | operation h => "OperationGuard \x7b handle: OperationHandle(" ++ h.text ++ "), .. \x7d"
  | key h => "KeyGuard \x7b handle: KeyHandle(" ++ h.text ++ "), .. \x7d"

end Holding

inductive Event
  | applicationCreated (provider : String) (config : Config)
  | applicationEnded (openSessions : Nat)
  | openingRefused (failure : Failure)
  | sessionOpened (session : UInt32) (provider : String)
  | sessionClosed (session : UInt32) (completed : Nat)
  | releasing (holding : Holding)
  | releaseMissed (holding : Holding)
  | transition (source target : Stage)
  | unknownCommand (session : UInt32) (command : UInt32)
  | kindsRefused (session : UInt32) (command : Command) (failure : Failure)
  | invocationFailed (session : UInt32) (failure : Failure)
  | keyReused (key : Handle)
  | keyGenerated (key : Handle)
  | attested (session : UInt32) (imageBytes : Nat) (digest : String) (completed : Nat)
  | storageMissing (id : String)
  | stored (id : String)
  | storingFailed (id : String) (error : StorageError)
  | imageLoaded (path : String) (width height : Nat)
  | storedInMemory (count : Nat)
  | imageWritten (path : String)

namespace Event

inductive Level
  | error
  | warn
  | info
  | debug
  | trace
deriving DecidableEq

namespace Level

def name : Level → String
  | error => "ERROR"
  | warn => "WARN"
  | info => "INFO"
  | debug => "DEBUG"
  | trace => "TRACE"

/-- A greater rank is a finer level. -/
def rank : Level → Nat
  | error => 1
  | warn => 2
  | info => 3
  | debug => 4
  | trace => 5

end Level

/-- A field is a text that stands in quotes in a line, or something that stands there as it is. -/
inductive Value
  | quoted (text : String)
  | plain (text : String)

def Value.text : Value → String
  | quoted text => text
  | plain text => text

def Value.ofWord (word : UInt32) : Value := .plain (toString word.toNat)

def Value.ofNat (n : Nat) : Value := .plain (toString n)

def Value.ofHandle (h : Handle) : Value := .plain h.text

structure Record where
  level : Level
  origin : String
  message : String
  fields : List (String × Value)

def record : Event → Record
  | applicationCreated provider config =>
    ⟨.info, "vtee_ta::app", "Trusted Applicationを生成しました",
      [("uuid", .quoted applicationUuid), ("provider", .quoted provider),
       ("max_sessions", .ofNat config.maxSessions),
       ("max_image_bytes", .ofNat config.maxImageBytes),
       ("key_policy", .plain config.keyPolicy.name)]⟩
  | applicationEnded openSessions =>
    ⟨.info, "vtee_ta::app", "Trusted Applicationを破棄します",
      [("open_sessions", .ofNat openSessions)]⟩
  | openingRefused failure =>
    ⟨.warn, "vtee_ta::app", "セッションをオープンできません", [("error", .plain failure.message)]⟩
  | sessionOpened session provider =>
    ⟨.info, "vtee_ta::session", "セッションをオープンしました",
      [("session", .ofWord session), ("provider", .quoted provider)]⟩
  | sessionClosed session completed =>
    ⟨.info, "vtee_ta::session", "セッションをクローズしました",
      [("session", .ofWord session), ("completed", .ofNat completed)]⟩
  | releasing (.operation h) =>
    ⟨.debug, "vtee_ta::runtime", "暗号操作を解放します", [("handle", .ofHandle h)]⟩
  | releasing (.key h) =>
    ⟨.debug, "vtee_ta::runtime", "鍵オブジェクトを破棄します", [("handle", .ofHandle h)]⟩
  | releaseMissed (.operation h) =>
    ⟨.warn, "vtee_ta::runtime::mock", "解放対象の暗号操作が見つかりません",
      [("handle", .ofHandle h)]⟩
  | releaseMissed (.key h) =>
    ⟨.warn, "vtee_ta::runtime::mock", "破棄対象の鍵オブジェクトが見つかりません",
      [("handle", .ofHandle h)]⟩
  | transition source target =>
    ⟨.debug, "vtee_ta::pipeline", "状態遷移",
      [("from", .plain source.tag), ("to", .plain target.tag)]⟩
  | unknownCommand session command =>
    ⟨.warn, "vtee_ta::dispatch", "未知のコマンドIDです",
      [("session", .ofWord session), ("command_id", .ofWord command)]⟩
  | kindsRefused session command failure =>
    ⟨.warn, "vtee_ta::dispatch", "パラメータ種別を拒否しました",
      [("session", .ofWord session), ("command", .plain command.name),
       ("error", .plain failure.message)]⟩
  | invocationFailed session failure =>
    ⟨.warn, "vtee_ta::dispatch", "呼び出しに失敗しました",
      [("session", .ofWord session), ("status", .plain failure.status.describe),
       ("error", .plain failure.message)]⟩
  | keyReused key =>
    ⟨.debug, "vtee_ta::pipeline", "セッション鍵を再利用します", [("handle", .ofHandle key)]⟩
  | keyGenerated key =>
    ⟨.debug, "vtee_ta::pipeline", "P-256キーペアを生成しました", [("handle", .ofHandle key)]⟩
  | attested session imageBytes digest completed =>
    ⟨.info, "vtee_ta::dispatch", "Attestationを発行しました",
      [("session", .ofWord session), ("image_bytes", .ofNat imageBytes),
       ("digest", .plain digest), ("completed", .ofNat completed)]⟩
  | storageMissing id =>
    ⟨.warn, "vtee_ta::dispatch", "保存先のセキュアストレージが設定されていません",
      [("id", .quoted id)]⟩
  | stored id =>
    ⟨.debug, "vtee_ta::dispatch", "Attestationをセキュアストレージに保存しました",
      [("id", .quoted id)]⟩
  | storingFailed id error =>
    ⟨.warn, "vtee_ta::dispatch", "Attestationの保存に失敗しました",
      [("id", .quoted id), ("error", .plain error.message)]⟩
  | imageLoaded path width height =>
    ⟨.info, "vtee_host", "画像を読み込みました",
      [("path", .plain path), ("width", .ofNat width), ("height", .ofNat height)]⟩
  | storedInMemory count =>
    ⟨.info, "vtee_host", "Attestationをメモリ上に保存しました（終了時に破棄されます）",
      [("stored", .ofNat count)]⟩
  | imageWritten path =>
    ⟨.info, "vtee_host", "グレースケール画像を書き出しました", [("path", .plain path)]⟩

end Event

end AttestedImaging
