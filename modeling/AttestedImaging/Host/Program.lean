import AttestedImaging.Application
import AttestedImaging.Evidence
import AttestedImaging.Host.CommandLine
import AttestedImaging.Host.Directory
import AttestedImaging.Host.LogFilter
import AttestedImaging.Provider.Software

/-!
# The host program

Loads an image, has it attested in one session, prints the evidence and writes the gray image. The
program is a tree of what it asks of the world outside, so the same program runs on real files and
on a `Directory`.
-/

namespace AttestedImaging.Host

/-- What is printed: a text as it stands, or a log line, which gets the time in front. -/
inductive Line
  | text (content : String)
  | log (content : String)

/-- The line as printed, with `stamp` for the time of a log line. -/
def Line.render (stamp : String) : Line → String
  | .text content => content ++ "\n"
  | .log content => stamp ++ " " ++ content ++ "\n"

inductive Program
  /-- The end, with a text for the error output. -/
  | done (exitCode : UInt8) (message : String)
  | print (line : Line) (next : Program)
  /-- A line for the error output. -/
  | warn (line : String) (next : Program)
  | read (path : String) (next : Option Bytes → Program)
  /-- Makes or replaces a file. The program goes on with whether this worked. -/
  | write (path : String) (contents : Bytes) (next : Bool → Program)
  /-- The microseconds on some clock. -/
  | clock (next : Nat → Program)

namespace Program

def stop (message : String) : Program := .done 1 ("Error: " ++ message ++ "\n")

/-- An error under a heading, every line of it indented. -/
def withCause (heading cause : String) : String :=
  heading ++ "\n\nCaused by:\n"
    ++ "\n".intercalate ((cause.splitOn "\n").map fun line => "    " ++ line)

def printLog (filter : LogFilter) (events : List Event) (next : Program) : Program :=
  (events.map Event.record).foldr
    (fun r next => if filter.shows r then .print (.log (logLine r)) next else next) next

def statusText (status : Status) : String :=
  status.describe ++ " (" ++ Hex.word 8 status.code ++ ")"

/-- The slots for an image: the image, room for a bundle and room for the gray image. -/
def slotsFor (rgb : Bytes) : Parameters :=
  #v[.memrefInput rgb,
     .memrefOutput (.ofContents (List.replicate Bundle.size 0)),
     .memrefOutput (.ofContents (List.replicate rgb.length 0)),
     .absent]

def slotBytes (index : Nat) (ps : Parameters) : Bytes :=
  match ps.output index with
  | .ok buffer => buffer.contents
  | .error _ => []

/-- The bundle in the caller's slot as evidence, or what to say instead. -/
def evidence (ps : Parameters) (micros : Nat) (picture : Picture) : Except String Evidence :=
  match Bundle.decode (slotBytes Command.bundleSlot ps) with
  | .error fault => .error (withCause "Attestationのデコードに失敗" fault.message)
  | .ok bundle =>
    match Evidence.ofBundle bundle micros picture.width picture.height with
    | .error fault => .error fault.message
    | .ok e => .ok e

/-- Writes the gray image, if a path for it was given. -/
def writeGray (filter : LogFilter) (output : Option String) (gray : Picture)
    (ending : Program → Program) : Program :=
  match output with
  | none => ending (.done 0 "")
  | some path =>
    match ImageFile.store path gray with
    | .error fault => ending (stop fault.message)
    | .ok writing =>
      .write path writing.contents fun written =>
        if written && writing.complete then
          printLog filter [.imageWritten path] (ending (.done 0 ""))
        else ending (stop (ImageFile.Fault.unwritable path).message)

/-- The application at work on a picture: one session, one invocation. -/
def attest (config : Config) (randomness : Randomness) (rgb : Bytes) :
    Except Status (Status × Parameters) × Application Software :=
  let P := Software.provider
  let app := Application.create P config (some (.memory {})) { randomness }
  match app.openSession P Kinds.allAbsent with
  | (.error status, app) => (.error status, app)
  | (.ok _, app) =>
    let (answer, app) := app.invoke P 0 Command.processAndAttest.id (slotsFor rgb)
    let (_, app) := app.close P 0
    (.ok (answer.getD (.badParameters, slotsFor rgb)), app)

def storedCount (app : Application Software) : Nat := (app.storage.map Storage.size).getD 0

def withPicture (arguments : Arguments) (config : Config) (filter : LogFilter)
    (randomness : Randomness) (picture : Picture) : Program :=
  .clock fun started =>
    let (outcome, app) := attest config randomness picture.rgb
    let ending := printLog filter [.applicationEnded app.openSessions]
    printLog filter app.device.events <|
      match outcome with
      | .error status =>
        ending (stop ("TAとのセッションをオープンできません: " ++ statusText status))
      | .ok (status, ps) =>
        if status ≠ .ok then ending (stop ("TAの呼び出しに失敗: " ++ statusText status))
        else
          .clock fun ended =>
            match evidence ps (ended - started) picture with
            | .error message => ending (stop message)
            | .ok e =>
              .print (.text (if arguments.json then e.json.pretty "" else e.text)) <|
                printLog filter
                  (if storedCount app = 0 then [] else [.storedInMemory (storedCount app)]) <|
                  writeGray filter arguments.output
                    { picture with rgb := slotBytes Command.graySlot ps } ending

/-- The command line, the configuration, the image, and then the work. -/
def withFilter (filter : LogFilter) (arguments : List String) (lookup : String → Option String)
    (randomness : Randomness) : Program :=
  match CommandLine.parse arguments with
  | .error .help => .print (.text CommandLine.help) (.done 0 "")
  | .error (.fault fault) => .done 2 fault.report
  | .ok arguments =>
    match arguments.config lookup with
    | .error fault => stop (withCause "TA設定の読み込みに失敗" fault.message)
    | .ok config =>
      .read arguments.image fun contents =>
        match ImageFile.load arguments.image contents with
        | .error fault => stop fault.message
        | .ok picture =>
          printLog filter [.imageLoaded arguments.image picture.width picture.height] <|
            withPicture arguments config filter randomness picture

/-- The whole program. The log filter comes first, and what is wrong with it stops nothing. -/
def ofArguments (arguments : List String) (lookup : String → Option String)
    (randomness : Randomness) : Program :=
  let filter := (lookup "RUST_LOG").getD ""
  (LogFilter.refusals filter).foldr warn
    (withFilter (LogFilter.ofText filter) arguments lookup randomness)

/-- What is left after a program has run. -/
structure Outcome where
  exitCode : UInt8
  stdout : String
  stderr : String
  directory : Directory

/-- Runs a program in a directory, where no time passes. -/
def runIn (stamp : String) : Program → Directory → Outcome
  | .done exitCode message, d => ⟨exitCode, "", message, d⟩
  | .print line next, d =>
    let o := runIn stamp next d
    { o with stdout := line.render stamp ++ o.stdout }
  | .warn line next, d =>
    let o := runIn stamp next d
    { o with stderr := line ++ "\n" ++ o.stderr }
  | .read path next, d => runIn stamp (next (d.read path)) d
  | .write path contents next, d =>
    match d.write? path contents with
    | some d => runIn stamp (next true) d
    | none => runIn stamp (next false) d
  | .clock next, d => runIn stamp (next 0) d

end Program

end AttestedImaging.Host
