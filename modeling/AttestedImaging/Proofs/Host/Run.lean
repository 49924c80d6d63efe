import AttestedImaging.Host.Program

/-!
# Runs of the host program

In a run the clock may show anything, and so may the time in front of each log line. `runIn` is one run
of many, so there always is one.
-/

namespace AttestedImaging.Host.Program

/-- The outcome if this has been printed before. -/
def Outcome.after (text : String) (o : Outcome) : Outcome := { o with stdout := text ++ o.stdout }

inductive Runs : Program → Directory → Outcome → Prop
  | done (exitCode : UInt8) (message : String) (d : Directory) :
      Runs (.done exitCode message) d ⟨exitCode, "", message, d⟩
  | print {line : Line} {next : Program} {d : Directory} {o : Outcome} (stamp : String)
      (h : Runs next d o) : Runs (.print line next) d (o.after (line.render stamp))
  | warn {line : String} {next : Program} {d : Directory} {o : Outcome} (h : Runs next d o) :
      Runs (.warn line next) d { o with stderr := line ++ "\n" ++ o.stderr }
  | read {path : String} {next : Option Bytes → Program} {d : Directory} {o : Outcome}
      (h : Runs (next (d.read path)) d o) : Runs (.read path next) d o
  | written {path : String} {contents : Bytes} {next : Bool → Program} {d d' : Directory}
      {o : Outcome} (hw : d.write? path contents = some d') (h : Runs (next true) d' o) :
      Runs (.write path contents next) d o
  | unwritten {path : String} {contents : Bytes} {next : Bool → Program} {d : Directory}
      {o : Outcome} (hw : d.write? path contents = none) (h : Runs (next false) d o) :
      Runs (.write path contents next) d o
  | clock {next : Nat → Program} {d : Directory} {o : Outcome} (micros : Nat)
      (h : Runs (next micros) d o) : Runs (.clock next) d o

/-- A text of log lines for events that the filter shows. -/
inductive Logged (filter : LogFilter) : String → Prop
  | none : Logged filter ""
  | line (e : Event) (stamp : String) (hshows : filter.shows e.record = true) {rest : String}
      (h : Logged filter rest) : Logged filter ((Line.log (logLine e.record)).render stamp ++ rest)

theorem Logged.append {filter : LogFilter} {text text' : String} (h : Logged filter text)
    (h' : Logged filter text') : Logged filter (text ++ text') := by
  induction h with
  | none => rwa [String.empty_append]
  | line e stamp hshows _ ih =>
    rw [String.append_assoc]
    exact .line e stamp hshows ih

end AttestedImaging.Host.Program
