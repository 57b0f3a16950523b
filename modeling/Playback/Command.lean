import Playback.Command.Arguments
import Playback.Files
import Playback.Overview
import Playback.Report.Encoding
import Playback.Report.Text

namespace Playback

/-- The faults are told from the outermost to the innermost. -/
structure Answer where
  code : Nat
  output : String
  faults : List String
deriving DecidableEq

namespace Command

def success (output : String) : Answer := ⟨0, output, []⟩

def failure (faults : List String) : Answer := ⟨1, "", faults⟩

def misuse : Answer := ⟨2, "", []⟩

/-- A file of a journal that cannot be read is a fault like any other. -/
def readJournal (now : Instant) (files : Files) (path : String) : Except Fault Journal :=
  match files.readText path with
  | .error fault => .error (.file ("read " ++ path) fault.message)
  | .ok text => Journal.load now text

def loadJournal (now : Instant) (files : Files) (path : String) :
    Except (List String) Journal :=
  (readJournal now files path).mapError fun fault => ["failed to load " ++ path, fault.message]

/-- The settings of the options file, or the standard ones. -/
def fileSettings (files : Files) : Option String → Except (List String) Settings
  | none => .ok .standard
  | some path =>
      match files.readText path with
      | .error fault => .error ["failed to read " ++ path, fault.message]
      | .ok text =>
          (Settings.ofText text).mapError fun fault =>
            ["invalid options in " ++ path, fault.message]

/-- What is given on the command line replaces what the file says, and skips are added to it. -/
def override (settings : Settings) (arguments : ReplayArguments) : Settings :=
  let settings := arguments.mode.elim settings settings.withMode
  let settings := arguments.first.elim settings settings.startingAt
  let settings := arguments.last.elim settings settings.endingAt
  let settings := arguments.skips.foldl Settings.skip settings
  if arguments.stopsAtDivergence then settings.withStop true else settings

/-- Application must be allowed on the command line. -/
def settings (files : Files) (arguments : ReplayArguments) : Except (List String) Settings :=
  match fileSettings files arguments.options with
  | .error faults => .error faults
  | .ok settings =>
      let settings := override settings arguments
      if !settings.isSafe && !arguments.allowsApply then
        .error ["apply mode requires --allow-apply"]
      else .ok settings

/-- The outcomes take their times one after another. -/
def totalTime (elapsed : Nat → Nat) (passage : Passage) : Nat :=
  (List.range passage.outcomes.length).foldl (fun total index => total + elapsed index) 0

/-- The outcomes and the report as one JSON text. -/
def jsonOutput (elapsed : Nat → Nat) (passage : Passage) (report : Report) : String :=
  (Json.normal (.object
    [("results", .list (passage.outcomes.mapIdx fun index outcome =>
        outcome.toJson (elapsed index))),
      ("report", report.toJson (totalTime elapsed passage))])).pretty ++ "\n"

def stopText : Stop → String
  | .diverged index => "stopped at divergence in step " ++ toString index ++ "\n"
  | _ => ""

def textOutput (elapsed : Nat → Nat) (passage : Passage) (report : Report) : String :=
  String.join (passage.outcomes.map Outcome.text) ++ stopText passage.stop ++
    report.text (totalTime elapsed passage)

/-- What has been replayed is told before a fault. -/
def perform (now : Instant) (elapsed : Nat → Nat) (journal : Journal) (settings : Settings)
    (asJson : Bool) : Answer :=
  let (passage, player) := (Player.start now journal settings).playToEnd
  let report := Report.of player.state passage.outcomes
  let output :=
    if asJson then jsonOutput elapsed passage report else textOutput elapsed passage report
  match passage.fault? with
  | some fault => ⟨1, output, [fault.message]⟩
  | none => success output

def validText (journal : Journal) : String :=
  "ok " ++ journal.id ++ " (" ++ toString journal.length ++ " steps, format " ++
    journal.edition.text ++ ")\n"

/-- The journal is loaded before the settings are made. The times that the outcomes take are told by
their positions. -/
def run (now : Instant) (elapsed : Nat → Nat) (files : Files) : Command → Answer
  | .version => success "reel 0.1.0\n"
  | .help => success ""
  | .inspect path =>
      match loadJournal now files path with
      | .error faults => failure faults
      | .ok journal => success journal.overviewText
  | .validate path =>
      match loadJournal now files path with
      | .error faults => failure faults
      | .ok journal => success (validText journal)
  | .replay arguments =>
      match loadJournal now files arguments.journal with
      | .error faults => failure faults
      | .ok journal =>
          match settings files arguments with
          | .error faults => failure faults
          | .ok settings => perform now elapsed journal settings arguments.asJson

/-- The answer to the arguments of the command line. Unless it is told otherwise, no time passes. -/
def answer (now : Instant) (files : Files) (arguments : List String)
    (elapsed : Nat → Nat := fun _ => 0) : Answer :=
  match Arguments.read? arguments with
  | some command => command.run now elapsed files
  | none => misuse

/-- The files that a command reads. -/
def paths : Command → List String
  | .version | .help => []
  | .inspect journal | .validate journal => [journal]
  | .replay arguments => arguments.journal :: arguments.options.toList

end Command

end Playback
