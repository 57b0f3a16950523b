import Playback.Mode
import Playback.Text.Word

namespace Playback

/-- What shapes a replay. What is given here comes before the options file. -/
structure ReplayArguments where
  journal : String
  mode : Option Mode
  first : Option UInt64
  last : Option UInt64
  skips : List UInt64
  stopsAtDivergence : Bool
  options : Option String
  allowsApply : Bool
  asJson : Bool
deriving DecidableEq

inductive Command where
  | version
  | help
  | inspect (journal : String)
  | replay (arguments : ReplayArguments)
  | validate (journal : String)
deriving DecidableEq

namespace Arguments

inductive Name where
  | session
  | mode
  | first
  | last
  | skip
  | stop
  | options
  | allowApply
  | json
  | verbose
  | logJson
  | help
  | version
deriving DecidableEq

/-- Some names are followed by a value. -/
def Name.takesValue : Name → Bool
  | .session | .mode | .first | .last | .skip | .options => true
  | _ => false

/-- Only skips and verbosity may be given more than once. -/
def Name.repeats : Name → Bool
  | .skip | .verbose => true
  | _ => false

/-- The place of an argument fixes which names are known. -/
inductive Place where
  | top
  | inspect
  | replay
  | validate
deriving DecidableEq

def longNames : List (String × Name) :=
  [("session", .session), ("mode", .mode), ("from", .first), ("to", .last), ("skip", .skip),
    ("stop-on-divergence", .stop), ("options", .options), ("allow-apply", .allowApply),
    ("json", .json), ("verbose", .verbose), ("log-json", .logJson), ("help", .help),
    ("version", .version)]

def shortNames : List (Char × Name) :=
  [('s', .session), ('m', .mode), ('v', .verbose), ('h', .help), ('V', .version)]

def Place.knows (place : Place) : Name → Bool
  | .verbose | .logJson | .help => true
  | .version => place = .top
  | .session => place ≠ .top
  | _ => place = .replay

def long? (place : Place) (name : String) : Option Name :=
  (longNames.lookup name).filter place.knows

def short? (place : Place) (letter : Char) : Option Name :=
  (shortNames.lookup letter).filter place.knows

/-- The settings that have been given so far, each with its value. -/
abbrev Given := List (Name × String)

def modeOf? (text : String) : Option Mode :=
  [("read-only", Mode.readOnly), ("simulate", .simulate), ("apply", .apply)].lookup text

/-- Paths must not be empty, and positions must be numbers. -/
def isValue (name : Name) (value : String) : Bool :=
  match name with
  | .session | .options => !value.isEmpty
  | .mode => (modeOf? value).isSome
  | .first | .last | .skip => (Text.word? value.toList).isSome
  | _ => true

/-- A setting is noted unless its value is bad or it may not come again. -/
def note? (given : Given) (name : Name) (value : String) : Option Given :=
  if isValue name value && (name.repeats || !given.any fun entry => entry.1 == name) then
    some (given ++ [(name, value)])
  else none

/-- A value does not look like a name, unless it is a lone hyphen. -/
def isFreeValue (value : String) : Bool := !value.startsWith "-" || value == "-"

inductive Progress where
  | misuse
  | shown (command : Command)
  | noted (given : Given) (rest : List String)

/-- The value is attached, or it is the next argument. -/
def takeValue (given : Given) (name : Name) (attached : Option String) (rest : List String) :
    Progress :=
  match attached, rest with
  | some value, _ =>
      match note? given name value with
      | some given => .noted given rest
      | none => .misuse
  | none, value :: rest =>
      if isFreeValue value then
        match note? given name value with
        | some given => .noted given rest
        | none => .misuse
      else .misuse
  | none, [] => .misuse

/-- A name without a value. Help and version end the reading. -/
def takeFlag (given : Given) (name : Name) (rest : List String) : Progress :=
  match name with
  | .help => .shown .help
  | .version => .shown .version
  | _ =>
      match note? given name "" with
      | some given => .noted given rest
      | none => .misuse

/-- The text before the first equality sign and the text after it. -/
def splitValue (text : String) : String × Option String :=
  let letters := text.toList
  let name := letters.takeWhile fun letter => letter != '='
  (String.ofList name,
    if name.length < letters.length then some (String.ofList (letters.drop (name.length + 1)))
    else none)

def takeLong (place : Place) (given : Given) (text : String) (rest : List String) : Progress :=
  let (name, attached) := splitValue text
  match long? place name with
  | none => .misuse
  | some name =>
      if name.takesValue then takeValue given name attached rest
      else if attached.isSome then .misuse
      else takeFlag given name rest

/-- Several short names may stand in one argument, and the last one may have its value there. -/
def takeShort (place : Place) (rest : List String) : Given → List Char → Progress
  | given, [] => .noted given rest
  | given, letter :: letters =>
      match short? place letter with
      | none => .misuse
      | some name =>
          if name.takesValue then
            let attached :=
              match letters with
              | [] => none
              | '=' :: value => some (String.ofList value)
              | value => some (String.ofList value)
            takeValue given name attached rest
          else
            match takeFlag given name rest with
            | .noted given _ => takeShort place rest given letters
            | other => other

/-- One argument that starts with a hyphen. -/
def takeNamed (place : Place) (given : Given) (argument : String) (rest : List String) :
    Progress :=
  match argument.toList with
  | '-' :: '-' :: name => takeLong place given (String.ofList name) rest
  | '-' :: letters => takeShort place rest given letters
  | _ => .misuse

def isNamed (argument : String) : Bool := argument.startsWith "-" && argument != "-"

theorem takeValue_rest {given taken : Given} {name : Name} {attached : Option String}
    {rest after : List String} (noted : takeValue given name attached rest = .noted taken after) :
    after.length ≤ rest.length := by
  unfold takeValue at noted
  split at noted
  · split at noted <;> cases noted
    exact Nat.le_refl _
  · split at noted
    · split at noted <;> cases noted
      simp only [List.length_cons]
      omega
    · cases noted
  · cases noted

theorem takeFlag_rest {given taken : Given} {name : Name} {rest after : List String}
    (noted : takeFlag given name rest = .noted taken after) : after = rest := by
  unfold takeFlag at noted
  split at noted
  · cases noted
  · cases noted
  · split at noted <;> cases noted
    rfl

theorem takeShort_rest {place : Place} {rest after : List String} {given taken : Given}
    {letters : List Char} (noted : takeShort place rest given letters = .noted taken after) :
    after.length ≤ rest.length := by
  induction letters generalizing given with
  | nil => cases noted; exact Nat.le_refl _
  | cons letter letters inductionHypothesis =>
      unfold takeShort at noted
      split at noted
      · cases noted
      · split at noted
        · exact takeValue_rest noted
        · split at noted
          · exact inductionHypothesis noted
          · rename_i other
            exact absurd noted (other _ _)

theorem takeNamed_rest {place : Place} {given taken : Given} {argument : String}
    {rest after : List String} (noted : takeNamed place given argument rest = .noted taken after) :
    after.length ≤ rest.length := by
  unfold takeNamed at noted
  split at noted
  · unfold takeLong at noted
    simp only at noted
    split at noted
    · cases noted
    · split at noted
      · exact takeValue_rest noted
      · split at noted
        · cases noted
        · exact Nat.le_of_eq (congrArg List.length (takeFlag_rest noted))
  · exact takeShort_rest noted
  · cases noted

inductive Ending where
  | misuse
  | shown (command : Command)
  | settled (given : Given)
  | positional (given : Given) (argument : String) (rest : List String)

/-- Named arguments are taken up to the first other one. Nothing may follow a double hyphen. -/
def takeAll (place : Place) (given : Given) (arguments : List String) : Ending :=
  match arguments with
  | [] => .settled given
  | argument :: rest =>
      if argument = "--" then if rest.isEmpty then .settled given else .misuse
      else if isNamed argument then
        match _noted : takeNamed place given argument rest with
        | .misuse => .misuse
        | .shown command => .shown command
        | .noted given after => takeAll place given after
      else .positional given argument rest
termination_by arguments.length
decreasing_by
  have := takeNamed_rest _noted
  simp only [List.length_cons]
  omega

def value? (given : Given) (name : Name) : Option String := given.lookup name

def has (given : Given) (name : Name) : Bool := (value? given name).isSome

def word? (given : Given) (name : Name) : Option UInt64 :=
  (value? given name).bind fun value => Text.word? value.toList

def words (given : Given) (name : Name) : List UInt64 :=
  given.filterMap fun entry =>
    if entry.1 = name then Text.word? entry.2.toList else none

def replayArguments (given : Given) (journal : String) : ReplayArguments where
  journal := journal
  mode := (value? given .mode).bind modeOf?
  first := word? given .first
  last := word? given .last
  skips := words given .skip
  stopsAtDivergence := has given .stop
  options := value? given .options
  allowsApply := has given .allowApply
  asJson := has given .json

/-- Every command needs the path of a journal. -/
def command? (place : Place) (given : Given) : Option Command :=
  (value? given .session).bind fun journal =>
    match place with
    | .top => none
    | .inspect => some (.inspect journal)
    | .replay => some (.replay (replayArguments given journal))
    | .validate => some (.validate journal)

def place? : String → Option Place
  | "inspect" => some .inspect
  | "replay" => some .replay
  | "validate" => some .validate
  | _ => none

/-- Help may be asked for a command or for help itself. -/
def helpFor? : List String → Option Command
  | [] => some .help
  | [name] => if (place? name).isSome || name == "help" then some .help else none
  | _ => none

/-- The arguments of a command. They are all named. -/
def commandAt? (place : Place) (arguments : List String) : Option Command :=
  match takeAll place [] arguments with
  | .settled given => command? place given
  | .shown command => some command
  | .misuse | .positional _ _ _ => none

/-- There is no command when the arguments are misused. -/
def read? (arguments : List String) : Option Command :=
  match takeAll .top [] arguments with
  | .shown command => some command
  | .misuse | .settled _ => none
  | .positional _ name rest =>
      if name = "help" then helpFor? rest
      else (place? name).bind fun place => commandAt? place rest

end Arguments

end Playback
