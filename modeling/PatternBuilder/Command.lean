import PatternBuilder.Preset
import PatternBuilder.Regex.Matching
import PatternBuilder.Text.Basic

/-!
# The command

The command takes the name of a ready-made pattern and an input, prints the pattern, and says
whether the input matches. The input is the second argument or else standard input, which must be
UTF-8; blanks at its end do not count. A report holds what each run puts out: the lines printed, the
notices for whoever has logging on, and the failure if there is one. It comes in two parts, since
the pattern is printed before the input is read.

The same run is also a list of effects, one after another: it logs an entry, prints a line, or
fails. The builder has entries of its own, which a report has no place for.
-/
namespace PatternBuilder

def Message.origin : Message → Text
  | .rejected _ => "[DEBUG fluent_regex::error] ".toList
  | _ => "[TRACE fluent_regex::pattern] ".toList

namespace Command

inductive Failure
  | noPreset
  | unknownPreset (name : Text)
  | inputNotText
  | patternRefused
  | noMatch
  deriving DecidableEq

def knownNames : Text :=
  ", expected one of: ".toList ++ (", ".toList).intercalate (Preset.all.map Preset.name)

def Failure.message : Failure → Text
  | .noPreset => "No preset provided".toList ++ knownNames
  | .unknownPreset name => "Unknown preset ".toList ++ Text.quoted name ++ knownNames
  | .inputNotText => "stream did not contain valid UTF-8".toList
  | .patternRefused => "Generated pattern was rejected by the regex engine".toList
  | .noMatch => "Pattern does not match.".toList

inductive Notice
  | named (name : Text)
  | built (source : Text)
  | received (input : Text)
  | decided (matched : Bool)
  deriving DecidableEq

def Notice.body : Notice → Text
  | .named name => "Preset name: ".toList ++ Text.quoted name
  | .built source => "Built pattern: ".toList ++ source
  | .received input => "Input: ".toList ++ Text.quoted input
  | .decided matched =>
    "Match result: ".toList ++ if matched then "true".toList else "false".toList

def Notice.line (notice : Notice) : Text := "[DEBUG fluent_regex] ".toList ++ notice.body

structure Report where
  notices : List Notice := []
  printed : List Text := []
  failure : Option Failure := none
  deriving DecidableEq

namespace Report

def followedBy (first second : Report) : Report :=
  { notices := first.notices ++ second.notices
    printed := first.printed ++ second.printed
    failure := first.failure <|> second.failure }

def lines (texts : List Text) : Text := texts.flatMap (· ++ ['\n'])

def code (report : Report) : Nat := if report.failure.isSome then 1 else 0

def stdout (report : Report) : Text := lines report.printed

def stderr (report : Report) (logging : Bool) : Text :=
  lines (if logging then report.notices.map Notice.line else []) ++
    lines (report.failure.toList.map Failure.message)

end Report

/-- The work left once the pattern is printed. Without a given input, standard input is read. -/
structure Job where
  pattern : Pattern
  given : Option Text

def start : List Text → Report × Option Job
  | [] => ({ failure := some .noPreset }, none)
  | name :: arguments =>
    match Preset.ofName? name with
    | none => ({ notices := [.named name], failure := some (.unknownPreset name) }, none)
    | some preset =>
      let pattern := preset.pattern
      ({ notices := [.named name, .built pattern.source], printed := [pattern.source] },
        some { pattern, given := arguments.head? })

namespace Job

def input? (job : Job) (stdin : ByteArray) : Option Text :=
  match job.given with
  | some text => some text
  | none => (String.fromUTF8? stdin).map String.toList

def judge (job : Job) (input : Text) : Report :=
  let input := Text.trimEnd input
  match Regex.compile? job.pattern.source with
  | none => { notices := [.received input], failure := some .patternRefused }
  | some matcher =>
    if matcher.search input then
      { notices := [.received input, .decided true], printed := ["Pattern matches!".toList] }
    else { notices := [.received input, .decided false], failure := some .noMatch }

def finish (job : Job) (stdin : ByteArray) : Report :=
  match job.input? stdin with
  | none => { failure := some .inputNotText }
  | some input => job.judge input

end Job

def run (arguments : List Text) (stdin : ByteArray) : Report :=
  let (report, job) := start arguments
  match job with
  | none => report
  | some job => report.followedBy (job.finish stdin)

inductive Entry
  | builder (message : Message)
  | command (notice : Notice)

def Entry.line : Entry → Text
  | .builder message => message.origin ++ message.body
  | .command notice => notice.line

inductive Effect
  | log (entry : Entry)
  | print (line : Text)
  | fail (failure : Failure)

def Job.effects (job : Job) (stdin : ByteArray) : List Effect :=
  match job.input? stdin with
  | none => [.fail .inputNotText]
  | some input =>
    .log (.command (.received (Text.trimEnd input))) ::
      match Regex.compile? job.pattern.source with
      | none => [.fail .patternRefused]
      | some matcher =>
        .log (.command (.decided (matcher.search (Text.trimEnd input)))) ::
          if matcher.search (Text.trimEnd input) then [.print "Pattern matches!".toList]
          else [.fail .noMatch]

/-- The effects of a run in their order. What the builder logs comes before the pattern is there. -/
def effects : List Text → ByteArray → List Effect
  | [], _ => [.fail .noPreset]
  | name :: arguments, stdin =>
    .log (.command (.named name)) ::
      match Preset.ofName? name with
      | none => [.fail (.unknownPreset name)]
      | some preset =>
        preset.outcome.log.map (fun message => .log (.builder message)) ++
          .log (.command (.built preset.pattern.source)) :: .print preset.pattern.source ::
            Job.effects { pattern := preset.pattern, given := arguments.head? } stdin

structure Output where
  code : Nat := 0
  stdout : Text := []
  stderr : Text := []

def Output.after (logging : Bool) (output : Output) : Effect → Output
  | .log entry =>
    if logging then { output with stderr := output.stderr ++ (entry.line ++ ['\n']) } else output
  | .print line => { output with stdout := output.stdout ++ (line ++ ['\n']) }
  | .fail failure =>
    { output with code := 1, stderr := output.stderr ++ (failure.message ++ ['\n']) }

def Output.afterAll (logging : Bool) (output : Output) (effects : List Effect) : Output :=
  effects.foldl (after logging) output

def Report.output (report : Report) (logging : Bool) : Output :=
  { code := report.code, stdout := report.stdout, stderr := report.stderr logging }

end Command
end PatternBuilder
