import Rethrow.Text.Datum

/-!
What a run tells about its progress: events, and the two ways in which they are written.
-/
set_option autoImplicit false

namespace Rethrow

inductive Level where
  | debug
  | info
  | warning
deriving DecidableEq, Repr, Inhabited

namespace Level

def name : Level → String
  | debug => "debug"
  | info => "info"
  | warning => "warning"

def rank : Level → Nat
  | debug => 0
  | info => 1
  | warning => 2

def ofVerbosity : Nat → Level
  | 0 => warning
  | 1 => info
  | _ => debug

end Level

inductive Event where
  | fileSkipped (path reason : String)
  | fixesApplied (path : String) (count : Nat)
  | unitAnalyzed (path : String) (findings : Nat)
  | configLoaded (path : String)
deriving DecidableEq, Repr

namespace Event

def name : Event → String
  | fileSkipped .. => "file_skipped"
  | fixesApplied .. => "fixes_applied"
  | unitAnalyzed .. => "unit_analyzed"
  | configLoaded _ => "config_loaded"

def level : Event → Level
  | fileSkipped .. => .warning
  | fixesApplied .. => .info
  | unitAnalyzed .. | configLoaded _ => .debug

def origin : Event → String
  | configLoaded _ => "causelint.config"
  | _ => "causelint.orchestrator"

def details : Event → List (String × Datum)
  | fileSkipped path reason => [("path", .text path), ("reason", .text reason)]
  | fixesApplied path count => [("path", .text path), ("count", .number count)]
  | unitAnalyzed path findings => [("path", .text path), ("findings", .number findings)]
  | configLoaded path => [("path", .text path)]

def shownFrom (least : Level) (event : Event) : Bool := decide (least.rank ≤ event.level.rank)

def pad (width : Nat) (text : String) : String :=
  String.ofList (text.toList ++ List.replicate (width - text.length) ' ')

def needsQuotes (text : String) : Bool := text.toList.any (· ∈ [' ', '\t', '=', '\r', '\n', '"', '\''])

def plainValue : Datum → String
  | .text content => if needsQuotes content then quoted content else content
  | value => value.compact

def consoleLine (time : String) (event : Event) : String :=
  let details := (("component", Datum.text event.origin) :: event.details).mergeSort fun a b => !decide (b.1 < a.1)
  let shown := details.map fun (name, value) => name ++ "=" ++ plainValue value
  let level := pad 9 event.level.name
  s!"{time} [{level}] {pad 30 event.name} [{event.origin}] {spaceJoined shown}"

def jsonLine (time : String) (event : Event) : String :=
  (Datum.record (("component", .text event.origin) :: event.details ++
    [("event", .text event.name), ("logger", .text event.origin), ("level", .text event.level.name),
      ("timestamp", .text time)])).compact

end Event
end Rethrow
