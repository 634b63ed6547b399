import GuildAccess.Settings

/-!
What the log output looks like. Each stage of the program has a preset; settings can change its
level and turn structured output on, but not off.
-/
namespace GuildAccess

/-- How much is logged, from least to most. -/
inductive LogLevel
  | error
  | warn
  | info
  | debug
  | trace
deriving DecidableEq

namespace LogLevel

/-- Every level, numbered from 1. -/
def all : List LogLevel := [.error, .warn, .info, .debug, .trace]

def name : LogLevel → String
  | .error => "ERROR"
  | .warn => "WARN"
  | .info => "INFO"
  | .debug => "DEBUG"
  | .trace => "TRACE"

/-- The level of a name in any case or of a number. -/
def parse? (s : String) : Option LogLevel :=
  match Text.unsigned? s.toList with
  | some 0 => none
  | some (n + 1) => all[n]?
  | none => all.find? fun level => level.name = s.map Char.toUpper

end LogLevel

/-- The form of the log output. -/
structure LogOutput where
  level : LogLevel
  json : Bool
  spanEvents : Bool
  fileLine : Bool
  target : Bool
deriving DecidableEq

namespace LogOutput

def standard : LogOutput := ⟨.info, false, false, true, true⟩

/-- Output for development: more, and for the eye. -/
def development : LogOutput := ⟨.debug, false, true, true, true⟩

/-- Output for production: less, and structured. -/
def production : LogOutput := ⟨.info, true, false, false, true⟩

/-- Output for settings. A level that is none leaves that of the preset. -/
def ofSettings (s : TelemetrySettings) (stage : Stage) : LogOutput :=
  let preset := if stage = .production then production else development
  { preset with
    level := (LogLevel.parse? s.level).getD preset.level, json := s.json || preset.json }

end LogOutput

/-- Why log output cannot be set up. -/
inductive LogFault
  | alreadySetUp
deriving DecidableEq

def LogFault.message : LogFault → String
  | .alreadySetUp => "Tracing subscriber already initialized"

/-- Sets log output up, which is done once. -/
def LogOutput.setUp (current : Option LogOutput) (wanted : LogOutput) :
    Except LogFault LogOutput :=
  match current with
  | none => .ok wanted
  | some _ => .error .alreadySetUp

end GuildAccess
