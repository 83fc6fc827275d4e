import InlineAudit.Log.Event

/-!
A logger lets events of its level and above through and writes each in its style.
-/

namespace InlineAudit.Log

inductive Style where
  | json
  | console (colours : Bool)
  deriving DecidableEq, Repr, Inhabited

structure Logger where
  level : Level
  style : Style
  /-- The clock, if lines carry the time. -/
  time : Option Moment := none
  deriving DecidableEq, Repr, Inhabited

/-- The style that a format stands for on an output. -/
def Format.style (terminal : Bool) : Format → Style
  | .json => .json
  | .console => .console terminal
  | .auto => if terminal then .console true else .json

/-- The logger that settings name; the level is looked at first. -/
def Logger.ofSettings (level format : Text.Raw) (terminal : Bool) (time : Option Moment) :
    Except SettingError Logger := do
  let level ← Level.read level
  let format ← Format.read format
  return { level := level, style := format.style terminal, time := time }

/-- Whether an event is written: a disabled one never is. -/
def Logger.admits (logger : Logger) (event : Event) : Bool :=
  event.level ≠ .disabled && logger.level.number ≤ event.level.number

def Logger.line (logger : Logger) (event : Event) : String :=
  match logger.style with
  | .json => event.jsonLine logger.time
  | .console colours => event.consoleLine colours logger.time

/-- What a logger writes for a list of events. -/
def Logger.write (logger : Logger) (events : List Event) : String :=
  String.join ((events.filter logger.admits).map logger.line)

end InlineAudit.Log
