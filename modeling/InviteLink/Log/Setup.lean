import InviteLink.Text.Capital

set_option autoImplicit false

/-! # Setting up the log

The level from which on events are kept, found by its name in any case; a name that nobody knows
means the ordinary one. Two names are known but belong to something that is no level, and are
refused. The rest of the set-up is fixed. -/

namespace InviteLink

/-- What else a name can stand for: the format of a line that nobody set up, or the styles in which
    such a format can be written. -/
inductive LevelFault
  | lineFormat
  | formatStyles
  deriving DecidableEq

/-- The fault in words. -/
def LevelFault.message : LevelFault → String
  | .lineFormat => "Unknown level: '%(levelname)s:%(name)s:%(message)s'"
  | .formatStyles => "Level not an integer or a valid string"

/-- The names that are no levels. -/
def reservedNames : List (String × LevelFault) :=
  [("BASIC_FORMAT", .lineFormat), ("_STYLES", .formatStyles)]

/-- The names of the levels and their thresholds. -/
def namedThresholds : List (String × Nat) :=
  [("NOTSET", 0), ("DEBUG", 10), ("INFO", 20), ("WARN", 30), ("WARNING", 30), ("ERROR", 40),
    ("CRITICAL", 50), ("FATAL", 50)]

/-- What a list of names says of a name. -/
def entryOf? {α : Type} (names : List (String × α)) (name : Text) : Option α :=
  (names.find? fun entry => entry.1.points == capitals name).map Prod.snd

/-- The threshold that a name stands for. -/
def thresholdOf (name : Text) : Except LevelFault Nat :=
  match entryOf? reservedNames name with
  | some fault => .error fault
  | none => .ok ((entryOf? namedThresholds name).getD 20)

/-- How the log is set up: the threshold and the number of handlers at the root, the name of the
    service's logger, whether the server's errors reach the root, and whether its log of accesses
    is off. -/
structure LogSetup where
  threshold : Nat
  handlers : Nat
  logger : String
  serverErrorsPropagate : Bool
  accessLogDisabled : Bool
  deriving DecidableEq

/-- The set-up for a level name. -/
def LogSetup.ofLevelName (name : Text) : Except LevelFault LogSetup :=
  (thresholdOf name).map fun threshold => {
    threshold
    handlers := 1
    logger := "sharelink"
    serverErrorsPropagate := true
    accessLogDisabled := true }

end InviteLink
