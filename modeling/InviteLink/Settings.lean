import InviteLink.Text.Integer
import InviteLink.Text.Lowercase

set_option autoImplicit false

/-! # Settings

The settings of the service, read from environment variables. The case of a variable's name does
not matter; of several variables that differ in case only, the last counts. Variables of other
names are none of the service's business. -/

namespace InviteLink

/-- What the service can be told. -/
structure Settings where
  projectName : Text := "Share Link Codec".points
  logLevel : Text := "INFO".points
  apiRoot : Text := "/api/v1".points
  maxLinkLength : Int := 4096
  deriving DecidableEq

namespace Settings

/-- The names of the variables. -/
inductive Variable
  | projectName
  | logLevel
  | apiRoot
  | maxLinkLength
  deriving DecidableEq

/-- How a variable is spelled. -/
def Variable.name : Variable → String
  | .projectName => "PROJECT_NAME"
  | .logLevel => "LOG_LEVEL"
  | .apiRoot => "API_PREFIX"
  | .maxLinkLength => "MAX_LINK_LENGTH"

/-- A variable whose value spells no integer. -/
structure Fault where
  variableName : Variable
  cause : IntegerFault
  deriving DecidableEq

/-- The name of the fault in reports. -/
def Fault.type (f : Fault) : String :=
  match f.cause with
  | .notNumeral => "int_parsing"
  | .tooLong => "int_parsing_size"

/-- The fault in words. -/
def Fault.message (f : Fault) : String :=
  match f.cause with
  | .notNumeral => "Input should be a valid integer, unable to parse string as an integer"
  | .tooLong => "Unable to parse input string as an integer, exceeded maximum size"

/-- The value of a variable in an environment. -/
def valueOf? (environment : List (Text × Text)) (v : Variable) : Option Text :=
  (environment.reverse.find? fun entry => lower entry.1 == lower v.name.points).map Prod.snd

/-- The settings that an environment gives; a variable that is not set leaves the default. -/
def ofEnvironment (environment : List (Text × Text)) : Except Fault Settings :=
  let defaults : Settings := {}
  let given (v : Variable) (default : Text) := (valueOf? environment v).getD default
  let settings : Settings := {
    projectName := given .projectName defaults.projectName
    logLevel := given .logLevel defaults.logLevel
    apiRoot := given .apiRoot defaults.apiRoot }
  match valueOf? environment .maxLinkLength with
  | none => .ok settings
  | some t =>
    match readInteger t with
    | .error cause => .error ⟨.maxLinkLength, cause⟩
    | .ok n => .ok { settings with maxLinkLength := n }

end Settings

end InviteLink
