import Shipshape.Decimal.Integer
import Shipshape.Text.Quoted

/-!
# Errors

Why an invocation fails. The errors fall into three groups: the declared container makes no sense
(`Error.isConfiguration`), the engine refused a call, or the container did not come up.
-/

namespace Shipshape

/-- What an operator needs to know about a container that did not come up. -/
structure FailureReport where
  /-- A summary in one line. -/
  message : String
  name : String
  /-- The status seen last. -/
  status : Option String
  /-- The health seen last. -/
  health : Option String
  /-- The end of the container's log. -/
  logs : String
  startAttempted : Bool
  /-- How the starts went: 0 if each of them succeeded, 1 if one failed. -/
  startCode : Option Int
  /-- What the last failed start said. -/
  startError : String
  start : Bool
  deferStart : Bool
  wait : Bool
  deriving DecidableEq, Repr

/-- Why an invocation fails. -/
inductive Error where
  /-- Resource limits that no engine knows. -/
  | unsupportedDimension (keys : List String)
  /-- A resource limit without a value. -/
  | removedDimension (key : String)
  /-- A size with an unknown unit. -/
  | dimensionUnit (unit : Char) (value : String)
  /-- A resource limit that is no number, or a number that does not fit. -/
  | dimensionValue (key value : String)
  /-- A live list of ulimits that is none. -/
  | unreadableUlimits
  /-- Healthcheck options that do not exist. -/
  | unsupportedHealthcheckOption (keys : List String)
  /-- Healthcheck options that are needed and not given. -/
  | missingHealthcheckOption (keys : List String)
  /-- A healthcheck option that is not of the expected form. -/
  | healthcheckValue (key expected value : String)
  /-- A volume that is not of the form `source:destination[:options]`. -/
  | malformedVolume (entry : String)
  /-- A live mount whose fields are of the wrong type. -/
  | unreadableMount
  /-- An environment entry without an equals sign. -/
  | environmentEntry (entry : String)
  /-- A parameter set that makes no sense. -/
  | invalidParameters (reason : String)
  /-- A parameter of the wrong type. -/
  | unreadableParameters
  /-- A parameter that the action needs. -/
  | missingParameter (action parameter : String)
  /-- An engine call that failed. -/
  | engine (operation explanation : String)
  /-- A volume or image that is still in use. -/
  | inUse (kind name : String)
  | containerNotFound (name : String)
  | imageNotFound (reference : String)
  /-- A configuration check that ended with neither 0 nor 1. -/
  | configCheckFailed (exitCode : Int) (output : String)
  | startFailed (name reason : String)
  /-- A container that was run to its end and failed. -/
  | containerExited (name : String) (exitCode : Int) (stdout stderr : String)
  /-- A container that did not come up in time. -/
  | waitFailed (report : FailureReport)
  /-- The operating system refused a host directory. -/
  | hostPath
  /-- A document that cannot be read. -/
  | unreadableDocument
  deriving DecidableEq, Repr

namespace Error

/-- Whether the declared container itself is at fault. -/
def isConfiguration : Error → Bool
  | unsupportedDimension _ | removedDimension _ | dimensionUnit .. | dimensionValue ..
  | unreadableUlimits | unsupportedHealthcheckOption _ | missingHealthcheckOption _
  | healthcheckValue .. | malformedVolume _ | unreadableMount | environmentEntry _
  | invalidParameters _ | unreadableParameters | missingParameter .. => true
  | engine .. | inUse .. | containerNotFound _ | imageNotFound _ | configCheckFailed ..
  | startFailed .. | containerExited .. | waitFailed _ | hostPath | unreadableDocument => false

/-- The text of an error. An error that reports what a decoder or the operating system said has no wording
of its own. -/
def message? : Error → Option String
  | unsupportedDimension keys => some ("unsupported dimensions: " ++ ", ".intercalate keys)
  | removedDimension key =>
    some ("the dimension [" ++ key ++ "] is no longer supported by the container engine, " ++
      "remove it from the configuration or change it to its replacement")
  | dimensionUnit unit value =>
    some ("the dimension unit [" ++ .singleton unit ++ "] is not supported for the dimension [" ++ value ++
      "], supported units are ['b', 'k', 'm', 'g']")
  | dimensionValue key value => some ("invalid value for dimension [" ++ key ++ "]: " ++ value)
  | unsupportedHealthcheckOption keys =>
    some ("unsupported healthcheck options: " ++ ", ".intercalate keys)
  | missingHealthcheckOption keys =>
    some ("missing healthcheck options: " ++ ", ".intercalate keys)
  | healthcheckValue key expected value =>
    some ("cannot parse healthcheck option '" ++ key ++ "': expected " ++ expected ++ ", got " ++ value)
  | malformedVolume entry => some ("wrong format of volume: " ++ entry)
  | environmentEntry entry =>
    some ("cannot convert " ++ Text.quoted entry ++ " to an environment entry (expected KEY=VALUE)")
  | invalidParameters reason => some ("invalid parameters: " ++ reason)
  | missingParameter action parameter =>
    some ("action '" ++ action ++ "' requires parameter '" ++ parameter ++ "'")
  | engine operation explanation =>
    some ("engine error during " ++ operation ++ ": " ++ explanation)
  | inUse kind name => some (kind ++ " named '" ++ name ++ "' is currently in-use")
  | containerNotFound name => some ("no such container: " ++ name)
  | imageNotFound reference => some ("the requested image does not exist: " ++ reference)
  | configCheckFailed exitCode output =>
    some ("failed to compare container configuration: exit code " ++ Decimal.intText exitCode ++
      ", output: " ++ output)
  | startFailed name reason => some ("failed to start container '" ++ name ++ "': " ++ reason)
  | containerExited name exitCode _ _ =>
    some ("container '" ++ name ++ "' exited with non-zero return code " ++ Decimal.intText exitCode)
  | waitFailed report => some report.message
  | unreadableUlimits | unreadableMount | unreadableParameters | hostPath | unreadableDocument => none

/-- The text of an error that is shown inside another text. -/
def message (e : Error) : String :=
  e.message?.getD ""

end Error

end Shipshape
