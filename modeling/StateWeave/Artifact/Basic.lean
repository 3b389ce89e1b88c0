import StateWeave.Declaration.Basic
import StateWeave.Diagnostic.Basic
import StateWeave.Timestamp

/-!
# Artifacts

An artifact is an expansion as it is handed over: stamped with a version of the
format, an id and the time of its making. What was written is checked when it is
read back. The version comes first, because nothing else of a foreign version can
be trusted; then the module has to have a name; and an error among the
declarations must not go without an error among the diagnostics.
-/

namespace StateWeave

/-- An expansion as it is stored or sent. -/
structure Artifact where
  version : UInt32
  id : String
  createdAt : Timestamp
  module : String
  declarations : List Declaration
  diagnostics : Diagnostics
  deriving DecidableEq

/-- Why an artifact was not accepted. -/
inductive LoadError where
  /-- The text or the bytes do not hold an artifact; the reason may be known. -/
  | unreadable (reason : Option String)
  | unsupportedVersion (found : UInt32)
  | missingModule (id : String)
  | unreportedErrors (module : String) (count : Nat)
  deriving DecidableEq, Repr

namespace Artifact

def supportedVersion : UInt32 := 1

/-- Whether an error was reported; markers among the declarations do not count. -/
def hasErrors (a : Artifact) : Bool := a.diagnostics.hasErrors

/-- How many declarations are errors, at the top level only. -/
def errorCount (a : Artifact) : Nat := a.declarations.countP Declaration.isError

end Artifact

namespace LoadError

/-- A reason that is not known leaves no message. -/
def message? : LoadError → Option String
  | unreadable reason => reason.map ("Deserialization failed: " ++ ·)
  | unsupportedVersion found =>
    some ("Unsupported artifact version " ++ toString found.toNat ++ ", supported: " ++
      toString Artifact.supportedVersion.toNat)
  | missingModule id =>
    some ("artifact " ++ id ++ " does not name the module it was expanded from")
  | unreportedErrors module count =>
    some ("artifact for '" ++ module ++ "' carries " ++ toString count ++
      " error marker(s) but no error diagnostic")

end LoadError

namespace Artifact

/-- Pass an artifact through the checks in their order. -/
def validate (a : Artifact) : Except LoadError Artifact :=
  if a.version ≠ supportedVersion then .error (.unsupportedVersion a.version)
  else if a.module = "" then .error (.missingModule a.id)
  else if 0 < a.errorCount ∧ a.hasErrors = false then
    .error (.unreportedErrors a.module a.errorCount)
  else .ok a

end Artifact

end StateWeave
