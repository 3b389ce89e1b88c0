import StateWeave.Diagnostic.Problem
import StateWeave.Location

/-!
# Diagnostics

A diagnostic is a problem at a place, together with notes that point elsewhere
and perhaps a suggested edit. Diagnostics are kept as lists in the order in which
they were reported; a report never removes or changes an earlier one.
-/

namespace StateWeave

/-- Errors stop a build and warnings do not. -/
inductive Severity where
  | error
  | warning
  deriving DecidableEq, Inhabited, Repr

/-- A remark at another place, or an edit suggested for a place. -/
structure Remark where
  message : String
  location : Location
  deriving DecidableEq, Inhabited, Repr

/-- A problem reported at a place. -/
structure Diagnostic where
  severity : Severity
  kind : ProblemKind
  message : String
  location : Location
  notes : List Remark := []
  fixIt : Option Remark := none
  deriving DecidableEq, Inhabited, Repr

namespace Diagnostic

/-- The severity follows from the problem's category. -/
def ofProblem (problem : Problem) (location : Location) : Diagnostic where
  severity := if problem.isFatal then .error else .warning
  kind := problem.kind
  message := problem.message
  location := location

def withNote (d : Diagnostic) (message : String) (location : Location) : Diagnostic :=
  { d with notes := d.notes ++ [⟨message, location⟩] }

def withFixIt (d : Diagnostic) (message : String) (location : Location) : Diagnostic :=
  { d with fixIt := some ⟨message, location⟩ }

def isError (d : Diagnostic) : Bool := d.severity = .error

@[simp] theorem isError_ofProblem (problem : Problem) (location : Location) :
    (ofProblem problem location).isError = problem.isFatal := by
  cases h : problem.isFatal <;> simp [isError, ofProblem, h]

@[simp] theorem location_ofProblem (problem : Problem) (location : Location) :
    (ofProblem problem location).location = location := rfl

@[simp] theorem isError_withNote (d : Diagnostic) (message : String) (location : Location) :
    (d.withNote message location).isError = d.isError := rfl

@[simp] theorem isError_withFixIt (d : Diagnostic) (message : String) (location : Location) :
    (d.withFixIt message location).isError = d.isError := rfl

def severityText : Severity → String
  | .error => "error"
  | .warning => "warning"

/-- A remark on a line of its own, under the report that it belongs to. -/
def remarkText (label : String) (remark : Remark) : String :=
  "\n" ++ remark.location.text ++ ": " ++ label ++ ": " ++ remark.message

/-- One line for the problem, one for each note, and one for the suggested edit. -/
def text (d : Diagnostic) : String :=
  d.location.text ++ ": " ++ severityText d.severity ++ ": " ++ d.message ++
    String.join (d.notes.map (remarkText "note")) ++
    (match d.fixIt with
      | some edit => remarkText "fix-it" edit
      | none => "")

end Diagnostic

/-- Diagnostics in the order in which they were reported. -/
abbrev Diagnostics := List Diagnostic

namespace Diagnostics

def report (ds : Diagnostics) (problem : Problem) (location : Location) : Diagnostics :=
  ds ++ [Diagnostic.ofProblem problem location]

/-- Whether anything stops the build. -/
def hasErrors (ds : Diagnostics) : Bool := ds.any Diagnostic.isError

def errorCount (ds : Diagnostics) : Nat := ds.countP Diagnostic.isError

def warningCount (ds : Diagnostics) : Nat := ds.countP fun d => d.severity = .warning

end Diagnostics

end StateWeave
