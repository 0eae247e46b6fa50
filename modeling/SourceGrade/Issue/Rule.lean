import SourceGrade.Text.Basic
/-!
# Rules

The names of the rules by which issues are found.
-/

namespace SourceGrade.Rule

def division : Text := "unchecked-division"
def index : Text := "unchecked-index"
def dereference : Text := "unguarded-dereference"
def riskyCall : Text := "unhandled-risky-call"
def input : Text := "unvalidated-input"
def resource : Text := "resource-leak"
def nesting : Text := "deep-nesting"
def deadCode : Text := "dead-code"
def longFunction : Text := "long-function"
def parameters : Text := "long-parameter-list"
def complexFunction : Text := "complex-function"
def magicNumber : Text := "magic-number"
def debugOutput : Text := "debug-output"
def todo : Text := "todo-comment"
def shortName : Text := "short-name"
def mixedNaming : Text := "mixed-naming"
def emptyCatch : Text := "empty-catch"
def missingDocs : Text := "missing-docs"
def duplicate : Text := "duplicate-block"

end SourceGrade.Rule
