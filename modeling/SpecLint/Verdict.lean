import SpecLint.Fault

namespace SpecLint

structure Diagnostic where
  code : Text
  message : Text
  location : Text
deriving DecidableEq

-- Where a diagnostic stands that concerns a document as a whole.
def specLocation : Text := "spec".toList

-- What is known about a document. It is judged only when all checks have been recorded.
structure Verdict where
  valid : Bool
  errors : List Diagnostic
  warnings : List Diagnostic
deriving DecidableEq

def Fault.diagnostic (fault : Fault) (location : Text) : Diagnostic := ⟨fault.code,fault.message,location⟩

namespace Verdict

def start : Verdict := ⟨true,[],[]⟩

def error (verdict : Verdict) (fault : Fault) (location : Text) : Verdict :=
  { verdict with errors := verdict.errors ++ [fault.diagnostic location] }

def warning (verdict : Verdict) (fault : Fault) (location : Text) : Verdict :=
  { verdict with warnings := verdict.warnings ++ [fault.diagnostic location] }

-- Warnings never make a document invalid.
def judge (verdict : Verdict) : Verdict := { verdict with valid := verdict.errors.isEmpty }

end Verdict
end SpecLint
