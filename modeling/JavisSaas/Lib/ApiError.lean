import Mathlib.Tactic.Common

/-!
# The errors of an API

An error of a web service that speaks in codes, as `APIError` of Encore does.
-/

namespace JavisSaas.Lib

/-- An `APIError`: its code, which some services replace by their own, and its message. -/
structure ApiError where
  code : String
  message : String
  deriving DecidableEq

namespace ApiError

def invalidArgument (message : String) : ApiError := ⟨"invalid_argument", message⟩

def notFound (message : String) : ApiError := ⟨"not_found", message⟩

def alreadyExists (message : String) : ApiError := ⟨"already_exists", message⟩

def failedPrecondition (message : String) : ApiError := ⟨"failed_precondition", message⟩

def permissionDenied (message : String) : ApiError := ⟨"permission_denied", message⟩

def internal (message : String) : ApiError := ⟨"internal", message⟩

/-- `APIError.aborted` under the code `CONCURRENT_MODIFICATION`. -/
def concurrentModification (message : String) : ApiError := ⟨"CONCURRENT_MODIFICATION", message⟩

end ApiError

end JavisSaas.Lib
