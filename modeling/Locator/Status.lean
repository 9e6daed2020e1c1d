import Locator.Text.Quoted

namespace Locator

inductive Code where
  | ok
  | cancelled
  | unknown
  | invalidArgument
  | deadlineExceeded
  | notFound
  | alreadyExists
  | permissionDenied
  | resourceExhausted
  | failedPrecondition
  | aborted
  | outOfRange
  | unimplemented
  | internal
  | unavailable
  | dataLoss
  | unauthenticated
  deriving DecidableEq

namespace Code

/-- A number of no kind is unknown. -/
def ofInt : Int → Code
  | 0 => ok
  | 1 => cancelled
  | 3 => invalidArgument
  | 4 => deadlineExceeded
  | 5 => notFound
  | 6 => alreadyExists
  | 7 => permissionDenied
  | 8 => resourceExhausted
  | 9 => failedPrecondition
  | 10 => aborted
  | 11 => outOfRange
  | 12 => unimplemented
  | 13 => internal
  | 14 => unavailable
  | 15 => dataLoss
  | 16 => unauthenticated
  | _ => unknown

def number : Code → Nat
  | ok => 0
  | cancelled => 1
  | unknown => 2
  | invalidArgument => 3
  | deadlineExceeded => 4
  | notFound => 5
  | alreadyExists => 6
  | permissionDenied => 7
  | resourceExhausted => 8
  | failedPrecondition => 9
  | aborted => 10
  | outOfRange => 11
  | unimplemented => 12
  | internal => 13
  | unavailable => 14
  | dataLoss => 15
  | unauthenticated => 16

@[simp]
theorem ofInt_number (c : Code) : ofInt c.number = c := by
  cases c <;> rfl

def name : Code → String
  | ok => "Ok"
  | cancelled => "Cancelled"
  | unknown => "Unknown"
  | invalidArgument => "InvalidArgument"
  | deadlineExceeded => "DeadlineExceeded"
  | notFound => "NotFound"
  | alreadyExists => "AlreadyExists"
  | permissionDenied => "PermissionDenied"
  | resourceExhausted => "ResourceExhausted"
  | failedPrecondition => "FailedPrecondition"
  | aborted => "Aborted"
  | outOfRange => "OutOfRange"
  | unimplemented => "Unimplemented"
  | internal => "Internal"
  | unavailable => "Unavailable"
  | dataLoss => "DataLoss"
  | unauthenticated => "Unauthenticated"

def description : Code → String
  | ok => "The operation completed successfully"
  | cancelled => "The operation was cancelled"
  | unknown => "Unknown error"
  | invalidArgument => "Client specified an invalid argument"
  | deadlineExceeded => "Deadline expired before operation could complete"
  | notFound => "Some requested entity was not found"
  | alreadyExists => "Some entity that we attempted to create already exists"
  | permissionDenied =>
    "The caller does not have permission to execute the specified operation"
  | resourceExhausted => "Some resource has been exhausted"
  | failedPrecondition =>
    "The system is not in a state required for the operation's execution"
  | aborted => "The operation was aborted"
  | outOfRange => "Operation was attempted past the valid range"
  | unimplemented => "Operation is not implemented or not supported"
  | internal => "Internal error"
  | unavailable => "The service is currently unavailable"
  | dataLoss => "Unrecoverable data loss or corruption"
  | unauthenticated => "The request does not have valid authentication credentials"

end Code

structure Status where
  code : Code
  message : String
  deriving DecidableEq

def Status.render (s : Status) : String :=
  "code: '" ++ s.code.description ++ "'" ++
    if s.message = "" then "" else ", message: " ++ Text.quote s.message

end Locator
