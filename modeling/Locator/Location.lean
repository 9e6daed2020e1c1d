import Locator.Message.Response
import Locator.Text.Quoted

namespace Locator

structure Location where
  serviceName : String
  hostName : String
  port : UInt16
  scope : String
  deriving DecidableEq

inductive EntryError where
  | emptyServiceName
  | emptyHostName
  | portOutOfRange (port : Int32)
  deriving DecidableEq

namespace EntryError

def message : EntryError → String
  | emptyServiceName => "empty service name"
  | emptyHostName => "empty host name"
  | portOutOfRange port => s!"port {port} is out of range"

def describe : EntryError → String
  | emptyServiceName => "EmptyServiceName"
  | emptyHostName => "EmptyHostName"
  | portOutOfRange port => Text.applied "PortOutOfRange" (toString port)

end EntryError

namespace Location

def port? (n : Int32) : Option UInt16 :=
  if 1 ≤ n.toInt ∧ n.toInt ≤ 65535 then some (UInt16.ofNat n.toInt.toNat) else none

/-- The service name is looked at first, then the host, then the port. -/
def ofEntry (e : Entry) : Except EntryError Location :=
  if e.serviceName = "" then .error .emptyServiceName
  else if e.hostName = "" then .error .emptyHostName
  else
    match port? e.port with
    | none => .error (.portOutOfRange e.port)
    | some port => .ok ⟨e.serviceName, e.hostName, port, e.scope⟩

def authority (l : Location) : String :=
  l.hostName ++ ":" ++ toString l.port

def render (l : Location) : String :=
  l.serviceName ++ "@" ++ l.authority

def describe (l : Location) : String :=
  Text.record "ServiceLocation"
    [("service_name", Text.quote l.serviceName), ("host_name", Text.quote l.hostName),
      ("port", toString l.port), ("scope", Text.quote l.scope)]

/-- Entries are counted from `index`; `before` holds the locations of those passed, last first. -/
def readEntries (index : Nat) (before : List Location) :
    List Entry → Except (Nat × EntryError) (List Location)
  | [] => .ok before.reverse
  | e :: entries =>
    match ofEntry e with
    | .ok l => readEntries (index + 1) (l :: before) entries
    | .error error => .error (index, error)

def ofResponse (r : Response) : Except (Nat × EntryError) (List Location) :=
  readEntries 0 [] r.entries

end Location

structure Locations where
  remaining : List Location
  deriving DecidableEq

namespace Locations

inductive Question where
  | next
  | nth (n : Nat)
  | last
  | count
  | len
  | sizeHint
  | rest

inductive Answer where
  | location (l : Option Location)
  | number (n : Nat)
  | bounds (low high : Nat)
  | all (ls : List Location)

/-- The last, the count and the rest take all of the locations. -/
def ask (ls : Locations) : Question → Answer × Locations
  | .next => (.location ls.remaining.head?, ⟨ls.remaining.tail⟩)
  | .nth n => (.location ls.remaining[n]?, ⟨ls.remaining.drop (n + 1)⟩)
  | .last => (.location ls.remaining.getLast?, ⟨[]⟩)
  | .count => (.number ls.remaining.length, ⟨[]⟩)
  | .len => (.number ls.remaining.length, ls)
  | .sizeHint => (.bounds ls.remaining.length ls.remaining.length, ls)
  | .rest => (.all ls.remaining, ⟨[]⟩)

def askAll (ls : Locations) : List Question → List Answer
  | [] => []
  | q :: questions =>
    let (answer, left) := ls.ask q
    answer :: left.askAll questions

end Locations
end Locator
