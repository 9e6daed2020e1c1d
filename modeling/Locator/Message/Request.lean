import Locator.Text.Quoted
import Locator.Wire.Message

namespace Locator

open Wire

structure Request where
  serviceName : String := ""
  scope : String := ""
  maxCount : Int32 := 0
  deriving DecidableEq, Inhabited

namespace Request

inductive Field where
  | serviceName (s : String)
  | scope (s : String)
  | maxCount (n : Int32)
  deriving DecidableEq

def put (r : Request) : Field → Request
  | .serviceName s => { r with serviceName := s }
  | .scope s => { r with scope := s }
  | .maxCount n => { r with maxCount := n }

def layout : Layout Field where
  message := "DiscoverServicesRequest"
  field?
    | 1 => some ("service_name", textReader .serviceName)
    | 2 => some ("scope", textReader .scope)
    | 3 => some ("max_count", int32Reader .maxCount)
    | _ => none

/-- The fields that differ from the default. -/
def fields (r : Request) : List Field :=
  (if r.serviceName = "" then [] else [.serviceName r.serviceName]) ++
  (if r.scope = "" then [] else [.scope r.scope]) ++
  (if r.maxCount = 0 then [] else [.maxCount r.maxCount])

def Field.encode : Field → Bytes
  | serviceName s => encodeText 1 s
  | scope s => encodeText 2 s
  | maxCount n => encodeInt32 3 n

def Field.size : Field → Nat
  | serviceName s => textSize 1 s
  | scope s => textSize 2 s
  | maxCount n => int32Size 3 n

def describe (r : Request) : String :=
  Text.record "DiscoverServicesRequest"
    [("service_name", Text.quote r.serviceName), ("scope", Text.quote r.scope),
      ("max_count", toString r.maxCount)]

instance : Message Request where
  Content := Field
  layout := layout
  contents := fields
  replay := List.foldl put
  encodeContent := Field.encode
  contentSize := Field.size

end Request
end Locator
