import Locator.Text.Quoted
import Locator.Wire.Message

namespace Locator

open Wire

structure Entry where
  scope : String := ""
  serviceName : String := ""
  hostName : String := ""
  port : Int32 := 0
  deriving DecidableEq, Inhabited

namespace Entry

inductive Field where
  | scope (s : String)
  | serviceName (s : String)
  | hostName (s : String)
  | port (n : Int32)
  deriving DecidableEq

/-- A field takes the place of an earlier one of its kind. -/
def put (e : Entry) : Field → Entry
  | .scope s => { e with scope := s }
  | .serviceName s => { e with serviceName := s }
  | .hostName s => { e with hostName := s }
  | .port n => { e with port := n }

def ofFields (fields : List Field) : Entry :=
  fields.foldl put default

def layout : Layout Field where
  message := "ServiceLocationMsg"
  field?
    | 1 => some ("scope", textReader .scope)
    | 2 => some ("service_name", textReader .serviceName)
    | 3 => some ("host_name", textReader .hostName)
    | 4 => some ("port", int32Reader .port)
    | _ => none

def fields (e : Entry) : List Field :=
  (if e.scope = "" then [] else [.scope e.scope]) ++
  (if e.serviceName = "" then [] else [.serviceName e.serviceName]) ++
  (if e.hostName = "" then [] else [.hostName e.hostName]) ++
  (if e.port = 0 then [] else [.port e.port])

def Field.encode : Field → Bytes
  | scope s => encodeText 1 s
  | serviceName s => encodeText 2 s
  | hostName s => encodeText 3 s
  | port n => encodeInt32 4 n

def Field.size : Field → Nat
  | scope s => textSize 1 s
  | serviceName s => textSize 2 s
  | hostName s => textSize 3 s
  | port n => int32Size 4 n

def describe (e : Entry) : String :=
  Text.record "ServiceLocationMsg"
    [("scope", Text.quote e.scope), ("service_name", Text.quote e.serviceName),
      ("host_name", Text.quote e.hostName), ("port", toString e.port)]

instance : Message Entry where
  Content := Field
  layout := layout
  contents := fields
  replay := List.foldl put
  encodeContent := Field.encode
  contentSize := Field.size

end Entry

structure Response where
  entries : List Entry := []
  deriving DecidableEq, Inhabited

namespace Response

def layout : Layout Entry where
  message := "DiscoverServicesResponse"
  field?
    | 1 => some ("service_locations", messageReader Entry.layout Entry.ofFields)
    | _ => none

def describe (r : Response) : String :=
  Text.record "DiscoverServicesResponse"
    [("service_locations", Text.list (r.entries.map Entry.describe))]

instance : Message Response where
  Content := Entry
  layout := layout
  contents := entries
  replay r more := ⟨r.entries ++ more⟩
  encodeContent := encodeNested 1
  contentSize := nestedSize 1

end Response
end Locator
