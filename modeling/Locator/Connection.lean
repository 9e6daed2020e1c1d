import Locator.Error
import Locator.Credentials
import Locator.Net.Ip
import Locator.Text.Quoted

namespace Locator.Net.Uri

def isSchemeChar (c : Char) : Bool :=
  c.isAlphanum || "+-.~".toList.contains c

def isAuthorityChar (c : Char) : Bool :=
  c.isAlphanum || "-._~!$&'()*+,;=:@[]%".toList.contains c

def isAuthority (text : String) : Bool :=
  text.toList.all isAuthorityChar

def endsPath (c : Char) : Bool :=
  c = '?' || c = '#'

/-- A URI that begins with a slash has neither a scheme nor an authority. -/
def afterAuthority (uri : List Char) : List Char :=
  if uri.head? = some '/' then uri
  else
    match uri.dropWhile isSchemeChar with
    | ':' :: '/' :: '/' :: rest => rest.dropWhile fun c => !(c = '/' || endsPath c)
    | _ => []

def path (uri : String) : String :=
  String.ofList ((afterAuthority uri.toList).takeWhile fun c => !endsPath c)

end Locator.Net.Uri

namespace Locator

structure Connection where
  hostName : String
  port : UInt16
  credentials : Option Credentials := none
  deriving DecidableEq

namespace Connection

/-- A host is the text of an address, or a host name with a label or more. -/
def checkHost (host : String) : Except ConfigError Unit :=
  if (Net.Ip.parse? host.toList).isSome then .ok ()
  else
    match Net.HostName.labels host with
    | .error error => .error (.hostName error)
    | .ok [] => .error .noHost
    | .ok (_ :: _) => .ok ()

def ofParts (host : String) (port : UInt16) : Except ConfigError Connection :=
  match checkHost host with
  | .error error => .error error
  | .ok () => if port = 0 then .error .zeroPort else .ok ⟨host, port, none⟩

def withCredentials (c : Connection) (credentials : Credentials) : Connection :=
  { c with credentials := some credentials }

/-- An address of version 6 stands in brackets and in its canonical text in front of a port. -/
def hostText (host : String) : String :=
  match Net.Ip.parse? host.toList with
  | some (.v6 ip) => "[" ++ String.ofList ip.render ++ "]"
  | _ => host

def address (c : Connection) : String :=
  hostText c.hostName ++ ":" ++ toString c.port

def scheme (c : Connection) : String :=
  if c.credentials.isSome then "https" else "http"

def uri (c : Connection) : String :=
  c.scheme ++ "://" ++ c.address

def describe (c : Connection) : String :=
  Text.record "ConnectionParameters"
    [("host_name", Text.quote c.hostName), ("port", toString c.port), ("credentials", "None")]

end Connection
end Locator
