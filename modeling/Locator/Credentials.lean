import Locator.Net.Ip

namespace Locator.Net.DnsName

def isWordChar (c : Char) : Bool :=
  c.isAlphanum || c = '_'

def isLabel (label : List Char) : Bool :=
  match label.head?, label.getLast? with
  | some first, some last =>
    label.length ≤ 63 && isWordChar first && isWordChar last &&
      label.all fun c => isWordChar c || c = '-'
  | _, _ => false

/-- A name of at most 253 characters whose last label is not a number; a dot may end it. -/
def isName (text : List Char) : Bool :=
  let fields := text.splitOn '.'
  let labels := if fields.getLast? = some [] then fields.dropLast else fields
  text.length ≤ 253 && labels.all isLabel &&
    match labels.getLast? with
    | some last => !last.all Char.isDigit
    | none => false

def isServerName (name : String) : Bool :=
  let text := name.toList
  isName text || (Ip.parse? text).isSome

end Locator.Net.DnsName

namespace Locator

inductive TrustBundle where
  | authority (name : String)
  | unreadable
  /-- A text without a certificate block: nothing is trusted. -/
  | blank
  deriving DecidableEq

inductive Identity where
  | issuedBy (authority : String)
  | withoutKey
  | withoutCertificate
  deriving DecidableEq

structure Credentials where
  trust : Option TrustBundle := none
  identity : Option Identity := none
  domainName : Option String := none
  deriving DecidableEq

inductive ChannelFault where
  | uri
  | trust
  | key
  | certificate
  | serverName
  deriving DecidableEq

def ChannelFault.chain : ChannelFault → List String
  | uri => ["invalid URI", "invalid uri character"]
  | trust => ["transport error", "Error parsing TLS certificate."]
  | key =>
    ["transport error", "Error parsing TLS private key - no RSA or PKCS8-encoded keys found."]
  | certificate => ["transport error", "peer sent no certificates"]
  | serverName => ["transport error", "invalid dns name"]

namespace Credentials

/-- The name that a certificate must have: the one asked for, or else the host of the URI. -/
def verifiedName (credentials : Credentials) (host : String) : String :=
  credentials.domainName.getD host

def fault? (credentials : Credentials) (host : String) : Option ChannelFault :=
  if credentials.trust = some .unreadable then some .trust
  else if credentials.identity = some .withoutKey then some .key
  else if credentials.identity = some .withoutCertificate then some .certificate
  else if Net.DnsName.isServerName (credentials.verifiedName host) then none
  else some .serverName

end Credentials
end Locator
