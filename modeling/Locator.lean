import Locator.Session
import Locator.Builder
import Locator.Peer
import Locator.Proofs.Message.Decoding
import Locator.Proofs.Session
import Locator.Proofs.Net.HostName.Grammar
import Locator.Proofs.Net.HostName.Reading
import Locator.Proofs.Net.Ipv4
import Locator.Proofs.Net.Ipv6
import Locator.Proofs.Net.Ipv6.Canonical
import Locator.Proofs.Connection
import Locator.Proofs.Address
import Locator.Proofs.Answer
import Locator.Proofs.Readiness
import Locator.Proofs.Independence
import Locator.Proofs.Log
import Locator.Proofs.Builder
import Locator.Proofs.Wire.Failing
import Locator.Proofs.Wire.Stopping
import Locator.Proofs.Message.Failure
import Locator.Proofs.Message.Concatenation
import Locator.Proofs.Message.Size
import Locator.Proofs.Net.Ipv6.Compression
import Locator.Proofs.Address.Canonical
import Locator.Proofs.Authority
import Locator.Proofs.Location.Port
import Locator.Proofs.Query.Run
