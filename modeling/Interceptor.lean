/-
# Interceptor — an intercepting HTTP forward proxy

The root module: it imports every other one.
-/
import Interceptor.Buffer
import Interceptor.Certificate
import Interceptor.Certificate.Authority
import Interceptor.Certificate.Base64
import Interceptor.Certificate.Curve
import Interceptor.Certificate.Der
import Interceptor.Certificate.Digest
import Interceptor.Certificate.Edwards
import Interceptor.Certificate.Element
import Interceptor.Certificate.Encoding
import Interceptor.Certificate.Moment
import Interceptor.Certificate.Names
import Interceptor.Certificate.Parts
import Interceptor.Certificate.Pem
import Interceptor.Certificate.PrivateKey
import Interceptor.Certificate.Root
import Interceptor.Certificate.Signature
import Interceptor.Command
import Interceptor.Command.Arguments
import Interceptor.Config
import Interceptor.Config.File
import Interceptor.Config.Layout
import Interceptor.Context
import Interceptor.Delegate
import Interceptor.Engine
import Interceptor.Error
import Interceptor.Files
import Interceptor.Host
import Interceptor.Http.Header
import Interceptor.Http.Message
import Interceptor.Http.Method
import Interceptor.Http.Uri
import Interceptor.Http.UriReader
import Interceptor.Log
import Interceptor.Log.Filter
import Interceptor.Log.Pattern
import Interceptor.Main
import Interceptor.Net.Address
import Interceptor.Net.AddressReader
import Interceptor.Net.HostPort
import Interceptor.Net.LocalNames
import Interceptor.Net.Lookup
import Interceptor.Network
import Interceptor.Pool
import Interceptor.Program
import Interceptor.Proofs.Certificate.Armour
import Interceptor.Proofs.Certificate.Calendar
import Interceptor.Proofs.Certificate.Displacement
import Interceptor.Proofs.Certificate.KeptLeaves
import Interceptor.Proofs.Certificate.KeyReadBack
import Interceptor.Proofs.Certificate.LeafCalls
import Interceptor.Proofs.Certificate.LeafCoverage
import Interceptor.Proofs.Certificate.LeafOutcome
import Interceptor.Proofs.Certificate.MixedRoot
import Interceptor.Proofs.Certificate.OnceIssued
import Interceptor.Proofs.Certificate.ParentLeaf
import Interceptor.Proofs.Certificate.RootReadBack
import Interceptor.Proofs.Certificate.SerialNumbers
import Interceptor.Proofs.Certificate.StableCover
import Interceptor.Proofs.Certificate.StrippedTwice
import Interceptor.Proofs.Certificate.WildcardNames
import Interceptor.Proofs.ConfiguredTimes
import Interceptor.Proofs.Custody
import Interceptor.Proofs.Exchange.Answer
import Interceptor.Proofs.Exchange.IdleContexts
import Interceptor.Proofs.Exchange.InFlight
import Interceptor.Proofs.Exchange.Isolation
import Interceptor.Proofs.Exchange.Opening
import Interceptor.Proofs.Exchange.Outbound
import Interceptor.Proofs.Exchange.PassThrough
import Interceptor.Proofs.Exchange.Passage
import Interceptor.Proofs.Exchange.Phases
import Interceptor.Proofs.Exchange.Quiet
import Interceptor.Proofs.Exchange.RequestFrame
import Interceptor.Proofs.Exchange.Steps
import Interceptor.Proofs.Exchange.Verdict
import Interceptor.Proofs.FileWrites
import Interceptor.Proofs.Http.AuthorityText
import Interceptor.Proofs.Http.OriginForm
import Interceptor.Proofs.Http.TargetText
import Interceptor.Proofs.Http.WrittenPort
import Interceptor.Proofs.Net.AddressSpelling
import Interceptor.Proofs.Net.AddressText
import Interceptor.Proofs.Net.Dialing
import Interceptor.Proofs.Net.FreshLookups
import Interceptor.Proofs.Net.LoneFetches
import Interceptor.Proofs.RootFiles
import Interceptor.Proofs.Tables
import Interceptor.Proofs.Text.Bytes
import Interceptor.Proofs.Text.Numeral
import Interceptor.Proofs.Tunnel.CarriedContext
import Interceptor.Proofs.Tunnel.CertifiedHost
import Interceptor.Proofs.Tunnel.Decryption
import Interceptor.Proofs.Tunnel.Grant
import Interceptor.Proofs.Tunnel.Raw
import Interceptor.Proofs.Tunnel.TargetAddress
import Interceptor.Proofs.Tunnel.Transfer
import Interceptor.Proxy
import Interceptor.Relay
import Interceptor.Relay.Ends
import Interceptor.Routing
import Interceptor.Script
import Interceptor.Strand
import Interceptor.Strand.Steady
import Interceptor.Strand.Walk
import Interceptor.Strand.Weave
import Interceptor.Text.Blank
import Interceptor.Text.Decimal
import Interceptor.Text.Duration
import Interceptor.Text.Fnv
import Interceptor.Text.Hidden
import Interceptor.Text.LetterOrNumber
import Interceptor.Text.Quoted
import Interceptor.Text.Split
import Interceptor.Text.Terminal
import Interceptor.Text.Unsigned
import Interceptor.Tunnel
import Interceptor.Yaml.Cursor
import Interceptor.Yaml.Decode
import Interceptor.Yaml.Event
import Interceptor.Yaml.Node
import Interceptor.Yaml.Plain
import Interceptor.Yaml.Scalar
import Interceptor.Yaml.SyntaxError
import Interceptor.Yaml.Token
import Interceptor.Yaml.Token.Scan
import Interceptor.Yaml.Written
