import Swtrust.Nv.Held
import Swtrust.Nv.Locks
import Swtrust.Object.Persistent
import Swtrust.Session.Gap
import Swtrust.Session.Rest
import Swtrust.Device.Resume
import Swtrust.Commands.Authorization
import Swtrust.Commands.Attest
import Swtrust.Commands.Cipher
import Swtrust.Commands.Context
import Swtrust.Commands.Ecc
import Swtrust.Commands.Hashing
import Swtrust.Commands.Policy
import Swtrust.Commands.Duplication
import Swtrust.Commands.Management
import Swtrust.Commands.Pcr
import Swtrust.Commands.Execute
import Swtrust.Policy.Trial
import Swtrust.Toy
import Swtrust.Execution
import Swtrust.Lockout.Recovery
import Swtrust.Lockout.Guessing
import Swtrust.Lockout.Special
import Swtrust.Pin.Bound
import Swtrust.Pin.Durable
import Swtrust.Authorization.Assertions
import Swtrust.Authorization.Soundness
import Swtrust.Authorization.Binding
import Swtrust.Authorization.Lockout
import Swtrust.Authorization.Parameters
import Swtrust.Commands.X509
import Swtrust.ReadOnly.Indices
import Swtrust.Startup.Sequence
import Swtrust.Commit.Single
import Swtrust.Pcr.Counter
import Swtrust.Pcr.Resume
import Swtrust.Pcr.Selection
import Swtrust.Capability.Pages
import Swtrust.Exchange.Protocols
import Swtrust.Policy.Expiration
import Swtrust.Device.Tick
import Swtrust.Device.Pace
import Swtrust.Object.Slots
import Swtrust.Crypto.Seeded
import Swtrust.Crypto.Signatures
import Swtrust.Crypto.Exponents
import Swtrust.Certificate.Body
import Swtrust.Store.Hex
import Swtrust.Store.File
import Swtrust.Store.Saves
import Swtrust.Crypto.Health
import Swtrust.Library.Service
import Swtrust.Server.Simulator
import Swtrust.Server.Qemu
import Swtrust.Server.Channels
import Swtrust.Server.Hosting
import Swtrust.Library.Steady
import Swtrust.Structures.ReadBack
import Swtrust.Store.Record
import Swtrust.Store.Restore
import Swtrust.Store.Accepted
import Swtrust.Object.Contexts
import Swtrust.Device.Failure
import Swtrust.Object.Sequences
