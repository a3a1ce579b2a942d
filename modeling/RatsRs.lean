import RatsRs.Lib.Bytes
import RatsRs.Lib.IndexMap
import RatsRs.Lib.Packed
import RatsRs.Lib.Cbor
import RatsRs.Lib.CborForms
import RatsRs.Lib.Frames
import RatsRs.Lib.ByteStream
import RatsRs.Lib.Sealing
import RatsRs.Lib.Table
import RatsRs.Errors
import RatsRs.Context
import RatsRs.Crypto
import RatsRs.Tee.Layout
import RatsRs.Tee.Basic
import RatsRs.Tee.VerifierProofs
import RatsRs.Tee.Dispatch
import RatsRs.Tee.Attester
import RatsRs.Cert.CborProofs
import RatsRs.Cert.Policy
import RatsRs.Cert.Extensions
import RatsRs.Transport.FailedSend
import RatsRs.Transport.ShortReceive
import RatsRs.Transport.Tunnel
import RatsRs.Transport.Echo
import RatsRs.Transport.Hostile
import RatsRs.Transport.EncapProofs
import RatsRs.Transport.EndOfStream
import RatsRs.Transport.SessionId
import RatsRs.Transport.MutualAuth
import RatsRs.Transport.Rustls
import RatsRs.Transport.Tls
import RatsRs.Transport.ValidityTime
import RatsRs.Transport.CertProvider
import RatsRs.Transport.MeasurementProofs
import RatsRs.Transport.RequesterProofs
import RatsRs.Transport.Identity
import RatsRs.Transport.OpensslIdentity
import RatsRs.Transport.HookRuns
import RatsRs.Transport.RustlsRuns
