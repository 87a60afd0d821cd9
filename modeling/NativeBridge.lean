import NativeBridge.Binding
import NativeBridge.Config
import NativeBridge.Decl
import NativeBridge.Decl.Document
import NativeBridge.Decl.Interchange
import NativeBridge.Error
import NativeBridge.Factory
import NativeBridge.Generation.Adapter
import NativeBridge.Generation.Pipeline
import NativeBridge.Generation.Stage
import NativeBridge.Host
import NativeBridge.Json.Basic
import NativeBridge.Json.Codec
import NativeBridge.Json.Decimal
import NativeBridge.Json.Fault
import NativeBridge.Json.Lexer
import NativeBridge.Json.Reader
import NativeBridge.Json.Scan
import NativeBridge.Json.Writer
import NativeBridge.Native.Binary
import NativeBridge.Native.Catalog
import NativeBridge.Native.Codec
import NativeBridge.Native.Exports
import NativeBridge.Native.Host
import NativeBridge.Native.Library
import NativeBridge.Native.Loader
import NativeBridge.Native.Memory
import NativeBridge.Native.Scratch
import NativeBridge.Native.ScratchSet
import NativeBridge.Native.Signature
import NativeBridge.Native.State
import NativeBridge.Session
import NativeBridge.Text.Escape
import NativeBridge.Text.Quote
import NativeBridge.Text.UpperCase
import NativeBridge.Text.Utf8
import NativeBridge.Transform
import NativeBridge.Transform.Catalog
import NativeBridge.Typed
import NativeBridge.Types
import NativeBridge.Value
import NativeBridge.Proofs.Route
import NativeBridge.Proofs.Layout
import NativeBridge.Proofs.Execution
import NativeBridge.Proofs.OnePass
import NativeBridge.Proofs.CallSpec
import NativeBridge.Proofs.Disposal
import NativeBridge.Proofs.Bindable
import NativeBridge.Proofs.Traffic
import NativeBridge.Proofs.Buffers
import NativeBridge.Proofs.Shape
import NativeBridge.Proofs.Resolution
import NativeBridge.Proofs.CallTyping
import NativeBridge.Proofs.Scanning
import NativeBridge.Proofs.Quoting
import NativeBridge.Proofs.JsonText
import NativeBridge.Proofs.Reading
import NativeBridge.Proofs.Codec
import NativeBridge.Proofs.Interchange
import NativeBridge.Proofs.Termination
import NativeBridge.Proofs.Encoding
import NativeBridge.Proofs.Decoding
import NativeBridge.Proofs.RoundTrip
import NativeBridge.Proofs.Cache
import NativeBridge.Proofs.Builder
import NativeBridge.Proofs.Registration
import NativeBridge.Proofs.HostValues
