import ShaderDriver.Main
import ShaderDriver.Pragma.Grammar
import ShaderDriver.Proofs.Batch.Handles
import ShaderDriver.Proofs.Batch.Independence
import ShaderDriver.Proofs.Batch.Reduction
import ShaderDriver.Proofs.Build.Diagnosis
import ShaderDriver.Proofs.Build.Protocol
import ShaderDriver.Proofs.Caps.History
import ShaderDriver.Proofs.Cli.Factory
import ShaderDriver.Proofs.Cli.Success
import ShaderDriver.Proofs.Cli.Tracing
import ShaderDriver.Proofs.Cli.Unconfigured
import ShaderDriver.Proofs.Dehydrated.RoundTrip
import ShaderDriver.Proofs.Path.BaseName
import ShaderDriver.Proofs.Pragma.Order
import ShaderDriver.Proofs.Pragma.Tables
import ShaderDriver.Proofs.Runner.Bundles
import ShaderDriver.Proofs.Runner.Commission
import ShaderDriver.Proofs.Runner.Dispatch
import ShaderDriver.Proofs.Runner.Escapes
import ShaderDriver.Proofs.Runner.Unserved
import ShaderDriver.Proofs.Stream.Protocol
