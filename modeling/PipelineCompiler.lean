import PipelineCompiler.Main
import PipelineCompiler.Proofs.CommandLine.ExitCode
import PipelineCompiler.Proofs.CommandLine.Preview
import PipelineCompiler.Proofs.Decimal.Digits
import PipelineCompiler.Proofs.Decimal.Literal
import PipelineCompiler.Proofs.Dependency.Components
import PipelineCompiler.Proofs.Dependency.Conservation
import PipelineCompiler.Proofs.Dependency.Schedule
import PipelineCompiler.Proofs.Diagnostic.Collisions
import PipelineCompiler.Proofs.Dialect.Appending
import PipelineCompiler.Proofs.Dialect.FirstTrigger
import PipelineCompiler.Proofs.Dialect.Options
import PipelineCompiler.Proofs.Dialect.Runnable
import PipelineCompiler.Proofs.Document.Conversion
import PipelineCompiler.Proofs.Document.Gist
import PipelineCompiler.Proofs.Document.JsonQuoting
import PipelineCompiler.Proofs.Document.Versions
import PipelineCompiler.Proofs.Document.YamlRoundTrip
import PipelineCompiler.Proofs.Github.Decoding
import PipelineCompiler.Proofs.Gitlab.Decoding
import PipelineCompiler.Proofs.Gitlab.Stages
import PipelineCompiler.Proofs.Gitlab.TopLevel
import PipelineCompiler.Proofs.Graph.Renaming
import PipelineCompiler.Proofs.Registry
import PipelineCompiler.Proofs.CommandLine.LogFilter
import PipelineCompiler.Proofs.Dependency.CyclePaths
