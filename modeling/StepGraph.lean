import StepGraph.Executor.Scripted
import StepGraph.Main
import StepGraph.Prompt
import StepGraph.Proofs.CallStack
import StepGraph.Proofs.Context
import StepGraph.Proofs.Engine.Atomicity
import StepGraph.Proofs.Engine.Interruption
import StepGraph.Proofs.Engine.Log
import StepGraph.Proofs.Engine.Transparency
import StepGraph.Proofs.Engine.Stages
import StepGraph.Proofs.Engine.Nesting
import StepGraph.Proofs.Context.Layers
import StepGraph.Proofs.Engine.History
import StepGraph.Proofs.Engine.Facts
import StepGraph.Proofs.FileSystem.Refusal
import StepGraph.Proofs.RunState.Reading
import StepGraph.Proofs.CommandLine
import StepGraph.Proofs.Manifest.Outline
import StepGraph.Proofs.Engine.Reached
import StepGraph.Proofs.Engine.Outcomes
import StepGraph.Proofs.Executor.Registry
import StepGraph.Proofs.Engine.Growth
import StepGraph.Proofs.Engine.EntryIds
import StepGraph.Proofs.Engine.Limit
import StepGraph.Proofs.Engine.Publication
import StepGraph.Proofs.Snapshot
import StepGraph.Proofs.Engine.Persistence
import StepGraph.Proofs.Engine.Names
import StepGraph.Proofs.Executor.Answers
import StepGraph.Proofs.Engine.Standing
import StepGraph.Proofs.Config
import StepGraph.Proofs.CommandLine.KeptFiles
import StepGraph.Proofs.Context.Inheritance
import StepGraph.Proofs.Prompt.Rendering
import StepGraph.Proofs.Manifest.Targets
import StepGraph.Proofs.Executor.Scratch
import StepGraph.Proofs.Plan
import StepGraph.Proofs.Artifact.Confinement
import StepGraph.Proofs.Artifact.Absence
import StepGraph.Proofs.Executor.Freshness
import StepGraph.Proofs.Plan.Dedupe
import StepGraph.Proofs.Process.Capture
import StepGraph.Proofs.Prompt.Truncation
import StepGraph.Proofs.FileSystem.OneStroke

/-! Graphs of steps, and what is proved of them.

`Manifest`, `CallStack`, `Plan` and `Context` say what a graph is and what a step gets
to see of it. `Engine` takes iterations, asks a `Service` for each, and publishes
`Snapshot`s. `Executor` and `Process` carry orders out by programs, `Config`, `RunState`
and `FileSystem` keep documents in files, `Json` and `Toml` are the texts in them, and
`CommandLine` puts all together. `Proofs` is ordered like the definitions. `Shell`
stands apart, in place of the programs of a system: see `Shell.Launch`.

Left out are the words of parsers about a text that they refuse (see `Failure`), what is
logged, links between files, and real time: that a program took too long is for its
launcher to say. -/
