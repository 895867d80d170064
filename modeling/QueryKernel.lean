import QueryKernel.Text.Quoted
import QueryKernel.Number.Real
import QueryKernel.Number.Word
import QueryKernel.Hash.Xxh3
import QueryKernel.Sql.Storage
import QueryKernel.Literal.Buffer
import QueryKernel.Ir.Run
import QueryKernel.Ir.Listing
import QueryKernel.Session.Hoist
import QueryKernel.Plan.Description
import QueryKernel.Plan.Document
import QueryKernel.Document.Toml
import QueryKernel.Settings.Document
import QueryKernel.Settings.Environment
import QueryKernel.Kernel.Executor
import QueryKernel.Proofs.Literal.Image
import QueryKernel.Proofs.Literal.Serialization
import QueryKernel.Proofs.Literal.Allocation
import QueryKernel.Proofs.Ir.Execution
import QueryKernel.Proofs.Dictionary.Growth
import QueryKernel.Proofs.Dictionary.Numbering
import QueryKernel.Proofs.Dictionary.Binding
import QueryKernel.Proofs.Dictionary.Aliasing
import QueryKernel.Proofs.Session.Immediates
import QueryKernel.Proofs.Session.Registration
import QueryKernel.Proofs.Text.Tokens
import QueryKernel.Proofs.Ir.Definition
import QueryKernel.Proofs.Ir.Edits
import QueryKernel.Proofs.Ir.Typing
import QueryKernel.Proofs.Ir.Arithmetic
import QueryKernel.Proofs.Ir.Tables
import QueryKernel.Proofs.Ir.Stored
import QueryKernel.Proofs.Session.Decoding
import QueryKernel.Proofs.Session.Coherence
import QueryKernel.Proofs.Session.Failures
import QueryKernel.Proofs.Session.Hoisting
import QueryKernel.Proofs.Session.Lockstep
import QueryKernel.Proofs.Session.Atomicity
import QueryKernel.Proofs.Session.Meaning
import QueryKernel.Proofs.Session.Readback
import QueryKernel.Proofs.Task.Joining
import QueryKernel.Proofs.Task.Scheduling
import QueryKernel.Proofs.Session.Embedding
import QueryKernel.Proofs.Session.Sharing
import QueryKernel.Proofs.Session.Acceptance
import QueryKernel.Proofs.Session.Refusal
import QueryKernel.Proofs.Session.Residue
import QueryKernel.Proofs.Session.Carrying
import QueryKernel.Proofs.Session.Repetition
import QueryKernel.Proofs.Session.Unpacking
import QueryKernel.Proofs.Session.NullStrings
import QueryKernel.Proofs.Session.NullIds
import QueryKernel.Proofs.Session.Building
import QueryKernel.Proofs.Session.Overwriting
import QueryKernel.Proofs.Number.Shifts
import QueryKernel.Proofs.Number.Canonical
import QueryKernel.Proofs.Number.Residues
import QueryKernel.Proofs.Settings.Independence
import QueryKernel.Proofs.Number.Spelling
import QueryKernel.Proofs.Sql.Likeness
import QueryKernel.Proofs.Sql.Ranges
import QueryKernel.Proofs.Sql.Spelling
import QueryKernel.Proofs.Sql.Legibility
import QueryKernel.Proofs.Plan.Expressions
import QueryKernel.Proofs.Plan.Readability
import QueryKernel.Proofs.Plan.Matching
import QueryKernel.Proofs.Plan.Segments
import QueryKernel.Proofs.Session.Substitution
import QueryKernel.Proofs.Kernel.Compilation
import QueryKernel.Proofs.Kernel.Running
import QueryKernel.Proofs.Kernel.Packaging
import QueryKernel.Proofs.Kernel.Hoisting
import QueryKernel.Proofs.Kernel.Dispatching
import QueryKernel.Proofs.Kernel.Recency
import QueryKernel.Proofs.Kernel.History
import QueryKernel.Proofs.Kernel.Reuse
import QueryKernel.Proofs.Kernel.Origin
import QueryKernel.Proofs.Kernel.Currency
import QueryKernel.Proofs.Kernel.Recompilation
import QueryKernel.Proofs.Kernel.Retention
