import ZigBindings.Main
import ZigBindings.Proofs.Include.Reach
import ZigBindings.Proofs.Include.Course
import ZigBindings.Proofs.Include.Walk
import ZigBindings.Proofs.Include.Preorder
import ZigBindings.Proofs.Include.Cycle
import ZigBindings.Proofs.Files.Spread
import ZigBindings.Proofs.Markup.Rejected
import ZigBindings.Proofs.Generation.ModuleText
import ZigBindings.Proofs.Generation.Document
import ZigBindings.Proofs.Generation.Registry
import ZigBindings.Proofs.Generation.Underway
import ZigBindings.Proofs.Generation.Steps
import ZigBindings.Proofs.Generation.Header
import ZigBindings.Proofs.Generation.Trace
import ZigBindings.Proofs.Generation.Account
import ZigBindings.Proofs.Generation.Supply
import ZigBindings.Proofs.Generation.Order
import ZigBindings.Proofs.Generation.Knot
import ZigBindings.Proofs.Generation.Rendered
import ZigBindings.Proofs.Generation.Layers
import ZigBindings.Proofs.Generation.Places
import ZigBindings.Proofs.Generation.Outputs
import ZigBindings.Proofs.Generation.BrokenOff
import ZigBindings.Proofs.Generation.Shared
import ZigBindings.Proofs.Generation.History
import ZigBindings.Proofs.Generation.Attribution
import ZigBindings.Proofs.Generation.Constants
import ZigBindings.Proofs.Repository.Refusal
import ZigBindings.Proofs.Repository.Rules
import ZigBindings.Proofs.Repository.Acceptance
import ZigBindings.Proofs.Generation.Imports
import ZigBindings.Proofs.Zig.References
import ZigBindings.Proofs.Zig.Pieces
import ZigBindings.Proofs.Zig.Prefixes
import ZigBindings.Proofs.Loading.Hooks
import ZigBindings.Proofs.Loading.Once
import ZigBindings.Proofs.Zig.Identifiers
import ZigBindings.Proofs.Zig.Externs
import ZigBindings.Proofs.Zig.LiteralReading
import ZigBindings.Proofs.Zig.Nesting
import ZigBindings.Proofs.Text.Case
import ZigBindings.Proofs.Zig.BalancedTypes
import ZigBindings.Proofs.Zig.Balanced
import ZigBindings.Proofs.Text.Numeral
import ZigBindings.Proofs.Repository.Readings
import ZigBindings.Proofs.Repository.Kinds
import ZigBindings.Proofs.Repository.Expressible
import ZigBindings.Proofs.Repository.Shelves
import ZigBindings.Proofs.Repository.Canonical
import ZigBindings.Proofs.Repository.Essence
import ZigBindings.Proofs.Repository.Blind
import ZigBindings.Proofs.Repository.Edits
import ZigBindings.Proofs.Zig.IdentifierReading
import ZigBindings.Proofs.Zig.Pointers
import ZigBindings.Proofs.Zig.Declarators
import ZigBindings.Proofs.Zig.Backing
import ZigBindings.Proofs.Zig.Packed
import ZigBindings.Proofs.Zig.Quoting
import ZigBindings.Proofs.Zig.Moved
import ZigBindings.Proofs.Text.Capital
import ZigBindings.Proofs.Text.CamelCase
import ZigBindings.Proofs.Zig.Scopes
import ZigBindings.Proofs.Include.Reuse
import ZigBindings.Proofs.Zig.NumeralReading
import ZigBindings.Proofs.Generation.ModuleNames
import ZigBindings.Proofs.Zig.Spellings
import ZigBindings.Proofs.Zig.Tokens
