import TokenTree.Config.Build
import TokenTree.Config.Storage
import TokenTree.Grammar.Reentrant
import TokenTree.Inspect
import TokenTree.Node.Json
import TokenTree.Parse
import TokenTree.Proofs.Matching.Descent
import TokenTree.Proofs.Dispatch.Walk
import TokenTree.Proofs.Cursor.Runs
import TokenTree.Proofs.Dispatch.Levels
import TokenTree.Proofs.Grammar.Slots
import TokenTree.Proofs.Grammar.Bodies
import TokenTree.Proofs.Matching.Forest
import TokenTree.Proofs.Matching.Steps
import TokenTree.Proofs.Matching.Viable
import TokenTree.Proofs.Pattern.Parts
import TokenTree.Proofs.Pattern.Anchored
import TokenTree.Proofs.Pattern.Consumption
import TokenTree.Proofs.Pattern.Rounds
import TokenTree.Proofs.Pattern.Closing
import TokenTree.Proofs.Pattern.ClosedSets
import TokenTree.Proofs.Pattern.ClosedGroups
import TokenTree.Proofs.Tokeniser.Acceptance
import TokenTree.Proofs.Tokeniser.Rules
import TokenTree.Proofs.Tokeniser.Machine
import TokenTree.Proofs.Tokeniser.InPlace
import TokenTree.Proofs.Cursor.Bounds
import TokenTree.Proofs.Cursor.Undo
import TokenTree.Proofs.Cursor.Mismatch
import TokenTree.Proofs.Tokeniser.Passes
import TokenTree.Proofs.Tokeniser.Segments
import TokenTree.Proofs.Tokeniser.Modes
import TokenTree.Proofs.Tokeniser.Strides
import TokenTree.Proofs.Tokeniser.RuleOrder
import TokenTree.Proofs.Tokeniser.Refusals
import TokenTree.Proofs.Tokeniser.Resuming
import TokenTree.Proofs.Tokeniser.Occurrences
import TokenTree.Proofs.Tokeniser.Lossless
import TokenTree.Proofs.Registration
import TokenTree.Proofs.Grammar.Registered
import TokenTree.Proofs.Tokeniser.Registered
import TokenTree.Proofs.Tokeniser.Loop
import TokenTree.Proofs.Matching.Concatenation
import TokenTree.Proofs.Dispatch.Leafwise
import TokenTree.Proofs.Matching.Accounts
import TokenTree.Proofs.Matching.DepthBound
import TokenTree.Proofs.Matching.Repair
import TokenTree.Proofs.Dispatch.Rewriting
import TokenTree.Proofs.Toml.Lines
import TokenTree.Proofs.Config.Roundtrip
import TokenTree.Proofs.Config.Storage
import TokenTree.Proofs.Config.Build
import TokenTree.Proofs.Config.Integers
import TokenTree.Proofs.Cursor.Segments
import TokenTree.Proofs.Cursor.Variants
import TokenTree.Proofs.Dispatch.Placeholders
import TokenTree.Proofs.Matching.Values
import TokenTree.Proofs.Node.Rendering
import TokenTree.Proofs.Node.Json
