import PromptForm.Main
import PromptForm.Proofs.Collection.Done
import PromptForm.Proofs.Collection.Ends
import PromptForm.Proofs.Collection.Failures
import PromptForm.Proofs.Collection.Order
import PromptForm.Proofs.Condition.Inverse
import PromptForm.Proofs.Pass.Context
import PromptForm.Proofs.Requirement.Counts
import PromptForm.Proofs.Tree.Flat
import PromptForm.Proofs.Tree.Wire
import PromptForm.Proofs.Pass.Siblings
import PromptForm.Proofs.Tree.Elements
import PromptForm.Proofs.Tree.Places
import PromptForm.Proofs.Pass.Isolation
import PromptForm.Proofs.Pass.Truncation
import PromptForm.Proofs.Pass.Mentions
import PromptForm.Proofs.Collection.Turns
import PromptForm.Proofs.Collection.Defaults
import PromptForm.Proofs.Component.CodeBody
import PromptForm.Proofs.Pass.Nesting
import PromptForm.Proofs.Pass.Depth
import PromptForm.Proofs.Component.Additions
import PromptForm.Proofs.Output.Runs
import PromptForm.Proofs.Condition.Offsets
import PromptForm.Proofs.Condition.Comparison
import PromptForm.Proofs.Environment.Inference
import PromptForm.Proofs.Requirement.Patterns
import PromptForm.Proofs.Environment.Saved
import PromptForm.Proofs.Condition.References
import PromptForm.Proofs.Locality.Bindings
import PromptForm.Proofs.Requirement.CommaLists
import PromptForm.Proofs.Output.ItemLines
