import LayeredConfig.Main
import LayeredConfig.Proofs.Failures
import LayeredConfig.Proofs.Handover
import LayeredConfig.Proofs.Sessions
import LayeredConfig.Proofs.Names
import LayeredConfig.Proofs.Rearrangement
import LayeredConfig.Proofs.Content
import LayeredConfig.Proofs.Edits
import LayeredConfig.Proofs.Writing
import LayeredConfig.Proofs.Statements
import LayeredConfig.Proofs.Gist
import LayeredConfig.Proofs.Results
import LayeredConfig.Proofs.Lockstep
import LayeredConfig.Proofs.References
import LayeredConfig.Proofs.Entities
import LayeredConfig.Proofs.Stacking
import LayeredConfig.Proofs.Log
import LayeredConfig.Proofs.Runs
import LayeredConfig.Proofs.Neutral
import LayeredConfig.Proofs.Keys
import LayeredConfig.Proofs.Retries
import LayeredConfig.Proofs.Integers
import LayeredConfig.Text.Lines
import LayeredConfig.Proofs.Feedback
import LayeredConfig.Proofs.Flags
import LayeredConfig.Proofs.ForkOnly
import LayeredConfig.Proofs.Quoting
import LayeredConfig.Proofs.Showing
import LayeredConfig.Proofs.Projection
