import ShaderPipeline.Command.Desk
import ShaderPipeline.Main
import ShaderPipeline.OpenGl
import ShaderPipeline.Studio.Session
import ShaderPipeline.Proofs.Act.Leads
import ShaderPipeline.Proofs.Act.Agree
import ShaderPipeline.Proofs.Studio.Ledger
import ShaderPipeline.Proofs.Studio.Run
import ShaderPipeline.Proofs.Studio.Ownership
import ShaderPipeline.Proofs.Diagnostic
import ShaderPipeline.Proofs.Studio.Changes
import ShaderPipeline.Proofs.Studio.Quiet
import ShaderPipeline.Proofs.Studio.Indifference
import ShaderPipeline.Proofs.Studio.Services
import ShaderPipeline.Proofs.Studio.Trials
import ShaderPipeline.Proofs.Studio.Neighbours
import ShaderPipeline.Proofs.Studio.Consistency
import ShaderPipeline.Proofs.Studio.Caching
import ShaderPipeline.Proofs.Studio.Reasons
import ShaderPipeline.Proofs.Studio.Accounts
import ShaderPipeline.Proofs.Studio.Undoing
import ShaderPipeline.Proofs.Studio.Rebuild
import ShaderPipeline.Proofs.Studio.Edited
import ShaderPipeline.Proofs.Studio.Verdicts
import ShaderPipeline.Proofs.Studio.Attribution
import ShaderPipeline.Proofs.Studio.Views
import ShaderPipeline.Proofs.Studio.Sightings
import ShaderPipeline.Proofs.Text.Cut
import ShaderPipeline.Proofs.Text.Patch
import ShaderPipeline.Proofs.Text.Trim
import ShaderPipeline.Proofs.Text.Words
import ShaderPipeline.Proofs.Glsl.LineComments
import ShaderPipeline.Proofs.Glsl.Reading
import ShaderPipeline.Proofs.Glsl.Written
import ShaderPipeline.Proofs.Legacy.Header
import ShaderPipeline.Proofs.Legacy.Lines
import ShaderPipeline.Proofs.Legacy.Dialect
import ShaderPipeline.Proofs.Text.Rename
import ShaderPipeline.Proofs.Text.Runs
import ShaderPipeline.Proofs.Text.Replace
import ShaderPipeline.Proofs.Glsl.Blocks
import ShaderPipeline.Proofs.Legacy.Renaming
import ShaderPipeline.Proofs.Legacy.Recasts
import ShaderPipeline.Proofs.Legacy.Kept
import ShaderPipeline.Proofs.Legacy.Idempotent
import ShaderPipeline.Proofs.Glsl.Variables
import ShaderPipeline.Proofs.Glsl.Passages
import ShaderPipeline.Proofs.Glsl.Joined
import ShaderPipeline.Proofs.Studio.Merged
import ShaderPipeline.Proofs.Legacy.Reemitted
import ShaderPipeline.Proofs.Legacy.Matched
import ShaderPipeline.Proofs.Legacy.WholeLines
import ShaderPipeline.Proofs.Legacy.Comments
import ShaderPipeline.Proofs.Legacy.Varyings
import ShaderPipeline.Proofs.Legacy.AfterOutput
import ShaderPipeline.Proofs.Legacy.Outputs
import ShaderPipeline.Proofs.Legacy.VertexIndex
import ShaderPipeline.Proofs.Uniform.Layout
import ShaderPipeline.Proofs.Studio.Uniforms
import ShaderPipeline.Proofs.Studio.Linked
import ShaderPipeline.Proofs.Glsl.Uncommented
import ShaderPipeline.Proofs.Glsl.Declarators
import ShaderPipeline.Proofs.Glsl.Spacing
import ShaderPipeline.Proofs.Studio.Captured
import ShaderPipeline.Proofs.Legacy.Faults
import ShaderPipeline.Proofs.Act.Transcript
import ShaderPipeline.Proofs.Bin.Draining
import ShaderPipeline.Proofs.Channel.Delivery
import ShaderPipeline.Proofs.Messages
import ShaderPipeline.Proofs.Glsl.Qualification
import ShaderPipeline.Proofs.Glsl.Stripped
