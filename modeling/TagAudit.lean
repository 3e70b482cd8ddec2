import TagAudit.Cleanup.Comparison
import TagAudit.Cleanup.Optimize
import TagAudit.Command.Disk
import TagAudit.Container.Duplicate
import TagAudit.Container.Graph
import TagAudit.Container.Unused
import TagAudit.Main
import TagAudit.Migration.Plan
import TagAudit.Proofs.Cleanup.Merging
import TagAudit.Proofs.Server.Selectivity
import TagAudit.Text.Slug
import TagAudit.Text.Word
import TagAudit.Proofs.Rules.Recording
import TagAudit.Proofs.Rules.Atomicity
import TagAudit.Proofs.Rules.Isolation
import TagAudit.Proofs.Variables.Forest
import TagAudit.Proofs.Variables.Survey
import TagAudit.Proofs.Variables.Cycles
import TagAudit.Proofs.Variables.Components
import TagAudit.Proofs.Variables.Agreement
import TagAudit.Proofs.Server.Delivery
import TagAudit.Proofs.Rules.Disabling
import TagAudit.Proofs.Server.Preselection
import TagAudit.Proofs.Cleanup.Unused
import TagAudit.Proofs.Server.Credentials
import TagAudit.Proofs.Cleanup.Templates
import TagAudit.Proofs.Text.Renaming
import TagAudit.Proofs.Text.Plain
import TagAudit.Proofs.Cleanup.Pairs
import TagAudit.Proofs.Cleanup.Redirected
import TagAudit.Proofs.Cleanup.Renamed
import TagAudit.Proofs.Cleanup.Members
import TagAudit.Proofs.Cleanup.Groups
import TagAudit.Proofs.Cleanup.Remaining
import TagAudit.Proofs.Cleanup.Settled
import TagAudit.Proofs.Cleanup.Success
import TagAudit.Proofs.Cleanup.Accounting
import TagAudit.Proofs.Server.Wiring
import TagAudit.Proofs.Server.Gaps
import TagAudit.Proofs.Server.VendorTemplates
import TagAudit.Proofs.Server.Texts
import TagAudit.Proofs.Server.Waiting
import TagAudit.Proofs.Server.Addressing
import TagAudit.Proofs.Server.Closure
import TagAudit.Proofs.Migration.Malformed
import TagAudit.Proofs.Server.Checked
import TagAudit.Proofs.Server.Flags
import TagAudit.Proofs.Server.Folders
import TagAudit.Proofs.Server.Consistency
import TagAudit.Proofs.Cleanup.Pruning
import TagAudit.Proofs.Dependency.Marks
import TagAudit.Proofs.Dashboard.Reading
import TagAudit.Proofs.Container.Regarded
import TagAudit.Proofs.Container.Usage
import TagAudit.Proofs.Rules.Nesting
import TagAudit.Proofs.Variables.Rings
import TagAudit.Proofs.Rules.Contents
import TagAudit.Proofs.Dashboard.Script
import TagAudit.Proofs.Json.Referenced
import TagAudit.Proofs.Container.Partition
import TagAudit.Proofs.Migration.Variables
import TagAudit.Proofs.Cleanup.TriggerLists
import TagAudit.Proofs.Json.Quoted
import TagAudit.Proofs.Json.Delimited
import TagAudit.Proofs.Checksum
import TagAudit.Proofs.Container.Signature
import TagAudit.Proofs.Dashboard.Brackets
import TagAudit.Proofs.Server.Firing
import TagAudit.Proofs.Variables.Successors
import TagAudit.Proofs.Rules.Practices
import TagAudit.Proofs.Command.Configuration
import TagAudit.Proofs.Server.TemplateSource
import TagAudit.Proofs.Command.Suggestion
import TagAudit.Proofs.Text.Interpolated
import TagAudit.Proofs.Text.Slug
import TagAudit.Proofs.Container.Identifiers
