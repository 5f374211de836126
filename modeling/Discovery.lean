import Discovery.FileTree
import Discovery.Main
import Discovery.Proofs.Flag.Token
import Discovery.Session
import Discovery.Proofs.Flag.Scanner
import Discovery.Proofs.Flag.Grammar
import Discovery.Proofs.Flag.Stop
import Discovery.Proofs.Dialogue
import Discovery.Proofs.Dictionary
import Discovery.Proofs.Request.Interpretation
import Discovery.Proofs.Request.Announcing
import Discovery.Proofs.Json.Shape
import Discovery.Proofs.Json.Atoms
import Discovery.Proofs.Json.RoundTrip
import Discovery.Proofs.Json.Accepted
import Discovery.Proofs.Service.Announcement
import Discovery.Proofs.Request.DocumentPlan
import Discovery.Proofs.Request.Decided
import Discovery.Proofs.Request.Deletion
import Discovery.Proofs.Request.Precedence
import Discovery.Proofs.Json.Outcome
import Discovery.Proofs.Text.Utf8
import Discovery.Proofs.Text.Blank
import Discovery.Proofs.Text.Word
import Discovery.Proofs.Text.Lines
import Discovery.Proofs.Json.Meaning
import Discovery.Proofs.Json.Written
import Discovery.Proofs.Service.Loading
import Discovery.Proofs.Request.Addition
import Discovery.Proofs.Request.IgnoredFields
import Discovery.Proofs.Request.StandardInput
import Discovery.Proofs.Request.Surroundings
import Discovery.Proofs.Request.DocumentForms
import Discovery.Proofs.Request.AnnouncedDocument
import Discovery.Proofs.Target.Aliases
import Discovery.Proofs.Request.AliasOrigins
import Discovery.Proofs.Request.TargetAlias
import Discovery.Proofs.Target.Hosts
import Discovery.Proofs.Request.ListedHosts
import Discovery.Proofs.Request.Warnings
import Discovery.Proofs.Service.HomePath
import Discovery.Proofs.Report
import Discovery.Proofs.Request.Selection
import Discovery.Proofs.Request.Integers
