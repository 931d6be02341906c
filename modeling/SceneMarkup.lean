import SceneMarkup.CommandLine.Arguments
import SceneMarkup.CommandLine.Program
import SceneMarkup.CommandLine.Run
import SceneMarkup.Context
import SceneMarkup.Controls.Basic
import SceneMarkup.Controls.Build
import SceneMarkup.Json.Decode
import SceneMarkup.Json.Printer
import SceneMarkup.Json.Reader
import SceneMarkup.Json.Value
import SceneMarkup.Main
import SceneMarkup.Markup.Attributes
import SceneMarkup.Markup.Basic
import SceneMarkup.Naming
import SceneMarkup.Number.Decimal
import SceneMarkup.Number.Numeral
import SceneMarkup.Options
import SceneMarkup.Proofs.Accesses
import SceneMarkup.Proofs.Angles
import SceneMarkup.Proofs.Arguments
import SceneMarkup.Proofs.AttributeNames
import SceneMarkup.Proofs.AttributeOptions
import SceneMarkup.Proofs.AttributeText
import SceneMarkup.Proofs.Attributes
import SceneMarkup.Proofs.Bindings
import SceneMarkup.Proofs.Cameras
import SceneMarkup.Proofs.Comments
import SceneMarkup.Proofs.Construction
import SceneMarkup.Proofs.ContextReading
import SceneMarkup.Proofs.ControlNames
import SceneMarkup.Proofs.Controls
import SceneMarkup.Proofs.Decimal
import SceneMarkup.Proofs.Defaults
import SceneMarkup.Proofs.Defects
import SceneMarkup.Proofs.Distinct
import SceneMarkup.Proofs.Duplicates
import SceneMarkup.Proofs.Elements
import SceneMarkup.Proofs.Elision
import SceneMarkup.Proofs.Evaluation
import SceneMarkup.Proofs.Finite
import SceneMarkup.Proofs.IdentifierNames
import SceneMarkup.Proofs.IndexedPlan
import SceneMarkup.Proofs.IndexedWalk
import SceneMarkup.Proofs.InstanceNames
import SceneMarkup.Proofs.Instances
import SceneMarkup.Proofs.Interposition
import SceneMarkup.Proofs.JsonLayout
import SceneMarkup.Proofs.JsonText
import SceneMarkup.Proofs.JsonTokens
import SceneMarkup.Proofs.Kept
import SceneMarkup.Proofs.Keyed
import SceneMarkup.Proofs.Layout
import SceneMarkup.Proofs.Leaves
import SceneMarkup.Proofs.Lines
import SceneMarkup.Proofs.Literal
import SceneMarkup.Proofs.Lookup
import SceneMarkup.Proofs.Marking
import SceneMarkup.Proofs.Markup
import SceneMarkup.Proofs.MaterialControls
import SceneMarkup.Proofs.Materials
import SceneMarkup.Proofs.Naming
import SceneMarkup.Proofs.Numerals
import SceneMarkup.Proofs.Overlay
import SceneMarkup.Proofs.OverlayKey
import SceneMarkup.Proofs.OverlayScript
import SceneMarkup.Proofs.Programs
import SceneMarkup.Proofs.Quoted
import SceneMarkup.Proofs.ReadNumbers
import SceneMarkup.Proofs.RecastSurvey
import SceneMarkup.Proofs.RecastUnit
import SceneMarkup.Proofs.Recasting
import SceneMarkup.Proofs.References
import SceneMarkup.Proofs.Regeneration
import SceneMarkup.Proofs.Registry
import SceneMarkup.Proofs.Renumbering
import SceneMarkup.Proofs.Reports
import SceneMarkup.Proofs.Rereading
import SceneMarkup.Proofs.Runs
import SceneMarkup.Proofs.Schema
import SceneMarkup.Proofs.Search
import SceneMarkup.Proofs.Spelling
import SceneMarkup.Proofs.TransformKeys
import SceneMarkup.Proofs.Types
import SceneMarkup.Proofs.Unbroken
import SceneMarkup.Proofs.Unfolding
import SceneMarkup.Proofs.Unnamed
import SceneMarkup.Proofs.Unreached
import SceneMarkup.Proofs.Visits
import SceneMarkup.Proofs.Walk
import SceneMarkup.Proofs.WellFormed
import SceneMarkup.Scene.Basic
import SceneMarkup.Scene.NodeClass
import SceneMarkup.Scene.Read
import SceneMarkup.Scene.Search
import SceneMarkup.Scene.Validity
import SceneMarkup.Scene.Write
import SceneMarkup.Source.Controls
import SceneMarkup.Source.Evaluation
import SceneMarkup.Source.Expression
import SceneMarkup.Source.Host
import SceneMarkup.Source.Model
import SceneMarkup.Source.Script
import SceneMarkup.Source.Types
import SceneMarkup.Survey.Basic
import SceneMarkup.Survey.Registry
import SceneMarkup.Survey.Walk
import SceneMarkup.Text
import SceneMarkup.Unicode.Alphanumeric
import SceneMarkup.Unicode.Identifier
import SceneMarkup.Unicode.Printing
import SceneMarkup.Unit
