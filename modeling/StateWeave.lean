import StateWeave.Artifact.Binary
import StateWeave.Artifact.Text
import StateWeave.Build.Child
import StateWeave.Build.Member
import StateWeave.Build.Module
import StateWeave.Expansion
import StateWeave.Json.Forms.Declarations
import StateWeave.Json.Forms.Pipeline
import StateWeave.Json.Forms.Policies
import StateWeave.Json.Forms.Problems
import StateWeave.Json.Forms.Source
import StateWeave.Json.Forms.Symbols
import StateWeave.Json.Forms.Values
import StateWeave.Json.Printer
import StateWeave.Run.Script
import StateWeave.Proofs.Admission
import StateWeave.Proofs.Entries
import StateWeave.Proofs.Contributions
import StateWeave.Proofs.Resolved
import StateWeave.Proofs.ModuleTable
import StateWeave.Proofs.PipelineLayout
import StateWeave.Proofs.ChildNames
import StateWeave.Proofs.ActionNames
import StateWeave.Proofs.Moments
import StateWeave.Proofs.FragmentOrder
import StateWeave.Proofs.Wiring
import StateWeave.Proofs.NestedTables
import StateWeave.Proofs.NestedModules
import StateWeave.Proofs.NestedNames
import StateWeave.Proofs.ReachedChildren
import StateWeave.Proofs.Dispatch
import StateWeave.Proofs.NestedPipelines
import StateWeave.Proofs.OwnDeclarations
import StateWeave.Proofs.AccessorTypes
import StateWeave.Proofs.NestedPaths
import StateWeave.Proofs.Bindings
import StateWeave.Proofs.BindingReports
import StateWeave.Proofs.BindingRetries
import StateWeave.Proofs.BoundFragments
import StateWeave.Proofs.HandedDown
import StateWeave.Proofs.PlaceholderTypes
import StateWeave.Proofs.PlaceholderPaths
import StateWeave.Proofs.FirstRegistration
import StateWeave.Proofs.RejectedEntries
import StateWeave.Proofs.Reports
import StateWeave.Proofs.DeclarationLayout
import StateWeave.Proofs.Readers
import StateWeave.Proofs.Digits
import StateWeave.Proofs.Timestamps
import StateWeave.Proofs.Slots
import StateWeave.Proofs.ArtifactBytes
import StateWeave.Proofs.JsonLeaves
import StateWeave.Proofs.JsonText
import StateWeave.Proofs.JsonForms
import StateWeave.Proofs.ArtifactForms
import StateWeave.Proofs.ArtifactCodecs
import StateWeave.Proofs.ArtifactChecks
import StateWeave.Proofs.Levels
import StateWeave.Proofs.TableReferences
import StateWeave.Proofs.ListsInLists
import StateWeave.Proofs.Unfolding
import StateWeave.Proofs.FieldOrder
import StateWeave.Proofs.RefusedMembers
import StateWeave.Proofs.TableReports
import StateWeave.Proofs.ListPlaceholders
import StateWeave.Proofs.FragmentRoutes
import StateWeave.Proofs.ScopeSeparation
import StateWeave.Proofs.EntryFates
import StateWeave.Proofs.PresentedFields
import StateWeave.Proofs.OwnPlaceholders
import StateWeave.Proofs.ScopeQueue
import StateWeave.Proofs.CallSignatures
import StateWeave.Proofs.ScopeMarkers
import StateWeave.Proofs.SwitchTables
import StateWeave.Proofs.SortedActions
import StateWeave.Proofs.Retouches
import StateWeave.Proofs.PolicyChoices
import StateWeave.Proofs.SuppressedPipelines
import StateWeave.Proofs.MovedScopes
import StateWeave.Proofs.HostCalls
import StateWeave.Proofs.ObserverCauses
import StateWeave.Proofs.RunRecords
import StateWeave.Proofs.WrittenPaths
import StateWeave.Proofs.MisplacedDirectives
import StateWeave.Proofs.ModuleNames
import StateWeave.Proofs.ValuePlaces
import StateWeave.Proofs.EmbeddedValues
import StateWeave.Proofs.InitialReports
import StateWeave.Proofs.InitialCases
import StateWeave.Proofs.PlacedChains
import StateWeave.Proofs.SignatureViolations
import StateWeave.Proofs.BuiltChildren
import StateWeave.Proofs.OneLineTexts
import StateWeave.Proofs.RenderedLines
import StateWeave.Proofs.RegistryCalls
import StateWeave.Proofs.CaseNames
