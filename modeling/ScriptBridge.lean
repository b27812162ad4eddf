import ScriptBridge.Attribute.Expansion
import ScriptBridge.ConfigText
import ScriptBridge.HostLibrary
import ScriptBridge.Session.Run
import ScriptBridge.Session.Table
import ScriptBridge.Proofs.ArgumentKinds
import ScriptBridge.Proofs.Registration
import ScriptBridge.Proofs.SlotWrites
import ScriptBridge.Proofs.Shape
import ScriptBridge.Proofs.Activation
import ScriptBridge.Proofs.Discipline
import ScriptBridge.Proofs.ProgramDiscipline
import ScriptBridge.Proofs.CallOutcome
import ScriptBridge.Proofs.CallOrder
import ScriptBridge.Proofs.DirectCalls
import ScriptBridge.Proofs.NestedRuns
import ScriptBridge.Proofs.Nesting
import ScriptBridge.Proofs.Exclusion
import ScriptBridge.Proofs.TypedCall
import ScriptBridge.Proofs.Routines
import ScriptBridge.Proofs.Records
import ScriptBridge.Proofs.ProgramRoutines
import ScriptBridge.Proofs.Agreement
import ScriptBridge.Proofs.Histories
import ScriptBridge.Proofs.Freshness
import ScriptBridge.Proofs.SlotLayout
import ScriptBridge.Proofs.Requests
import ScriptBridge.Proofs.Publication
import ScriptBridge.Proofs.NameAddressing
import ScriptBridge.Proofs.EntryLayout
import ScriptBridge.Proofs.TypedSlots
import ScriptBridge.Proofs.ObjectIdentity
import ScriptBridge.Proofs.Reports
import ScriptBridge.Proofs.ProgramReports
import ScriptBridge.Proofs.KindAgreement
import ScriptBridge.Proofs.AddressLookup
import ScriptBridge.Proofs.InstallOrder
import ScriptBridge.Proofs.WholePhrases
import ScriptBridge.Proofs.ItemLayout
import ScriptBridge.Proofs.DescriptorTokens
import ScriptBridge.Proofs.ExpandedSignature
import ScriptBridge.Proofs.ConversionTable
import ScriptBridge.Proofs.IntegerGrammar
import ScriptBridge.Proofs.NumericFront
import ScriptBridge.Proofs.NumericBytes
import ScriptBridge.Proofs.TextPassage
import ScriptBridge.Proofs.VectorText
import ScriptBridge.Proofs.MethodResolution
import ScriptBridge.Proofs.ObjectUse
import ScriptBridge.Proofs.TypedEffects
import ScriptBridge.Proofs.ObjectRemoval
import ScriptBridge.Proofs.RecordAttachment
import ScriptBridge.Proofs.SlotNames
import ScriptBridge.Proofs.Documentation
import ScriptBridge.Proofs.ReceiverExclusion
import ScriptBridge.Proofs.NearestNumbers
import ScriptBridge.Proofs.RenderedNumbers
import ScriptBridge.Proofs.SlotAdmission
import ScriptBridge.Proofs.ArgumentForms
import ScriptBridge.Proofs.SettingGrammar
import ScriptBridge.Proofs.AcceptedItems
import ScriptBridge.Proofs.ConcreteItems
import ScriptBridge.Proofs.PublishedNames
import ScriptBridge.Proofs.ErrorPhases
import ScriptBridge.Proofs.PlainDocument
import ScriptBridge.Proofs.ConfigReadBack
import ScriptBridge.Proofs.NameCollisions
