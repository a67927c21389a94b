import EntityGen.Main
import EntityGen.Proofs.Casing.Identifiers
import EntityGen.Proofs.Casing.Twice
import EntityGen.Proofs.Channels
import EntityGen.Proofs.Containment
import EntityGen.Proofs.CommandLine.FirstArgument
import EntityGen.Proofs.FieldTypes
import EntityGen.Proofs.History
import EntityGen.Proofs.IntegerFields
import EntityGen.Proofs.PastedSamples
import EntityGen.Proofs.PrintAndWrite
import EntityGen.Proofs.Prompt.TwoSides
import EntityGen.Proofs.RequestSources
import EntityGen.Proofs.SampleFields
import EntityGen.Proofs.SchemaOutput
import EntityGen.Proofs.SourceReading
import EntityGen.Proofs.Sql.RoundTrip
import EntityGen.Proofs.TargetDirectory
import EntityGen.Proofs.IrrelevantEvents
import EntityGen.Proofs.NumberFields
import EntityGen.Proofs.Prompt.EditingLaws
import EntityGen.Proofs.Sql.Scripts
import EntityGen.Proofs.EarlyProbe
import EntityGen.Proofs.Prompt.CursorPlace
import EntityGen.Proofs.TypeTags
import EntityGen.Proofs.ChildNames
