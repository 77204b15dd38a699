import TypedSettings.DefaultLocation
import TypedSettings.Ini.Writer
import TypedSettings.Main
import TypedSettings.Proofs.Ini.RoundTrip
import TypedSettings.Proofs.Registry.Agreement
import TypedSettings.Proofs.Registry.Validity
import TypedSettings.Shared
import TypedSettings.Proofs.Registry.Independence
import TypedSettings.Proofs.Registry.Loading
import TypedSettings.Proofs.Registry.Log
import TypedSettings.Proofs.Ownership
import TypedSettings.Proofs.Registry.Checks
import TypedSettings.Proofs.Ini.OneKind
import TypedSettings.Proofs.Text.NumeralGrammar
import TypedSettings.Proofs.Ini.Scalars
import TypedSettings.Proofs.DefaultGroup
import TypedSettings.Proofs.Text.ByteOrder
import TypedSettings.Proofs.Document.Equality
import TypedSettings.Proofs.Document.Listing
import TypedSettings.Proofs.Document.TwoLevels
import TypedSettings.Proofs.Document.Placements
import TypedSettings.Proofs.Ini.Lists
import TypedSettings.Proofs.Ini.LineRules
import TypedSettings.Proofs.Ini.LastAssignment
import TypedSettings.Proofs.Ini.Parsing
import TypedSettings.Proofs.Files.Canonical
import TypedSettings.Proofs.Files.Contents
import TypedSettings.Proofs.Files.Loading
import TypedSettings.Proofs.Declarations.WriteOnce
import TypedSettings.Proofs.Ini.PrintedLists
import TypedSettings.Proofs.Ini.SectionOrder
import TypedSettings.Proofs.Binary64.ReadBack
import TypedSettings.Proofs.Text.Quoting
import TypedSettings.Proofs.StartUp.Protocol
import TypedSettings.Proofs.StartUp.Shown
import TypedSettings.Proofs.StartUp.Transcripts
