import LibraryCatalogue.Beautify
import LibraryCatalogue.Definition
import LibraryCatalogue.Endpoint
import LibraryCatalogue.Fetch
import LibraryCatalogue.Installation
import LibraryCatalogue.Registry
import LibraryCatalogue.Store
import LibraryCatalogue.Proofs.Results
import LibraryCatalogue.Proofs.Beautify.Sequence
import LibraryCatalogue.Proofs.Beautify.Usable
import LibraryCatalogue.Proofs.Beautify.Writes
import LibraryCatalogue.Proofs.Definition.Titles
import LibraryCatalogue.Proofs.Formats.Plan
import LibraryCatalogue.Proofs.Formats.Elements
import LibraryCatalogue.Proofs.Formats.Contents
import LibraryCatalogue.Proofs.Formats.Agreement
import LibraryCatalogue.Proofs.Registry.Lookup
import LibraryCatalogue.Proofs.Registry.Checkup
import LibraryCatalogue.Proofs.Registry.Resolution
import LibraryCatalogue.Proofs.Schema.Spelling
import LibraryCatalogue.Proofs.Store.Run
import LibraryCatalogue.Proofs.Store.Transparency
import LibraryCatalogue.Proofs.Store.Bookkeeping
import LibraryCatalogue.Proofs.Store.Callers
import LibraryCatalogue.Proofs.Store.Accounts
import LibraryCatalogue.Proofs.Store.Races
import LibraryCatalogue.Proofs.Registry.Coherence
import LibraryCatalogue.Proofs.Registry.Shadows
import LibraryCatalogue.Proofs.Registry.Excess
import LibraryCatalogue.Proofs.Store.Escapes
import LibraryCatalogue.Proofs.Schema.Packing
import LibraryCatalogue.Proofs.Schema.Written
import LibraryCatalogue.Proofs.Endpoint.Transcription
import LibraryCatalogue.Proofs.Schema.Shorthand
import LibraryCatalogue.Proofs.Registry.Shorthand
import LibraryCatalogue.Proofs.Beautify.Reads
import LibraryCatalogue.Proofs.Beautify.Repetition
import LibraryCatalogue.Proofs.Beautify.Exchange
import LibraryCatalogue.Proofs.Pattern.Literal
import LibraryCatalogue.Proofs.Beautify.Literal
import LibraryCatalogue.Proofs.Beautify.Spelling
import LibraryCatalogue.Proofs.Definition.Outline
import LibraryCatalogue.Proofs.Endpoint.Specials
import LibraryCatalogue.Proofs.Registry.Specials
import LibraryCatalogue.Proofs.Source.Conversion
import LibraryCatalogue.Proofs.Definition.Frozen
import LibraryCatalogue.Proofs.Error.Shown
import LibraryCatalogue.Proofs.Log.Scopes
