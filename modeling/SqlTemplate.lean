import SqlTemplate.Connection.Script
import SqlTemplate.Json.Decode
import SqlTemplate.Log.Logger
import SqlTemplate.Session.Database
import SqlTemplate.Session.Request
import SqlTemplate.Proofs.CompilerHistory
import SqlTemplate.Proofs.PlaceholderAlignment
import SqlTemplate.Proofs.ShapeIndependence
import SqlTemplate.Proofs.PercentAgreement
import SqlTemplate.Proofs.PercentDecoding
import SqlTemplate.Proofs.CacheRecency
import SqlTemplate.Proofs.DrainInterleaving
import SqlTemplate.Proofs.InsertionLayout
import SqlTemplate.Proofs.MarkerNames
import SqlTemplate.Proofs.StatementRuns
import SqlTemplate.Proofs.StrictDelivery
import SqlTemplate.Proofs.LastResult
import SqlTemplate.Proofs.UniqueCutting
import SqlTemplate.Proofs.Dialogue
import SqlTemplate.Proofs.StatementWork
import SqlTemplate.Proofs.CursorUse
import SqlTemplate.Proofs.ValidatedSending
import SqlTemplate.Proofs.CursorOrder
import SqlTemplate.Proofs.FaultTranslation
import SqlTemplate.Proofs.CompilationRefusals
import SqlTemplate.Proofs.Concatenation
import SqlTemplate.Proofs.Respelling
import SqlTemplate.Proofs.OnePassLexing
import SqlTemplate.Proofs.RectangularRows
import SqlTemplate.Proofs.InsertionRendering
import SqlTemplate.Proofs.WrittenNames
import SqlTemplate.Proofs.MarkupRemoval
import SqlTemplate.Proofs.CoercionFaults
import SqlTemplate.Proofs.EntryHashing
import SqlTemplate.Proofs.BufferedRows
import SqlTemplate.Proofs.LeftEntries
import SqlTemplate.Proofs.KeywordFallback
import SqlTemplate.Proofs.ConfigCopies
import SqlTemplate.Proofs.BindingStyles
import SqlTemplate.Proofs.GaplessPlaces
import SqlTemplate.Proofs.FittingValues
import SqlTemplate.Proofs.ResultViews
