import InProcessSql.Executor.Native
import InProcessSql.Workload.ConnectionRequest
import InProcessSql.Workload.ExecutorRequest
import InProcessSql.Proofs.Sql.LexicalItems
import InProcessSql.Proofs.Sql.Rereading
import InProcessSql.Proofs.ReaderStates
import InProcessSql.Proofs.NameLookup
import InProcessSql.Proofs.Plans
import InProcessSql.Proofs.RespectedRelations
import InProcessSql.Proofs.Executor.Answers
import InProcessSql.Proofs.Executor.Datums
import InProcessSql.Proofs.Sessions
import InProcessSql.Proofs.HandedOver
import InProcessSql.Proofs.RowDelivery
import InProcessSql.Proofs.Calendar.Rereading
import InProcessSql.Proofs.TextFormat.Elements
import InProcessSql.Proofs.TextFormat.ArrayTexts
import InProcessSql.Proofs.TextFormat.Rereading
import InProcessSql.Proofs.KeptPlans
import InProcessSql.Proofs.ParameterOrder
import InProcessSql.Proofs.AgreeingRuns
import InProcessSql.Proofs.Executor.ErasedValues
import InProcessSql.Proofs.UnseenValues
import InProcessSql.Proofs.Sql.WholePlaceholders
import InProcessSql.Proofs.StagedPlans
import InProcessSql.Proofs.Calendar.Words
import InProcessSql.Proofs.Calendar.Extent
import InProcessSql.Proofs.Executor.Words
import InProcessSql.Proofs.Executor.NativeValues
import InProcessSql.Proofs.Executor.SettledWords
import InProcessSql.Proofs.TextFormat.BytesTexts
import InProcessSql.Proofs.RefusedPlans
import InProcessSql.Proofs.Executor.LaterErrors
import InProcessSql.Proofs.PlannedFirst
import InProcessSql.Proofs.FailingStages
import InProcessSql.Proofs.ArrayConversion
import InProcessSql.Proofs.RowPlaces
import InProcessSql.Proofs.TypedReads
import InProcessSql.Proofs.RowAccess
import InProcessSql.Proofs.LaterReaders
import InProcessSql.Proofs.Turns
import InProcessSql.Proofs.Retries
import InProcessSql.Proofs.TypeTags
import InProcessSql.Proofs.NativeTypes
import InProcessSql.Proofs.ConnectionStrings
import InProcessSql.Proofs.Executor.Achievements
import InProcessSql.Proofs.StatementLog
import InProcessSql.Proofs.Executor.IssuedDatums
import InProcessSql.Proofs.Executor.CursorHistories
import InProcessSql.Proofs.RowCopies
import InProcessSql.Proofs.TextBytes
import InProcessSql.Proofs.Sql.Scanning
