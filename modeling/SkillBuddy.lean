import SkillBuddy.Lib.AndOr
import SkillBuddy.Lib.Quoted
import SkillBuddy.DotNet.Text
import SkillBuddy.DotNet.Value
import SkillBuddy.Lib.Effect
import SkillBuddy.Lib.Run
import SkillBuddy.Core.Helper
import SkillBuddy.Core.ListExtension
import SkillBuddy.Entity.Filter
import SkillBuddy.Proofs.FromJson
import SkillBuddy.Data.DataHelper
import SkillBuddy.Proofs.Literals
import SkillBuddy.Proofs.Rows
import SkillBuddy.Proofs.Values
import SkillBuddy.DotNet.SystemTextJson
import SkillBuddy.Ui.EmailPublisher
import SkillBuddy.Worker.EmailConsumerWorker
import SkillBuddy.Proofs.QueueMessage
import SkillBuddy.Proofs.Delivery
import SkillBuddy.Data.DataConnection
import SkillBuddy.Proofs.Flags
import SkillBuddy.Data.DataManager
import SkillBuddy.Proofs.Ownership
import SkillBuddy.Proofs.Transactions
import SkillBuddy.Proofs.Reuse
import SkillBuddy.Core.Cryptography
import SkillBuddy.Proofs.Decryption
import SkillBuddy.Proofs.StaticKey
import SkillBuddy.Lib.Outline
import SkillBuddy.Proofs.RowOrder
import SkillBuddy.Proofs.Traversals
import SkillBuddy.Lib.Path
import SkillBuddy.Proofs.MissingTemplate
import SkillBuddy.Proofs.TemplatePath
import SkillBuddy.Lib.Substitution
import SkillBuddy.Proofs.Placeholders
import SkillBuddy.Core.Csv
import SkillBuddy.Lib.Csv
import SkillBuddy.Proofs.CsvStandard
import SkillBuddy.Proofs.CsvRoundTrip
import SkillBuddy.Lib.Cut
import SkillBuddy.Proofs.CsvSplitting
import SkillBuddy.Lib.SortKey
import SkillBuddy.Proofs.SortOrder
import SkillBuddy.Core.Excel
import SkillBuddy.Proofs.ExcelImport
import SkillBuddy.Proofs.LocalConnection
import SkillBuddy.Proofs.Renderers
import SkillBuddy.Proofs.SuppliedHeader
import SkillBuddy.Proofs.Reload
import SkillBuddy.Core.DateTimeExtension
import SkillBuddy.Lib.Search
import SkillBuddy.Proofs.IsEmpty
import SkillBuddy.DotNet.Regex
import SkillBuddy.Core.CsvRegex
import SkillBuddy.Proofs.RegexSplitting
import SkillBuddy.Frontend.SingleProduct
import SkillBuddy.Lib.Window
import SkillBuddy.Proofs.CarouselSteps
import SkillBuddy.Proofs.CarouselWindow
import SkillBuddy.Proofs.Gestures
import SkillBuddy.Proofs.CarouselArrows
import SkillBuddy.Proofs.CarouselView
import SkillBuddy.Proofs.Swipes
import SkillBuddy.Proofs.Attempts
import SkillBuddy.Proofs.MailCount
import SkillBuddy.Proofs.Settling
import SkillBuddy.Proofs.CsvReaders
import SkillBuddy.Data.Parameters
import SkillBuddy.Proofs.Parameters
import SkillBuddy.Core.UnixTime
import SkillBuddy.Proofs.UnixTime
import SkillBuddy.Data.Conversions
import SkillBuddy.Proofs.Conversions
import SkillBuddy.Proofs.AtRest
import SkillBuddy.Proofs.SavedFilters
import SkillBuddy.Proofs.Clones
import SkillBuddy.DotNet.WellFormed
import SkillBuddy.Proofs.Ciphertexts
import SkillBuddy.Core.Streams
import SkillBuddy.Proofs.Streams
import SkillBuddy.Proofs.TimeStamps
