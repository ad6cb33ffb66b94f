import Agenda.Calendar.Date
import Agenda.Calendar.DateTime
import Agenda.Cli
import Agenda.Command
import Agenda.History
import Agenda.Json.Printer
import Agenda.Json.Reader
import Agenda.Json.Value
import Agenda.Language.Action
import Agenda.Language.Body
import Agenda.Language.Filter
import Agenda.Language.IdList
import Agenda.Language.Line
import Agenda.Language.Period
import Agenda.Language.Phrase
import Agenda.Language.Refusal
import Agenda.Main
import Agenda.Proofs.Calendar.Date
import Agenda.Proofs.Calendar.DateTime
import Agenda.Proofs.Calendar.Weekday
import Agenda.Proofs.Command.AnyList
import Agenda.Proofs.Command.Balance
import Agenda.Proofs.Command.Log
import Agenda.Proofs.Command.Named
import Agenda.Proofs.Command.Position
import Agenda.Proofs.Command.TiedTasks
import Agenda.Proofs.Command.Trade
import Agenda.Proofs.Command.WayBack
import Agenda.Proofs.Json.Number
import Agenda.Proofs.Json.Text
import Agenda.Proofs.Json.Value
import Agenda.Proofs.Language.Addition
import Agenda.Proofs.Language.Body
import Agenda.Proofs.Language.Command
import Agenda.Proofs.Language.Edit
import Agenda.Proofs.Language.Figures
import Agenda.Proofs.Language.IdList
import Agenda.Proofs.Language.ImplicitAddition
import Agenda.Proofs.Language.Line
import Agenda.Proofs.Language.Period
import Agenda.Proofs.Language.Phrase
import Agenda.Proofs.Language.StandardForm
import Agenda.Proofs.Language.Synonyms
import Agenda.Proofs.Language.WrittenIds
import Agenda.Proofs.Screen.InputLine
import Agenda.Proofs.Screen.Reminder
import Agenda.Proofs.Screen.Rows
import Agenda.Proofs.Screen.Run
import Agenda.Proofs.Screen.Selection
import Agenda.Proofs.Session.Answers
import Agenda.Proofs.Session.Failure
import Agenda.Proofs.Session.Newest
import Agenda.Proofs.Session.NoTargets
import Agenda.Proofs.Session.Reminders
import Agenda.Proofs.Session.Restart
import Agenda.Proofs.Session.Run
import Agenda.Proofs.Session.Search
import Agenda.Proofs.Session.Shown
import Agenda.Proofs.Session.Tasks
import Agenda.Proofs.Session.Timeline
import Agenda.Proofs.Session.WellFormed
import Agenda.Proofs.Storage.Disk
import Agenda.Proofs.Storage.Path
import Agenda.Proofs.Storage.Record
import Agenda.Proofs.Store.Call
import Agenda.Proofs.Store.FindText
import Agenda.Proofs.Store.Order
import Agenda.Proofs.Store.Repository
import Agenda.Proofs.Store.Ties
import Agenda.Proofs.Store.Transaction
import Agenda.Proofs.Store.Upcoming
import Agenda.Proofs.Task.Countdown
import Agenda.Proofs.Task.DueDays
import Agenda.Proofs.Task.TagSet
import Agenda.Proofs.TaskList
import Agenda.Proofs.Text.Bytes
import Agenda.Proofs.Text.CaseContext
import Agenda.Proofs.Text.Columns
import Agenda.Proofs.Text.Decimal
import Agenda.Proofs.Text.LowerCase
import Agenda.Proofs.Text.Runs
import Agenda.Proofs.Text.Words
import Agenda.Screen.Canvas
import Agenda.Screen.Console
import Agenda.Screen.Draw
import Agenda.Screen.Keyboard
import Agenda.Screen.Widgets
import Agenda.Session
import Agenda.Storage.Disk
import Agenda.Storage.Path
import Agenda.Storage.Record
import Agenda.Storage.Settings
import Agenda.Store.Basic
import Agenda.Store.Draft
import Agenda.Store.Error
import Agenda.Store.Order
import Agenda.Store.Repository
import Agenda.Store.TaskList
import Agenda.Task.Basic
import Agenda.Task.Countdown
import Agenda.Task.TagSet
import Agenda.Text.Blank
import Agenda.Text.Bytes
import Agenda.Text.CaseTable
import Agenda.Text.Cluster
import Agenda.Text.ClusterTable
import Agenda.Text.Decimal
import Agenda.Text.Emoji
import Agenda.Text.EmojiTable
import Agenda.Text.Ligature
import Agenda.Text.LowerCase
import Agenda.Text.Ranges
import Agenda.Text.Search
import Agenda.Text.Width
import Agenda.Text.WidthTable
import Agenda.Text.Word
import Agenda.Text.WordTable
import Agenda.View.Columns
import Agenda.View.Guide
import Agenda.View.Listing
import Agenda.View.Table
import Agenda.Proofs.Language.PhraseWords
import Agenda.Proofs.Language.Mentions
import Agenda.Proofs.Language.ReadMentions
import Agenda.Proofs.Language.WrittenPeriod
import Agenda.Proofs.Session.OtherTasks
import Agenda.Proofs.Language.IdTokens
import Agenda.Proofs.Session.Additions
import Agenda.Proofs.Language.EditedTags
import Agenda.Proofs.Language.ArrangedBody
import Agenda.Proofs.Storage.Loading
import Agenda.Proofs.Store.TaskFile
