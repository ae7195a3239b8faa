import MicroChat.Business.AesCodec
import MicroChat.Business.AesPadding
import MicroChat.Business.AuthInfo
import MicroChat.Business.ContactRows
import MicroChat.Business.Crypto
import MicroChat.Business.Decoding
import MicroChat.Business.Delivery
import MicroChat.Business.FieldCopies
import MicroChat.Business.Fun
import MicroChat.Business.Header
import MicroChat.Business.HeaderFormat
import MicroChat.Business.Items
import MicroChat.Business.KeyLoss
import MicroChat.Business.LoginReason
import MicroChat.Business.LoginResponse
import MicroChat.Business.ManualAuth
import MicroChat.Business.MessageText
import MicroChat.Business.Messages
import MicroChat.Business.Replies
import MicroChat.Business.ReportKey
import MicroChat.Business.RsaBlocks
import MicroChat.Business.Sync
import MicroChat.Business.SyncExclusion
import MicroChat.Business.SyncKey
import MicroChat.Business.SyncTasks
import MicroChat.Business.Tasks
import MicroChat.Business.VarintCode
import MicroChat.Db.CodePage
import MicroChat.Db.LoadDB
import MicroChat.Db.LoadRecords
import MicroChat.Db.LoadResults
import MicroChat.Db.MicroChatDB
import MicroChat.Db.Sql3
import MicroChat.Db.SqlLog
import MicroChat.Db.SqlQueue
import MicroChat.Longlink.Packer
import MicroChat.Longlink.Receive
import MicroChat.Stn.Attempts
import MicroChat.Stn.Conservation
import MicroChat.Stn.DynamicTimeout
import MicroChat.Stn.LongLinkTaskManager
import MicroChat.Stn.NetCore
import MicroChat.Stn.Responses
import MicroChat.Stn.ShortLinkTaskManager
import MicroChat.Stn.Task
import MicroChat.Stn.TaskList
import MicroChat.Stn.TaskOrder
import MicroChat.Stn.Timeouts
import MicroChat.Stn.ZombieTaskManager
import MicroChat.Support.Bytes
import MicroChat.Support.Cbc
import MicroChat.Support.Framing
import MicroChat.Support.Printf
import MicroChat.Support.Ring
import MicroChat.Support.Rows
import MicroChat.Support.Runs
import MicroChat.Support.Sql
import MicroChat.Support.Sweep
import MicroChat.Support.Tiles
import MicroChat.Support.Utf16
import MicroChat.Support.Varint
import MicroChat.Ui.Callback
import MicroChat.Wrapper.Mars
import MicroChat.Wrapper.NetworkService
import MicroChat.Wrapper.TaskTimes
