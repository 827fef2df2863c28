import Sdm.Lib.CString
import Sdm.Lib.Scan
import Sdm.Lib.Machine
import Sdm.Lib.SlotTable
import Sdm.Lib.Memory
import Sdm.Lib.Fifo
import Sdm.Lib.LinkedList
import Sdm.Lib.SearchTree
import Sdm.Lib.LockProgram
import Sdm.Lib.LockOrder
import Sdm.Lib.Ownership
import Sdm.Lib.Scanner
import Sdm.Lib.Packing
import Sdm.Message.ComponentID
import Sdm.Message.Requests
import Sdm.Message.TaskMessages
import Sdm.Message.PostTask
import Sdm.Message.Decoders
import Sdm.Message.Encoders
import Sdm.Message.RoundTrip
import Sdm.Message.Marshalling
import Sdm.Message.XTEDSMessage
import Sdm.Common.TaskResources
import Sdm.Common.Queues
import Sdm.Common.SubscriptionManager
import Sdm.Common.LiveSubscriptions
import Sdm.Common.SubscriptionCopies
import Sdm.Common.Semaphore
import Sdm.Common.MessageManager
import Sdm.Common.MessageDefinition
import Sdm.Common.MessageManipulator
import Sdm.Common.Threads
import Sdm.Common.Regex
import Sdm.Common.Monitors
import Sdm.Lib.Verdict
import Sdm.XTEDS.Document
import Sdm.XTEDS.Verification
import Sdm.Lib.Building
import Sdm.XTEDS.Items
import Sdm.XTEDS.NullSafety
import Sdm.Lib.Decimal
import Sdm.XTEDS.Qualifiers
import Sdm.XTEDS.Messages
import Sdm.DM.SubscriptionList
import Sdm.DM.Registration
import Sdm.DM.Publish
import Sdm.DM.SubscriptionKinds
import Sdm.DM.SubscriptionTexts
import Sdm.DM.SubscriptionTable
import Sdm.DM.XTEDSLibrary
import Sdm.DM.Search
import Sdm.DM.SearchReplies
import Sdm.DM.ProviderSubscriptionList
import Sdm.DM.Consume
import Sdm.DM.NamedDocument
import Sdm.DM.ReqReg
import Sdm.DM.ReqRegReplies
import Sdm.DM.Posting
import Sdm.DM.HelloQueue
import Sdm.DM.Registry
import Sdm.DM.Handlers
import Sdm.DM.RegisteredNames
import Sdm.DM.SensorIDs
import Sdm.DM.Retransmission
import Sdm.DM.RejectedCancel
import Sdm.DM.SegmentBuilder
import Sdm.DM.SegmentNodes
import Sdm.DM.Reassembly
import Sdm.DM.SegmentTransfers
import Sdm.DM.SegmentBounds
import Sdm.DM.MessageHandOff
import Sdm.DM.SlotLocks
import Sdm.DM.Services
import Sdm.DM.ServiceReplies
import Sdm.DM.LockedHandlers
import Sdm.DM.TimeAtTone
import Sdm.DM.LockDiscipline
import Sdm.TM.PMRecordList
import Sdm.TM.FailureDetection
import Sdm.TM.TaskList
import Sdm.TM.TaskManager
import Sdm.TM.TaskIdentity
import Sdm.TM.LoadAccounting
import Sdm.TM.StrandedTasks
import Sdm.TM.StartTask
import Sdm.TM.LoadBalance
import Sdm.SM.TCPMonitor
import Sdm.Common.ListenTCP
import Sdm.SM.SensorRegistration
import Sdm.SM.SensorLocks
import Sdm.SM.MutexOwnership
import Sdm.SM.MessageRouting
import Sdm.SM.MessageCounters
import Sdm.Lib.History
import Sdm.Spa1.Asim
import Sdm.Spa1.Registration
import Sdm.Spa1.AsimTable
import Sdm.Spa1.Translator
import Sdm.PM.CodeTransfer
import Sdm.PM.FileTransfer
import Sdm.Lib.Least
import Sdm.Common.SecTime
import Sdm.Common.LongTime
import Sdm.Common.TimerList
import Sdm.Lib.Int32
import Sdm.Common.TimerService
import Sdm.Lib.ListIndex
import Sdm.PM.PMProcessList
import Sdm.PM.ProcessManager
import Sdm.Lib.Checked
import Sdm.Lib.Reading
import Sdm.Spa1.Reception
import Sdm.Spa1.XtedsReception
import Sdm.Spa1.MessageQueue
import Sdm.TM.TaskOrigin
import Sdm.TM.TaskReport
import Sdm.Message.SendTo
import Sdm.Common.VarInfoParser
import Sdm.Common.ParseHistory
import Sdm.XTEDS.QualifierParse
import Sdm.XTEDS.PatternSearch
import Sdm.XTEDS.ServiceIds
import Sdm.XTEDS.Portion
import Sdm.XTEDS.DefinitionOwnership
import Sdm.Lib.Custody
import Sdm.PM.TaskConservation
import Sdm.PM.KillTargets
import Sdm.DM.Attribute
import Sdm.Lib.Occurrence
import Sdm.TM.InitialStartUp
import Sdm.DM.DeviceName
import Sdm.DM.HubPath
import Sdm.Common.InvalidValues
import Sdm.PM.HangDetection
import Sdm.Lib.Progress
import Sdm.PM.LossyTransfer
import Sdm.PM.PipeRead
import Sdm.Common.MessageLog
import Sdm.Common.AsimRead
import Sdm.SM.SensorPayload
import Sdm.DM.MergeConfig
import Sdm.Lib.Crc
import Sdm.Common.Checksum
import Sdm.Message.CodeChecksum
import Sdm.DM.SubscriptionKeys
import Sdm.DM.BackupReplication
import Sdm.Lib.Overlay
import Sdm.DM.StoredXTEDS
import Sdm.DM.ProviderLink
import Sdm.Spa1.AsimSearch
import Sdm.Common.DefinitionTokens
import Sdm.XTEDS.Definition
import Sdm.XTEDS.DeclaredMessages
import Sdm.Common.MessageArrays
