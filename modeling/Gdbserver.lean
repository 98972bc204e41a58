import Gdbserver.Logic.Prog
import Gdbserver.Logic.Runs
import Gdbserver.Logic.Detour
import Gdbserver.Logic.Escapes
import Gdbserver.Logic.Delimited
import Gdbserver.Logic.Loop
import Gdbserver.Logic.Insertion
import Gdbserver.Logic.Comparator
import Gdbserver.Logic.Slots
import Gdbserver.Logic.PrefixFree
import Gdbserver.Foundation.Bytes
import Gdbserver.Foundation.Buffer
import Gdbserver.Foundation.Hex
import Gdbserver.Foundation.Ftl
import Gdbserver.Foundation.Numerals
import Gdbserver.Foundation.Scanf
import Gdbserver.Rsp.Packet
import Gdbserver.Rsp.Framing
import Gdbserver.Rsp.PacketGrammar
import Gdbserver.Rsp.StopReplyPacket
import Gdbserver.Rsp.ThreadActionList
import Gdbserver.Rsp.ThreadIds
import Gdbserver.Rsp.StopReplyGrammar
import Gdbserver.Rsp.ActionGrammar
import Gdbserver.Inferior.Kernel
import Gdbserver.Inferior.State
import Gdbserver.Inferior.Arch
import Gdbserver.Inferior.RegisterLayout
import Gdbserver.Inferior.Thread
import Gdbserver.Inferior.Process
import Gdbserver.Inferior.SingleStep
import Gdbserver.Inferior.ExceptionPort
import Gdbserver.Server.CommandHandler
import Gdbserver.Server.RspServer
import Gdbserver.Server.Exceptions
import Gdbserver.Server.Debugserver
import Gdbserver.Server.ReadLoop
import Gdbserver.Inferior.Effects
import Gdbserver.Inferior.Actions
import Gdbserver.Inferior.Breakpoints
import Gdbserver.Inferior.LifecycleProperties
import Gdbserver.Server.Replies
import Gdbserver.Server.ResponseSizes
import Gdbserver.Server.LifecycleCommands
import Gdbserver.Server.CommandActions
import Gdbserver.Server.CommandHandlerProperties
import Gdbserver.Inferior.History
import Gdbserver.Server.ExceptionProperties
import Gdbserver.Server.DebugserverProperties
import Gdbserver.Server.Attachment
import Gdbserver.Server.LifecycleSafety
import Gdbserver.Server.Assertions
import Gdbserver.Server.Notifications
import Gdbserver.Server.Answers
import Gdbserver.Server.Payloads
import Gdbserver.Server.Delivery
import Gdbserver.Server.Timeouts
import Gdbserver.Server.VCont
import Gdbserver.Server.ResponseFraming
import Gdbserver.Server.MessageLoop
import Gdbserver.Server.PickOne
import Gdbserver.Server.RunAnswer
import Gdbserver.Server.RunArguments
import Gdbserver.Server.InputActions
import Gdbserver.Server.KernelView
import Gdbserver.Server.RegisterCache
import Gdbserver.Server.AuxvTransfer
import Gdbserver.Server.BreakpointCycles
import Gdbserver.Server.TrapFlag
import Gdbserver.Server.ReportedSignal
import Gdbserver.Server.CurrentThread
import Gdbserver.Server.Tenancy
import Gdbserver.Server.ThreadLiveness
import Gdbserver.Server.ThreadList
import Gdbserver.Server.MemoryCommands
import Gdbserver.Server.Continue
import Gdbserver.Utils.ByteBlock
import Gdbserver.Utils.ElfReader
import Gdbserver.Utils.BuildId
import Gdbserver.Utils.NoteBounds
import Gdbserver.Utils.DsoList
import Gdbserver.Utils.ElfSymtab
import Gdbserver.Utils.SymbolLookup
import Gdbserver.Utils.LoadMaps
import Gdbserver.Utils.LoadMapLimits
import Gdbserver.Utils.LoadMapRecords
import Gdbserver.Utils.KtraceReader
import Gdbserver.IntelPt.Sideband
import Gdbserver.IntelPt.TraceFiles
import Gdbserver.Ipt.BufferDump
import Gdbserver.Ipt.DumpComplete
import Gdbserver.Ipt.BufferOwnership
import Gdbserver.Ipt.ConfigOptions
import Gdbserver.IntelPt.RawPrinter
import Gdbserver.SimplePt.CallPrinterColumns
import Gdbserver.IntelPt.DecoderSideband
import Gdbserver.Ipt.Session
