import Gramado.Apps.Terminal
import Gramado.Apps.TerminalCursor
import Gramado.Apps.TerminalParser
import Gramado.Boot.Heap
import Gramado.Boot.PageTables
import Gramado.Core.CStrings
import Gramado.Core.Format
import Gramado.Core.Kstdio
import Gramado.Core.Prompt
import Gramado.Dev.AtaArray
import Gramado.Dev.Keyboard
import Gramado.Dev.KeyboardState
import Gramado.Dev.Mouse
import Gramado.Dev.MouseDecode
import Gramado.Dev.Tty
import Gramado.Fs.ActionWord
import Gramado.Fs.FatName
import Gramado.Fs.Fifo
import Gramado.Fs.FileName
import Gramado.Fs.FileStore
import Gramado.Fs.LoadChain
import Gramado.Fs.LoadPath
import Gramado.Fs.PathWalk
import Gramado.Fs.PowerLoss
import Gramado.Gdi.Rectangle
import Gramado.Gdi.Refresh
import Gramado.Gws.ApplicationKeep
import Gramado.Gws.ApplicationList
import Gramado.Gws.BackbufferRectangle
import Gramado.Gws.Bmp
import Gramado.Gws.Caret
import Gramado.Gws.CreateOnce
import Gramado.Gws.HandShake
import Gramado.Gws.HandShakeRun
import Gramado.Gws.HitTest
import Gramado.Gws.Line3d
import Gramado.Gws.PixelRoutines
import Gramado.Gws.Plot
import Gramado.Gws.RequestAgreement
import Gramado.Gws.Tiling
import Gramado.Gws.TriangleFill
import Gramado.Ke.Clone
import Gramado.Ke.CloneOutcome
import Gramado.Ke.CloneResult
import Gramado.Ke.CloneThreads
import Gramado.Ke.Gate
import Gramado.Ke.Message
import Gramado.Ke.MessageDelivery
import Gramado.Ke.MessageOrder
import Gramado.Ke.MpTable
import Gramado.Ke.RoundRobin
import Gramado.Ke.TaskSwitchRun
import Gramado.Lib.OnesComplement
import Gramado.Lib.PageTree
import Gramado.Libc.Crt0
import Gramado.Libc.Decimal
import Gramado.Libc.Environ
import Gramado.Libc.Format
import Gramado.Libc.Inet
import Gramado.Libc.Input
import Gramado.Libc.Malloc
import Gramado.Libc.StreamRead
import Gramado.Libc.StreamWrite
import Gramado.Mm.AddressSpace
import Gramado.Mm.AddressSpaceRun
import Gramado.Mm.FirstFit
import Gramado.Mm.Ring3Memory
import Gramado.Net.ArpNetwork
import Gramado.Net.Backlog
import Gramado.Net.DhcpAcceptance
import Gramado.Net.Identity
import Gramado.Net.PacketRing
import Gramado.Net.ReceiveRing
import Gramado.Net.SocketCreation
