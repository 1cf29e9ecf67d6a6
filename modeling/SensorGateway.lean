import SensorGateway.Config
import SensorGateway.ConnMgr.Accounting
import SensorGateway.ConnMgr.ClientHandler
import SensorGateway.ConnMgr.ClientSession
import SensorGateway.ConnMgr.Completion
import SensorGateway.ConnMgr.Lifetime
import SensorGateway.ConnMgr.LogPairing
import SensorGateway.ConnMgr.MutexDiscipline
import SensorGateway.ConnMgr.Phases
import SensorGateway.ConnMgr.Sections
import SensorGateway.ConnMgr.Sessions
import SensorGateway.ConnMgr.ShutdownWait
import SensorGateway.ConnMgr.Sockets
import SensorGateway.ConnMgr.System
import SensorGateway.ConnMgr.Threads
import SensorGateway.ConnMgr.WireFraming
import SensorGateway.Datamgr.Alarms
import SensorGateway.Datamgr.Basic
import SensorGateway.Datamgr.Entries
import SensorGateway.Datamgr.FloatAlarms
import SensorGateway.Datamgr.Init
import SensorGateway.Datamgr.Lookup
import SensorGateway.Datamgr.MapFile
import SensorGateway.Datamgr.Memory
import SensorGateway.Datamgr.Semantics
import SensorGateway.Datamgr.SensorMap
import SensorGateway.Dplist.Basic
import SensorGateway.Dplist.History
import SensorGateway.Dplist.Ownership
import SensorGateway.Dplist.Record
import SensorGateway.Dplist.References
import SensorGateway.Dplist.Refinement
import SensorGateway.Foundations.BroadcastLog
import SensorGateway.Foundations.Bytes
import SensorGateway.Foundations.ClampedList
import SensorGateway.Foundations.Dealing
import SensorGateway.Foundations.Decimal
import SensorGateway.Foundations.FloatFormat
import SensorGateway.Foundations.FloatRounding
import SensorGateway.Foundations.Heap
import SensorGateway.Foundations.HeapTable
import SensorGateway.Foundations.Interleaving
import SensorGateway.Foundations.KeyedFold
import SensorGateway.Foundations.Lines
import SensorGateway.Foundations.Mean
import SensorGateway.Foundations.Monitor
import SensorGateway.Foundations.Mutex
import SensorGateway.Foundations.Population
import SensorGateway.Foundations.Scanner
import SensorGateway.Foundations.Segment
import SensorGateway.Foundations.Simulation
import SensorGateway.Foundations.System
import SensorGateway.Foundations.Tickets
import SensorGateway.Gateway.Completion
import SensorGateway.Gateway.CsvFile
import SensorGateway.Gateway.EndOfStream
import SensorGateway.Gateway.Independence
import SensorGateway.Gateway.InsertionLog
import SensorGateway.Gateway.Invariants
import SensorGateway.Gateway.LogBytes
import SensorGateway.Gateway.LogHistories
import SensorGateway.Gateway.LogPipe
import SensorGateway.Gateway.LogProcess
import SensorGateway.Gateway.LogRefinement
import SensorGateway.Gateway.LogText
import SensorGateway.Gateway.Memory
import SensorGateway.Gateway.Moves
import SensorGateway.Gateway.NoDataLoss
import SensorGateway.Gateway.SensorNodes
import SensorGateway.Gateway.Shutdown
import SensorGateway.Gateway.SocketOwnership
import SensorGateway.Gateway.System
import SensorGateway.Gateway.Threads
import SensorGateway.Plab1.Datamgr
import SensorGateway.Plab1.FileCreator
import SensorGateway.Plab2.Logger
import SensorGateway.Plab4.Main
import SensorGateway.Plab4.OutputTest
import SensorGateway.Plab4.Pipeline
import SensorGateway.Sbuffer.Basic
import SensorGateway.Sbuffer.Broadcast
import SensorGateway.Sbuffer.Queue
import SensorGateway.Sbuffer.Wakeup
import SensorGateway.SensorNode.Main
import SensorGateway.Stdio.Printf
import SensorGateway.Stdio.RoundTrip
import SensorGateway.Stdio.Scanf
import SensorGateway.Stdio.Text
import SensorGateway.TcpSock
import SensorGateway.TcpSock.Api
import SensorGateway.TcpSock.Histories
import SensorGateway.TcpSock.Program
import SensorGateway.TcpSock.Refinement
import SensorGateway.TcpSock.Stores
