import NetworkSimulation.Library.WordBytes
import NetworkSimulation.Library.ScheduledSystem
import NetworkSimulation.Library.StutteringRefinement
import NetworkSimulation.Library.LoopRules
import NetworkSimulation.Library.QueueFamily
import NetworkSimulation.Library.QueueRow
import NetworkSimulation.Library.MessagePool
import NetworkSimulation.Library.MergedInputs
import NetworkSimulation.Library.TreeRouting
import NetworkSimulation.Library.Duplex
import NetworkSimulation.Library.RelayedDuplex
import NetworkSimulation.Library.Feed
import NetworkSimulation.Library.CumulativeAcks
import NetworkSimulation.Library.OutrunSender
import NetworkSimulation.Stack.Addressing
import NetworkSimulation.Stack.L4Protocols
import NetworkSimulation.Stack.L3Protocols
import NetworkSimulation.Stack.Pdu
import NetworkSimulation.Stack.Encapsulation
import NetworkSimulation.Stack.Reencoding
import NetworkSimulation.Stack.ArpMessages
import NetworkSimulation.Stack.Demultiplexing
import NetworkSimulation.Stack.Segmentation
import NetworkSimulation.Stack.FileLoops
import NetworkSimulation.Stack.Sockets
import NetworkSimulation.Links.WorkQueue
import NetworkSimulation.Switching.SwitchTable
import NetworkSimulation.Switching.Network
import NetworkSimulation.Switching.Cabling
import NetworkSimulation.Switching.Learning
import NetworkSimulation.Switching.Delivery
import NetworkSimulation.Switching.SingleDelivery
import NetworkSimulation.Switching.Quiescence
import NetworkSimulation.Switching.OneSwitch
import NetworkSimulation.Switching.SplitHorizon
import NetworkSimulation.Switching.Channels
import NetworkSimulation.Switching.Conversations
import NetworkSimulation.Arp.Cache
import NetworkSimulation.Arp.Resolution
import NetworkSimulation.Arp.Announcements
import NetworkSimulation.Dhcp.Messages
import NetworkSimulation.Dhcp.Server
import NetworkSimulation.Dhcp.Leases
import NetworkSimulation.Dhcp.Replies
import NetworkSimulation.Dhcp.Client
import NetworkSimulation.Dhcp.Encoders
import NetworkSimulation.Dhcp.Gateway
import NetworkSimulation.Dhcp.Agreement
import NetworkSimulation.Udp.FileTransfer
import NetworkSimulation.Udp.FrameSizes
import NetworkSimulation.Udp.Parties
import NetworkSimulation.Tcp.Parties
import NetworkSimulation.Tcp.Addressing
import NetworkSimulation.Tcp.AckClocked
import NetworkSimulation.Tcp.Refinement
import NetworkSimulation.Tcp.Safety
import NetworkSimulation.Tcp.Work
import NetworkSimulation.Tcp.Lossless
import NetworkSimulation.Tcp.Progress
import NetworkSimulation.Tcp.Stranding
import NetworkSimulation.Tcp.Deadlock
import NetworkSimulation.Tcp.FallingBehind
import NetworkSimulation.Tcp.IndexOrder
import NetworkSimulation.Tcp.Isolation
import NetworkSimulation.Tcp.ServerHandshake
import NetworkSimulation.Tcp.ClientHandshake
import NetworkSimulation.Icmp.Ping
import NetworkSimulation.Icmp.Replies
import NetworkSimulation.Icmp.PingStream
import NetworkSimulation.Icmp.Stranded
import NetworkSimulation.Monitor.FrameDetails
import NetworkSimulation.Monitor.DecodedNumbers
import NetworkSimulation.Host.FrameOwnership
import NetworkSimulation.Host.Applications
import NetworkSimulation.Threads.Lan
import NetworkSimulation.Threads.Messages
import NetworkSimulation.Threads.Hosts
import NetworkSimulation.Threads.Abstraction
import NetworkSimulation.Threads.Refinement
import NetworkSimulation.Threads.Delivery
import NetworkSimulation.Threads.Quiescence
import NetworkSimulation.Threads.Calls
import NetworkSimulation.Threads.Completion
import NetworkSimulation.Threads.Transfers
import NetworkSimulation.Threads.Datagrams
import NetworkSimulation.Threads.Leases
