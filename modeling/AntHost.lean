import AntHost.Bench.Play
import AntHost.Command.SearchTimeout
import AntHost.Frame.Stream
import AntHost.Session.Interleaving
import AntHost.Transport.Serial
import AntHost.Transport.Tty
import AntHost.Proofs.Frame.Pull
import AntHost.Proofs.Frame.Run
import AntHost.Proofs.Frame.Recovery
import AntHost.Proofs.Frame.Consumption
import AntHost.Proofs.Frame.InPlace
import AntHost.Proofs.Frame.Corruption
import AntHost.Proofs.Tracker.Run
import AntHost.Proofs.Tracker.Isolation
import AntHost.Proofs.Transfer.Run
import AntHost.Proofs.Session.Reading
import AntHost.Proofs.Session.Routing
import AntHost.Proofs.Session.Bursts
import AntHost.Proofs.Session.Answers
import AntHost.Proofs.Session.Requests
import AntHost.Proofs.Session.Channels
import AntHost.Proofs.Session.Outbound
import AntHost.Proofs.Session.Progress
import AntHost.Proofs.Session.Wire
import AntHost.Proofs.Tracker.Closed
import AntHost.Proofs.Session.Ledger
import AntHost.Proofs.Session.Shutdown
import AntHost.Proofs.Session.Bookkeeping
import AntHost.Proofs.Session.Settled
import AntHost.Proofs.Session.Closing
import AntHost.Proofs.Command.Layout
import AntHost.Proofs.Command.Packing
import AntHost.Proofs.Command.Splitting
import AntHost.Proofs.Session.Delivery
import AntHost.Proofs.Session.ReceivedData
import AntHost.Proofs.Transport.SleepLine
import AntHost.Proofs.Transport.SerialWrite
import AntHost.Proofs.Transport.SerialRead
import AntHost.Proofs.Transport.UsbWrite
import AntHost.Proofs.Transport.UsbRead
import AntHost.Proofs.Queue.Run
import AntHost.Proofs.Transport.UsbRoom
import AntHost.Proofs.Command.SearchSteps
import AntHost.Proofs.Dispatch.Run
import AntHost.Proofs.Session.Deadlines
import AntHost.Proofs.Session.Senders
import AntHost.Proofs.Bench.Play
