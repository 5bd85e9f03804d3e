import WolkConnect.Lib.Run
import WolkConnect.Lib.OrderedMap
import WolkConnect.Session.Frame
import WolkConnect.Session.Invariant
import WolkConnect.Session.Transfer
import WolkConnect.Service.Model
import WolkConnect.Service.System
import WolkConnect.Service.Core
import WolkConnect.Service.Keyed
import WolkConnect.Service.Uploads
import WolkConnect.Service.Integrity
import WolkConnect.Service.Deletion
import WolkConnect.Service.NullSafety
import WolkConnect.Service.Files
import WolkConnect.Service.Listing
import WolkConnect.Error.Retention
import WolkConnect.Lib.Heap
import WolkConnect.Lib.HeapSort
import WolkConnect.Registration.Response
import WolkConnect.Download.Model
import WolkConnect.Download.Single
import WolkConnect.Download.Lifetime
import WolkConnect.Download.Accounted
import WolkConnect.Download.Mixing
import WolkConnect.Data.ByDevice
import WolkConnect.Data.Current
import WolkConnect.Data.Details
import WolkConnect.Data.Flush
import WolkConnect.Data.Isolation
import WolkConnect.Data.Operations
import WolkConnect.Data.Overtaking
import WolkConnect.Data.Readings
import WolkConnect.Data.Ledger
import WolkConnect.Data.Matching
import WolkConnect.Data.Subscriptions
import WolkConnect.Data.Updates
import WolkConnect.Service.Reports
import WolkConnect.Service.Statuses
import WolkConnect.Service.Orphans
import WolkConnect.Connection.Attempts
import WolkConnect.Connection.Final
import WolkConnect.Error.Arrivals
import WolkConnect.Error.Await
import WolkConnect.Registration.AsyncQueries
import WolkConnect.Registration.Requests
import WolkConnect.Registration.GivingUp
import WolkConnect.Firmware.Apt
import WolkConnect.Firmware.Transactions
import WolkConnect.Firmware.Signals
import WolkConnect.Firmware.Draining
import WolkConnect.Firmware.Listener
import WolkConnect.Firmware.Reconnect
import WolkConnect.Firmware.Abort
import WolkConnect.Registration.Waiting
import WolkConnect.Session.Retries
import WolkConnect.Session.Digest
import WolkConnect.Session.Bounds
import WolkConnect.Service.Quiet
import WolkConnect.Service.Requests
import WolkConnect.Service.Registry
import WolkConnect.Connection.Listener
import WolkConnect.Service.Paths
import WolkConnect.Service.Folders
import WolkConnect.Service.Notices
import WolkConnect.Service.Erasure
import WolkConnect.Service.Independence
import WolkConnect.Builder.Model
import WolkConnect.Builder.Services
import WolkConnect.Builder.DeviceList
import WolkConnect.Builder.Use
import WolkConnect.Builder.Parameters
import WolkConnect.Download.Answers
import WolkConnect.Download.FileName
import WolkConnect.Download.Parts
import WolkConnect.Download.Locking
import WolkConnect.Registration.QueryKeys
import WolkConnect.Firmware.Debian
import WolkConnect.Firmware.LateCallbacks
import WolkConnect.Firmware.DBus
import WolkConnect.Firmware.AptBus
import WolkConnect.Firmware.Pipeline
import WolkConnect.Firmware.Rollout
import WolkConnect.Monitor.Maximum
import WolkConnect.Monitor.Samples
import WolkConnect.Monitor.Address
import WolkConnect.Connector.Model
import WolkConnect.Connector.Work
import WolkConnect.Connector.Requests
import WolkConnect.Connector.Devices
import WolkConnect.Data.Addressed
import WolkConnect.Connector.Delivery
import WolkConnect.Connector.Handlers
import WolkConnect.Connector.Link
import WolkConnect.Connector.Latest
import WolkConnect.Service.Device
import WolkConnect.Service.Exchange
