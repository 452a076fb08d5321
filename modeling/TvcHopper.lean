import TvcHopper.Machine.Execution
import TvcHopper.Machine.Slots
import TvcHopper.Spp.ClientMessages
import TvcHopper.Spp.ClientSpec
import TvcHopper.Spp.Connecting
import TvcHopper.Spp.HostSpec
import TvcHopper.Spp.Tokens
import TvcHopper.Stcp.Listener
import TvcHopper.Spp.Handshake
import TvcHopper.Spp.Definitions
import TvcHopper.Spp.HostRequests
import TvcHopper.Machine.Pipeline
import TvcHopper.Spp.Flight
import TvcHopper.Spp.Completion
import TvcHopper.Spp.Registers
import TvcHopper.Spp.Directory
import TvcHopper.Spp.Bounds
import TvcHopper.Spp.StreamTable
import TvcHopper.Spp.Exclusive
import TvcHopper.Spp.Consistent
import TvcHopper.Spp.Neighbours
import TvcHopper.Spp.Attempt
import TvcHopper.Spp.Available
import TvcHopper.Spp.Restart
import TvcHopper.Machine.Records
import TvcHopper.Spp.Addresses
import TvcHopper.Spp.Emissions
import TvcHopper.Spp.Streams
import TvcHopper.Spp.StreamRuns
import TvcHopper.Spp.Fields
import TvcHopper.Spp.Wire
import TvcHopper.Spp.WireLimits
import TvcHopper.Machine.Semaphores
import TvcHopper.Imu.Read
import TvcHopper.Imu.SensorValues
import TvcHopper.Vehicle.Esc
import TvcHopper.Vehicle.HoverControl
import TvcHopper.Vehicle.Tasks
import TvcHopper.Vehicle.Steps
import TvcHopper.Vehicle.Stopping
import TvcHopper.Vehicle.Motor
import TvcHopper.Stcp.Senders
import TvcHopper.Spp.ClientRun
import TvcHopper.Spp.Replies
import TvcHopper.Spp.Foreign
import TvcHopper.Spp.ClientStreams
import TvcHopper.Spp.HostReading
import TvcHopper.Machine.Faults
import TvcHopper.Spp.ClientReading
import TvcHopper.Spp.ClientSafety
import TvcHopper.Machine.Pairs
import TvcHopper.Spp.Forgetting
import TvcHopper.Machine.Frames
import TvcHopper.Stcp.Grammar
import TvcHopper.Machine.BitPolynomials
import TvcHopper.Stcp.Crc
import TvcHopper.Stcp.Limits
import TvcHopper.Stcp.Overrun
import TvcHopper.Machine.Refinement
import TvcHopper.Machine.Ring
import TvcHopper.Circbuf.Cbuf
import TvcHopper.Circbuf.Misuse
import TvcHopper.Vehicle.Flights
import TvcHopper.Machine.Words
import TvcHopper.Machine.Rows
import TvcHopper.Lidar.Tfl
import TvcHopper.Vehicle.Gains
import TvcHopper.Spp.Refusals
import TvcHopper.Spp.Duplicates
import TvcHopper.Machine.Clocks
import TvcHopper.Spp.Timing
import TvcHopper.Spp.LongLists
import TvcHopper.Spp.Reporting
import TvcHopper.Telemetry.Incoming
import TvcHopper.Telemetry.Server
import TvcHopper.Telemetry.Vehicle
import TvcHopper.Telemetry.Values
import TvcHopper.Telemetry.StartOrder
import TvcHopper.Machine.Filters
import TvcHopper.Vehicle.ControlStep
import TvcHopper.Vehicle.Throttle
import TvcHopper.Vehicle.Integrator
import TvcHopper.Machine.Macros
import TvcHopper.Spp.PropertyList
import TvcHopper.Vehicle.GainTransfer
import TvcHopper.Vehicle.TelemetryData
import TvcHopper.Imu.Shtp
import TvcHopper.Imu.Transfers
import TvcHopper.Imu.Requests
import TvcHopper.Stcp.Transit
import TvcHopper.Spp.ByteLink
import TvcHopper.Spp.SerialLink
import TvcHopper.Imu.Sh2
import TvcHopper.Imu.Reports
import TvcHopper.Imu.Operations
import TvcHopper.Imu.Samples
import TvcHopper.Imu.Readings
import TvcHopper.Machine.Loops
import TvcHopper.Imu.BringUp
import TvcHopper.Machine.Rotations
import TvcHopper.Vehicle.Attitude
import TvcHopper.Vehicle.Sampling
import TvcHopper.Vehicle.Captures
