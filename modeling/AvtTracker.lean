import AvtTracker.Foundation.MaskAccounting
import AvtTracker.Foundation.PrefixSoundness
import AvtTracker.Tracker.RoundTrip
import AvtTracker.Tracker.Segmentation
import AvtTracker.Tracker.Conservation
import AvtTracker.Tracker.Accounting
import AvtTracker.Tracker.Acknowledgement
import AvtTracker.Tracker.AsciiFields
import AvtTracker.Tracker.BuiltFrames
import AvtTracker.Tracker.Envelope
import AvtTracker.Tracker.Ingest
import AvtTracker.Tracker.Recovery
import AvtTracker.Tcp.OnlineDevices
import AvtTracker.Tracker.CanAdvancedExtension
import AvtTracker.Tracker.ReportExtension
import AvtTracker.Tracker.Truncation
import AvtTracker.Starlink.LineSplitter
import AvtTracker.Starlink.BuiltLines
import AvtTracker.Tcp.LiveSockets
import AvtTracker.Tracker.OnlineFlag
import AvtTracker.Tracker.Polling
import AvtTracker.Tracker.Replies
import AvtTracker.Persistence.ReportOrder
import AvtTracker.Tracker.FrameAgreement
import AvtTracker.Starlink.FieldIsolation
import AvtTracker.Starlink.StrictValues
import AvtTracker.Tracker.LengthAgreement
import AvtTracker.Tracker.Resync
import AvtTracker.Tracker.PeoFences
import AvtTracker.Tracker.PeoFabrication
import AvtTracker.Tracker.ImeiIdentity
import AvtTracker.Persistence.Timestamps
import AvtTracker.Starlink.Coordinates
import AvtTracker.Starlink.LineOverflow
import AvtTracker.Tracker.Quiescence
import AvtTracker.Tracker.ReportTables
import AvtTracker.Starlink.ReportTables
import AvtTracker.Foundation.Settling
import AvtTracker.Tracker.Provenance
import AvtTracker.Publishing.Settlement
import AvtTracker.Monitoring.Reads
import AvtTracker.Starlink.NumberAccuracy
import AvtTracker.Starlink.SentReports
import AvtTracker.Foundation.FramingArrivals
import AvtTracker.Tracker.SentFrames
import AvtTracker.Foundation.Columns
import AvtTracker.Foundation.Postconditions
import AvtTracker.Tracker.ReportColumns
import AvtTracker.Foundation.NumberedRows
import AvtTracker.Publishing.SentReports
