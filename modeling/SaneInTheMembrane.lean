import SaneInTheMembrane.Runs
import SaneInTheMembrane.Numbering
import SaneInTheMembrane.LittleEndian
import SaneInTheMembrane.LengthFraming
import SaneInTheMembrane.PartialIteration
import SaneInTheMembrane.Decimal
import SaneInTheMembrane.BitFields
import SaneInTheMembrane.FilePaths
import SaneInTheMembrane.ImageContainer
import SaneInTheMembrane.PageNumbering
import SaneInTheMembrane.PageMoves
import SaneInTheMembrane.SessionCodec
import SaneInTheMembrane.SessionParsing
import SaneInTheMembrane.SessionFormat
import SaneInTheMembrane.SessionService
import SaneInTheMembrane.SessionCrash
import SaneInTheMembrane.TornSession
import SaneInTheMembrane.Pdf
import SaneInTheMembrane.ImageView
import SaneInTheMembrane.ExportOrder
import SaneInTheMembrane.PdfExport
import SaneInTheMembrane.RectangleBounds
import SaneInTheMembrane.PdfPlacement
import SaneInTheMembrane.ToolbarTransforms
import SaneInTheMembrane.SessionTracking
import SaneInTheMembrane.SessionRestore
import SaneInTheMembrane.RestoreNumbering
import SaneInTheMembrane.ModifiedFlag
import SaneInTheMembrane.RestorePrompts
import SaneInTheMembrane.Packing
import SaneInTheMembrane.SaneDevice
import SaneInTheMembrane.SaneCalls
import SaneInTheMembrane.SaneMock
import SaneInTheMembrane.SaneProtocol
import SaneInTheMembrane.DeviceLists
import SaneInTheMembrane.DeviceRefresh
import SaneInTheMembrane.DeviceFetches
import SaneInTheMembrane.ScanReactor
import SaneInTheMembrane.ScanStream
import SaneInTheMembrane.ScanReader
import SaneInTheMembrane.ScanImage
import SaneInTheMembrane.ScanProgress
import SaneInTheMembrane.ScanDiscipline
import SaneInTheMembrane.SharedScanner
import SaneInTheMembrane.ScanIndependence
import SaneInTheMembrane.ScanServer
import SaneInTheMembrane.UniqueIds
import SaneInTheMembrane.ScanEndToEnd
import SaneInTheMembrane.ReaderCompletion
import SaneInTheMembrane.ServiceReplacement
import SaneInTheMembrane.ScanButton
import SaneInTheMembrane.MdnsQuery
import SaneInTheMembrane.MdnsAutoFinder
import SaneInTheMembrane.ChannelStateWatcher
import SaneInTheMembrane.AvahiShutdown
import SaneInTheMembrane.AvahiNames
import SaneInTheMembrane.StdinWorker
import SaneInTheMembrane.IpcServer
import SaneInTheMembrane.ServerLifecycle
import SaneInTheMembrane.ServerHalting
import SaneInTheMembrane.ServerShutdown
import SaneInTheMembrane.FileStore
import SaneInTheMembrane.ManagedFiles
import SaneInTheMembrane.ClientScans
import SaneInTheMembrane.TempFiles
import SaneInTheMembrane.RefreshPanel
import SaneInTheMembrane.RestartOrder
import SaneInTheMembrane.AutoDiscovery
import SaneInTheMembrane.DiscoveryNotices
import SaneInTheMembrane.MdnsDiscovery
