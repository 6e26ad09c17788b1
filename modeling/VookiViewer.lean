import VookiViewer.Lib.Machine
import VookiViewer.Lib.StageChain
import VookiViewer.Lib.Grid
import VookiViewer.Lib.Fit
import VookiViewer.Lib.Updates
import VookiViewer.Lib.GroupedOrder
import VookiViewer.Lib.Levels
import VookiViewer.Util.RotatingIndex
import VookiViewer.Util.RotatingCounter
import VookiViewer.Util.Misc
import VookiViewer.Util.MenuLevels
import VookiViewer.Qt.Gui
import VookiViewer.Qt.Instances
import VookiViewer.Qt.FileSystem
import VookiViewer.Qt.Settings
import VookiViewer.Processing.ImageTransformation
import VookiViewer.Processing.ImageProcessor
import VookiViewer.Processing.CacheCoherence
import VookiViewer.Processing.Orientation
import VookiViewer.Processing.FitToArea
import VookiViewer.Processing.ImageLoader
import VookiViewer.Model.ImageCatalog
import VookiViewer.Model.OpenedFile
import VookiViewer.Model.FileSystemSortFilterProxyModel
import VookiViewer.Ui.ImageAreaWidget
import VookiViewer.Ui.PointerDrag
import VookiViewer.Ui.WheelSteps
import VookiViewer.Ui.EventLoop
import VookiViewer.Ui.AnimationClock
import VookiViewer.Ui.MetadataOrder
import VookiViewer.Ui.FailedShow
import VookiViewer.Ui.ZoomRange
import VookiViewer.Ui.ZoomActions
import VookiViewer.Ui.FullScreen
import VookiViewer.Ui.Settings
import VookiViewer.Ui.RecentFiles
import VookiViewer.Ui.SettingsDialog
import VookiViewer.Ui.SettingsTransaction
import VookiViewer.Ui.ShortcutSessions
import VookiViewer.Processing.Viewport
import VookiViewer.Processing.BorderFrame
import VookiViewer.Util.ByteSize
import VookiViewer.Processing.AnimationFrames
import VookiViewer.Exiv2.Exif
import VookiViewer.Lib.Interruption
import VookiViewer.Processing.MetadataExtractor
import VookiViewer.Processing.MetadataCalls
import VookiViewer.Processing.MetadataFrame
import VookiViewer.Processing.MetadataReport
import VookiViewer.Processing.MetadataRows
import VookiViewer.Processing.MetadataIndices
import VookiViewer.Lib.Projection
import VookiViewer.Ui.MainWindow
import VookiViewer.Ui.WindowParts
import VookiViewer.Ui.WindowNavigation
import VookiViewer.Processing.Rendering
import VookiViewer.Ui.PictureFreshness
import VookiViewer.Ui.WindowDisplay
import VookiViewer.Ui.WindowSettings
import VookiViewer.Ui.StatusLabels
import VookiViewer.Lib.Saturation
import VookiViewer.Processing.Scrolling
import VookiViewer.Ui.ScrollWalk
import VookiViewer.Ui.Screen
import VookiViewer.Ui.WindowRestart
import VookiViewer.Ui.DialogRoundTrip
import VookiViewer.Lib.Thinning
import VookiViewer.Ui.UnseenCommands
import VookiViewer.Ui.FullScreenVisit
import VookiViewer.Ui.WindowRecords
import VookiViewer.Processing.TurnedPicture
import VookiViewer.Ui.TurnedView
import VookiViewer.Ui.DragWalk
import VookiViewer.Ui.FitInForce
import VookiViewer.Ui.ShownFile
