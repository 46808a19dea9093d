import RcTaxi.RoutePlanner
import RcTaxi.ForcedStop
import RcTaxi.ReportProtocol
import RcTaxi.VisionLoss
import RcTaxi.ErrorInvariant
import RcTaxi.ErrorEpisode
import RcTaxi.ServiceCycle
import RcTaxi.PoseOrder
import RcTaxi.TurnStart
import RcTaxi.OutputEnvelope
import RcTaxi.StopGate
import RcTaxi.VisionFreshness
import RcTaxi.NumberedRoute
import RcTaxi.RouteInvariant
import RcTaxi.ArrivalHold
import RcTaxi.ValidatorTotality
import RcTaxi.PoseChain
import RcTaxi.RouteFolding
import RcTaxi.ForcedRoute
import RcTaxi.PoseRefusal
import RcTaxi.RealPoses
import RcTaxi.ArrivalReport
import RcTaxi.PayloadTolerance
import RcTaxi.HeadingInfluence
import RcTaxi.Snapping
import RcTaxi.Trimming
import RcTaxi.Connectivity
import RcTaxi.MatchOptimality
import RcTaxi.ArrivalTrace
import RcTaxi.BicycleAgreement
import RcTaxi.SpeedWindow
import RcTaxi.MarkTrigger
import RcTaxi.TurnSanity
import RcTaxi.TurnValidation
import RcTaxi.AngleBlend
import RcTaxi.BlindBudget
import RcTaxi.FrameFit
import RcTaxi.LaneMirror
import RcTaxi.HangDetection
import RcTaxi.Drivers
import RcTaxi.FreezeGuard
import RcTaxi.VisionPublishing
import RcTaxi.Shutdown
import RcTaxi.ControlLink
import RcTaxi.ClientLoop
import RcTaxi.VisionPayload
import RcTaxi.TurnRadius
import RcTaxi.CameraFrames
import RcTaxi.LoggingThreads
import RcTaxi.WaypointCourse
import RcTaxi.TelemetryValues
