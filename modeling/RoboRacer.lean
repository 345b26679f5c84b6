import RoboRacer.Foundation.Machine
import RoboRacer.Foundation.BoundedFifo
import RoboRacer.Foundation.KeyedStreams
import RoboRacer.Foundation.Handshake
import RoboRacer.Foundation.Seats
import RoboRacer.Foundation.WakeUp
import RoboRacer.Foundation.Slots
import RoboRacer.Foundation.Leases
import RoboRacer.Foundation.FirstMinimum
import RoboRacer.Foundation.Rotation
import RoboRacer.Foundation.Records
import RoboRacer.Foundation.RingSearch
import RoboRacer.Foundation.Unwrap
import RoboRacer.Foundation.Decimals
import RoboRacer.Driver.Types
import RoboRacer.Driver.Ldq
import RoboRacer.Driver.QueueThreads
import RoboRacer.Driver.Settings
import RoboRacer.Driver.PollThreads
import RoboRacer.Driver.FrameWakeUp
import RoboRacer.Driver.PollProgress
import RoboRacer.Driver.LidarPubHandler
import RoboRacer.Driver.LidarDevice
import RoboRacer.Driver.ImuThreads
import RoboRacer.Driver.Shutdown
import RoboRacer.Driver.PubHandler
import RoboRacer.Driver.SdkLayout
import RoboRacer.Driver.FrameSteps
import RoboRacer.Driver.Framing
import RoboRacer.Driver.CustomMsg
import RoboRacer.Driver.Timestamps
import RoboRacer.Driver.SyncModes
import RoboRacer.Driver.PublishSlots
import RoboRacer.Driver.PacketSafety
import RoboRacer.Driver.CacheIndex
import RoboRacer.Driver.Routing
import RoboRacer.Driver.LidarCallback
import RoboRacer.Driver.DeviceTable
import RoboRacer.Driver.ConfigHandshake
import RoboRacer.Driver.SamplingState
import RoboRacer.Driver.Reconfiguration
import RoboRacer.Driver.IndexRegistry
import RoboRacer.Driver.Registration
import RoboRacer.Driver.QueuePolling
import RoboRacer.Driver.RigidExtrinsic
import RoboRacer.Driver.Extrinsics
import RoboRacer.Driver.TranslationUnits
import RoboRacer.Driver.PointCloud2
import RoboRacer.Driver.ParseUserConfigs
import RoboRacer.Driver.ParserSafety
import RoboRacer.Driver.QueueLifecycle
import RoboRacer.Driver.FrameBounds
import RoboRacer.Driver.FrameOrder
import RoboRacer.Driver.Ipv4
import RoboRacer.Driver.LidarIds
import RoboRacer.Driver.TopicNames
import RoboRacer.Slam.PoseGraph
import RoboRacer.Slam.ScanMatcher
import RoboRacer.Slam.MapHandshake
import RoboRacer.Slam.MapDistance
import RoboRacer.Slam.ModifiedMap
import RoboRacer.Slam.LoopSearch
import RoboRacer.Slam.LoopCandidate
import RoboRacer.Slam.Localization
import RoboRacer.Slam.Odometry
import RoboRacer.Slam.InitialPose
import RoboRacer.Slam.Undistortion
import RoboRacer.Slam.UndistortionReads
import RoboRacer.Slam.Interpolation
import RoboRacer.Slam.SlotAgreement
import RoboRacer.Slam.PointTimes
import RoboRacer.Slam.MapLoading
import RoboRacer.Slam.ImuPointers
import RoboRacer.Foundation.GroupFold
import RoboRacer.Foundation.BoxIndex
import RoboRacer.Foundation.Moments
import RoboRacer.Foundation.Spectral
import RoboRacer.Pclomp.VoxelGrid
import RoboRacer.Pclomp.VoxelCells
import RoboRacer.Pclomp.LeafStatistics
import RoboRacer.Pclomp.Neighborhood
import RoboRacer.Pclomp.GridRuns
import RoboRacer.Pclomp.TargetGrid
import RoboRacer.Foundation.EulerAngles
import RoboRacer.Foundation.ParallelSum
import RoboRacer.Foundation.Gaussian
import RoboRacer.Pclomp.AngleDerivatives
import RoboRacer.Pclomp.PointDerivatives
import RoboRacer.Pclomp.Derivatives
import RoboRacer.Pclomp.ScoreDerivatives
import RoboRacer.Pclomp.NeighborSearch
import RoboRacer.Pclomp.StepLength
import RoboRacer.Pclomp.Align
import RoboRacer.Pclomp.Registration
import RoboRacer.Foundation.SlotCounter
import RoboRacer.Foundation.RotationAngles
import RoboRacer.Pclomp.GicpCost
import RoboRacer.Pclomp.GicpCovariances
import RoboRacer.Pclomp.GicpMatches
import RoboRacer.Pclomp.GicpOptimizer
import RoboRacer.Pclomp.Gicp
import RoboRacer.Pclomp.GicpRegistration
import RoboRacer.Foundation.Settling
import RoboRacer.Driver.PollSettling
import RoboRacer.Driver.FrameSettling
import RoboRacer.Driver.ImuStreams
import RoboRacer.Driver.DataPlane
