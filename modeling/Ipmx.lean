import Ipmx.H264.AnnexBTheorems
import Ipmx.H264.Dimensions
import Ipmx.H264.ParameterSetsTheorems
import Ipmx.H264.SeiTheorems
import Ipmx.H264.SpsSyntaxTheorems
import Ipmx.Lib.BigEndian
import Ipmx.Lib.ByteOrder
import Ipmx.Lib.OnesComplement
import Ipmx.Lib.SerialNumber
import Ipmx.Lib.Trace
import Ipmx.Lib.Word64
import Ipmx.Lib.WorkQueue
import Ipmx.Lib.VirtualScheduling
import Ipmx.Pcap.AsyncPcapRtpWriterTheorems
import Ipmx.Pcap.PcapRtpWriterTheorems
import Ipmx.Receiver.ReceiveLoopTheorems
import Ipmx.Rtcp.CompoundTheorems
import Ipmx.Rtcp.InspectTheorems
import Ipmx.Rtcp.MediaInfo
import Ipmx.Rtcp.Vouched
import Ipmx.Receiver.DecodedPictures
import Ipmx.Receiver.LateJoin
import Ipmx.Rtp.BoundedState
import Ipmx.Rtp.CheckedParse
import Ipmx.Rtp.NalTypes
import Ipmx.Rtp.Reordering
import Ipmx.Rtp.SequenceTrackerTheorems
import Ipmx.Rtp.Sources
import Ipmx.Rtp.WireDiscipline
import Ipmx.Sdp.Acceptance
import Ipmx.Sdp.ReadStream
import Ipmx.Sender.ScreenCaptureTheorems
import Ipmx.Sender.SessionTheorems
import Ipmx.Sender.StreamDescriptionTheorems
import Ipmx.Sender.CaptureFile
import Ipmx.Sender.ClockAlignment
import Ipmx.Sender.TransmitQueueTheorems
import Ipmx.Sender.PacedTraffic
import Ipmx.System.Agreement
import Ipmx.System.Pipeline
import Ipmx.Timing.FrameIntervalTrackerTheorems
import Ipmx.Timing.FrameRun
import Ipmx.Timing.PeakBacklog
import Ipmx.Timing.TrafficShaperTheorems
import Ipmx.Video.BgraToNv12Theorems
import Ipmx.Video.NarrowRange
