/-
Ipmx.H264.AccessUnit — the parts of an access unit that the sender and the
receiver look for.

The encoder of the sender checks a key frame for the units a recovery point
needs, and the receiver starts with an access unit that has them
(`is_recovery_access_unit` of its `main.cpp`). Both look at types of NAL units,
the sender at the SEI messages as well (`h264_sei_contains` of `h264.cpp`).
-/
import Ipmx.H264.AnnexB
import Ipmx.H264.ParameterSets
import Ipmx.H264.Sei

namespace Ipmx.H264

def kH264NalIdr : UInt8 := 5
def kH264SeiBufferingPeriod : UInt32 := 0
def kH264SeiPictureTiming : UInt32 := 1

def h264SeiContains (messages : List H264SeiMessage) (payloadType : UInt32) : Bool :=
  messages.any fun message => message.payloadType = payloadType

/-- Some unit has this type. -/
def hasNalType (nals : List NalUnit) (nalType : UInt8) : Bool :=
  nals.any fun nal => h264NalType nal = nalType

/-- Some SEI unit has a message of this type. One that does not parse has none. -/
def hasSeiMessage (nals : List NalUnit) (payloadType : UInt32) : Bool :=
  nals.any fun nal => h264NalType nal = kH264NalSei
    && (parseH264Sei nal).any fun messages => h264SeiContains messages payloadType

/-- `is_recovery_access_unit`. -/
def isRecoveryAccessUnit (annexB : Bytes) : Bool :=
  let nals := parseAnnexB annexB
  hasNalType nals kH264NalSps && hasNalType nals kH264NalPps && hasNalType nals kH264NalIdr

end Ipmx.H264
