/-
Ipmx.Sdp.ValidateSdp — `validate_ipmx_sdp` of `sdp.cpp`.

The errors come in the order of the source. The profile of an SPS that is none
throws, which a description that was read never reaches.
-/
import Ipmx.Sdp.ReadSdp

namespace Ipmx.Sdp

open H264
open Ipmx.Lib
open Rtp

/-- `require`. -/
def require (condition : Prop) [Decidable condition] (message : String) : List String :=
  if condition then [] else [message]

/-- The requirements on the lines of the media description. -/
def validateMedia (d : SdpDescription) : List String :=
  require d.mediaSeen "missing RTP/AVP video media line"
    ++ require (d.bitrateSeen ∧ d.settings.maximumIpBitrateKbps ≠ 0) "missing b=AS IP bitrate"
    ++ require (isValidIpmxMediaPort d.settings.port)
        "media port must be even, greater than 1024, and reserve media+1"
    ++ require (isValidIpmxMediaPort d.settings.port ∧ d.rtcpPort = some (d.settings.port + 1))
        "missing RTCP reservation on media+1"
    ++ require (d.rtpmapPayloadType = some d.settings.payloadType
          ∧ iequals d.rtpEncoding (ascii "H264") ∧ d.rtpClockRate = 90000)
        "RTP mapping must be H264/90000 and match the media payload type"

/-- The requirements on the parameters of the fmtp line. -/
def validateFmtp (d : SdpDescription) : List String :=
  require (d.fmtpSeen ∧ d.fmtpPayloadType = some d.settings.payloadType)
      "missing or mismatched H.264 fmtp line"
    ++ require ((∃ width ∈ d.fmtpWidth, width ≠ 0) ∧ ∃ height ∈ d.fmtpHeight, height ≠ 0)
        "missing fmtp width/height"
    ++ require d.exactFrameRateSeen "missing fmtp exactframerate"
    ++ require (d.packetizationMode = some 1) "missing packetization-mode=1"
    ++ require (iequals d.trafficProfile (ascii "2110TPW")) "missing TP=2110TPW"
    ++ require (d.settings.maximumUdpBytes ≥ 64
          ∧ d.settings.maximumUdpBytes.toNat ≤ kMaximumStandardUdpPayloadBytes)
        "missing or invalid MAXUDP"
    ++ require (d.depth = some 8 ∧ iequals d.sampling (ascii "YCbCr-4:2:0"))
        "sender must signal 8-bit YCbCr-4:2:0"
    ++ require (iequals d.colorimetry (ascii "BT709")
          ∧ iequals d.transferCharacteristic (ascii "SDR") ∧ iequals d.range (ascii "NARROW"))
        "missing or unsupported colorimetry, TCS, or range"
    ++ require d.ipmx "missing IPMX fmtp keyword"

/-- The requirements on the clocks and on the frame size, if there is one. -/
def validateClocks (d : SdpDescription) : List String :=
  require (d.settings.tsRefclk ≠ []) "missing a=ts-refclk"
    ++ require (iequals d.settings.mediaClock (ascii "direct=0")
          ∨ iequals d.settings.mediaClock (ascii "sender/direct=0"))
        "missing synchronous a=mediaclk:direct=0"
    ++ if d.framesizeWidth.isSome ∧ d.framesizeHeight.isSome then
        require (d.framesizePayloadType = some d.settings.payloadType ∧ d.fmtpWidth.isSome
            ∧ d.fmtpHeight.isSome ∧ d.framesizeWidth = d.fmtpWidth
            ∧ d.framesizeHeight = d.fmtpHeight)
          "a=framesize disagrees with fmtp width/height"
      else []

/-- The requirements on an SPS that is there. -/
def validateSps (d : SdpDescription) : Except String (List String) := do
  let profile ← profileLevelId d.sps
  return require (iequals d.profileLevelId profile) "profile-level-id does not match SPS"
    ++ match parseH264Sps d.sps with
      | some parsedSps => validateIpmxSps parsedSps d.settings.format
      | none => ["invalid SPS"]

def validateIpmxSdp (d : SdpDescription) : Except String (List String) := do
  let spsErrors ← if d.sps ≠ [] then validateSps d else pure []
  return validateMedia d ++ validateFmtp d ++ validateClocks d
    ++ require (d.sps ≠ [] ∧ d.pps ≠ []) "missing SPS/PPS parameter sets"
    ++ spsErrors
    ++ errorIf (d.pps ≠ [] ∧ (parseH264Pps d.pps).isNone) "invalid PPS"

end Ipmx.Sdp
