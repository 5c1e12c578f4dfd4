import VoiceChat.User

/-!
# Video and recording

What a user's video offers while it is on, and what a channel's recording is
while it runs.
-/

namespace VoiceChat

/-- One quality at which a publisher offers its video. -/
structure VideoLayer where
  quality : Text
  width : Int
  height : Int
  /-- Kilobits per second. -/
  bitrate : Int
deriving DecidableEq, Repr

/-- A user's video. -/
structure VideoState where
  active : Bool := true
  screenShare : Bool := false
  layers : List VideoLayer := []
deriving DecidableEq, Repr

/-- A channel's recording. -/
structure RecordingState where
  recording : Bool
  startedBy : Text := ""
deriving DecidableEq, Repr

namespace VideoLayer

def ofFields (fields : Fields) : Decoded VideoLayer :=
  VideoLayer.mk <$> Decode.required fields "quality" Decode.string
    <*> Decode.required fields "width" Decode.int
    <*> Decode.required fields "height" Decode.int
    <*> Decode.required fields "bitrate" Decode.int

def decode : Json → Decoded VideoLayer := Decode.record "VideoLayer" ofFields

def encode (layer : VideoLayer) : Json :=
  .obj [("quality", .ofText layer.quality), ("width", .int layer.width),
    ("height", .int layer.height), ("bitrate", .int layer.bitrate)]

end VideoLayer

namespace VideoState

def ofFields (fields : Fields) : Decoded VideoState :=
  VideoState.mk <$> Decode.withDefault fields "active" Decode.bool true
    <*> Decode.withDefault fields "screen_share" Decode.bool false
    <*> Decode.withDefault fields "layers" (Decode.list VideoLayer.decode) []

def decode : Json → Decoded VideoState := Decode.record "VideoState" ofFields

def encode (video : VideoState) : Json :=
  .obj [("active", .bool video.active), ("screen_share", .bool video.screenShare),
    ("layers", .arr (video.layers.map VideoLayer.encode))]

end VideoState

namespace RecordingState

def ofFields (fields : Fields) : Decoded RecordingState :=
  RecordingState.mk <$> Decode.required fields "recording" Decode.bool
    <*> Decode.withDefault fields "started_by" Decode.string ""

def decode : Json → Decoded RecordingState := Decode.record "RecordingState" ofFields

def encode (recording : RecordingState) : Json :=
  .obj [("recording", .bool recording.recording), ("started_by", .ofText recording.startedBy)]

end RecordingState

end VoiceChat
