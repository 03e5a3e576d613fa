import MixerPanel.Json.PatchReader
import MixerPanel.Json.Choice
import MixerPanel.Json.Writer

/-!
# Frames

What goes over the socket: every frame carries an id and a payload. The daemon answers a request under
the id of the request, and uses a reserved id for what answers none.

## Main Definitions

* `Request`, `Response` — the payloads
* `RequestFrame`, `ResponseFrame` — the frames
* `broadcastId` — the reserved id
-/

namespace MixerPanel

/-- The id of frames that answer no request. -/
def broadcastId : UInt64 := UInt64.ofNat (UInt64.size - 1)

/-- What is asked of the daemon. -/
inductive Request where
  /-- Whether it is there. -/
  | ping
  /-- The full status. -/
  | getStatus
deriving DecidableEq, Repr

namespace Request

/-- The name of a request in a frame. -/
def wireName : Request → String
  | ping => "Ping"
  | getStatus => "GetStatus"

/-- All requests. -/
def all : List Request := [ping, getStatus]

/-- Reads a request. -/
def reader : Json.Reader Request :=
  Json.Variants.choice ⟨all.map fun r => (r.wireName, .plain r), none⟩

/-- A request as its name. -/
def toJson (r : Request) : Json := .string r.wireName

end Request

/-- What the daemon sends. -/
inductive Response where
  /-- The request succeeded. -/
  | ok
  /-- The request failed. -/
  | err (message : String)
  /-- The full status document, as it is. -/
  | status (document : Json)
  /-- A patch of the latest document. -/
  | patch (operations : Json.Patch)
deriving Repr

namespace Response

/-- Reads a response. -/
def reader : Json.Reader Response :=
  Json.Variants.choice
    ⟨[("Ok", .plain ok),
      ("Err", .holding fun origin o => (Json.text origin o).map err),
      ("Status", .holding fun origin o => (Json.any origin o).map status),
      ("Patch", .holding fun origin o => (Json.Patch.reader origin o).map patch)], none⟩

/-- A response as its name, over its content if it has any. -/
def toJson : Response → Json
  | ok => .string "Ok"
  | err message => .object [("Err", .string message)]
  | status document => .object [("Status", document)]
  | patch operations => .object [("Patch", operations.toJson)]

end Response

/-- A frame that goes to the daemon. -/
structure RequestFrame where
  id : UInt64
  data : Request
deriving DecidableEq, Repr

namespace RequestFrame

/-- Reads a frame. -/
def reader : Json.Reader RequestFrame :=
  Json.Fields.record "WebsocketRequest"
    (mk <$> Json.Fields.required "id" Json.word64 <*> Json.Fields.required "data" Request.reader)

/-- A frame as an object. -/
def toJson (f : RequestFrame) : Json := .object [("id", .nat f.id), ("data", f.data.toJson)]

/-- The text of a frame. -/
def encode (f : RequestFrame) : String := f.toJson.write

end RequestFrame

/-- A frame that comes from the daemon. -/
structure ResponseFrame where
  id : UInt64
  data : Response
deriving Repr

namespace ResponseFrame

/-- Reads a frame. -/
def reader : Json.Reader ResponseFrame :=
  Json.Fields.record "WebsocketResponse"
    (mk <$> Json.Fields.required "id" Json.word64 <*> Json.Fields.required "data" Response.reader)

/-- A frame as an object. -/
def toJson (f : ResponseFrame) : Json := .object [("id", .nat f.id), ("data", f.data.toJson)]

/-- The text of a frame. -/
def encode (f : ResponseFrame) : String := f.toJson.write

/-- The frame that a text is. -/
def decode (text : String) : Json.Result ResponseFrame := Json.ofText reader text

end ResponseFrame

end MixerPanel
