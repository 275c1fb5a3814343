/-
Records of a sample service for a shop that sells widgets, with their shapes and
their documents. A field may be called otherwise in the shape than in documents,
and one that is kept private is in documents only.
-/
import ServiceSchema.Decode
import ServiceSchema.Json
import ServiceSchema.Shape

namespace ServiceSchema.Samples

/-! ## Shapes -/

def text : Shape := .scalar .text

/-- The shape of a record with the given fields. -/
def recordShape (name : String) (fields : List (String × Shape)) : Shape :=
  .record (.ofFields name fields)

def partShape : Shape := recordShape "Part" [("sku", text), ("stock", .scalar .uint32)]

/-- Another record called `Part`, which cannot stand beside the first. -/
def codedPartShape : Shape := recordShape "Part" [("code", .scalar .int64)]

def ownerShape : Shape := recordShape "Owner" [("id", .scalar .uint64), ("name", text)]

def emptyShape : Shape := recordShape "Empty" []

def timeShape : Shape := recordShape "Time" [("unix_nanos", .scalar .int64)]

def pageShape (item : Shape) : Shape :=
  recordShape "Page" [("items", .sequence item), ("next", text)]

def eventShape : Shape :=
  recordShape "Event" [("type", text), ("at", timeShape), ("received", .scalar .timestamp)]

def customerShape : Shape :=
  recordShape "Customer" [("id", .scalar .uint64), ("home", ownerShape), ("type", text)]

def allScalarsShape : Shape :=
  recordShape "AllScalars"
    [("a", .scalar .int8), ("b", .scalar .int16), ("c", .scalar .int32), ("d", .scalar .int64),
      ("e", .scalar .int64), ("f", .scalar .uint8), ("g", .scalar .uint16),
      ("h", .scalar .uint32), ("i", .scalar .uint64), ("j", .scalar .uint64),
      ("k", .scalar .float32), ("l", .scalar .float64), ("m", .scalar .bool), ("n", text),
      ("o", text), ("p", text), ("q", .scalar .timestamp), ("r", .scalar .duration)]

def pairShape (left right : Shape) : Shape :=
  recordShape "Pair" [("left", left), ("right", .map text right), ("last", ownerShape)]

def getWidgetRequestShape : Shape := recordShape "GetWidgetRequest" [("id", .scalar .int32)]

def getWidgetResponseShape : Shape :=
  recordShape "GetWidgetResponse"
    [("name", text), ("owner", ownerShape), ("parts", .sequence partShape),
      ("labels", .map text text)]

def updateWidgetRequestShape : Shape :=
  recordShape "UpdateWidgetRequest" [("id", .scalar .int32), ("parts", .sequence partShape)]

def updateWidgetResponseShape : Shape :=
  recordShape "UpdateWidgetResponse" [("updated", .scalar .bool)]

def listEventsRequestShape : Shape :=
  recordShape "ListEventsRequest" [("limit", .scalar .uint16), ("type", text)]

def countPartsRequestShape : Shape :=
  recordShape "CountPartsRequest" [("parts", .sequence codedPartShape)]

def countPartsResponseShape : Shape :=
  recordShape "CountPartsResponse" [("count", .scalar .uint64)]

def badEncodeResponseShape : Shape :=
  recordShape "BadEncodeResponse"
    [("by_key", .map (.sequence (.scalar .uint8)) (.scalar .int32))]

def kitchenShape : Shape :=
  recordShape "Kitchen"
    [("a", .scalar .int8), ("b", .scalar .uint16), ("c", .scalar .int64), ("d", .scalar .bool),
      ("e", text), ("f", text), ("g", .map text (.scalar .uint8)),
      ("h", .sequence (.scalar .uint8)), ("i", .sequence ownerShape)]

def echoRequestShape : Shape := recordShape "EchoRequest" [("text", text)]

def echoResponseShape : Shape :=
  recordShape "EchoResponse" [("text", text), ("length", .scalar .uint32), ("caller", text)]

/-! ## Documents -/

/-- A value that may be absent, as a document. -/
def optionToJson {α : Type} (toJson : α → Json) : Option α → Json
  | some value => toJson value
  | none => .null

structure Part where
  sku : String
  stock : Nat

def Part.decode : Decoder Part :=
  Decode.record "Part"
    (mk <$> .required "sku" Decode.text <*> .required "stock" (Decode.unsigned 32))

def Part.toJson (p : Part) : Json :=
  .object [("sku", .text p.sku), ("stock", .integer p.stock)]

structure CodedPart where
  code : Int

def CodedPart.decode : Decoder CodedPart :=
  Decode.record "Part" (mk <$> .required "code" (Decode.signed 64))

structure Owner where
  id : Nat
  name : String

def Owner.decode : Decoder Owner :=
  Decode.record "Owner"
    (mk <$> .required "id" (Decode.unsigned 64) <*> .required "name" Decode.text)

def Owner.toJson (o : Owner) : Json :=
  .object [("id", .integer o.id), ("name", .text o.name)]

structure Empty where

def Empty.decode : Decoder Empty := Decode.record "Empty" (.none {})

def Empty.toJson (_ : Empty) : Json := .object []

/-- A page of a longer list, whose items are documents already. -/
structure Page where
  items : List Json := []
  cursorCache : Option String := none
  next : Option String := none

def Page.toJson (p : Page) : Json :=
  .object [("items", .array p.items), ("cursor_cache", optionToJson .text p.cursorCache),
    ("next", optionToJson .text p.next)]

structure GetWidgetRequest where
  id : Int

def GetWidgetRequest.decode : Decoder GetWidgetRequest :=
  Decode.record "GetWidgetRequest" (mk <$> .required "id" (Decode.signed 32))

structure GetWidgetResponse where
  name : String
  owner : Owner
  parts : List Part
  labels : Table String

def GetWidgetResponse.toJson (r : GetWidgetResponse) : Json :=
  .object [("name", .text r.name), ("owner", r.owner.toJson),
    ("parts", .array (r.parts.map Part.toJson)),
    ("labels", .object (r.labels.entries.map fun (key, value) => (key, .text value)))]

structure UpdateWidgetRequest where
  id : Int
  parts : List Part

def UpdateWidgetRequest.decode : Decoder UpdateWidgetRequest :=
  Decode.record "UpdateWidgetRequest"
    (mk <$> .required "id" (Decode.signed 32) <*> .required "parts" (Decode.list Part.decode))

structure UpdateWidgetResponse where
  updated : Bool

def UpdateWidgetResponse.toJson (r : UpdateWidgetResponse) : Json :=
  .object [("updated", .bool r.updated)]

structure ListEventsRequest where
  limit : Nat
  kind : Option String

def ListEventsRequest.decode : Decoder ListEventsRequest :=
  Decode.record "ListEventsRequest"
    (mk <$> .required "limit" (Decode.unsigned 16) <*> .optional "type" Decode.text)

structure CountPartsRequest where
  parts : List CodedPart

def CountPartsRequest.decode : Decoder CountPartsRequest :=
  Decode.record "CountPartsRequest" (mk <$> .required "parts" (Decode.list CodedPart.decode))

structure CountPartsResponse where
  count : Nat

def CountPartsResponse.toJson (r : CountPartsResponse) : Json :=
  .object [("count", .integer r.count)]

/-- A response keyed by lists of bytes, for which documents have no keys. -/
structure BadEncodeResponse where
  byKey : List (List UInt8 × Int)

def BadEncodeResponse.toJson (r : BadEncodeResponse) : Except String Json :=
  if r.byKey.isEmpty then .ok (.object [("by_key", .object [])])
  else .error "key must be a string"

/-- A record with a field of every kind. -/
structure Kitchen where
  a : Int
  b : Nat
  c : Int
  d : Bool
  e : Option String
  f : Char
  g : Table Nat
  h : List Nat
  i : List (Option Owner)

def Kitchen.decode : Decoder Kitchen :=
  Decode.record "Kitchen"
    (mk <$> .required "a" (Decode.signed 8)
      <*> .required "b" (Decode.unsigned 16)
      <*> .required "c" (Decode.signed 64)
      <*> .required "d" Decode.bool
      <*> .optional "e" Decode.text
      <*> .required "f" Decode.char
      <*> .required "g" (Decode.table (Decode.unsigned 8))
      <*> .required "h" (Decode.array 2 (Decode.unsigned 8))
      <*> .required "i" (Decode.list (Decode.option Owner.decode)))

def Kitchen.toJson (k : Kitchen) : Json :=
  .object [("a", .integer k.a), ("b", .integer k.b), ("c", .integer k.c), ("d", .bool k.d),
    ("e", optionToJson .text k.e), ("f", .text k.f.toString),
    ("g", .object (k.g.entries.map fun (key, value) => (key, .integer value))),
    ("h", .array (k.h.map fun n : Nat => .integer n)),
    ("i", .array (k.i.map (optionToJson Owner.toJson)))]

structure EchoRequest where
  text : String

def EchoRequest.decode : Decoder EchoRequest :=
  Decode.record "EchoRequest" (mk <$> .required "text" Decode.text)

structure EchoResponse where
  text : String
  length : Nat
  caller : Option String

def EchoResponse.toJson (r : EchoResponse) : Json :=
  .object [("text", .text r.text), ("length", .integer r.length),
    ("caller", optionToJson .text r.caller)]

end ServiceSchema.Samples
