/-
The handlers of the sample service. Some of them are there for what goes wrong with
them: one has no descriptor because it takes a sequence, one gives a response that
has no document, one always fails.
-/
import ServiceSchema.Endpoint
import ServiceSchema.Samples.Types

namespace ServiceSchema.Samples

/-- Gives a response and leaves the context alone. -/
def answer {α : Type} (context : Context) (response : α) : Except (List String) α × Context :=
  (.ok response, context)

def getWidget : TypedHandler GetWidgetRequest GetWidgetResponse where
  name := "GetWidget"
  method := .get
  route := "/widgets/\x7bid\x7d"
  requestShape := getWidgetRequestShape
  responseShape := getWidgetResponseShape
  decode := GetWidgetRequest.decode
  encode response := .ok response.toJson
  handle context request :=
    if request.id < 0 then
      (.error ["widget " ++ toString request.id ++ " does not exist"], context)
    else
      answer context
        { name := "widget-" ++ toString request.id, owner := ⟨1, "acme"⟩, parts := [⟨"bolt", 12⟩]
          labels := .empty }

def updateWidget : TypedHandler UpdateWidgetRequest UpdateWidgetResponse where
  name := "UpdateWidget"
  method := .put
  route := "/widgets/\x7bid\x7d"
  authentication := { authenticated := true }
  permissions := ["widgets.write"]
  requestShape := updateWidgetRequestShape
  responseShape := updateWidgetResponseShape
  decode := UpdateWidgetRequest.decode
  encode response := .ok response.toJson
  handle context _ := answer context ⟨context.user?.isSome⟩

def listEvents : TypedHandler ListEventsRequest Page where
  name := "ListEvents"
  method := .get
  route := "/Events"
  requestShape := listEventsRequestShape
  responseShape := pageShape eventShape
  decode := ListEventsRequest.decode
  encode response := .ok response.toJson
  handle context request :=
    answer context { cursorCache := request.kind, next := some (toString request.limit) }

def countParts : TypedHandler CountPartsRequest CountPartsResponse where
  name := "CountParts"
  method := .post
  route := "/parts/count"
  requestShape := countPartsRequestShape
  responseShape := countPartsResponseShape
  decode := CountPartsRequest.decode
  encode response := .ok response.toJson
  handle context request := answer context ⟨request.parts.length⟩

def bulkParts : TypedHandler (List Part) UpdateWidgetResponse where
  name := "BulkParts"
  method := .post
  route := "/bulk"
  requestShape := .sequence partShape
  responseShape := updateWidgetResponseShape
  decode := Decode.list Part.decode
  encode response := .ok response.toJson
  handle context request := answer context ⟨!request.isEmpty⟩

/-- Adds the stock of a part to what is known of its kind. -/
def addStock (total : Table Nat) (p : Part) : Table Nat :=
  total.insert p.sku ((total.get? p.sku).getD 0 + p.stock)

def totalStock : TypedHandler UpdateWidgetRequest (Table Nat) where
  name := "TotalStock"
  method := .delete
  route := "/stock"
  requestShape := updateWidgetRequestShape
  responseShape := .map text (.scalar .uint64)
  decode := UpdateWidgetRequest.decode
  encode response := .ok (.object (response.entries.map fun (key, n) => (key, .integer n)))
  handle context request := answer context (request.parts.foldl addStock .empty)

def badEncode : TypedHandler Empty BadEncodeResponse where
  name := "BadEncode"
  method := .patch
  route := "/bad"
  requestShape := emptyShape
  responseShape := badEncodeResponseShape
  decode := Empty.decode
  encode := BadEncodeResponse.toJson
  handle context _ := answer context ⟨[([1], 2)]⟩

def chain : TypedHandler Empty Empty where
  name := "Chain"
  method := .post
  route := "/chain"
  requestShape := emptyShape
  responseShape := emptyShape
  decode := Empty.decode
  encode response := .ok response.toJson
  handle context _ := (.error ["outer", "middle", "root"], context)

def kitchenSink : TypedHandler Kitchen Kitchen where
  name := "KitchenSink"
  method := .patch
  route := "/Kitchen/\x7ba\x7d/ÄÖ"
  requestShape := kitchenShape
  responseShape := kitchenShape
  decode := Kitchen.decode
  encode response := .ok response.toJson
  handle context request := answer context request

/-- An empty page of items of some shape. Its name does not tell the shape. -/
def wrapped (item : Shape) : TypedHandler Empty Page where
  name := "Wrapped"
  method := .get
  route := "/wrapped"
  requestShape := emptyShape
  responseShape := pageShape item
  decode := Empty.decode
  encode response := .ok response.toJson
  handle context _ := answer context {}

/-- Gives a text back. How it is reached and who may call it is for the application to
say. -/
def echo (name : String) (method : HttpMethod) (route : String) (authentication : Claims)
    (permissions : List Permission) : TypedHandler EchoRequest EchoResponse where
  name := name
  method := method
  route := route
  authentication := authentication
  permissions := permissions
  requestShape := echoRequestShape
  responseShape := echoResponseShape
  decode := EchoRequest.decode
  encode response := .ok response.toJson
  handle context request :=
    if request.text.isEmpty then (.error ["nothing to echo"], context)
    else
      answer context
        { text := request.text, length := request.text.utf8ByteSize
          caller := context.user?.map (·.username) }

/-- The sample handlers that need nothing said, by the names of their types. -/
def endpoint? : String → Option Endpoint
  | "GetWidget" => some getWidget.toEndpoint
  | "UpdateWidget" => some updateWidget.toEndpoint
  | "ListEvents" => some listEvents.toEndpoint
  | "CountParts" => some countParts.toEndpoint
  | "BulkParts" => some bulkParts.toEndpoint
  | "TotalStock" => some totalStock.toEndpoint
  | "BadEncode" => some badEncode.toEndpoint
  | "Chain" => some chain.toEndpoint
  | "KitchenSink" => some kitchenSink.toEndpoint
  | "Wrapped<Owner>" => some (wrapped ownerShape).toEndpoint
  | "Wrapped<Event>" => some (wrapped eventShape).toEndpoint
  | _ => none

end ServiceSchema.Samples
