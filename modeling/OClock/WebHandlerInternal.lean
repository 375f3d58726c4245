import OClock.DisplayInternal
import OClock.PostParser
import OClock.StatusGather
import OClock.StatusText

/-!
The table of handlers of webHandlerInternal.cpp and what a handler does with a request. The
pages that are only a form are given; so is what the signal to the server returns.
-/

namespace OClock.WebHandlerInternal
open Text CommonUtils DictionaryStore StatusReport StatusGather StatusText
open DisplayInternal (DisplayTodo)
open PostParser (PostResult parsePost returnError)

/-! ### Keys -/

def evhttpReqGet : Nat := 1
def evhttpReqPost : Nat := 2
def evhttpReqHead : Nat := 4
def evhttpReqPut : Nat := 8

structure WebHandlerKey where
  method : Nat
  uriPath : Bytes
  deriving DecidableEq

instance : Ord WebHandlerKey :=
  ⟨compareLex (compareOn WebHandlerKey.method) (compareOn WebHandlerKey.uriPath)⟩

instance : Std.TransOrd WebHandlerKey :=
  inferInstanceAs (Std.TransCmp
    (compareLex (compareOn WebHandlerKey.method) (compareOn WebHandlerKey.uriPath)))

instance : Std.LawfulEqOrd WebHandlerKey where
  eq_of_compare {left right} same := by
    obtain ⟨method, uriPath⟩ := Ordering.then_eq_eq.mp same
    cases left
    cases right
    exact congrArg₂ WebHandlerKey.mk (Std.LawfulEqOrd.eq_of_compare method)
      (Std.LawfulEqOrd.eq_of_compare uriPath)

def getKey (uriPath : String) : WebHandlerKey := ⟨evhttpReqGet, bytes uriPath⟩
def postKey (uriPath : String) : WebHandlerKey := ⟨evhttpReqPost, bytes uriPath⟩

def uriNotFound : WebHandlerKey := getKey "__notFound"
def uriHead : WebHandlerKey := ⟨evhttpReqHead, bytes "/"⟩

def methodStr (method : Nat) : Bytes :=
  if method = evhttpReqGet then bytes "get"
  else if method = evhttpReqPost then bytes "post"
  else if method = evhttpReqPut then bytes "put"
  else if method = evhttpReqHead then bytes "head"
  else Text.decimal method

/-- The text of a key, by which the status pages list it. -/
def WebHandlerKey.label (key : WebHandlerKey) : Bytes :=
  if key.uriPath = uriNotFound.uriPath then key.uriPath
  else key.uriPath ++ bytes " (" ++ methodStr key.method ++ bytes ")"

/-- The objects that `_start` allocates. -/
inductive Handler where
  | notFound
  | headRoot
  | root
  | status
  | statusJson
  | msgMode
  | msgModePost
  | imgBackground
  | imgBackgroundPost
  | msgBackground
  | msgBackgroundPost
  | ledStrip
  | ledStripPost
  | dictionary
  | dictionaryPost
  | stop
  | stopPost
  deriving DecidableEq

/-- The assignments of `_start`. Two keys share the main page. -/
def routes : List (WebHandlerKey × Handler) :=
  [(uriNotFound, .notFound), (uriHead, .headRoot), (getKey "/", .root),
    (getKey "/index.html", .root), (getKey "/status", .status),
    (getKey "/status.json", .statusJson), (getKey "/msgMode", .msgMode),
    (postKey "/msgMode", .msgModePost), (getKey "/imgBackground", .imgBackground),
    (postKey "/imgBackground", .imgBackgroundPost), (getKey "/msgBackground", .msgBackground),
    (postKey "/msgBackground", .msgBackgroundPost), (getKey "/ledStrip", .ledStrip),
    (postKey "/ledStrip", .ledStripPost), (getKey "/dictionary", .dictionary),
    (postKey "/dictionary", .dictionaryPost), (getKey "/stop", .stop),
    (postKey "/stop", .stopPost)]

abbrev WebHandlers := OrderedMap WebHandlerKey Handler

def started : WebHandlers :=
  routes.foldl (fun handlers route => handlers.insert route.1 route.2) ∅

/-! ### Requests and answers -/

structure RequestInfo where
  method : Nat
  uriPath : Bytes
  requestBody : Option Bytes

/-- `parseRequest`: without a path the request is for the main page. -/
def parseRequest (method : Nat) (uriPath requestBody : Option Bytes) : RequestInfo where
  method := method
  uriPath := if (uriPath.getD []).isEmpty then bytes "/" else uriPath.getD []
  requestBody := requestBody

structure HandleRequestReply where
  code : Nat
  reason : Bytes
  deriving DecidableEq

def replyOk : HandleRequestReply := ⟨200, bytes "OK"⟩
def replyNoContent : HandleRequestReply := ⟨204, bytes "No Content"⟩
def replyInternalError : HandleRequestReply := ⟨500, bytes "Internal Error"⟩
def replyNotFound : HandleRequestReply := ⟨404, bytes "Page not found"⟩
def replyServerUnavail : HandleRequestReply := ⟨503, bytes "Server is not available"⟩

structure Answer where
  reply : HandleRequestReply
  contentType : Bytes
  replyBody : Bytes

/-- What the worker sets before it calls. -/
def htmlType : Bytes := bytes "text/html; charset=UTF-8"
def textType : Bytes := bytes "text/plain"
def jsonType : Bytes := bytes "application/json"

/-- `addBody`: a C string is printed. -/
def Answer.html (reply : HandleRequestReply) (buffer : Bytes) : Answer :=
  ⟨reply, htmlType, cText buffer⟩

def Answer.error (buffer : Bytes) : Answer := ⟨replyInternalError, textType, cText buffer⟩

def notFoundPage (uriPath : Bytes) : Bytes :=
  bytes "<html><head><title>404 Not Found</title></head><body><h1>Not Found</h1>" ++
  bytes "<p>The requested URL " ++ uriPath ++
  bytes " was not found on this server.</p></body></html>"

/-- What the handlers share. Without an instance there is no table. -/
structure Server where
  webHandlers : Option WebHandlers
  hits : Handler → UInt32
  displayTodos : List DisplayTodo
  ledStripTodos : List StringMap
  dictionary : Dictionary
  stops : Nat

/-- What is outside of the handlers: the other singletons, the forms, and the signal. -/
structure Outside where
  application : Application
  page : Handler → Bytes
  pthreadKill : Int

def getHandlerHits (server : Server) : Option (List (Bytes × UInt32)) :=
  server.webHandlers.map fun handlers =>
    handlers.toList.map fun entry => (entry.1.label, server.hits entry.2)

def gather (outside : Outside) (server : Server) : StatusSnapshot × Server :=
  let gathered := gatherStatusSnapshot
    { outside.application with handlerHits := getHandlerHits server } server.dictionary
  (gathered.1, { server with dictionary := gathered.2 })

/-- A POST is parsed, and refused as it stands or handed on. -/
def withPost (request : RequestInfo) (server : Server)
    (accepted : StringMap → Answer × Server) : Option (Answer × Server) :=
  (parsePost request.requestBody ∅).map fun result =>
    match result.reply with
    | .replyInternalError => (.error result.body, server)
    | .replyOk => accepted result.postValues

def noContent (server : Server) : Answer × Server := (.html replyNoContent [], server)

def enqueueDisplayTodo (server : Server) (displayTodo : DisplayTodo) : Server :=
  { server with displayTodos := server.displayTodos ++ [displayTodo] }

def process (outside : Outside) (request : RequestInfo) (server : Server) :
    Handler → Option (Answer × Server)
  | .notFound => some (.html replyNotFound (notFoundPage request.uriPath), server)
  | .headRoot => some (noContent server)
  | .status =>
      let gathered := gather outside server
      some (⟨replyOk, textType, cText (renderStatusText gathered.1)⟩, gathered.2)
  | .statusJson =>
      let gathered := gather outside server
      some (⟨replyOk, jsonType, cText (renderStatusJson gathered.1)⟩, gathered.2)
  | .msgModePost => withPost request server fun postValues =>
      noContent (enqueueDisplayTodo server (.handleMsgModePost postValues))
  | .imgBackgroundPost => withPost request server fun postValues =>
      noContent (enqueueDisplayTodo server (.handleImgBackgroundPost postValues))
  | .msgBackgroundPost => withPost request server fun postValues =>
      noContent (enqueueDisplayTodo server (.handleMsgBackgroundPost postValues))
  | .ledStripPost => withPost request server fun postValues =>
      noContent { server with ledStripTodos := server.ledStripTodos ++ [postValues] }
  | .dictionaryPost => withPost request server fun postValues =>
      let result := parsePostRequest server.dictionary postValues
      let after := { server with dictionary := result.2 }
      if result.1 then noContent after
      else (.error (returnError 761 (bytes "Was unable to parse request on dictionary") ∅).body,
        after)
  | .stop | .stopPost =>
      let after := { server with stops := server.stops + 1 }
      if outside.pthreadKill = 0 then some (noContent after)
      else some (.html replyInternalError [], after)
  | handler => some (.html replyOk (outside.page handler), server)

/-! ### The choice of a handler -/

def bumpHits (server : Server) (handler : Handler) : Server :=
  { server with hits := Function.update server.hits handler (server.hits handler + 1) }

def findWebHandler (handlers : WebHandlers) (server : Server) (key : WebHandlerKey) :
    Option Handler × Server :=
  match handlers[key]? with
  | none => (none, server)
  | some handler => (some handler, bumpHits server handler)

/-- The exceptions are tried only after the key itself. -/
def chooseHandler (handlers : WebHandlers) (request : RequestInfo) (server : Server) :
    Option Handler × Server :=
  match findWebHandler handlers server ⟨request.method, request.uriPath⟩ with
  | (some handler, server) => (some handler, server)
  | (none, server) =>
      match (if request.method = evhttpReqHead then findWebHandler handlers server uriHead
        else (none, server)) with
      | (some handler, server) => (some handler, server)
      | (none, server) => findWebHandler handlers server uriNotFound

def handleRequest (outside : Outside) (request : RequestInfo) (server : Server) :
    Option (Answer × Server) :=
  match server.webHandlers with
  | none => some (.html replyServerUnavail [], server)
  | some handlers =>
      match chooseHandler handlers request server with
      | (none, server) => some (.html replyNotFound [], server)
      | (some handler, server) => process outside request server handler

/-! ### Which handler it is -/

/-- The handler of the key; for a HEAD without one the empty answer; else the page that says so. -/
def handlerFor (request : RequestInfo) : Handler :=
  match routes.find? fun route => route.1 = ⟨request.method, request.uriPath⟩ with
  | some route => route.2
  | none => if request.method = evhttpReqHead then .headRoot else .notFound

theorem routes_distinct : (routes.map Prod.fst).Nodup := by decide

theorem started_lookup (key : WebHandlerKey) :
    started[key]? = (routes.find? fun route => route.1 = key).map Prod.snd :=
  OrderedMap.lookup_insert_distinct routes routes_distinct key

theorem started_notFound : started[uriNotFound]? = some .notFound := started_lookup _

theorem started_head : started[uriHead]? = some .headRoot := by
  rw [started_lookup]
  decide

/-- A request is counted for one handler, its own. -/
theorem chooseHandler_started (request : RequestInfo) (server : Server) :
    chooseHandler started request server =
      (some (handlerFor request), bumpHits server (handlerFor request)) := by
  unfold chooseHandler handlerFor findWebHandler
  rw [started_lookup, started_head, started_notFound]
  cases routes.find? fun route => route.1 = ⟨request.method, request.uriPath⟩ with
  | some route => rfl
  | none =>
      by_cases head : request.method = evhttpReqHead
      · simp only [Option.map_none, if_pos head]
      · simp only [Option.map_none, if_neg head]

theorem handleRequest_started {server : Server} (up : server.webHandlers = some started)
    (outside : Outside) (request : RequestInfo) :
    handleRequest outside request server =
      process outside request (bumpHits server (handlerFor request)) (handlerFor request) := by
  rw [handleRequest, up]
  dsimp only
  rw [chooseHandler_started]

end OClock.WebHandlerInternal
