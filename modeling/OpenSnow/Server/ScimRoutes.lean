import OpenSnow.Server.Clients
import OpenSnow.Server.Scim

/-!
# The SCIM routes

The handlers for users and groups.  A bearer token decides the account, and a
user that is deactivated stops the client with the name of the user.

Replies are status codes with bodies; the content type is left out.
-/

namespace OpenSnow.Server.Scim

open Catalog.Scim
open Rust
open Rust.Text
open ScimDirectory

/-! ## Requests and replies -/

/-- The registry of clients and the SCIM directory of a server. -/
structure ScimServer where
  clients : ClientRegistry
  directory : ScimDirectory

structure ScimHeaders where
  authorization : Option String
  /-- The header `X-Account-ID`. -/
  accountId : Option String

structure ScimListQuery where
  filter : Option String
  startIndex : Option Nat
  count : Option Nat

inductive ScimRequest where
  | createUser (payload : Json.Value)
  | listUsers (query : ScimListQuery)
  | getUser (userId : String)
  | putUser (userId : String) (payload : Json.Value)
  | patchUser (userId : String) (payload : Json.Value)
  | deleteUser (userId : String)
  | createGroup (payload : Json.Value)
  | listGroups (query : ScimListQuery)
  | getGroup (groupId : String)
  | putGroup (groupId : String) (payload : Json.Value)
  | deleteGroup (groupId : String)

structure ScimReply where
  status : Nat
  body : Option Json.Value

def noContent : ScimReply := ⟨204, none⟩

def jsonReply (status : Nat) (body : Json.Value) : ScimReply :=
  ⟨status, some body⟩

/-- The body of a refusal. -/
def detail (status : String) (text : String) : Json.Value :=
  .record [("status", .string status), ("detail", .string text)]

/-- The refusal of a token, with the schema of SCIM errors. -/
def schemaDetail (status : String) (text : String) : Json.Value :=
  .record
    [("schemas", .strings ["urn:ietf:params:scim:api:messages:2.0:Error"]),
      ("status", .string status), ("detail", .string text)]

def unknownUser : ScimReply := jsonReply 404 (detail "404" "unknown SCIM user")

def unknownGroup : ScimReply :=
  jsonReply 404 (detail "404" "unknown SCIM group")

def scimUserJson (user : ScimUserRecord) : Json.Value :=
  .record
    [("schemas", .strings ["urn:ietf:params:scim:schemas:core:2.0:User"]),
      ("id", .string user.id), ("externalId", .ofOption user.externalId),
      ("userName", .string user.userName),
      ("displayName", .ofOption user.displayName),
      ("active", .bool user.active),
      ("meta", .record
        [("resourceType", .string "User"),
          ("created", .string user.createdAt),
          ("lastModified", .string user.updatedAt)])]

def scimGroupJson (group : ScimGroupRecord) : Json.Value :=
  .record
    [("schemas", .strings ["urn:ietf:params:scim:schemas:core:2.0:Group"]),
      ("id", .string group.id), ("displayName", .string group.displayName),
      ("members", .array (group.members.map fun id =>
        .record [("value", .string id)])),
      ("urn:opensnow:scim:role", .string group.role),
      ("meta", .record
        [("resourceType", .string "Group"),
          ("created", .string group.createdAt),
          ("lastModified", .string group.updatedAt),
          ("tombstoned", .bool group.tombstoned)])]

/-! ## Reading a request -/

/-- The text behind `Bearer `. -/
def bearerSecret (headers : ScimHeaders) : Option String :=
  headers.authorization.bind fun text =>
    if startsWith text "Bearer " then
      some (String.ofList (text.toList.drop "Bearer ".length))
    else none

/-- The account that a header names, unless the header is blank. -/
def requestedAccount (headers : ScimHeaders) : Option String :=
  headers.accountId.filter fun text => !(trim text.toList).isEmpty

/-- The account of the token, which the header has to name if it names one. -/
def scimAccountFromHeaders (moment : ScimMoment)
    (verify : String → String → Bool) (headers : ScimHeaders)
    (directory : ScimDirectory) : Except ScimReply String :=
  match (bearerSecret headers).bind fun secret =>
      authenticateToken moment verify secret directory with
  | none =>
      .error (jsonReply 401 (schemaDetail "401" "invalid SCIM bearer token"))
  | some token =>
      if (requestedAccount headers).all (· == token.accountId) then
        .ok token.accountId
      else
        .error (jsonReply 403
          (schemaDetail "403" "SCIM token is scoped to a different account"))

/-- The name that a filter `userName eq "…"` compares with. -/
def filterUserName (filter : Option String) : Option String :=
  filter.bind fun filter =>
    let raw := trim filter.toList
    if "username eq ".toList.isPrefixOf (raw.map Char.toLower) then
      let value :=
        (trimMatches '"' (trim (raw.drop "username eq ".length))).map
          Char.toLower
      if value.isEmpty then none else some (String.ofList value)
    else none

/-- The rows of the page that a query asks for. -/
def page {Row : Type} (query : ScimListQuery) (rows : List Row) : List Row :=
  (rows.drop (query.startIndex.getD 1 - 1)).take
    (min (query.count.getD 100) 200)

def listReply {Row : Type} (json : Row → Json.Value)
    (query : ScimListQuery) (rows : List Row) : ScimReply :=
  jsonReply 200 (.record
    [("schemas",
        .strings ["urn:ietf:params:scim:api:messages:2.0:ListResponse"]),
      ("totalResults", .number (toString rows.length)),
      ("startIndex",
        .number (toString (query.startIndex.getD 1 - 1 + 1))),
      ("itemsPerPage", .number (toString (page query rows).length)),
      ("Resources", .array ((page query rows).map json))])

/-- The operation is on `active`. -/
def isActivePath (operation : Json.Value) : Bool :=
  (textField operation "path").any fun path =>
    eqIgnoreAsciiCase path "active"

/-- What the last operation on `active` sets, if it is a boolean. -/
def patchedActive (payload : Json.Value) : Option Bool :=
  (((payload.get "Operations").bind Json.Value.asArray).getD []).foldl
    (fun active operation =>
      if isActivePath operation then
        (operation.get "value").bind Json.Value.asBool
      else active)
    none

/-! ## Handlers -/

def deactivatedReason : String := "SCIM user deactivated"

namespace ScimServer

/-- `let _ = clients.revoke_client(…)` with the name of a user. -/
def stopClient (userName : String) (server : ScimServer) : ScimServer :=
  match server.clients.revokeClient userName deactivatedReason with
  | .ok clients => { server with clients }
  | .error _ => server

/-- Stop the client of a user that is no longer active. -/
def stopInactive (user : ScimUserRecord) (server : ScimServer) : ScimServer :=
  if user.active then server else server.stopClient user.userName

/-- Change the directory, which gives a result as well. -/
def withDirectory {Result : Type} (server : ScimServer)
    (change : ScimDirectory → Result × ScimDirectory) :
    Result × ScimServer :=
  let (result, directory) := change server.directory
  (result, { server with directory })

def createUser (moment : ScimMoment) (accountId : String)
    (payload : Json.Value) (server : ScimServer) : ScimReply × ScimServer :=
  let (user, server) :=
    server.withDirectory (upsertUser moment accountId none payload)
  (jsonReply 201 (scimUserJson user), server)

def putUser (moment : ScimMoment) (accountId userId : String)
    (payload : Json.Value) (server : ScimServer) : ScimReply × ScimServer :=
  let (user, server) :=
    server.withDirectory (upsertUser moment accountId (some userId) payload)
  (jsonReply 200 (scimUserJson user), server.stopInactive user)

def patchUser (moment : ScimMoment) (accountId userId : String)
    (payload : Json.Value) (server : ScimServer) : ScimReply × ScimServer :=
  match patchedActive payload with
  | none =>
      (jsonReply 400 (detail "400" "unsupported SCIM PATCH operation"),
        server)
  | some active =>
      match server.withDirectory
          (setUserActive moment accountId userId active) with
      | (none, server) => (unknownUser, server)
      | (some user, server) =>
          (jsonReply 200 (scimUserJson user), server.stopInactive user)

def deleteUser (moment : ScimMoment) (accountId userId : String)
    (server : ScimServer) : ScimReply × ScimServer :=
  match server.withDirectory
      (setUserActive moment accountId userId false) with
  | (none, server) => (unknownUser, server)
  | (some user, server) => (noContent, server.stopClient user.userName)

def createGroup (moment : ScimMoment) (accountId : String)
    (payload : Json.Value) (server : ScimServer) : ScimReply × ScimServer :=
  let (group, server) :=
    server.withDirectory (upsertGroup moment accountId none payload)
  (jsonReply 201 (scimGroupJson group), server)

def putGroup (moment : ScimMoment) (accountId groupId : String)
    (payload : Json.Value) (server : ScimServer) : ScimReply × ScimServer :=
  let (group, server) :=
    server.withDirectory (upsertGroup moment accountId (some groupId) payload)
  (jsonReply 200 (scimGroupJson group), server)

def deleteGroup (moment : ScimMoment) (accountId groupId : String)
    (server : ScimServer) : ScimReply × ScimServer :=
  match server.withDirectory (tombstoneGroup moment accountId groupId) with
  | (none, server) => (unknownGroup, server)
  | (some _, server) => (noContent, server)

def listUsersReply (moment : ScimMoment) (accountId : String)
    (query : ScimListQuery) (directory : ScimDirectory) : ScimReply :=
  listReply scimUserJson query
    (listUsers moment accountId (filterUserName query.filter) directory)

def getUserReply (moment : ScimMoment) (accountId userId : String)
    (directory : ScimDirectory) : ScimReply :=
  match userSnapshot moment accountId userId directory with
  | none => unknownUser
  | some user => jsonReply 200 (scimUserJson user)

def listGroupsReply (moment : ScimMoment) (accountId : String)
    (query : ScimListQuery) (directory : ScimDirectory) : ScimReply :=
  listReply scimGroupJson query (listGroups moment accountId directory)

def getGroupReply (moment : ScimMoment) (accountId groupId : String)
    (directory : ScimDirectory) : ScimReply :=
  match (groupSnapshot moment accountId groupId directory).filter
      fun group => !group.tombstoned with
  | none => unknownGroup
  | some group => jsonReply 200 (scimGroupJson group)

/-- The handler of a request of an account. -/
def handle (moment : ScimMoment) (accountId : String) (server : ScimServer) :
    ScimRequest → ScimReply × ScimServer
  | .createUser payload => server.createUser moment accountId payload
  | .listUsers query =>
      (listUsersReply moment accountId query server.directory, server)
  | .getUser userId =>
      (getUserReply moment accountId userId server.directory, server)
  | .putUser userId payload => server.putUser moment accountId userId payload
  | .patchUser userId payload =>
      server.patchUser moment accountId userId payload
  | .deleteUser userId => server.deleteUser moment accountId userId
  | .createGroup payload => server.createGroup moment accountId payload
  | .listGroups query =>
      (listGroupsReply moment accountId query server.directory, server)
  | .getGroup groupId =>
      (getGroupReply moment accountId groupId server.directory, server)
  | .putGroup groupId payload =>
      server.putGroup moment accountId groupId payload
  | .deleteGroup groupId => server.deleteGroup moment accountId groupId

end ScimServer

/--
What a request meets: the catalog is opened once for the token and once for
the operation.
-/
structure ScimCall where
  checking : ScimMoment
  acting : ScimMoment
  /-- Argon2: does a secret fit a hash. -/
  verify : String → String → Bool
  headers : ScimHeaders
  request : ScimRequest

/-- A request to the SCIM routes. -/
def scimServe (call : ScimCall) (server : ScimServer) :
    ScimReply × ScimServer :=
  match scimAccountFromHeaders call.checking call.verify call.headers
      server.directory with
  | .error refusal => (refusal, server)
  | .ok accountId => server.handle call.acting accountId call.request

end OpenSnow.Server.Scim
