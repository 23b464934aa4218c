import OpenSnow.Auth.Privileges
import OpenSnow.Server.AuthContext

/-!
# The object policy

A hand-written analyser splits a text into tokens and collects what the text
must be allowed to do.  `checkSql` asks the privilege table for each
requirement and denies at the first one that is missing.
-/

namespace OpenSnow.Server

open Auth
open Rust.Text

/-! ## Tokens -/

/-- Characters between tokens, outside quotes. -/
def isSeparator (ch : Char) : Bool :=
  isWhitespace ch || ch ∈ [',', ';', '(', ')']

/-- Complete the token that is being read, if there is one. -/
def flush (current : List Char) (tokens : List String) : List String :=
  if current.isEmpty then tokens else String.ofList current :: tokens

/-- The loop of `tokenize_sql`. -/
def tokenizeLoop (current : List Char) (inSingle inDouble : Bool) :
    List Char → List String
  | [] => flush current []
  | ch :: rest =>
      if ch = '\'' ∧ !inDouble then
        flush current (tokenizeLoop [] (!inSingle) inDouble rest)
      else if ch = '"' ∧ !inSingle then
        tokenizeLoop (current ++ [ch]) inSingle (!inDouble) rest
      else if !inSingle ∧ !inDouble ∧ isSeparator ch then
        flush current (tokenizeLoop [] inSingle inDouble rest)
      else if !inSingle then
        tokenizeLoop (current ++ [ch]) inSingle inDouble rest
      else tokenizeLoop current inSingle inDouble rest

def tokenizeSql (sql : String) : List String :=
  tokenizeLoop [] false false sql.toList

def isIdentifierToken (token : String) : Bool :=
  token.toList.head?.any fun ch => ch.isAlpha || ch == '_' || ch == '"'

/-- Words that may stand before the name of an object. -/
def isSkippedWord (token : String) : Bool :=
  toAsciiUppercase token ∈ ["IF", "NOT", "EXISTS", "ONLY"]

/-- `next_object_after`, on the tokens from the index on. -/
def nextObject : List String → Option String
  | [] => none
  | token :: rest =>
      if isSkippedWord token then nextObject rest
      else if isIdentifierToken token then some token
      else nextObject rest

def findToken (tokens : List String) (needle : String) : Option Nat :=
  tokens.findIdx? (eqIgnoreAsciiCase · needle)

def normalizeObjectName (raw : String) : String :=
  String.ofList
    (trimMatches '"' (lastSplit '.' (trimMatches '"' raw.toList)))

/-! ## Requirements -/

/-- What a caller must be allowed to do. -/
structure SqlRequirement where
  privilege : Privilege
  objectType : ObjectType
  objectName : String
deriving DecidableEq, Repr

def pushObjectReq (reqs : List SqlRequirement) (privilege : Privilege)
    (objectType : ObjectType) (rawName : String) : List SqlRequirement :=
  let objectName := normalizeObjectName rawName
  if objectName.isEmpty ||
      reqs.any fun req =>
        req.privilege == privilege && req.objectType == objectType &&
          req.objectName == objectName
  then reqs
  else reqs ++ [⟨privilege, objectType, objectName⟩]

def pushTableReq (reqs : List SqlRequirement) (privilege : Privilege)
    (rawName : String) : List SqlRequirement :=
  pushObjectReq reqs privilege .table rawName

def objectTypeFromSqlKeyword (keyword : String) : Option ObjectType :=
  match toAsciiUppercase keyword with
  | "DATABASE" => some .database
  | "SCHEMA" => some .schema
  | "WAREHOUSE" => some .warehouse
  | "STAGE" => some .stage
  | "TABLE" => some .table
  | _ => none

def collectTypedObjectRequirement (tokens : List String)
    (reqs : List SqlRequirement) (kindIdx : Nat) (privilege : Privilege) :
    List SqlRequirement :=
  match tokens[kindIdx]? with
  | none => reqs
  | some kind =>
      match objectTypeFromSqlKeyword kind with
      | none => reqs
      | some objectType =>
          match nextObject (tokens.drop (kindIdx + 1)) with
          | none => reqs
          | some name => pushObjectReq reqs privilege objectType name

/-- The tokens that `collect_select_requirements` looks behind. -/
def isReadKeyword (token : String) : Bool :=
  toAsciiUppercase token ∈ ["FROM", "JOIN"]

/-- Tokens that stand where a name could and are none. -/
def isQueryWord (token : String) : Bool :=
  eqIgnoreAsciiCase token "SELECT" || eqIgnoreAsciiCase token "VALUES"

/-- The body of the loop of `collect_select_requirements` at one token. -/
def collectRead (token : String) (rest : List String)
    (reqs : List SqlRequirement) : List SqlRequirement :=
  if isReadKeyword token then
    match nextObject rest with
    | some name =>
        if isQueryWord name then reqs else pushTableReq reqs .select name
    | none => reqs
  else reqs

def collectSelectRequirements :
    List String → List SqlRequirement → List SqlRequirement
  | [], reqs => reqs
  | token :: rest, reqs =>
      collectSelectRequirements rest (collectRead token rest reqs)

/-- The `INTO` target of an `INSERT`. -/
def collectInsertTarget (tokens : List String) (reqs : List SqlRequirement) :
    List SqlRequirement :=
  match findToken tokens "INTO" with
  | none => reqs
  | some intoIdx =>
      match nextObject (tokens.drop (intoIdx + 1)) with
      | none => reqs
      | some name => pushTableReq reqs .insert name

def analyzeSql (sql : String) : List SqlRequirement :=
  let tokens := tokenizeSql sql
  match tokens with
  | [] => []
  | first :: _ =>
      match toAsciiUppercase first with
      | "SELECT" | "WITH" => collectSelectRequirements tokens []
      | "DROP" => collectTypedObjectRequirement tokens [] 1 .drop
      | "INSERT" =>
          collectSelectRequirements tokens (collectInsertTarget tokens [])
      | "CREATE" =>
          collectSelectRequirements tokens
            (collectTypedObjectRequirement tokens [] 1 .create)
      | "ALTER" => collectTypedObjectRequirement tokens [] 1 .alter
      | _ => []

def isSafeObjectlessStatement (sql : String) : Bool :=
  (tokenizeSql sql).head?.any fun first =>
    toAsciiUppercase first ∈ ["SELECT", "WITH"]

/-! ## Decisions -/

/-- Why a text is denied. -/
structure PolicyDenial where
  privilege : Privilege
  objectType : ObjectType
  objectName : String
deriving DecidableEq, Repr

def PolicyDenial.message (denial : PolicyDenial) : String :=
  "object policy denied: role lacks " ++ denial.privilege.toText ++ " on " ++
    denial.objectType.toText ++ " " ++ denial.objectName

/-- The answer of the policy. -/
inductive PolicyDecision where
  | allow
  | deny (denial : PolicyDenial)
deriving DecidableEq, Repr

structure ObjectPolicyStore where
  privileges : PrivilegeStore

/-- The loop of `check_sql`: a failed check denies like a missing grant. -/
def ObjectPolicyStore.checkRequirements (policy : ObjectPolicyStore)
    (auth : AuthContext) : List SqlRequirement → PolicyDecision
  | [] => .allow
  | req :: rest =>
      match
        policy.privileges.checkPrivilege auth.role req.privilege
          req.objectType req.objectName
      with
      | .ok true => policy.checkRequirements auth rest
      | .ok false | .error _ =>
          .deny ⟨req.privilege, req.objectType, req.objectName⟩

def ObjectPolicyStore.checkSql (policy : ObjectPolicyStore)
    (auth : AuthContext) (sql : String) : PolicyDecision :=
  if auth.isPlatformAdmin then .allow
  else
    let requirements := analyzeSql sql
    if requirements.isEmpty && !isSafeObjectlessStatement sql then
      .deny ⟨.all, .database, "<unsupported-sql>"⟩
    else policy.checkRequirements auth requirements

end OpenSnow.Server
