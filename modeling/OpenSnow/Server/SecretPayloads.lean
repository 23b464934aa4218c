import OpenSnow.Rust.Json
import OpenSnow.Rust.Text

/-!
# Secrets in payloads

The search for a field of a JSON payload that carries a secret in plain text.
-/

namespace OpenSnow.Server.SecretPayloads

open Rust
open Rust.Text

/--
The loop of `normalized_secret_key`: what it pushes for the remaining
characters, given the two facts that it keeps about the previous one.
-/
def keyLoop (wasSeparator wasLowerOrDigit : Bool) : List Char → List Char
  | [] => []
  | ch :: rest =>
      if ch == '-' || ch == '_' || isWhitespace ch then
        (if wasSeparator then [] else ['_']) ++ keyLoop true false rest
      else if ch.isUpper then
        (if wasLowerOrDigit && !wasSeparator then ['_'] else []) ++
          ch.toLower :: keyLoop false false rest
      else
        ch.toLower :: keyLoop false (ch.isLower || ch.isDigit) rest

def normalizedSecretKey (key : String) : List Char :=
  trimMatches '_' (keyLoop true false key.toList)

def hasSuffix (suffix : String) (key : List Char) : Bool :=
  suffix.toList.isSuffixOf key

/-- A key that names a handle of a secret, which is no secret. -/
def isHandleKey (normalized : List Char) : Bool :=
  ["_handle", "_handle_ref", "_handle_refs"].any (hasSuffix · normalized) ||
    ["handle", "secret_handle", "secret_handles"].any
      (·.toList == normalized)

def isSecretKey (key : String) : Bool :=
  let normalized := normalizedSecretKey key
  !isHandleKey normalized &&
    (["client_secret", "token", "password", "passwd", "api_key", "apikey",
        "access_key", "secret_key", "secret_access_key", "private_key",
        "secret"].any (·.toList == normalized) ||
      ["_token", "_password", "_private_key", "_access_key", "_api_key",
        "_apikey", "_secret_key"].any (hasSuffix · normalized))

mutual

/-- The first key of a value that carries a secret. -/
def containsPlaintextSecret (value : Json.Value) : Option String :=
  match value with
  | .object fields => secretInFields fields
  | .array items => secretInItems items
  | _ => none

def secretInFields : List (String × Json.Value) → Option String
  | [] => none
  | (key, nested) :: rest =>
      (if isSecretKey key && !nested.isNull then some key
        else containsPlaintextSecret nested).or (secretInFields rest)

def secretInItems : List Json.Value → Option String
  | [] => none
  | item :: rest => (containsPlaintextSecret item).or (secretInItems rest)

end

/-- A camel-case key is found below an array, and its handle is not. -/
example :
    containsPlaintextSecret
        (.object
          [("clientSecretHandle", .string "h"),
            ("items", .array [.object [("clientSecret", .string "x")]])]) =
      some "clientSecret" := by
  decide

end OpenSnow.Server.SecretPayloads
