import EspIris.Gateway.Fingerprint

/-! The identity of an operation's request, by its fingerprint. -/

namespace EspIris.Gateway.Operations
open Fingerprint (Parameter)
open JsonText

/-- A value of a request's parameters; `other` is what has no canonical form. -/
inductive Value
  | none
  | bool (value : Bool)
  | int (value : Int)
  | float (text : String)
  | str (value : String)
  | bytes (value : List UInt8)
  | array (items : List Value)
  | object (entries : List (Value × Value))
  | other

structure Request where
  operationId : String
  deviceId : String
  actorType : String
  actorName : String
  actorScopes : List String
  action : String
  params : Value
  serialized : Bool

/-- The text of a number that is finite. -/
def floatText (text : String) : Option FloatText :=
  if alphabet : text.toList.all fun letter => letter.isDigit || ['-', '+', '.', 'e'].contains letter then
    if marked : '.' ∈ text.toList ∨ 'e' ∈ text.toList then some ⟨text.toList, by simpa using alphabet, marked⟩ else none
  else none

mutual

/-- What has a fingerprint; `_canonical` refuses the other values, and the encoder the numbers that are not finite. -/
def Value.parameter : Value → Option Parameter
  | .none => some .null
  | .bool value => some (.bool value)
  | .int value => some (.int value)
  | .float text => (floatText text).map .float
  | .str value => some (.str value)
  | .bytes value => some (.bytes value)
  | .array items => (parameterItems items).map .list
  | .object entries => (parameterEntries entries).map .dict
  | .other => none

def parameterItems : List Value → Option (List Parameter)
  | [] => some []
  | item :: items => item.parameter.bind fun first => (parameterItems items).map (first :: ·)

def parameterEntries : List (Value × Value) → Option (List (String × Parameter))
  | [] => some []
  | (.str key, value) :: entries => value.parameter.bind fun first => (parameterEntries entries).map ((key, first) :: ·)
  | _ :: _ => none

end

def Request.fields (request : Request) (params : Parameter) : Fingerprint.Request := fun key =>
  [("device_id", .str request.deviceId), ("actor_type", .str request.actorType), ("actor_name", .str request.actorName),
    ("actor_scopes", .list ((request.actorScopes.insertionSort (· ≤ ·)).map .str)), ("action", .str request.action),
    ("params", params)].lookup key

section identity
variable (sha256 : List UInt8 → String) (dumps : Json → Option (List UInt8))

/-- `_fingerprint`, which is `request_fingerprint` of these six, for any encoder. -/
def requestFingerprint (request : Request) : Option String :=
  request.params.parameter.bind fun params =>
    (dumps (Fingerprint.canonical sha256 (Fingerprint.identity (request.fields params)))).map fun text =>
      "sha256:v1:" ++ sha256 text

theorem requestFingerprint_encoded (request : Request) :
    requestFingerprint sha256 (fun value => some (encoded value)) request =
      request.params.parameter.map fun params => Fingerprint.requestFingerprint sha256 (request.fields params) := by
  unfold requestFingerprint
  cases request.params.parameter <;> rfl

end identity

end EspIris.Gateway.Operations
