import FleetGate.Api.Shape
import FleetGate.Config.Settings
import FleetGate.Connection
import FleetGate.FleetError
import FleetGate.Form
import FleetGate.Network
import FleetGate.StatusCode

/-!
# Exchanging tokens

A caller's token may not be one that a cluster accepts.  A token service then
exchanges it for another.  The request is a form, and it names the issuer of the
caller's token only if that issuer is in another realm than the cluster, that
is, if the token services of hub and cluster are not one and the same.

The answer is an object with the new token, which must not be empty.
-/

namespace FleetGate.TokenExchange

open Config

/-- The kind of grant that is asked for. -/
def grant : String := "urn:ietf:params:oauth:grant-type:token-exchange"

/-- The type of the tokens. -/
def tokenType : String := "urn:ietf:params:oauth:token-type:access_token"

/-- Whether hub and cluster trust the same token service. -/
inductive Realm where
  /-- They do. -/
  | same
  /-- They do not, or it is not known. -/
  | cross
deriving DecidableEq, Repr, Inhabited

/-- The name of a realm. -/
def Realm.name : Realm → String
  | .same => "same"
  | .cross => "cross"

/-- The normal form of an address, without slashes at its end.  A text that is no
URL stands for itself. -/
def normalize (address : String) : String :=
  let cs := match Url.parse address with
    | .ok u => u.chars
    | .error _ => address.toList
  String.ofList (cs.reverse.dropWhile (· == '/')).reverse

/-- The realm of a target, seen from the hub. -/
def Realm.detect (hubTokenUrl : Option String) (targetTokenUrl : String) : Realm :=
  match hubTokenUrl with
  | some hub => if normalize hub == normalize targetTokenUrl then .same else .cross
  | none => .cross

/-- The target that the settings name for every cluster, if they name a client and
the hub has a token service. -/
def defaultTarget (s : Settings) (tokenUrl : Option String) : Option ExchangeTarget :=
  match s.stsClientId.filter (!·.isEmpty), tokenUrl.filter (!·.isEmpty) with
  | some clientId, some tokenUrl => some {
      tokenUrl := tokenUrl, clientId := clientId, clientSecret := s.stsClientSecret,
      audience := s.stsAudience, scopes := s.stsScopes }
  | _, _ => none

/-- The fields of a request, in order. -/
def form (t : ExchangeTarget) (subjectToken : String) (realm : Realm) : List (String × String) :=
  let field? (key : String) (value : Option String) : List (String × String) :=
    match value with
    | some v => [(key, v)]
    | none => []
  [("grant_type", grant), ("subject_token", subjectToken), ("subject_token_type", tokenType),
    ("requested_token_type", tokenType), ("client_id", t.clientId)] ++
    field? "client_secret" t.clientSecret ++ field? "audience" t.audience ++
    (if t.scopes.isEmpty then [] else [("scope", " ".intercalate t.scopes)]) ++
    (if realm == .cross then field? "subject_issuer" t.subjectIssuer else [])

/-! ## Asking the service -/

/-- The value of a header for the name and the password in a URL. -/
def credentials? (userInfo : List Char) : Option String :=
  let decode (cs : List Char) : String :=
    Text.Utf8.decodeLossy (Url.percentDecode (Text.Utf8.encode (String.ofList cs)))
  let cs := userInfo.takeWhile (· != '@')
  let name := cs.takeWhile (· != ':')
  if cs.isEmpty then none
  else some (HttpRequest.basic (decode name) (decode (cs.drop (name.length + 1))))

/-- The request for a token, if the address of the service can be called. -/
def request? (t : ExchangeTarget) (subjectToken : String) (realm : Realm) : Option HttpRequest :=
  match Url.parse t.tokenUrl with
  | .error _ => none
  | .ok url => do
      let authority ← url.authority
      if authority.host.isEmpty then none
      else
        let bare := { url with authority := some { authority with userInfo := [] }, fragment := none }
        let body := Text.Utf8.encode (Form.encode (form t subjectToken realm))
        let r ← HttpRequest.ofText? .post bare.text body
        let r := (r.setHeader "content-type" "application/x-www-form-urlencoded").setHeader
          "user-agent" ClientConfig.defaultUserAgent
        pure (match credentials? authority.userInfo with
          | some value => r.setHeader "authorization" value
          | none => r)

/-- The shape of an answer. -/
def answerShape : Api.Shape := .parts [("access_token", true, .text)]

/-- The token in an answer. -/
def token? (text : String) : Option String :=
  (Json.Draft.readText answerShape.wanted text).toOption.map (Api.textField "access_token")

/-- What a reply of the service comes to. -/
def answer (t : ExchangeTarget) (reply : HttpReply) : Except FleetError String :=
  if StatusCode.isSuccess reply.status then
    match reply.text?.bind token? with
    | none => .error (.tokenExchange "invalid response")
    | some token =>
        if token.isEmpty then .error (.tokenExchange "empty access_token in response")
        else .ok token
  else .error (.tokenExchange (t.tokenUrl ++ " returned " ++ StatusCode.describe reply.status ++
    ": " ++ Text.Utf8.decodeLossy reply.body))

/-- Exchanges a token. -/
abbrev Exchanger (m : Type → Type) :=
  ExchangeTarget → String → Realm → m (Except FleetError String)

/-- Exchanges a token over the net. -/
def exchange {m : Type → Type} [Monad m] [Network m] : Exchanger m := fun t token realm => do
  match request? t token realm with
  | none => pure (.error (.tokenExchange "builder error"))
  | some r => match ← Network.send r with
      | .error _ => pure (.error (.tokenExchange "error sending request"))
      | .ok reply => pure (answer t reply)

end FleetGate.TokenExchange
