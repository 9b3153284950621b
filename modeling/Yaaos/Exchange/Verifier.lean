import Yaaos.Base.Json
import Yaaos.Base.Outcome

set_option autoImplicit false

namespace Yaaos.Exchange

open Yaaos.Base

inductive FailureCategory where
  | parseError
  | endpointDisallowed
  | bodyMismatch
  | replayDetected
  | awsRejected
  | clockSkew
  deriving DecidableEq

structure Url where
  scheme : String
  host : String
  port : Option Nat
  path : String
  query : String
  printable : '\n' ∉ host.toList

structure Libraries where
  loads : String → Option Json
  parseUrl : String → Option Url

structure Settings where
  yaaosStsHostOverride : Option String
  yaaosPublicHostname : String

structure SignedStsRequest where
  url : String
  headers : List (String × String)
  body : String
  region : String

structure VerifiedIdentity where
  canonicalArn : String
  rawArn : String
  region : String
  deriving DecidableEq

def regionLetter (letter : Char) : Bool := letter.isLower || letter.isDigit || letter == '-'

def stsSuffix : List Char := ".amazonaws.com".toList

-- `^sts(?:\.(?P<region>[a-z0-9-]+))?\.amazonaws\.com$` of a host without line breaks.
def stsHostRe (host : String) : Option (Option String) :=
  if host = "sts.amazonaws.com" then some none
  else
    match "sts.".toList.isPrefixOf host.toList, stsSuffix.isSuffixOf host.toList with
    | true, true =>
        let region := (host.toList.drop 4).take (host.length - 4 - stsSuffix.length)
        if !region.isEmpty && region.all regionLetter && decide (host.length = 4 + region.length + stsSuffix.length) then
          some (some (String.ofList region))
        else none
    | _, _ => none

def stsOverrideRe (overrideHost text : String) : Bool :=
  overrideHost.toList.isPrefixOf text.toList &&
    match text.toList.drop overrideHost.length with
    | [] => true
    | ':' :: digits => !digits.isEmpty && digits.all Char.isDigit
    | _ :: _ => false

def hostWithPort (url : Url) : String :=
  match url.port with
  | some port => if port = 0 then url.host else url.host ++ ":" ++ toString port
  | none => url.host

def overrides (settings : Settings) (url : Url) : Bool :=
  match truthyText settings.yaaosStsHostOverride with
  | some overrideHost => stsOverrideRe overrideHost url.host || stsOverrideRe overrideHost (hostWithPort url)
  | none => false
where
  truthyText : Option String → Option String
    | some text => if text = "" then none else some text
    | none => none

def requiredBody : String := "Action=GetCallerIdentity&Version=2011-06-15"

def globalStsRegion : String := "us-east-1"

def textHeader : String × Json → Option (String × String)
  | (name, .str text) => some (name.toLower, text)
  | _ => none

def textHeaders (headers : Dict Json) : List (String × String) := headers.filterMap textHeader

def headerOf {α : Type} (headers : List (String × α)) (name : String) : Option α := headers.reverse.lookup name

def regionOf (settings : Settings) (url : Url) : Option String :=
  if overrides settings url then some globalStsRegion
  else (stsHostRe url.host).map fun region => region.getD globalStsRegion

def parseSignedRequest (libraries : Libraries) (settings : Settings) (raw : String) :
    Except FailureCategory SignedStsRequest :=
  match libraries.loads raw with
  | some (.obj fields) =>
      match fields.lookup "url", fields.lookup "headers", fields.lookup "body" with
      | some (.str url), some (.obj headers), some (.str body) =>
          if url = "" ∨ headers = [] then .error .parseError
          else
            match libraries.parseUrl url with
            | none => .error .parseError
            | some parsed =>
                match regionOf settings parsed with
                | none => .error .endpointDisallowed
                | some region =>
                    if body ≠ requiredBody then .error .bodyMismatch
                    else if (headerOf (textHeaders headers) "authorization").isNone then .error .parseError
                    else .ok { url := url, headers := textHeaders headers, body := body, region := region }
      | _, _, _ => .error .parseError
  | _ => .error .parseError

structure HttpRequest where
  method : String
  url : Url
  headers : List (String × String)
  body : String

structure StsResponse where
  statusCode : Nat
  arn : Option String
  code : Option String

def replayCallerIdentity (libraries : Libraries) (post : HttpRequest → Option StsResponse) (signed : SignedStsRequest) :
    Except FailureCategory String :=
  match libraries.parseUrl signed.url with
  | none => .error .awsRejected
  | some url =>
      match post { method := "POST", url := url, headers := signed.headers, body := signed.body } with
      | none => .error .awsRejected
      | some response =>
          if response.statusCode ≠ 200 then
            .error (if response.code = some "RequestExpired" then .clockSkew else .awsRejected)
          else
            match response.arn with
            | none => .error .awsRejected
            | some arn => if "arn:aws:".toList.isPrefixOf arn.toList then .ok arn else .error .awsRejected

structure AssumedRole where
  account : String
  role : String
  session : String

def afterPrefix (start : String) (letters : List Char) : Option (List Char) :=
  if start.toList.isPrefixOf letters then some (letters.drop start.length) else none

-- `^arn:aws:sts::(?P<account>\d{12}):assumed-role/(?P<role>[^/]+)/.+$`
def assumedRole (arn : String) : Option AssumedRole := do
  let rest ← afterPrefix "arn:aws:sts::" arn.toList
  let account := rest.take 12
  let rest ← afterPrefix ":assumed-role/" (rest.drop 12)
  let role := rest.takeWhile (· != '/')
  let rest ← afterPrefix "/" (rest.dropWhile (· != '/'))
  if account.length = 12 ∧ account.all Char.isDigit ∧ role ≠ [] ∧ rest ≠ [] ∧ rest.all (· != '\n') then
    some { account := String.ofList account, role := String.ofList role, session := String.ofList rest }
  else none

def canonicalizeArn (arn : String) : String :=
  match assumedRole arn with
  | some assumed => ("arn:aws:iam::" ++ assumed.account ++ ":role/" ++ assumed.role).toLower
  | none => arn.toLower

def extractInstanceId (rawArn : String) : String :=
  match assumedRole rawArn with
  | some assumed => if assumed.session.toList.contains '/' then rawArn.toLower else assumed.session
  | none => rawArn.toLower

def nonceOf (signed : SignedStsRequest) : String × String :=
  ((headerOf signed.headers "authorization").getD "", (headerOf signed.headers "x-amz-date").getD "")

def verifyIdentity (libraries : Libraries) (settings : Settings) (seen : String × String → Bool)
    (post : HttpRequest → Option StsResponse) (signedRequest : String) : Except FailureCategory VerifiedIdentity := do
  let signed ← parseSignedRequest libraries settings signedRequest
  if seen (nonceOf signed) then .error .replayDetected
  else
    let rawArn ← replayCallerIdentity libraries post signed
    .ok { canonicalArn := canonicalizeArn rawArn, rawArn := rawArn, region := signed.region }

end Yaaos.Exchange
