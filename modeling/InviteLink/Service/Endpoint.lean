import InviteLink.Json.Reader
import InviteLink.Query
import InviteLink.Service.Reply
import InviteLink.Settings
import InviteLink.Text.Capital

set_option autoImplicit false

/-! # The service

Four endpoints: one creates the links of a contact, one those of a group, one reads a link, and
one tells that the service is up. A body that cannot be read or does not fit is answered before
anything is done with it; a refused link or record is logged and answered with its cause. What
cannot be written makes the answer a failure: a record whose name holds surrogates has no links, a
record that was read from a link is not told if its name holds any, and a report of refused input
repeats that input, which may hold surrogates or numbers that are not finite. -/

namespace InviteLink

/-! ## Requests -/

/-- A request: its method, its target (a path, possibly with a query) and its body. -/
structure Request where
  method : Text
  target : Text
  body : Bytes := []
  deriving DecidableEq

/-- The segments of a path, which slashes divide. -/
def segments : Text → List Text
  | [] => [[]]
  | c :: rest =>
    if c = '/' then [] :: segments rest
    else
      match segments rest with
      | [] => [[c]]
      | first :: others => (c :: first) :: others

/-- One segment more of a path: a dot means the place reached so far, two dots the one above it. -/
def followSegment (reached : List Text) (segment : Text) : List Text :=
  if segment = ".".points then reached
  else if segment = "..".points then if reached = [[]] then reached else reached.dropLast
  else reached ++ [segment]

/-- The path of a target: without query and fragment, with its dot segments and then its escapes
    resolved. -/
def pathOfTarget (target : Text) : Text :=
  let path := (cut '?' (cut '#' target).1).1
  let rooted := if path.head? = some '/' then path else .char '/' :: path
  let resolved := [CodePoint.char '/'].intercalate ((segments rooted).foldl followSegment [])
  (Query.pieces resolved).map fun
    | .octet b => CodePoint.ofNat b.toNat
    | .beyond c => c

/-! ## Endpoints -/

/-- What the service can be asked. -/
inductive Endpoint
  | createContact
  | createGroup
  | parseLink
  | health
  deriving DecidableEq

namespace Endpoint

/-- The path of an endpoint. -/
def path (settings : Settings) : Endpoint → Text
  | .createContact => settings.apiRoot ++ "/links/contact".points
  | .createGroup => settings.apiRoot ++ "/links/group".points
  | .parseLink => settings.apiRoot ++ "/links/parse".points
  | .health => "/health".points

/-- The only method that an endpoint answers to. -/
def method : Endpoint → Text
  | .health => "GET".points
  | _ => "POST".points

/-- The endpoint at a path. -/
def at? (settings : Settings) (path : Text) : Option Endpoint :=
  [createContact, createGroup, parseLink, health].find? fun e => e.path settings == path

end Endpoint

/-! ## Answers -/

/-- The members of a body, or the answer to a body that has none. -/
def membersOf (body : Bytes) : Except Reply Members :=
  if body = [] then .error (.malformed [⟨[], .absent, .null⟩])
  else
    match Json.ofBytes body with
    | .error .unreadable => .error .unreadable
    | .error (.wrongAt n) => .error (.malformed [⟨[.position n], .notJson, .object []⟩])
    | .ok (.object members) => .ok members
    | .ok v => .error (.malformed [⟨[], .notObject, v⟩])

/-- Creates the links of a record and says so in the log. -/
def createLinks (r : Record) : Traced SharingFault Reply := do
  let links ← r.toLinks
  Traced.log (.created r.kind)
  return .created r.kind links

/-- What an endpoint does with the members of a body. -/
def Endpoint.run (settings : Settings) (e : Endpoint) (members : Members) :
    Traced SharingFault Reply :=
  match e with
  | .createContact =>
    match Contact.ofMembers members with
    | .error issues => pure (.malformed issues)
    | .ok c => createLinks (.contact c)
  | .createGroup =>
    match GroupInvite.ofMembers members with
    | .error issues => pure (.malformed issues)
    | .ok g => createLinks (.group g)
  | .parseLink =>
    match linkOfMembers settings.maxLinkLength members with
    | .error issues => pure (.malformed issues)
    | .ok link => do
      let r ← (Record.ofLink link).mapFault .refused
      return .parsed r
  | .health => pure .healthy

/-- What an endpoint does with a body. -/
def Endpoint.respond (settings : Settings) (e : Endpoint) (body : Bytes) :
    Traced SharingFault Reply :=
  match e with
  | .health => pure .healthy
  | _ =>
    match membersOf body with
    | .error reply => pure reply
    | .ok members => e.run settings members

/-- The answer to a request for an endpoint: refusals become answers of their own, and where a
    record or the answer itself cannot be written, the answer is a failure. -/
def Endpoint.answer (settings : Settings) (e : Endpoint) (body : Bytes) : List Event × Reply :=
  let run := e.respond settings body
  match run.outcome with
  | .error (.refused cause) =>
    (run.events ++ [.requestRejected e.method (e.path settings) cause], .refused cause)
  | .error (.unwritable fault) => (run.events ++ [.recordUnwritable fault], .failed)
  | .ok reply =>
    match reply.unwritable? with
    | some flaw => (run.events ++ [.replyUnwritable flaw], .failed)
    | none => (run.events, reply)

/-- The answer to a request, and what is logged on the way. -/
def Request.answer (settings : Settings) (q : Request) : List Event × Reply :=
  match Endpoint.at? settings (pathOfTarget q.target) with
  | none => ([], .notFound)
  | some e =>
    if capitals q.method = e.method then e.answer settings q.body
    else ([], .methodNotAllowed)

end InviteLink
