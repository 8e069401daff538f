import StubServer.Http.Header
import StubServer.Http.Query
import StubServer.Http.Target
import StubServer.Text.Utf8

/-! # Requests

A message comes in with its target and its header lines as sent.  Capturing it fixes what the
rest of the program looks at: method in capitals, path, query, scheme, host, headers and the body
as far as it could be read.
-/

namespace StubServer.Http

open Text.Utf8 (Bytes)

structure Message where
  method : String
  target : Target
  /-- Names in small letters. -/
  headers : Headers
  /-- Absent when the body could not be read. -/
  body : Option Bytes
  deriving DecidableEq, Repr

structure Request where
  method : String
  /-- Path and query as received. -/
  url : String
  path : String
  query : Option String
  scheme : String
  host : Option String
  headers : Headers
  body : Option Bytes
  deriving DecidableEq, Repr

namespace Request

/-- The host is the first Host header if it is plain text, else the authority of the target. -/
def hostOf (message : Message) : Option String :=
  match (message.headers.values "host").head? with
  | some host => if isPlainValue host then some host else message.target.authority
  | none => message.target.authority

def capture (message : Message) : Request where
  method := Text.upper message.method
  url := message.target.url
  path := message.target.path
  query := message.target.query
  scheme := Text.lower (message.target.scheme.getD "http")
  host := hostOf message
  headers := message.headers
  body := message.body

/-- Query parameters, each name with all of its values in order. -/
def queryParams (r : Request) : Query.Params := Query.parse (r.query.getD "")

/-- The part of a host before a `:` and digits.  In brackets stands an address, whose colons do
not count. -/
def dropPort (host : List Char) : List Char :=
  match host with
  | '[' :: _ =>
    match Text.splitOnce ']' host with
    | some (address, _) => address ++ [']']
    | none => host
  | _ =>
    match Text.splitOnce ':' host.reverse with
    | some (port, name) => if port.all Char.isDigit then name.reverse else host
    | none => host

/-- The host without a port, in small letters. -/
def hostName (r : Request) : Option String :=
  r.host.map fun host => Text.lower (String.ofList (dropPort host.toList))

def bodyText (r : Request) : Option String := r.body.map Text.Utf8.decodeLossy

/-- Every name with the first of its values that is plain text. -/
def flatHeaders (r : Request) : Table String :=
  r.headers.foldl (fun flat (name, value) =>
    if isPlainValue value && !Table.contains flat name then Table.insert flat name value else flat) []

end Request

end StubServer.Http
