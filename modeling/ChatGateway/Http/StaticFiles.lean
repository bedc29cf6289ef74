import ChatGateway.Files.Tree
import ChatGateway.Http.Date
import ChatGateway.Http.MediaType
import ChatGateway.Http.Range
import ChatGateway.Http.Target
import ChatGateway.Log
import ChatGateway.Text.Percent

/-!
# Serving files

Answers a request from a directory. The path of the request, decoded, names a file below the
directory and can never leave it. A directory asked for with a slash at the end is answered
with its index page, and one asked for without it with a redirection to the slash. Dates in
the request are compared with the date of the file, and a single range of it may be asked for.
-/

namespace ChatGateway.Http

/-- A directory of files to serve. -/
structure Assets where
  volume : Files.Volume
  /-- The path of the directory. -/
  directory : String
  /-- When the file at a place was last changed, in seconds since the start of 1970. -/
  changed : Files.Place → Nat

namespace StaticFiles

/-- The names below the directory that a request's path means, if it means any. -/
def namesBelow? (path : String) : Option (List String) :=
  let relative := String.ofList (path.toList.dropWhile (· = '/'))
  match Bytes.toText? (Text.Percent.decode (Bytes.ofText relative)) with
  | none => none
  | some decoded =>
    if Files.isAbsolute decoded || (Files.parts decoded).contains ".." then none
    else some (Files.names decoded)

/-- The path of a file below the directory. -/
def pathBelow (directory : String) (names : List String) : String := names.foldl Files.join directory

/-- The page that stands for a directory. -/
def indexPage : String := "index.html"

/-- The date in a field, if it is one. -/
def dateOf? (headers : Headers) (name : String) : Option Nat :=
  ((headers.get? name).bind visibleText?).bind Date.parse?

/-- The status that the dates of a request call for instead of the file. -/
def statusByDates? (headers : Headers) (changed : Nat) : Option Status :=
  if (dateOf? headers "if-unmodified-since").any (· < changed) then some 412
  else if (dateOf? headers "if-modified-since").any (changed ≤ ·) then some 304
  else none

/-- The fields of every answer about a file. -/
def fileFields (path : String) (changed : Nat) : Headers :=
  Headers.ofTexts [("content-type", MediaType.ofPath path), ("accept-ranges", "bytes"),
    ("last-modified", Date.write changed)]

/-- The answer that a range cannot be served. -/
def unsatisfiable (fields : Headers) (size : Nat) (explanation : String) : Response :=
  ⟨416, fields ++ Headers.ofTexts [("content-range", "bytes */" ++ Text.decimal size)],
    Bytes.ofText explanation⟩

/-- The answer with a part of a file. -/
def partOf (fields : Headers) (content : Bytes) (range : ByteRange) : Response :=
  let shown := "bytes " ++ Text.decimal range.first ++ "-" ++ Text.decimal range.last ++ "/" ++
    Text.decimal content.length
  ⟨206, fields ++ Headers.ofTexts [("content-range", shown),
      ("content-length", Text.decimal range.length)],
    (content.drop range.first).take range.length⟩

/-- The answer with a file, or with the part of it that was asked for. -/
def answerWith (fields : Headers) (content : Bytes) (range : Option String) : Response :=
  match range with
  | none =>
    ⟨200, fields ++ Headers.ofTexts [("content-length", Text.decimal content.length)], content⟩
  | some field =>
    match ByteRange.parse? content.length field with
    | none => unsatisfiable fields content.length ""
    | some [range] => partOf fields content range
    | some _ => unsatisfiable fields content.length "Cannot serve multipart range requests"

/-- The answer without its body, unless the body explains why there is no file. -/
def withoutFile (response : Response) : Response :=
  if response.status = 416 then response else { response with body := [] }

/-- The event of a file that could not be read. -/
def unreadable (fault : Files.FileFault) : LogEvent where
  level := .error
  target := "tower_http::services::fs::serve_dir"
  message := "Failed to read file"
  fields := [("error", .text fault.message)]

/-- Whether a fault only means that there is no such file. -/
def meansAbsent : Files.FileFault → Bool
  | .nulCharacter => false
  | .os fault => fault = .noEntry || fault = .notDirectory || fault = .accessDenied

/-- The answer about the file at a path, and the event of a failure. -/
def answerFile (assets : Assets) (request : Request) (path : String) :
    Response × Option LogEvent :=
  match assets.volume.read path with
  | .error fault =>
    if meansAbsent fault then (.empty 404, none) else (.empty 500, some (unreadable fault))
  | .ok content =>
    let changed := match assets.volume.locate path with
      | .ok place => assets.changed place
      | .error _ => 0
    match statusByDates? request.headers changed with
    | some status => (.empty status, none)
    | none =>
      let range := (request.headers.get? "range").bind visibleText?
      let response := answerWith (fileFields path changed) content range
      (if request.method = "HEAD" then withoutFile response else response, none)

/-- The answer to a request for a file, and the event of a failure. -/
def answer (assets : Assets) (request : Request) : Response × Option LogEvent :=
  if request.method ≠ "GET" && request.method ≠ "HEAD" then
    (⟨405, Headers.ofTexts [("allow", "GET,HEAD")], []⟩, none)
  else
    match namesBelow? request.target.path with
    | none => (.empty 404, none)
    | some names =>
      let path := pathBelow assets.directory names
      if !assets.volume.hasDirectory path then answerFile assets request path
      else if request.target.path.toList.getLast? = some '/' then
        answerFile assets request (Files.join path indexPage)
      else
        let slashed := { request.target with path := request.target.path ++ "/" }
        (⟨307, Headers.ofTexts [("location", slashed.text)], []⟩, none)

end StaticFiles

end ChatGateway.Http
