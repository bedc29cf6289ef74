import ChatGateway.Files.Path
import ChatGateway.Http.Message
import ChatGateway.Text.Blank

/-!
# Media types

The type of a file follows from the extension of its name. The type of a body is written as
a type, a subtype and parameters; what counts here is whether it is a well-formed one that
means a JSON document: `application/json`, or a subtype of `application` with `json` before or
after its last plus sign.
-/

namespace ChatGateway.Http.MediaType

/-- The types of files by extension. -/
def byExtension : List (String × String) := [
  ("html", "text/html"), ("htm", "text/html"), ("shtml", "text/html"),
  ("xhtml", "application/xhtml+xml"), ("css", "text/css"), ("js", "text/javascript"),
  ("mjs", "text/javascript"), ("jsx", "text/javascript"), ("json", "application/json"),
  ("map", "application/json"), ("jsonld", "application/ld+json"),
  ("webmanifest", "application/manifest+json"), ("txt", "text/plain"), ("text", "text/plain"),
  ("log", "text/plain"), ("conf", "text/plain"), ("ini", "text/plain"), ("cfg", "text/plain"),
  ("csv", "text/csv"), ("tsv", "text/tab-separated-values"), ("md", "text/markdown"),
  ("markdown", "text/markdown"), ("xml", "text/xml"), ("yaml", "text/x-yaml"),
  ("yml", "text/x-yaml"), ("toml", "text/x-toml"), ("rs", "text/x-rust"), ("ics", "text/calendar"),
  ("vcf", "text/x-vcard"), ("png", "image/png"), ("jpg", "image/jpeg"), ("jpeg", "image/jpeg"),
  ("jpe", "image/jpeg"), ("gif", "image/gif"), ("svg", "image/svg+xml"),
  ("svgz", "image/svg+xml"), ("ico", "image/x-icon"), ("webp", "image/webp"),
  ("avif", "image/avif"), ("bmp", "image/bmp"), ("tif", "image/tiff"), ("tiff", "image/tiff"),
  ("mp3", "audio/mpeg"), ("wav", "audio/wav"), ("oga", "audio/ogg"), ("ogg", "audio/ogg"),
  ("flac", "audio/flac"), ("m4a", "audio/m4a"), ("aac", "audio/aac"), ("mp4", "video/mp4"),
  ("mpeg", "video/mpeg"), ("webm", "video/webm"), ("ogv", "video/ogg"), ("mov", "video/quicktime"),
  ("avi", "video/x-msvideo"), ("woff", "font/woff"), ("woff2", "font/woff2"), ("ttf", "font/ttf"),
  ("otf", "font/otf"), ("eot", "application/vnd.ms-fontobject"), ("wasm", "application/wasm"),
  ("pdf", "application/pdf"), ("zip", "application/zip"), ("gz", "application/gzip"),
  ("tar", "application/x-tar"), ("tgz", "application/gzip"), ("bz2", "application/x-bzip2"),
  ("7z", "application/x-7z-compressed"), ("rar", "application/x-rar-compressed"),
  ("rtf", "application/rtf"), ("doc", "application/msword"), ("sh", "application/x-sh"),
  ("swf", "application/x-shockwave-flash"), ("bin", "application/octet-stream"),
  ("exe", "application/octet-stream"), ("epub", "application/epub+zip"),
  ("atom", "application/atom+xml"), ("rss", "application/rss+xml")]

/-- The type of a file of which nothing is known. -/
def unknown : String := "application/octet-stream"

/-- The type of a file by its path. -/
def ofPath (path : String) : String :=
  match Files.extension? path with
  | none => unknown
  | some extension => (byExtension.lookup (Text.lower extension)).getD unknown

/-- Whether a character may stand in a type, a subtype or a parameter. -/
def isNameChar (c : Char) : Bool := isTokenChar c && c ≠ '*'

/-- Whether a character may stand inside quotes. -/
def isQuotable (c : Char) : Bool := ' ' ≤ c && c ≠ '\x7F'

/-- What follows a parameter in quotes: blanks, and then a semicolon or the end. -/
def afterQuotes : List Char → Option (List Char)
  | [] => some []
  | c :: rest => if c = ';' then some rest else if c = ' ' then afterQuotes rest else none

/-- What follows the rest of a quoted value; a closing mark ends it. -/
def afterQuoted : List Char → Option (List Char)
  | [] => none
  | c :: rest =>
    if c = '"' then afterQuotes rest else if isQuotable c then afterQuoted rest else none

/-- What follows a value in quotes, which is never empty. -/
def afterOpening : List Char → Option (List Char)
  | [] => none
  | c :: rest => if isQuotable c then afterQuoted rest else none

/-- What follows a value without quotes. -/
def afterBare (isFirst : Bool) : List Char → Option (List Char)
  | [] => some []
  | c :: rest =>
    if isNameChar c then afterBare false rest
    else if c = ';' && !isFirst then some rest
    else none

/-- What follows the value of a parameter. -/
def afterValue : List Char → Option (List Char)
  | '"' :: rest => afterOpening rest
  | s => afterBare true s

/-- What follows the name of a parameter and its equals sign. -/
def afterName (isFirst : Bool) : List Char → Option (List Char)
  | [] => none
  | c :: rest =>
    if isNameChar c then afterName false rest
    else if c = '=' && !isFirst then some rest
    else none

/-- Whether a text is a list of parameters; at most `limit` of them are looked at. -/
def areParameters : Nat → List Char → Bool
  | _, [] => true
  | 0, _ => false
  | limit + 1, s =>
    match s.dropWhile (· = ' ') with
    | [] => true
    | c :: rest =>
      match (afterName true (c :: rest)).bind afterValue with
      | none => false
      | some more => areParameters limit more

/-- The type, the subtype, and whether the parameters are well formed. -/
def split? (text : String) : Option (String × String) :=
  let s := text.toList
  let type := s.takeWhile isNameChar
  match s.dropWhile isNameChar with
  | '/' :: rest =>
    let subtype := rest.takeWhile isNameChar
    let parameters := rest.dropWhile isNameChar
    let wellFormed := match parameters with
      | [] => true
      | ';' :: more => !subtype.isEmpty && areParameters more.length more
      | _ => false
    if !type.isEmpty && wellFormed then
      some (Text.lower (String.ofList type), Text.lower (String.ofList subtype))
    else none
  | _ => none

/-- A subtype before and after its last plus sign, which must not be its first character. -/
def splitSuffix (subtype : List Char) : List Char × Option (List Char) :=
  let reversed := subtype.reverse
  match reversed.dropWhile (· ≠ '+') with
  | _ :: c :: before => ((c :: before).reverse, some (reversed.takeWhile (· ≠ '+')).reverse)
  | _ => (subtype, none)

/-- Whether a subtype means JSON: before its last plus sign or after it. -/
def isJsonSubtype (subtype : String) : Bool :=
  let (base, suffix) := splitSuffix subtype.toList
  base = "json".toList || suffix = some "json".toList

/-- Whether a text is the media type of a JSON document. -/
def isJson (text : String) : Bool :=
  match split? text with
  | some (type, subtype) => type = "application" && isJsonSubtype subtype
  | none => false

/-- Whether the first media type of a message is that of a JSON document. -/
def announcesJson (headers : Headers) : Bool :=
  match (headers.get? "content-type").bind visibleText? with
  | some text => isJson text
  | none => false

end ChatGateway.Http.MediaType
