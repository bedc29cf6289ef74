import ChatGateway.Config.Ini
import ChatGateway.Config.Json
import ChatGateway.Config.Json5
import ChatGateway.Config.Ron
import ChatGateway.Config.Toml.Table
import ChatGateway.Config.Yaml.Stream
import ChatGateway.Files.Tree

/-!
# The configuration file

The file stands in the current directory, and its extension tells its format. There need not
be one, and one without an extension hides those with one.
-/

namespace ChatGateway.Config

/-- The name of the file without its extension. -/
def fileName : String := "configuration"

/-- The formats of configuration files. -/
def formats : List Format := [Toml.format, jsonFormat, Yaml.format, Ini.format, Ron.format, Json5.format]

/-- The content of the file at a place. -/
def contentAt? (tree : Files.Tree) (place : Files.Place) : Option Bytes :=
  match tree.lookup place with
  | some (.file content) => some content
  | _ => none

/-- The text of a file: without a byte order mark, and readable whatever it holds. -/
def textOf (content : Bytes) : String :=
  match content with
  | 0xEF :: 0xBB :: 0xBF :: rest => Bytes.readableText rest
  | _ => Bytes.readableText content

/-- The names that the file may have, with the format of each. -/
def candidates : List (String × Format) :=
  formats.flatMap fun format => format.extensions.map fun ext => (fileName ++ "." ++ ext, format)

/-- The values that the configuration file gives, if there is one. -/
def fileValues (volume : Files.Volume) : Except Fault (List (String × Sourced)) :=
  if (contentAt? volume.tree (volume.current ++ [fileName])).isSome then .ok []
  else
    let found := candidates.findSome? fun (name, format) =>
      (contentAt? volume.tree (volume.current ++ [name])).map fun content => (name, format, content)
    match found with
    | none => .ok []
    | some (name, format, content) => format.values name (textOf content)

end ChatGateway.Config
