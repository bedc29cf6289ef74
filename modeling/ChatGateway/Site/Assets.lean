import ChatGateway.Files.Tree
import ChatGateway.Site.Script
import ChatGateway.Site.Style

/-!
# The page's assets

The files that the page needs come with the program and are installed in one directory.
-/

namespace ChatGateway.Site

/-- The assets: the name under which the page asks for each, and its content. -/
def assets : List (String × Bytes) :=
  [("style.css", Bytes.ofText style), ("app.js", Bytes.ofText script)]

/-- The tree with the assets in a directory. -/
def install (directory : Files.Place) (tree : Files.Tree) : Files.Tree :=
  assets.foldl (fun tree (name, content) => tree.put (directory ++ [name]) (.file content))
    (tree.put directory .directory)

end ChatGateway.Site
